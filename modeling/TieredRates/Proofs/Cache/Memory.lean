import TieredRates.Cache.Remote
import TieredRates.Session

namespace TieredRates

namespace TimedCache

theorem get_fst (t : TimedCache) (now : Instant) (c : CurrencyCode) :
    (SharedCache.get t now c).1 = .ok (t.live? now c) := by
  simp only [SharedCache.get]
  cases t.live? now c <;> rfl

theorem get_snd (t : TimedCache) (now : Instant) (c : CurrencyCode) :
    (SharedCache.get t now c).2 = t ∨ (SharedCache.get t now c).2 = t.evict now c := by
  simp only [SharedCache.get]
  cases t.live? now c with
  | some r => exact .inl rfl
  | none => exact .inr rfl

end TimedCache

namespace Cache

def InMemory : Cache → Prop
  | remote _ => False
  | _ => True

/-- The record that a cache in the process has for a currency, expired or not. -/
def held? : Cache → CurrencyCode → Option RateRecord
  | table t, c => t.get? c
  | timed t, c => (t.entries.get? c).map (·.record)
  | remote _, _ => none

variable {k : Cache} {now : Instant} {c d : CurrencyCode} {r r' : RateRecord}

@[simp] theorem inMemory_get : (SharedCache.get k now c).2.InMemory ↔ k.InMemory := by
  cases k <;> rfl

@[simp] theorem inMemory_put : (SharedCache.put k now r).2.InMemory ↔ k.InMemory := by
  cases k <;> rfl

@[simp] theorem inMemory_remove : (k.remove c).InMemory ↔ k.InMemory := by
  cases k <;> rfl

@[simp] theorem inMemory_plant {key value : String} : (k.plant key value).InMemory ↔ k.InMemory := by
  cases k <;> rfl

@[simp] theorem held?_plant {key value : String} : (k.plant key value).held? c = k.held? c := by
  cases k <;> rfl

theorem held?_of_erase {t : Table CurrencyCode Expiring}
    (h : ((t.erase d).get? c).map (·.record) = some r) : (t.get? c).map (·.record) = some r := by
  rw [Table.get?_erase] at h
  split at h
  · simp at h
  · exact h

theorem held?_of_evict {t : TimedCache} (h : (timed (t.evict now d)).held? c = some r) :
    (timed t).held? c = some r := by
  rw [TimedCache.evict] at h
  split at h
  · split at h
    · exact held?_of_erase h
    · exact h
  · exact h

theorem get_timed (t : TimedCache) (now : Instant) (c : CurrencyCode) :
    (SharedCache.get (timed t) now c).1 = .ok (t.live? now c) ∧
    ((SharedCache.get (timed t) now c).2 = timed t ∨
      (SharedCache.get (timed t) now c).2 = timed (t.evict now c)) :=
  ⟨t.get_fst now c, (t.get_snd now c).imp (congrArg timed) (congrArg timed)⟩

theorem held?_of_get (h : (SharedCache.get k now d).2.held? c = some r) : k.held? c = some r := by
  cases k with
  | table t => exact h
  | remote k => exact h
  | timed t =>
    rcases (get_timed t now d).2 with hd | hd
    · exact hd ▸ h
    · rw [hd] at h
      exact held?_of_evict h

theorem held?_eq_of_get (hk : k.InMemory) (h : (SharedCache.get k now c).1 = .ok (some r)) :
    k.held? c = some r := by
  cases k with
  | table t => exact Except.ok.inj h
  | remote k => exact hk.elim
  | timed t =>
    rw [(get_timed t now c).1, Except.ok.injEq, TimedCache.live?] at h
    rw [held?]
    split at h
    · next e he =>
      rw [he]
      split at h
      · exact h
      · simp at h
    · simp at h

theorem held?_of_put (h : (SharedCache.put k now r).2.held? c = some r') :
    c = r.target ∧ r' = r ∨ c ≠ r.target ∧ k.held? c = some r' := by
  cases k with
  | table t =>
    have hget : (t.insert r.target r).get? c = some r' := h
    rw [Table.get?_insert] at hget
    split at hget
    · next hc => exact .inl ⟨hc, (Option.some.inj hget).symm⟩
    · next hc => exact .inr ⟨hc, hget⟩
  | timed t =>
    have hget : ((t.put now r).entries.get? c).map (·.record) = some r' := h
    rw [TimedCache.put, Table.get?_insert] at hget
    split at hget
    · next hc => exact .inl ⟨hc, (Option.some.inj hget).symm⟩
    · next hc => exact .inr ⟨hc, hget⟩
  | remote k => exact absurd h (by simp [SharedCache.put, held?])

theorem held?_of_remove (h : (k.remove d).held? c = some r) : k.held? c = some r := by
  cases k with
  | table t =>
    have hget : (t.erase d).get? c = some r := h
    rw [Table.get?_erase] at hget
    split at hget
    · simp at hget
    · exact hget
  | timed t => exact held?_of_erase h
  | remote k => exact h

end Cache

end TieredRates
