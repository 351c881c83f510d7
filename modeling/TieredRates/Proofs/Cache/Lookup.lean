import TieredRates.Proofs.Cache.Memory
import TieredRates.Proofs.Calendar.Instant

namespace TieredRates

namespace TimedCache

variable {t : TimedCache} {now : Instant} {c d : CurrencyCode}

theorem get?_evict : (t.evict now c).entries.get? d = t.entries.get? d ∨
    (t.evict now c).entries.get? d = none ∧
      ∃ e, t.entries.get? d = some e ∧ e.expiresAt ≤ now := by
  rw [evict]
  split
  · next e he =>
    split
    · next hexpired =>
      by_cases hd : d = c
      · subst hd
        exact .inr ⟨t.entries.get?_erase_self d, e, he, hexpired⟩
      · exact .inl (t.entries.get?_erase_of_ne hd)
    · exact .inl rfl
  · exact .inl rfl

theorem lifetime_evict : (t.evict now c).lifetime = t.lifetime := by
  rw [evict]
  split
  · split <;> rfl
  · rfl

end TimedCache

namespace Cache

variable {k k' : Cache} {now later : Instant} {c d : CurrencyCode}

/-- The second cache is the first one, perhaps without entries that have expired. -/
def Sheds (now : Instant) : Cache → Cache → Prop
  | table t, table t' => t' = t
  | remote k, remote k' => k'.server = k.server ∧ k'.seconds = k.seconds
  | timed t, timed t' => t'.lifetime = t.lifetime ∧ ∀ d, t'.entries.get? d = t.entries.get? d ∨
    t'.entries.get? d = none ∧ ∃ e, t.entries.get? d = some e ∧ e.expiresAt ≤ now
  | _, _ => False

theorem Sheds.refl (k : Cache) (now : Instant) : k.Sheds now k := by
  cases k with
  | table t => exact rfl
  | remote k => exact ⟨rfl, rfl⟩
  | timed t => exact ⟨rfl, fun d ↦ .inl rfl⟩

theorem sheds_get (k : Cache) (now : Instant) (c : CurrencyCode) :
    k.Sheds now (SharedCache.get k now c).2 := by
  cases k with
  | table t => exact rfl
  | remote k => exact ⟨rfl, rfl⟩
  | timed t =>
    rcases (get_timed t now c).2 with hget | hget
    · rw [hget]
      exact .refl _ now
    · rw [hget]
      exact ⟨TimedCache.lifetime_evict, fun d ↦ TimedCache.get?_evict⟩

theorem Sheds.get_eq (h : k.Sheds now k') (hlater : now ≤ later) :
    (SharedCache.get k' later d).1 = (SharedCache.get k later d).1 := by
  match k, k', h with
  | table t, table _, rfl => rfl
  | remote k, remote k', ⟨hserver, _⟩ =>
    show k'.get later d = k.get later d
    rw [RemoteCache.get, RemoteCache.get, hserver]
  | timed t, timed t', ⟨_, hentries⟩ =>
    rw [(get_timed t' later d).1, (get_timed t later d).1]
    rcases hentries d with hd | ⟨hd, e, he, hexpired⟩
    · simp only [TimedCache.live?, hd]
    · have hlate : ¬ later < e.expiresAt := Instant.le_trans hexpired hlater
      simp only [TimedCache.live?, hd, he, if_neg hlate]

end Cache

end TieredRates
