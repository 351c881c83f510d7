import TieredRates.Proofs.Cache.Memory
import TieredRates.Proofs.Calendar.Instant
import TieredRates.Proofs.Currency
import TieredRates.Proofs.Payload

namespace TieredRates

theorem CurrencyCode.cacheKey_inj {c d : CurrencyCode} : c.cacheKey = d.cacheKey ↔ c = d :=
  ⟨fun h ↦ text_inj.1 ((String.append_right_inj _).1 h), fun h ↦ h ▸ rfl⟩

namespace TimedCache

variable {t : TimedCache} {now later : Instant} {c : CurrencyCode} {r : RateRecord}

theorem live?_put : (t.put now r).live? later c =
    if c = r.target then if later < now.plus t.lifetime then some r else none
    else t.live? later c := by
  simp only [live?, put, Table.get?_insert]
  by_cases hc : c = r.target
  · simp only [hc, if_true]
  · simp only [hc, if_false]

end TimedCache

namespace RemoteCache

variable {k : RemoteCache} {now later : Instant} {c : CurrencyCode} {r : RateRecord}

theorem get_put : (k.put now r).get later c =
    if c = r.target then
      .ok (if later < now.plus (Span.ofSeconds k.seconds) then some r.undated else none)
    else k.get later c := by
  have hkey : c.cacheKey = r.target.cacheKey ↔ c = r.target := CurrencyCode.cacheKey_inj
  rw [get, put, KeyValueServer.value?, KeyValueServer.setFor, Table.get?_insert]
  by_cases hc : c = r.target
  · subst hc
    simp only [if_true]
    by_cases hlater : later < now.plus (Span.ofSeconds k.seconds)
    · simp only [hlater, if_true, Payload.decode_encode]
    · simp only [hlater, if_false]
  · simp only [hkey, hc, if_false]
    rfl

theorem target_of_get (h : k.get now c = .ok (some r)) : r.target = c := by
  rw [get] at h
  split at h
  · simp at h
  · split at h
    · next hd =>
      obtain rfl := Option.some.inj (Except.ok.inj h)
      obtain ⟨payload, -, hmake⟩ := bind_eq_ok_iff.1 hd
      exact (RateRecord.make_eq_ok (mapError_eq_ok_iff.1 hmake)).1
    · simp at h

end RemoteCache

namespace KeyValueServer

variable {s : KeyValueServer} {now later : Instant} {key value : String}

theorem value?_of_later (hlater : now ≤ later) (h : s.value? later key = some value) :
    s.value? now key = some value := by
  rw [value?] at h ⊢
  cases he : Table.get? s key with
  | none =>
    rw [he] at h
    exact absurd h (by simp)
  | some e =>
    rw [he] at h
    simp only at h ⊢
    cases ht : e.expiresAt with
    | none =>
      rw [ht] at h
      exact h
    | some t =>
      rw [ht] at h
      simp only [Option.ite_none_right_eq_some] at h ⊢
      exact ⟨Instant.lt_of_le_of_lt hlater h.1, h.2⟩

end KeyValueServer

namespace Cache

variable {k : Cache} {now later : Instant} {c d : CurrencyCode} {r r' : RateRecord}

theorem get_put_of_ne (hc : c ≠ r.target) :
    (SharedCache.get (SharedCache.put k now r).2 later c).1 = (SharedCache.get k later c).1 := by
  cases k with
  | table t => exact congrArg Except.ok (t.get?_insert_of_ne hc r)
  | timed t =>
    refine (get_timed (t.put now r) later c).1.trans ?_
    rw [(get_timed t later c).1, TimedCache.live?_put, if_neg hc]
  | remote k => exact RemoteCache.get_put.trans (if_neg hc)

def kept : Cache → RateRecord → RateRecord
  | remote _, r => r.undated
  | _, r => r

theorem kept_agrees (k : Cache) (r : RateRecord) : (k.kept r).Agrees r := by
  cases k with
  | remote k => exact r.undated_agrees
  | _ => exact .refl r

theorem kept_of_undated (h : r.undated = r) : k.kept r = r := by
  cases k with
  | remote k => exact h
  | _ => rfl

def Remembers : Cache → Instant → Instant → Prop
  | table _, _, _ => True
  | timed t, now, later => ∃ expiry ∈ now.plus? t.lifetime, later < expiry
  | remote k, now, later => later < now.plus (Span.ofSeconds k.seconds)

instance (k : Cache) (now later : Instant) : Decidable (k.Remembers now later) :=
  match k with
  | table _ => inferInstanceAs (Decidable True)
  | timed t => inferInstanceAs (Decidable (∃ expiry ∈ now.plus? t.lifetime, later < expiry))
  | remote k => inferInstanceAs (Decidable (later < now.plus (Span.ofSeconds k.seconds)))

theorem get_put_self (h : k.InRange now) :
    (SharedCache.get (SharedCache.put k now r).2 later r.target).1 =
      .ok (if k.Remembers now later then some (k.kept r) else none) := by
  cases k with
  | table t => exact congrArg Except.ok (t.get?_insert_self r.target r)
  | timed t =>
    refine (get_timed (t.put now r) later r.target).1.trans ?_
    rw [TimedCache.live?_put, if_pos rfl]
    exact congrArg Except.ok (if_congr (Instant.lt_plus_iff h) rfl rfl)
  | remote k =>
    refine RemoteCache.get_put.trans ?_
    rw [if_pos rfl]
    rfl

theorem get_put_cases (k : Cache) (now later : Instant) (r : RateRecord) :
    (SharedCache.get (SharedCache.put k now r).2 later r.target).1 = .ok (some (k.kept r)) ∨
      (SharedCache.get (SharedCache.put k now r).2 later r.target).1 = .ok none := by
  cases k with
  | table t => exact .inl (congrArg Except.ok (t.get?_insert_self r.target r))
  | timed t =>
    have hget := (get_timed (t.put now r) later r.target).1
    rw [TimedCache.live?_put, if_pos rfl] at hget
    split at hget
    · exact .inl hget
    · exact .inr hget
  | remote k =>
    have hget : (k.put now r).get later r.target = _ := RemoteCache.get_put
    rw [if_pos rfl] at hget
    split at hget
    · exact .inl hget
    · exact .inr hget

theorem agrees_of_get_put
    (h : (SharedCache.get (SharedCache.put k now r).2 later r.target).1 = .ok (some r')) :
    r'.Agrees r := by
  rcases k.get_put_cases now later r with hget | hget
  · obtain rfl : k.kept r = r' := Option.some.inj (Except.ok.inj (hget.symm.trans h))
    exact k.kept_agrees r
  · exact nomatch hget.symm.trans h

theorem get_of_later (hlater : now ≤ later)
    (h : (SharedCache.get k later c).1 = .ok (some r)) :
    (SharedCache.get k now c).1 = .ok (some r) := by
  cases k with
  | table t => exact h
  | timed t =>
    rw [(get_timed t later c).1, Except.ok.injEq, TimedCache.live?] at h
    rw [(get_timed t now c).1, Except.ok.injEq, TimedCache.live?]
    cases he : t.entries.get? c with
    | none =>
      rw [he] at h
      exact absurd h (by simp)
    | some e =>
      rw [he] at h
      simp only [Option.ite_none_right_eq_some] at h ⊢
      exact ⟨Instant.lt_of_le_of_lt hlater h.1, h.2⟩
  | remote k =>
    have hget : k.get later c = .ok (some r) := h
    show k.get now c = .ok (some r)
    rw [RemoteCache.get] at hget ⊢
    cases hv : KeyValueServer.value? k.server later c.cacheKey with
    | none =>
      rw [hv] at hget
      exact absurd hget (by simp)
    | some value =>
      rw [hv] at hget
      rw [KeyValueServer.value?_of_later hlater hv]
      exact hget

theorem get_of_get_remove (h : (SharedCache.get (k.remove d) later c).1 = .ok (some r)) :
    (SharedCache.get k later c).1 = .ok (some r) := by
  cases k with
  | table t =>
    have hget : (t.erase d).get? c = some r := Except.ok.inj h
    rw [Table.get?_erase] at hget
    split at hget
    · simp at hget
    · exact congrArg Except.ok hget
  | timed t =>
    have hget : (t.remove d).live? later c = some r :=
      Except.ok.inj ((get_timed (t.remove d) later c).1.symm.trans h)
    rw [TimedCache.live?, TimedCache.remove, Table.get?_erase] at hget
    refine (get_timed t later c).1.trans (congrArg Except.ok ?_)
    by_cases hc : c = d
    · simp [hc] at hget
    · simp only [hc, if_false] at hget
      exact hget
  | remote k =>
    have hget : RemoteCache.get { k with server := k.server.erase d.cacheKey } later c =
      .ok (some r) := h
    show k.get later c = .ok (some r)
    rw [RemoteCache.get, KeyValueServer.value?, Table.get?_erase] at hget
    by_cases hc : c.cacheKey = d.cacheKey
    · simp [hc] at hget
    · simp only [hc, if_false] at hget
      exact hget

theorem get_plant_of_ne {key value : String} (hc : c.cacheKey ≠ key) :
    (SharedCache.get (k.plant key value) later c).1 = (SharedCache.get k later c).1 := by
  cases k with
  | remote k =>
    show RemoteCache.get { k with server := KeyValueServer.set k.server key value } later c =
      k.get later c
    rw [RemoteCache.get, RemoteCache.get, KeyValueServer.value?, KeyValueServer.value?,
      KeyValueServer.set, Table.get?_insert_of_ne _ hc]
  | _ => rfl

/-- What is kept in the process is filed under its own currency. -/
def Keyed (k : Cache) : Prop := ∀ c r, k.held? c = some r → r.target = c

theorem Keyed.target (h : k.Keyed) (hget : (SharedCache.get k now c).1 = .ok (some r)) :
    r.target = c := by
  cases k with
  | remote k => exact RemoteCache.target_of_get hget
  | _ => exact h c r (held?_eq_of_get trivial hget)

theorem Keyed.get (h : k.Keyed) (now : Instant) (c : CurrencyCode) :
    (SharedCache.get k now c).2.Keyed :=
  fun d r hr ↦ h d r (held?_of_get hr)

theorem Keyed.put (h : k.Keyed) (now : Instant) (r : RateRecord) :
    (SharedCache.put k now r).2.Keyed := by
  intro c r' hr'
  rcases held?_of_put hr' with ⟨rfl, rfl⟩ | ⟨-, hr'⟩
  · rfl
  · exact h c r' hr'

theorem Keyed.remove (h : k.Keyed) (c : CurrencyCode) : (k.remove c).Keyed :=
  fun d r hr ↦ h d r (held?_of_remove hr)

theorem Keyed.plant (h : k.Keyed) (key value : String) : (k.plant key value).Keyed :=
  fun d r hr ↦ h d r (held?_plant ▸ hr)

end Cache

end TieredRates
