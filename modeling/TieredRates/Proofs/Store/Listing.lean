import Mathlib.Data.List.Nodup
import Mathlib.Data.List.Pairwise
import TieredRates.Proofs.Resolution.Rates
import TieredRates.Proofs.Resolution.Repair

namespace TieredRates

namespace Row

variable {key : RowKey} {row : Row} {r : RateRecord}

theorem base_of_decode (h : row.decode key = .ok r) : key.base = CurrencyCode.usd.text := by
  rw [decode] at h
  split at h
  · split at h
    · next hbase => exact hbase
    · simp at h
  · simp at h

end Row

namespace RowStore

/-- A row tells of the record, but the currency is spelt differently there. -/
def Strays (s : RowStore) (r : RateRecord) : Prop :=
  ∃ target row, s.rows.get? { target, base := CurrencyCode.usd.text } = some row ∧
    row.decode { target, base := CurrencyCode.usd.text } = .ok r ∧ target ≠ r.target.text

/-- The list has one record of a currency at most, and that is the one that a lookup gives. -/
structure Agrees (s : RowStore) : Prop where
  distinct : (s.list.map (·.target)).Nodup
  mem_iff : ∀ c r, r ∈ s.list ∧ r.target = c ↔ s.get c = .ok (some r)

variable {s : RowStore} {c : CurrencyCode} {r : RateRecord}

theorem mem_list_iff :
    r ∈ s.list ↔ ∃ key row, s.rows.get? key = some row ∧ row.decode key = .ok r := by
  simp only [list, List.mem_filterMap, toOption_eq_some_iff, Prod.exists, Table.get?_eq_some_iff]

theorem key_eq_or_strays {key : RowKey} {row : Row} (hrow : s.rows.get? key = some row)
    (hd : row.decode key = .ok r) : key = .of r.target ∨ s.Strays r := by
  obtain ⟨target, base⟩ := key
  obtain rfl : base = CurrencyCode.usd.text := Row.base_of_decode hd
  by_cases hspelt : target = r.target.text
  · subst hspelt
    exact .inl rfl
  · exact .inr ⟨target, row, hrow, hd, hspelt⟩

theorem holds_or_strays (h : r ∈ s.list) : s.Holds r.target r ∨ s.Strays r := by
  obtain ⟨key, row, hrow, hd⟩ := mem_list_iff.1 h
  rcases key_eq_or_strays hrow hd with rfl | hstrays
  · exact .inl ⟨row, hrow, hd⟩
  · exact .inr hstrays

theorem Holds.mem_list (h : s.Holds c r) : r ∈ s.list := by
  obtain ⟨row, hrow, hd⟩ := h
  exact mem_list_iff.2 ⟨_, row, hrow, hd⟩

theorem Strays.mem_list (h : s.Strays r) : r ∈ s.list := by
  obtain ⟨target, row, hrow, hd, -⟩ := h
  exact mem_list_iff.2 ⟨_, row, hrow, hd⟩

theorem mem_list_iff_holds_or_strays : r ∈ s.list ↔ s.Holds r.target r ∨ s.Strays r := by
  constructor
  · exact holds_or_strays
  · rintro (h | h)
    · exact h.mem_list
    · exact h.mem_list

theorem nodup_targets_iff : (s.list.map (·.target)).Nodup ↔
    ∀ k k' row row' r r', s.rows.get? k = some row → row.decode k = .ok r →
      s.rows.get? k' = some row' → row'.decode k' = .ok r' → r.target = r'.target → k = k' := by
  have hsymm : Std.Symm fun e e' : RowKey × Row ↦ ∀ r, (e.2.decode e.1).toOption = some r →
      ∀ r', (e'.2.decode e'.1).toOption = some r' → r.target ≠ r'.target :=
    ⟨fun _ _ h r hr r' hr' ↦ (h r' hr' r hr).symm⟩
  rw [List.Nodup, List.pairwise_map, list, List.pairwise_filterMap]
  constructor
  · intro h k k' row row' r r' hrow hd hrow' hd' htarget
    by_contra hne
    have hentry : (k, row) ≠ (k', row') := fun he ↦ hne (congrArg Prod.fst he)
    exact h.forall (Table.get?_eq_some_iff.1 hrow) (Table.get?_eq_some_iff.1 hrow') hentry
      r (toOption_eq_some_iff.2 hd) r' (toOption_eq_some_iff.2 hd') htarget
  · intro h
    refine s.rows.rising.imp_of_mem ?_
    intro e e' he he' hlt r hr r' hr' htarget
    have hkey : e.1 = e'.1 := h e.1 e'.1 e.2 e'.2 r r'
      (Table.get?_eq_some_iff.2 he) (toOption_eq_some_iff.1 hr)
      (Table.get?_eq_some_iff.2 he') (toOption_eq_some_iff.1 hr') htarget
    simp [hkey] at hlt

theorem Strays.not_agrees (h : s.Strays r) : ¬ s.Agrees := by
  intro hagrees
  have hget : s.get r.target = .ok (some r) := (hagrees.mem_iff r.target r).1 ⟨h.mem_list, rfl⟩
  obtain ⟨row', hrow', hd'⟩ := get_eq_ok_some_iff.1 hget
  obtain ⟨target, row, hrow, hd, hspelt⟩ := h
  have hkey := nodup_targets_iff.1 hagrees.distinct _ _ _ _ _ _ hrow hd hrow' hd' rfl
  exact hspelt (congrArg RowKey.target hkey)

theorem agrees_of_no_strays (h : ∀ r, ¬ s.Strays r) : s.Agrees where
  distinct := by
    refine nodup_targets_iff.2 ?_
    intro k k' row row' r r' hrow hd hrow' hd' htarget
    have hk : k = .of r.target := (key_eq_or_strays hrow hd).resolve_right (h r)
    have hk' : k' = .of r'.target := (key_eq_or_strays hrow' hd').resolve_right (h r')
    rw [hk, hk', htarget]
  mem_iff := by
    intro c r
    rw [get_eq_ok_some_iff]
    constructor
    · rintro ⟨hmem, rfl⟩
      exact (holds_or_strays hmem).resolve_right (h r)
    · intro hholds
      exact ⟨hholds.mem_list, hholds.target⟩

theorem agrees_iff_no_strays : s.Agrees ↔ ∀ r, ¬ s.Strays r :=
  ⟨fun h _ hr ↦ hr.not_agrees h, agrees_of_no_strays⟩

theorem strays_put (s : RowStore) (r r' : RateRecord) : (s.put r).Strays r' ↔ s.Strays r' := by
  have hother : ∀ target (row : Row), target ≠ r'.target.text →
      row.decode { target, base := CurrencyCode.usd.text } = .ok r' →
      RowKey.mk target CurrencyCode.usd.text ≠ .of r.target := by
    rintro target row hspelt hd hkey
    rw [hkey] at hd
    rw [Row.target_of_decode hd] at hspelt
    exact hspelt (congrArg RowKey.target hkey)
  constructor
  · rintro ⟨target, row, hrow, hd, hspelt⟩
    rw [put, Table.get?_insert_of_ne _ (hother target row hspelt hd)] at hrow
    exact ⟨target, row, hrow, hd, hspelt⟩
  · rintro ⟨target, row, hrow, hd, hspelt⟩
    refine ⟨target, row, ?_, hd, hspelt⟩
    rw [put, Table.get?_insert_of_ne _ (hother target row hspelt hd)]
    exact hrow

theorem agrees_put (s : RowStore) (r : RateRecord) : (s.put r).Agrees ↔ s.Agrees := by
  simp only [agrees_iff_no_strays, strays_put]

theorem agrees_foldl_put (s : RowStore) (rs : List RateRecord) :
    (rs.foldl put s).Agrees ↔ s.Agrees := by
  induction rs generalizing s with
  | nil => rfl
  | cons r rs ih => rw [List.foldl_cons, ih, agrees_put]

end RowStore

namespace Tiers

variable {κ π : Type} {t : Tiers κ RowStore π}

theorem listed?_of_agrees (h : t.store.Agrees) (c : CurrencyCode) :
    t.listed? c = readable? (t.store.get c) := by
  apply find?_target_eq
  intro r
  exact (h.mem_iff c r).trans readable?_eq_some_iff.symm

theorem get?_rates_of_agrees (h : t.store.Agrees) (p : Policy) (now : Instant) (c : CurrencyCode) :
    (t.rates p now).1.get? c = ((readable? (t.store.get c)).or
      ((FirstTier.recordsWithin t.first p.l1Window now).find? (·.target = c))).map (·.rate) := by
  have hdistinct : ∀ rs, (RateStore.list t.store).1 = .ok rs → (rs.map (·.target)).Nodup := by
    intro rs hrs
    obtain rfl := Except.ok.inj hrs
    exact h.distinct
  rw [rates_fst, get?_completed, get?_storedRates hdistinct, listed?_of_agrees h]
  cases readable? (t.store.get c) <;> rfl

/-- List and lookup agree exactly if no row of another spelling tells of a record. The store itself
writes none, however much is put into it, and then nothing is shown that a lookup does not give. -/
theorem store_listing (t : Tiers κ RowStore π) :
    (∀ r, r ∈ t.store.list ↔ t.store.get r.target = .ok (some r) ∨ t.store.Strays r) ∧
    (t.store.Agrees ↔ ∀ r, ¬ t.store.Strays r) ∧
    (∀ rs : List RateRecord, (rs.foldl RowStore.put t.store).Agrees ↔ t.store.Agrees) ∧
    (t.store.Agrees → ∀ p now c, (t.rates p now).1.get? c = ((readable? (t.store.get c)).or
      ((FirstTier.recordsWithin t.first p.l1Window now).find? (·.target = c))).map (·.rate)) := by
  refine ⟨?_, RowStore.agrees_iff_no_strays, t.store.agrees_foldl_put, get?_rates_of_agrees⟩
  intro r
  rw [RowStore.get_eq_ok_some_iff]
  exact RowStore.mem_list_iff_holds_or_strays

end Tiers

section Won

def idleRows : RowStore :=
  let spoilt : Table RowKey Row := Table.insert ∅ { target := "GBP", base := "USD" } spoiltRow
  ⟨spoilt.insert { target := "krw", base := "EUR" } soundRow⟩

def strayRows : RowStore :=
  RowStore.put ⟨Table.insert ∅ { target := "krw", base := "USD" } soundRow⟩
    (wonRecord "desk" 400 (midnight 9))

def tiersOf (s : RowStore) : Tiers Unit RowStore Unit :=
  { first := ∅, cache := (), store := s, source := () }

theorem store_listing_won :
    (idleRows.put (wonRecord "desk" 400 (midnight 9))).Agrees ∧
      ((tiersOf (idleRows.put (wonRecord "desk" 400 (midnight 9)))).rates {} (midnight 9)).1.get?
        won = some (wonRecord "desk" 400 (midnight 9)).rate := by
  obtain ⟨hlist, hagrees, hputs, -⟩ := (tiersOf idleRows).store_listing
  obtain ⟨-, -, -, hrates⟩ :=
    (tiersOf (idleRows.put (wonRecord "desk" 400 (midnight 9)))).store_listing
  have hnil : idleRows.list = [] := by decide +kernel
  have hidle : idleRows.Agrees := by
    refine hagrees.2 ?_
    intro r hr
    have hmem : r ∈ idleRows.list := (hlist r).2 (.inr hr)
    simp [hnil] at hmem
  have hdesk := (hputs [wonRecord "desk" 400 (midnight 9)]).2 hidle
  have hget : (idleRows.put (wonRecord "desk" 400 (midnight 9))).get won =
      .ok (some (wonRecord "desk" 400 (midnight 9))) := by decide +kernel
  refine ⟨hdesk, (hrates hdesk {} (midnight 9) won).trans ?_⟩
  rw [tiersOf, hget]
  rfl

/-- Two records of the won are listed, and the one that no lookup gives is shown. -/
theorem strayRows_listing :
    strayRows.list = [wonRecord "desk" 400 (midnight 9), wonRecord "bank" 340 (midnight 8)] ∧
    strayRows.get won = .ok (some (wonRecord "desk" 400 (midnight 9))) ∧
    ¬ strayRows.Agrees ∧
    ((tiersOf strayRows).rates {} (midnight 9)).1.get? won =
      some (wonRecord "bank" 340 (midnight 8)).rate := by
  have hlist : strayRows.list =
      [wonRecord "desk" 400 (midnight 9), wonRecord "bank" 340 (midnight 8)] := by decide +kernel
  refine ⟨hlist, by decide +kernel, ?_, by decide +kernel⟩
  intro h
  have hdistinct := h.distinct
  rw [hlist] at hdistinct
  simp [wonRecord] at hdistinct

end Won

end TieredRates
