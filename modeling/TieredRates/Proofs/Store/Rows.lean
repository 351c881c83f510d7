import TieredRates.Proofs.Calendar.Timestamp
import TieredRates.Proofs.Currency
import TieredRates.Proofs.Decimal.Text
import TieredRates.Proofs.Record
import TieredRates.Store.Rows

namespace TieredRates

theorem RowKey.of_inj {c d : CurrencyCode} : RowKey.of c = RowKey.of d ↔ c = d := by
  simp only [RowKey.of, RowKey.mk.injEq, and_true, CurrencyCode.text_inj]

theorem RowKey.compare_of (c d : CurrencyCode) :
    compare (RowKey.of c) (RowKey.of d) = compare c d := by
  have hbase : compare CurrencyCode.usd.text CurrencyCode.usd.text = .eq := Std.ReflCmp.compare_self
  have hkey : compare (RowKey.of c) (RowKey.of d) =
      (compare c.text d.text).then (compare CurrencyCode.usd.text CurrencyCode.usd.text) := rfl
  rw [hkey, hbase, CurrencyCode.compare_text, Ordering.then_eq]

namespace Row

theorem decode_ofRecord {r : RateRecord} (h : r.capturedAt.HasPlainYear) :
    decode (.of r.target) (ofRecord r) = .ok (r.withObservedOn none) := by
  have hrate : Decimal.ofText? r.rate.text = some r.rate := r.rate_pos.ofText?_text
  have htime : Calendar.readStrictInstant? r.capturedAt.offsetText.toList = some r.capturedAt := by
    rw [Instant.offsetText, String.toList_ofList, Instant.readStrictInstant?_stamp h]
  have hmake : (CurrencyCode.parse r.target.text >>= fun c ↦
      RateRecord.make c r.rate r.provider r.capturedAt) = .ok (r.withObservedOn none) := by
    rw [CurrencyCode.parse_text]
    exact r.make_self
  simp only [decode, ofRecord, RowKey.of, hrate, htime, hmake, if_true]
  rfl

theorem decode_ofRecord_of_not {r : RateRecord} (h : ¬ r.capturedAt.HasPlainYear) :
    decode (.of r.target) (ofRecord r) = .error .malformed := by
  have htime : Calendar.readStrictInstant? r.capturedAt.offsetText.toList = none := by
    rw [Instant.offsetText, String.toList_ofList, Instant.readStrictInstant?_stamp_eq_none h]
  simp only [decode, ofRecord, htime]
  split
  · next heq => simp at heq
  · rfl

theorem target_of_decode {c : CurrencyCode} {row : Row} {r : RateRecord}
    (h : row.decode (.of c) = .ok r) : r.target = c := by
  rw [decode] at h
  split at h
  · simp only [RowKey.of, if_true] at h
    obtain ⟨d, hd, hmake⟩ := bind_eq_ok_iff.1 (mapError_eq_ok_iff.1 h)
    obtain rfl := Except.ok.inj (hd.symm.trans c.parse_text)
    exact (RateRecord.make_eq_ok hmake).1
  · simp at h

end Row

namespace Store

def record? (s : Store) (c : CurrencyCode) : Option RateRecord :=
  match (RateStore.get s c).1 with
  | .ok r? => r?
  | .error _ => none

def Lists (s : Store) (r : RateRecord) : Prop := ∃ rs, (RateStore.list s).1 = .ok rs ∧ r ∈ rs

def kept : Store → RateRecord → RateRecord
  | table _, r => r
  | rows _, r => r.withObservedOn none

/-- The store can give the record back. -/
def Keeps : Store → RateRecord → Prop
  | table _, _ => True
  | rows _, r => r.capturedAt.HasPlainYear

variable {s : Store} {c : CurrencyCode} {r r' : RateRecord}

theorem record?_eq_some_iff : s.record? c = some r ↔ (RateStore.get s c).1 = .ok (some r) := by
  rw [record?]
  split
  · next h => rw [h, Except.ok.injEq]
  · next h => simp [h]

@[simp] theorem kept_target : (s.kept r).target = r.target := by cases s <;> rfl

@[simp] theorem kept_rate : (s.kept r).rate = r.rate := by cases s <;> rfl

@[simp] theorem kept_provider : (s.kept r).provider = r.provider := by cases s <;> rfl

@[simp] theorem kept_capturedAt : (s.kept r).capturedAt = r.capturedAt := by cases s <;> rfl

@[simp] theorem kept_put (r' : RateRecord) : (RateStore.put s r).2.kept r' = s.kept r' := by
  cases s <;> rfl

theorem record?_put_of_ne (h : c ≠ r.target) : (RateStore.put s r).2.record? c = s.record? c := by
  cases s with
  | table t => exact Table.get?_insert_of_ne t h r
  | rows s =>
    have hkey : RowKey.of c ≠ RowKey.of r.target := fun hk ↦ h (RowKey.of_inj.1 hk)
    have hget : (s.put r).get c = s.get c := by
      simp only [RowStore.get, RowStore.put, Table.get?_insert_of_ne s.rows hkey]
    show (match (s.put r).get c with | .ok r? => r? | .error _ => none) = _
    rw [hget]
    rfl

theorem record?_put_self (h : s.Keeps r) :
    (RateStore.put s r).2.record? r.target = some (s.kept r) := by
  cases s with
  | table t => exact t.get?_insert_self r.target r
  | rows s =>
    refine record?_eq_some_iff.2 ?_
    show (s.put r).get r.target = _
    simp only [RowStore.get, RowStore.put, Table.get?_insert_self, Row.decode_ofRecord h]
    rfl

theorem eq_kept_of_record?_put (h : (RateStore.put s r).2.record? r.target = some r') :
    r' = s.kept r := by
  have hkeeps : s.Keeps r := by
    cases s with
    | table t => trivial
    | rows s =>
      by_cases hy : r.capturedAt.HasPlainYear
      · exact hy
      · have hget : (s.put r).get r.target = .ok (some r') := record?_eq_some_iff.1 h
        simp only [RowStore.get, RowStore.put, Table.get?_insert_self,
          Row.decode_ofRecord_of_not hy] at hget
        exact absurd hget (by simp)
  rw [record?_put_self hkeeps] at h
  exact (Option.some.inj h).symm

theorem record?_put (h : (RateStore.put s r).2.record? c = some r') :
    s.record? c = some r' ∨ c = r.target ∧ r' = s.kept r := by
  by_cases hc : c = r.target
  · subst hc
    exact .inr ⟨rfl, eq_kept_of_record?_put h⟩
  · exact .inl (record?_put_of_ne hc ▸ h)

theorem lists_put (h : (RateStore.put s r).2.Lists r') : s.Lists r' ∨ r' = s.kept r := by
  obtain ⟨rs, hrs, hmem⟩ := h
  cases s with
  | table t =>
    obtain rfl := Except.ok.inj hrs
    obtain ⟨e, he, rfl⟩ := List.mem_map.1 hmem
    rcases Table.mem_insertEntry he with rfl | he
    · exact .inr rfl
    · exact .inl ⟨t.values, rfl, List.mem_map_of_mem he⟩
  | rows s =>
    obtain rfl := Except.ok.inj hrs
    obtain ⟨e, he, hd⟩ := List.mem_filterMap.1 hmem
    rcases Table.mem_insertEntry he with rfl | he
    · by_cases hy : r.capturedAt.HasPlainYear
      · rw [Row.decode_ofRecord hy] at hd
        exact .inr (Option.some.inj hd).symm
      · rw [Row.decode_ofRecord_of_not hy] at hd
        exact absurd hd (by simp [Except.toOption])
    · exact .inl ⟨s.list, rfl, List.mem_filterMap.2 ⟨e, he, hd⟩⟩

def Keyed (s : Store) : Prop := ∀ c r, s.record? c = some r → r.target = c

theorem keyed_rows (s : RowStore) : (rows s).Keyed := by
  intro c r h
  have hget : s.get c = .ok (some r) := record?_eq_some_iff.1 h
  rw [RowStore.get] at hget
  split at hget
  · simp at hget
  · split at hget
    · next hd =>
      obtain rfl := Option.some.inj (Except.ok.inj hget)
      exact Row.target_of_decode hd
    · simp at hget

theorem Keyed.put (h : s.Keyed) (r : RateRecord) : (RateStore.put s r).2.Keyed := by
  intro c r' hr'
  rcases record?_put hr' with hr' | ⟨rfl, rfl⟩
  · exact h c r' hr'
  · exact kept_target

theorem kept_agrees (s : Store) (r : RateRecord) : (s.kept r).Agrees r :=
  ⟨kept_rate, kept_provider, kept_capturedAt⟩

end Store

end TieredRates
