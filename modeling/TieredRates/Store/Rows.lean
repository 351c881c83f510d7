import TieredRates.Calendar.Timestamp
import TieredRates.Table
import TieredRates.Tier.Store

namespace TieredRates

open Std

instance : RateStore (Table CurrencyCode RateRecord) where
  get t c := (.ok (t.get? c), t)
  put t r := (.ok (), t.insert r.target r)
  list t := (.ok t.values, t)

/-- The two currencies of a row. Rows are ordered by the target. -/
structure RowKey where
  target : String
  base : String
deriving DecidableEq

namespace RowKey

instance : Ord RowKey := ⟨compareLex (compareOn target) (compareOn base)⟩

instance : TransOrd RowKey :=
  inferInstanceAs (TransCmp (compareLex (compareOn target) (compareOn base)))

instance : LawfulEqOrd RowKey where
  compare_self {k} := by
    show compareLex (compareOn target) (compareOn base) k k = .eq
    simp [compareLex, compareOn]
  eq_of_compare {k l} h := by
    replace h : compareLex (compareOn target) (compareOn base) k l = .eq := h
    simp only [compareLex, compareOn, Ordering.then_eq_eq, LawfulEqCmp.compare_eq_iff_eq] at h
    obtain ⟨_, _⟩ := k
    obtain ⟨_, _⟩ := l
    simp_all

def of (c : CurrencyCode) : RowKey := { target := c.text, base := CurrencyCode.usd.text }

end RowKey

structure Row where
  rate : String
  provider : String
  updatedAt : String
deriving DecidableEq

namespace Row

def ofRecord (r : RateRecord) : Row where
  rate := r.rate.text
  provider := r.provider
  updatedAt := r.capturedAt.offsetText

/-- The record that a row holds. The rate is in any form of numbers, the time in the strict form. -/
def decode (key : RowKey) (row : Row) : Except RowFault RateRecord :=
  match Decimal.ofText? row.rate, Calendar.readStrictInstant? row.updatedAt.toList with
  | some rate, some capturedAt =>
    if key.base = CurrencyCode.usd.text then
      (CurrencyCode.parse key.target >>= fun c ↦
        RateRecord.make c rate row.provider capturedAt).mapError .domain
    else .error (.unsupportedBase key.base)
  | _, _ => .error .malformed

end Row

/-- Rows of texts, of which other writers may leave some that hold no record. -/
structure RowStore where
  rows : Table RowKey Row

namespace RowStore

instance : Inhabited RowStore := ⟨⟨∅⟩⟩

def get (s : RowStore) (c : CurrencyCode) : Except StoreError (Option RateRecord) :=
  match s.rows.get? (.of c) with
  | none => .ok none
  | some row => match row.decode (.of c) with
    | .ok r => .ok (some r)
    | .error e => .error (.row e)

def put (s : RowStore) (r : RateRecord) : RowStore :=
  ⟨s.rows.insert (.of r.target) (.ofRecord r)⟩

/-- The records of the rows that hold one, by the text of the target. -/
def list (s : RowStore) : List RateRecord :=
  s.rows.entries.filterMap fun e ↦ (e.2.decode e.1).toOption

instance : RateStore RowStore where
  get s c := (s.get c, s)
  put s r := (.ok (), s.put r)
  list s := (.ok s.list, s)

end RowStore

/-- A store of records in memory or of rows in a file. One on a database server is left out. -/
inductive Store where
  | table (records : Table CurrencyCode RateRecord)
  | rows (rows : RowStore)

namespace Store

instance : RateStore Store where
  get
    | table t, c => ((RateStore.get t c).1, table (RateStore.get t c).2)
    | rows s, c => ((RateStore.get s c).1, rows (RateStore.get s c).2)
  put
    | table t, r => ((RateStore.put t r).1, table (RateStore.put t r).2)
    | rows s, r => ((RateStore.put s r).1, rows (RateStore.put s r).2)
  list
    | table t => ((RateStore.list t).1, table (RateStore.list t).2)
    | rows s => ((RateStore.list s).1, rows (RateStore.list s).2)

end Store

end TieredRates
