import TieredRates.Proofs.Store.Rows
import TieredRates.Proofs.Table
import TieredRates.Proofs.Tier.Monitor

namespace TieredRates

namespace Store

/-- Related stores give and list the same, but for days, and stay related when both take a record
with the property. -/
structure Mirroring (P : RateRecord → Prop) (S : Store → Store → Prop) : Prop where
  get : ∀ {s s'} (c : CurrencyCode), S s s' → (RateStore.get s c).1.map (Option.map (·.undated)) =
    (RateStore.get s' c).1.map (Option.map (·.undated))
  list : ∀ {s s'}, S s s' → (RateStore.list s).1.map (List.map (·.undated)) =
    (RateStore.list s').1.map (List.map (·.undated))
  put : ∀ {s s' r}, S s s' → P r → S (RateStore.put s r).2 (RateStore.put s' r).2

theorem mirroring_eq (P : RateRecord → Prop) : Mirroring P Eq where
  get _ h := h ▸ rfl
  list h := h ▸ rfl
  put h _ := h ▸ rfl

def Files : Store → Store → Prop
  | table t, rows s => s.rows = t.embed RowKey.of Row.ofRecord RowKey.compare_of ∧
    ∀ c r, t.get? c = some r → r.target = c ∧ r.capturedAt.HasPlainYear
  | _, _ => False

theorem files_empty : Files (table ∅) (rows ⟨∅⟩) := by
  refine ⟨rfl, fun c r hr ↦ ?_⟩
  rw [Table.get?_empty] at hr
  exact nomatch hr

variable {s s' : Store} {c : CurrencyCode} {r : RateRecord}

theorem Files.get (h : s.Files s') (c : CurrencyCode) :
    (RateStore.get s c).1.map (Option.map (·.undated)) = (RateStore.get s' c).1 := by
  match s, s', h with
  | table t, rows s, ⟨hrows, hkept⟩ =>
    show Except.ok ((t.get? c).map (·.undated)) = s.get c
    rw [RowStore.get, hrows, Table.get?_embed]
    cases hr : t.get? c with
    | none => rfl
    | some r =>
      obtain ⟨rfl, hyear⟩ := hkept c r hr
      simp only [Option.map_some, Row.decode_ofRecord hyear]
      rfl

theorem Files.list (h : s.Files s') :
    (RateStore.list s).1.map (List.map (·.undated)) = (RateStore.list s').1 := by
  match s, s', h with
  | table t, rows s, ⟨hrows, hkept⟩ =>
    show Except.ok (t.values.map (·.undated)) = .ok s.list
    have hdecode : ∀ e ∈ t.entries,
        ((Row.ofRecord e.2).decode (.of e.1)).toOption = some e.2.undated := by
      intro e he
      obtain ⟨ht, hyear⟩ := hkept e.1 e.2 (Table.get?_eq_some_iff.2 he)
      rw [← ht, Row.decode_ofRecord hyear]
      rfl
    have hlist := congrFun (List.filterMap_eq_map (f := fun e : CurrencyCode × RateRecord ↦
      e.2.undated)) t.entries
    rw [RowStore.list, hrows, Table.embed, List.filterMap_map, Table.values, List.map_map]
    exact congrArg Except.ok ((List.filterMap_congr hdecode).trans hlist).symm

theorem Files.put (h : s.Files s') (hr : r.capturedAt.HasPlainYear) :
    (RateStore.put s r).2.Files (RateStore.put s' r).2 := by
  match s, s', h with
  | table t, rows s, ⟨hrows, hkept⟩ =>
    constructor
    · show s.rows.insert (.of r.target) (.ofRecord r) = (t.insert r.target r).embed _ _ _
      rw [hrows, Table.embed_insert]
    · intro c r' hr'
      have hget : (t.insert r.target r).get? c = some r' := hr'
      rw [Table.get?_insert] at hget
      split at hget
      · next hc =>
        obtain rfl := Option.some.inj hget
        exact ⟨hc.symm, hr⟩
      · exact hkept c r' hget

theorem mirroring_files : Mirroring (fun r ↦ r.capturedAt.HasPlainYear) Files where
  get {s _} c h := by
    rw [← h.get c]
    rcases (RateStore.get s c).1 with e | _ | r <;> rfl
  list {s _} h := by
    rw [← h.list]
    cases (RateStore.list s).1 with
    | error e => rfl
    | ok rs =>
      refine congrArg Except.ok ?_
      rw [List.map_map]
      rfl
  put h hr := h.put hr

end Store

namespace Monitored

variable {P : RateRecord → Prop} {S : Store → Store → Prop} {m m' : Monitored Store}
variable {r : RateRecord}

theorem Mirrors.getStore (h : m.Mirrors S m') (hS : Store.Mirroring P S) (c : CurrencyCode) :
    (RateStore.get m c).1.map (Option.map (·.undated)) =
        (RateStore.get m' c).1.map (Option.map (·.undated)) ∧
      Mirrors S (RateStore.get m c).2 (RateStore.get m' c).2 := by
  refine h.countGet.pass (f := Except.map _) fun _ ↦ ⟨hS.get c h.inner, ?_⟩
  rw [Store.get_store, Store.get_store]
  exact h.inner

theorem Mirrors.listStore (h : m.Mirrors S m') (hS : Store.Mirroring P S) :
    (RateStore.list m).1.map (List.map (·.undated)) =
        (RateStore.list m').1.map (List.map (·.undated)) ∧
      Mirrors S (RateStore.list m).2 (RateStore.list m').2 := by
  refine h.countList.pass (f := Except.map _) fun _ ↦ ⟨hS.list h.inner, ?_⟩
  rw [Store.list_store, Store.list_store]
  exact h.inner

theorem Mirrors.putStore (h : m.Mirrors S m') (hS : Store.Mirroring P S)
    (hr : m.down.puts = false → P r) :
    (RateStore.put m r).1 = (RateStore.put m' r).1 ∧
      Mirrors S (RateStore.put m r).2 (RateStore.put m' r).2 := by
  refine h.countPut.pass (f := id) fun hup ↦ ⟨?_, hS.put h.inner (hr hup)⟩
  rw [Store.put_answer, Store.put_answer]

end Monitored

end TieredRates
