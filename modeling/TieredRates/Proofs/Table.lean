import Mathlib.Data.List.Basic
import TieredRates.Table

namespace TieredRates.Table

open Std

variable {κ α β : Type} [Ord κ]

def mapValues (t : Table κ α) (f : α → β) : Table κ β :=
  ⟨t.entries.map fun e ↦ (e.1, f e.2), List.pairwise_map.2 t.rising⟩

theorem values_mapValues (t : Table κ α) (f : α → β) : (t.mapValues f).values = t.values.map f := by
  rw [values, values, mapValues, List.map_map, List.map_map]
  rfl

theorem get?_mapValues (t : Table κ α) (f : α → β) (k : κ) :
    (t.mapValues f).get? k = (t.get? k).map f := by
  obtain ⟨es, h⟩ := t
  show lookup k (es.map fun e ↦ (e.1, f e.2)) = (lookup k es).map f
  clear h
  induction es with
  | nil => rfl
  | cons e es ih =>
    rw [List.map_cons, lookup, lookup]
    split
    · rfl
    · exact ih

theorem nodup_keys [ReflOrd κ] (t : Table κ α) : t.keys.Nodup := by
  refine List.pairwise_map.2 (t.rising.imp ?_)
  intro a b hlt heq
  simp [heq] at hlt

theorem mapValues_insert [DecidableEq κ] [TransOrd κ] [LawfulEqOrd κ] (t : Table κ α) (f : α → β)
    (k : κ) (v : α) : (t.insert k v).mapValues f = (t.mapValues f).insert k (f v) := by
  refine ext_get? fun j ↦ ?_
  rw [get?_mapValues, get?_insert, get?_insert, get?_mapValues]
  split <;> rfl

theorem mapValues_erase [DecidableEq κ] [TransOrd κ] [LawfulEqOrd κ] (t : Table κ α) (f : α → β)
    (k : κ) : (t.erase k).mapValues f = (t.mapValues f).erase k := by
  refine ext_get? fun j ↦ ?_
  rw [get?_mapValues, get?_erase, get?_erase, get?_mapValues]
  split <;> rfl

section Fold

variable [TransOrd κ] [LawfulEqOrd κ] [DecidableEq κ] (key : β → κ) (value : β → α) (k : κ)

theorem get?_foldl_insert (bs : List β) (t : Table κ α) :
    (bs.foldl (fun t b ↦ t.insert (key b) (value b)) t).get? k =
      (bs.filter (key · = k)).foldl (fun _ b ↦ some (value b)) (t.get? k) := by
  induction bs generalizing t with
  | nil => rfl
  | cons b bs ih =>
    rw [List.foldl_cons, ih, get?_insert]
    by_cases hb : key b = k
    · rw [List.filter_cons_of_pos (by simpa using hb), List.foldl_cons, if_pos hb.symm]
    · rw [List.filter_cons_of_neg (by simpa using hb), if_neg (Ne.symm hb)]

theorem get?_insertNew (t : Table κ α) (j : κ) (v : α) :
    (t.insertNew j v).get? k = if k = j then (t.get? k).or (some v) else t.get? k := by
  rw [insertNew]
  split
  · next h =>
    split
    · next hk =>
      obtain ⟨w, hw⟩ := Option.isSome_iff_exists.1 h
      rw [hk, hw, Option.some_or]
    · rfl
  · next h =>
    rw [get?_insert]
    split
    · next hk =>
      rw [hk, Option.not_isSome_iff_eq_none.1 h, Option.none_or]
    · rfl

theorem get?_foldl_insertNew (bs : List β) (t : Table κ α) :
    (bs.foldl (fun t b ↦ t.insertNew (key b) (value b)) t).get? k =
      (bs.filter (key · = k)).foldl (fun v b ↦ v.or (some (value b))) (t.get? k) := by
  induction bs generalizing t with
  | nil => rfl
  | cons b bs ih =>
    rw [List.foldl_cons, ih, get?_insertNew]
    by_cases hb : key b = k
    · rw [List.filter_cons_of_pos (by simpa using hb), List.foldl_cons, if_pos hb.symm]
    · rw [List.filter_cons_of_neg (by simpa using hb), if_neg (Ne.symm hb)]

end Fold

section Only

variable {ι : Type} (key : ι → κ) (i : ι) (t : Table κ α)

open Classical in
/-- The entries that do not stand under the key of anything else. -/
noncomputable def only : Table κ α :=
  ⟨t.entries.filter fun e ↦ ∀ j, e.1 = key j → j = i, t.rising.filter _⟩

theorem filterMap_only {g : κ × α → Option β} {P : β → Prop} [DecidablePred P]
    (hg : ∀ e ∈ t.entries, ∀ j b, e.1 = key j → g e = some b → P b → j = i) :
    ((t.only key i).entries.filterMap g).filter P = (t.entries.filterMap g).filter P := by
  classical
  rw [only, List.filterMap_filter, List.filter_filterMap, List.filter_filterMap]
  refine List.filterMap_congr fun e he ↦ ?_
  by_cases hkey : ∀ j, e.1 = key j → j = i
  · rw [if_pos (decide_eq_true hkey)]
  · have hnone : (g e).filter P = none := by
      refine Option.filter_eq_none_iff.2 fun b hb hP ↦ hkey fun j hj ↦ ?_
      exact hg e he j b hj hb (of_decide_eq_true hP)
    rw [hnone, if_neg (by simpa using hkey), Option.filter_none]

theorem filter_values_only {P : α → Prop} [DecidablePred P]
    (hP : ∀ e ∈ t.entries, ∀ j, e.1 = key j → P e.2 → j = i) :
    (t.only key i).values.filter P = t.values.filter P := by
  rw [values, values, ← List.filterMap_eq_map]
  refine t.filterMap_only key i fun e he j b hj hb hPb ↦ ?_
  obtain rfl : e.2 = b := Option.some.inj hb
  exact hP e he j hj hPb

variable [LawfulEqOrd κ]

open Classical in
theorem get?_only_eq (k : κ) :
    (t.only key i).get? k = if ∀ j, k = key j → j = i then t.get? k else none := by
  refine Option.ext fun v ↦ ?_
  by_cases hk : ∀ j, k = key j → j = i
  · rw [if_pos hk, get?_eq_some_iff, get?_eq_some_iff]
    simp only [only, List.mem_filter, decide_eq_true_eq, and_iff_left hk]
  · rw [if_neg hk, get?_eq_some_iff]
    simp only [only, List.mem_filter, decide_eq_true_eq, hk, and_false, reduceCtorEq]

theorem get?_only {k : κ} (hk : ∀ j, k = key j → j = i) : (t.only key i).get? k = t.get? k :=
  (t.get?_only_eq key i k).trans (if_pos hk)

variable [TransOrd κ]

theorem only_only : (t.only key i).only key i = t.only key i := by
  refine ext_get? fun k ↦ ?_
  rw [get?_only_eq, get?_only_eq]
  split <;> rfl

theorem only_insert_only (k : κ) (v : α) :
    ((t.only key i).insert k v).only key i = (t.insert k v).only key i := by
  classical
  refine ext_get? fun j ↦ ?_
  rw [get?_only_eq, get?_only_eq, get?_insert, get?_insert, get?_only_eq]
  split <;> rfl

theorem only_erase_only (k : κ) :
    ((t.only key i).erase k).only key i = (t.erase k).only key i := by
  classical
  refine ext_get? fun j ↦ ?_
  rw [get?_only_eq, get?_only_eq, get?_erase, get?_erase, get?_only_eq]
  split <;> rfl

theorem ext_only [Nonempty ι] {t u : Table κ α} (hkey : Function.Injective key)
    (h : ∀ i, t.only key i = u.only key i) : t = u := by
  refine ext_get? fun k ↦ ?_
  obtain ⟨i, hi⟩ : ∃ i, ∀ j, k = key j → j = i := by
    by_cases hk : ∃ i, k = key i
    · obtain ⟨i, rfl⟩ := hk
      exact ⟨i, fun j hj ↦ (hkey hj).symm⟩
    · obtain ⟨i⟩ := ‹Nonempty ι›
      exact ⟨i, fun j hj ↦ absurd ⟨j, hj⟩ hk⟩
  rw [← t.get?_only key i hi, h, u.get?_only key i hi]

variable {i} {j : ι}

theorem only_insert_of_ne (hj : j ≠ i) (v : α) :
    (t.insert (key j) v).only key i = t.only key i := by
  refine ext_get? fun k ↦ ?_
  rw [get?_only_eq, get?_only_eq]
  split
  · next hk => rw [get?_insert_of_ne t fun h ↦ hj (hk j h)]
  · rfl

theorem only_erase_of_ne (hj : j ≠ i) : (t.erase (key j)).only key i = t.only key i := by
  refine ext_get? fun k ↦ ?_
  rw [get?_only_eq, get?_only_eq]
  split
  · next hk => rw [get?_erase_of_ne t fun h ↦ hj (hk j h)]
  · rfl

end Only

section Embed

variable {ι : Type} [Ord ι] (g : κ → ι) (f : α → β) (hg : ∀ j k, compare (g j) (g k) = compare j k)

def embed (t : Table κ α) : Table ι β :=
  ⟨t.entries.map fun e ↦ (g e.1, f e.2),
    List.pairwise_map.2 (t.rising.imp fun {a b} h ↦ (hg a.1 b.1).trans h)⟩

theorem get?_embed (t : Table κ α) (k : κ) : (t.embed g f hg).get? (g k) = (t.get? k).map f := by
  obtain ⟨es, h⟩ := t
  show lookup (g k) (es.map fun e ↦ (g e.1, f e.2)) = (lookup k es).map f
  clear h
  induction es with
  | nil => rfl
  | cons e es ih =>
    rw [List.map_cons, lookup, lookup, hg]
    split
    · rfl
    · exact ih

theorem embed_insert [TransOrd κ] [TransOrd ι] (t : Table κ α) (k : κ) (v : α) :
    (t.insert k v).embed g f hg = (t.embed g f hg).insert (g k) (f v) := by
  obtain ⟨es, h⟩ := t
  rw [embed, insert, mk.injEq]
  show (insertEntry k v es).map (fun e ↦ (g e.1, f e.2)) =
    insertEntry (g k) (f v) (es.map fun e ↦ (g e.1, f e.2))
  clear h
  induction es with
  | nil => rfl
  | cons e es ih =>
    rw [List.map_cons, insertEntry, insertEntry, hg]
    split
    · rfl
    · rfl
    · rw [List.map_cons, ih]

end Embed

end TieredRates.Table
