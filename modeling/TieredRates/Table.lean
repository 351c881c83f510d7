namespace TieredRates

open Std

/-- A finite map that lists its entries in rising order of the keys. -/
structure Table (κ : Type) (α : Type) [Ord κ] where
  entries : List (κ × α)
  rising : entries.Pairwise fun a b ↦ compare a.1 b.1 = .lt
deriving DecidableEq

namespace Table

variable {κ α β : Type} [Ord κ]

section Entries

def lookup (k : κ) : List (κ × α) → Option α
  | [] => none
  | e :: es => if compare k e.1 = .eq then some e.2 else lookup k es

def insertEntry (k : κ) (v : α) : List (κ × α) → List (κ × α)
  | [] => [(k, v)]
  | e :: es =>
    match compare k e.1 with
    | .lt => (k, v) :: e :: es
    | .eq => (k, v) :: es
    | .gt => e :: insertEntry k v es

variable [TransOrd κ]

omit [TransOrd κ] in
theorem mem_insertEntry {k : κ} {v : α} {es : List (κ × α)} {e : κ × α}
    (h : e ∈ insertEntry k v es) : e = (k, v) ∨ e ∈ es := by
  induction es with
  | nil => simpa [insertEntry] using h
  | cons a es ih =>
    rw [insertEntry] at h
    split at h
    · simpa using h
    · simp only [List.mem_cons] at h ⊢
      exact h.imp_right .inr
    · simp only [List.mem_cons] at h ⊢
      rcases h with h | h
      · exact .inr (.inl h)
      · exact (ih h).imp_right .inr

theorem rising_insertEntry (k : κ) (v : α) {es : List (κ × α)}
    (h : es.Pairwise fun a b ↦ compare a.1 b.1 = .lt) :
    (insertEntry k v es).Pairwise fun a b ↦ compare a.1 b.1 = .lt := by
  induction es with
  | nil => simp [insertEntry]
  | cons a es ih =>
    have ⟨ha, hes⟩ := List.pairwise_cons.1 h
    rw [insertEntry]
    split
    · next hk =>
      refine List.pairwise_cons.2 ⟨fun e he ↦ ?_, h⟩
      rcases List.mem_cons.1 he with rfl | he
      · exact hk
      · exact TransCmp.lt_trans hk (ha e he)
    · next hk =>
      refine List.pairwise_cons.2 ⟨fun e he ↦ ?_, hes⟩
      exact TransCmp.lt_of_eq_of_lt hk (ha e he)
    · next hk =>
      refine List.pairwise_cons.2 ⟨fun e he ↦ ?_, ih hes⟩
      rcases mem_insertEntry he with rfl | he
      · exact OrientedCmp.lt_of_gt hk
      · exact ha e he

end Entries

instance : EmptyCollection (Table κ α) := ⟨⟨[], .nil⟩⟩

instance : Inhabited (Table κ α) := ⟨∅⟩

def get? (t : Table κ α) (k : κ) : Option α := lookup k t.entries

def insert [TransOrd κ] (t : Table κ α) (k : κ) (v : α) : Table κ α :=
  ⟨insertEntry k v t.entries, rising_insertEntry k v t.rising⟩

def erase (t : Table κ α) (k : κ) : Table κ α :=
  ⟨t.entries.filter fun e ↦ compare k e.1 ≠ .eq, t.rising.filter _⟩

def size (t : Table κ α) : Nat := t.entries.length

def keys (t : Table κ α) : List κ := t.entries.map (·.1)

def values (t : Table κ α) : List α := t.entries.map (·.2)

def ofList [TransOrd κ] (es : List (κ × α)) : Table κ α :=
  es.foldl (fun t e ↦ t.insert e.1 e.2) ∅

def insertNew [TransOrd κ] (t : Table κ α) (k : κ) (v : α) : Table κ α :=
  if (t.get? k).isSome then t else t.insert k v

@[simp] theorem get?_empty (k : κ) : (∅ : Table κ α).get? k = none := rfl

section Lawful

variable [TransOrd κ] [LawfulEqOrd κ]

omit [TransOrd κ] in
theorem lookup_eq_none {k : κ} {es : List (κ × α)} (h : ∀ e ∈ es, e.1 ≠ k) :
    lookup k es = none := by
  induction es with
  | nil => rfl
  | cons a es ih =>
    have hk : compare k a.1 ≠ .eq := fun hk ↦ h a (by simp) (LawfulEqCmp.eq_of_compare hk).symm
    rw [lookup, if_neg hk]
    exact ih fun e he ↦ h e (by simp [he])

omit [TransOrd κ] in
theorem lookup_insertEntry_self (k : κ) (v : α) (es : List (κ × α)) :
    lookup k (insertEntry k v es) = some v := by
  induction es with
  | nil => simp [insertEntry, lookup]
  | cons a es ih =>
    rw [insertEntry]
    split
    · simp [lookup]
    · simp [lookup]
    · next hk => rw [lookup, if_neg (by simp [hk]), ih]

omit [TransOrd κ] in
theorem lookup_insertEntry_of_ne {k j : κ} (h : j ≠ k) (v : α) (es : List (κ × α)) :
    lookup j (insertEntry k v es) = lookup j es := by
  have hjk : compare j k ≠ .eq := fun hk ↦ h (LawfulEqCmp.eq_of_compare hk)
  induction es with
  | nil => simp [insertEntry, lookup, hjk]
  | cons a es ih =>
    rw [insertEntry]
    split
    · simp [lookup, hjk]
    · next hk =>
      have : k = a.1 := LawfulEqCmp.eq_of_compare hk
      simp [lookup, hjk, ← this]
    · simp [lookup, ih]

omit [TransOrd κ] in
theorem lookup_filter_self (k : κ) (es : List (κ × α)) :
    lookup k (es.filter fun e ↦ compare k e.1 ≠ .eq) = none := by
  refine lookup_eq_none fun e he ↦ ?_
  rintro rfl
  simp at he

omit [TransOrd κ] in
theorem lookup_filter_of_ne {k j : κ} (h : j ≠ k) (es : List (κ × α)) :
    lookup j (es.filter fun e ↦ compare k e.1 ≠ .eq) = lookup j es := by
  induction es with
  | nil => rfl
  | cons a es ih =>
    by_cases hk : compare k a.1 = .eq
    · have : k = a.1 := LawfulEqCmp.eq_of_compare hk
      have hj : compare j a.1 ≠ .eq := fun hj ↦ h ((LawfulEqCmp.eq_of_compare hj).trans this.symm)
      rw [List.filter_cons_of_neg (by simpa using hk), ih, lookup, if_neg hj]
    · rw [List.filter_cons_of_pos (by simpa using hk), lookup, ih, lookup]

@[simp] theorem get?_insert_self (t : Table κ α) (k : κ) (v : α) :
    (t.insert k v).get? k = some v :=
  lookup_insertEntry_self k v t.entries

theorem get?_insert_of_ne (t : Table κ α) {k j : κ} (h : j ≠ k) (v : α) :
    (t.insert k v).get? j = t.get? j :=
  lookup_insertEntry_of_ne h v t.entries

omit [TransOrd κ] in
@[simp] theorem get?_erase_self (t : Table κ α) (k : κ) : (t.erase k).get? k = none :=
  lookup_filter_self k t.entries

omit [TransOrd κ] in
theorem get?_erase_of_ne (t : Table κ α) {k j : κ} (h : j ≠ k) :
    (t.erase k).get? j = t.get? j :=
  lookup_filter_of_ne h t.entries

theorem get?_insert [DecidableEq κ] (t : Table κ α) (k j : κ) (v : α) :
    (t.insert k v).get? j = if j = k then some v else t.get? j := by
  split
  · next h => rw [h, get?_insert_self]
  · next h => rw [get?_insert_of_ne t h]

omit [TransOrd κ] in
theorem get?_erase [DecidableEq κ] (t : Table κ α) (k j : κ) :
    (t.erase k).get? j = if j = k then none else t.get? j := by
  split
  · next h => rw [h, get?_erase_self]
  · next h => rw [get?_erase_of_ne t h]

omit [TransOrd κ] in
theorem get?_eq_some_iff {t : Table κ α} {k : κ} {v : α} :
    t.get? k = some v ↔ (k, v) ∈ t.entries := by
  obtain ⟨es, h⟩ := t
  simp only [get?]
  induction es with
  | nil => simp [lookup]
  | cons a es ih =>
    have ⟨ha, hes⟩ := List.pairwise_cons.1 h
    by_cases hk : compare k a.1 = .eq
    · have hk' : k = a.1 := LawfulEqCmp.eq_of_compare hk
      have hn : (k, v) ∉ es := fun hm ↦ by
        have := ha _ hm
        rw [← hk'] at this
        simp at this
      rw [lookup, if_pos hk, List.mem_cons, or_iff_left hn, Option.some.injEq]
      exact ⟨fun hv ↦ by rw [hk', ← hv], fun hv ↦ by rw [← hv]⟩
    · have hne : (k, v) ≠ a := fun hv ↦ hk (by simp [← hv])
      rw [lookup, if_neg hk, ih hes, List.mem_cons, or_iff_right hne]

theorem ext_get? {t u : Table κ α} (h : ∀ k, t.get? k = u.get? k) : t = u := by
  have hmem : ∀ e, e ∈ t.entries ↔ e ∈ u.entries := fun e ↦ by
    rw [← get?_eq_some_iff (k := e.1) (v := e.2), ← get?_eq_some_iff (k := e.1) (v := e.2), h]
  obtain ⟨es, hes⟩ := t
  obtain ⟨fs, hfs⟩ := u
  simp only [mk.injEq]
  simp only at hmem
  clear h
  induction es generalizing fs with
  | nil =>
    cases fs with
    | nil => rfl
    | cons b fs => exact absurd ((hmem b).2 (by simp)) (by simp)
  | cons a es ih =>
    cases fs with
    | nil => exact absurd ((hmem a).1 (by simp)) (by simp)
    | cons b fs =>
      have ⟨ha, hes'⟩ := List.pairwise_cons.1 hes
      have ⟨hb, hfs'⟩ := List.pairwise_cons.1 hfs
      have hirr : ∀ {x : κ × α}, compare x.1 x.1 ≠ .lt := by simp
      have hab : a = b := by
        rcases List.mem_cons.1 ((hmem a).1 (by simp)) with h | h
        · exact h
        rcases List.mem_cons.1 ((hmem b).2 (by simp)) with h' | h'
        · exact h'.symm
        exact absurd (TransCmp.lt_trans (hb a h) (ha b h')) hirr
      subst hab
      rw [ih hes' fs hfs' fun e ↦ ?_]
      have := hmem e
      simp only [List.mem_cons] at this
      constructor
      · intro he
        rcases this.1 (.inr he) with rfl | he'
        · exact absurd (ha e he) hirr
        · exact he'
      · intro he
        rcases this.2 (.inr he) with rfl | he'
        · exact absurd (hb e he) hirr
        · exact he'

end Lawful

end Table

end TieredRates
