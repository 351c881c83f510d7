import TieredRates.Text.Blank

namespace TieredRates.Text

theorem isBlank_of_visible {c : Char} (hlow : 0x21 ≤ c.toNat) (hhigh : c.toNat ≤ 0x7e) :
    isBlank c = false := by
  simp only [isBlank]
  generalize c.toNat = n at hlow hhigh
  simp
  omega

theorem isBlank_of_isDigit {c : Char} (h : c.isDigit) : isBlank c = false := by
  simp only [Char.isDigit, Bool.and_eq_true, decide_eq_true_eq, ge_iff_le,
    UInt32.le_iff_toNat_le] at h
  have hlow : 48 ≤ c.toNat := h.1
  have hhigh : c.toNat ≤ 57 := h.2
  exact isBlank_of_visible (by omega) (by omega)

variable {before body after s : List Char}

theorem mem_of_mem_dropBlankEnd {c : Char} (h : c ∈ dropBlankEnd s) : c ∈ s :=
  List.mem_reverse.1 ((List.dropWhile_sublist isBlank).mem (List.mem_reverse.1 h))

theorem mem_of_mem_trim {c : Char} (h : c ∈ trim s) : c ∈ s :=
  (List.dropWhile_sublist isBlank).mem (mem_of_mem_dropBlankEnd h)

theorem dropBlankEnd_append (hafter : ∀ c ∈ after, isBlank c) :
    dropBlankEnd (s ++ after) = dropBlankEnd s := by
  have hreverse : ∀ c ∈ after.reverse, isBlank c := fun c hc ↦ hafter c (List.mem_reverse.1 hc)
  rw [dropBlankEnd, List.reverse_append, List.dropWhile_append_of_pos hreverse]
  rfl

theorem dropBlankEnd_of_last (h : ∀ c ∈ s.getLast?, isBlank c = false) : dropBlankEnd s = s := by
  have hkeep : s.reverse.dropWhile isBlank = s.reverse := by
    cases hreverse : s.reverse with
    | nil => rfl
    | cons c t =>
      have hc : s.getLast? = some c := by rw [← List.head?_reverse, hreverse, List.head?_cons]
      exact skipBlanks_of_not_isBlank (h c hc) t
  rw [dropBlankEnd, hkeep, List.reverse_reverse]

theorem dropBlankEnd_eq_nil_iff : dropBlankEnd s = [] ↔ ∀ c ∈ s, isBlank c := by
  rw [dropBlankEnd, List.reverse_eq_nil_iff]
  exact skipBlanks_eq_nil_iff.trans (by simp only [List.mem_reverse])

theorem trim_eq_nil_iff : trim s = [] ↔ ∀ c ∈ s, isBlank c := by
  induction s with
  | nil => simp [trim, dropBlankEnd]
  | cons c s ih =>
    cases hc : isBlank c with
    | true =>
      rw [List.forall_mem_cons, and_iff_right hc, ← ih, trim, skipBlanks_cons, if_pos hc, trim]
    | false => rw [trim, skipBlanks_of_not_isBlank hc, dropBlankEnd_eq_nil_iff]

structure IsTrimmed (s t : List Char) : Prop where
  around : ∃ before after, (∀ c ∈ before, isBlank c) ∧ (∀ c ∈ after, isBlank c) ∧
    s = before ++ (t ++ after)
  head : ∀ c ∈ t.head?, isBlank c = false
  last : ∀ c ∈ t.getLast?, isBlank c = false

theorem IsTrimmed.trim_eq (h : IsTrimmed s body) : trim s = body := by
  obtain ⟨⟨before, after, hbefore, hafter, rfl⟩, hhead, hlast⟩ := h
  have hskip : skipBlanks (before ++ (body ++ after)) = skipBlanks (body ++ after) :=
    List.dropWhile_append_of_pos hbefore
  rw [trim, hskip]
  cases body with
  | nil =>
    rw [List.nil_append, skipBlanks_eq_nil_iff.2 hafter]
    rfl
  | cons c t =>
    rw [List.cons_append, skipBlanks_of_not_isBlank (hhead c rfl), ← List.cons_append,
      dropBlankEnd_append hafter, dropBlankEnd_of_last hlast]

theorem head?_skipBlanks (s : List Char) : ∀ c ∈ (skipBlanks s).head?, isBlank c = false := by
  intro c hc
  have h := List.head?_dropWhile_not isBlank s
  have hc : (s.dropWhile isBlank).head? = some c := hc
  rw [hc] at h
  exact h

theorem exists_dropBlankEnd_append (s : List Char) :
    ∃ after, (∀ c ∈ after, isBlank c) ∧ s = dropBlankEnd s ++ after := by
  refine ⟨(s.reverse.takeWhile isBlank).reverse, fun c hc ↦ ?_, ?_⟩
  · exact List.all_eq_true.1 List.all_takeWhile c (List.mem_reverse.1 hc)
  · rw [dropBlankEnd, ← List.reverse_append, List.takeWhile_append_dropWhile, List.reverse_reverse]

theorem isTrimmed_trim (s : List Char) : IsTrimmed s (trim s) := by
  obtain ⟨after, hafter, hend⟩ := exists_dropBlankEnd_append (skipBlanks s)
  have hbefore : ∀ c ∈ s.takeWhile isBlank, isBlank c := List.all_eq_true.1 List.all_takeWhile
  refine ⟨⟨s.takeWhile isBlank, after, hbefore, hafter, ?_⟩, ?_, ?_⟩
  · rw [trim, ← hend]
    exact List.takeWhile_append_dropWhile.symm
  · intro c hc
    refine head?_skipBlanks s c ?_
    have hc : (dropBlankEnd (skipBlanks s)).head? = some c := hc
    rw [hend, List.head?_append, hc]
    rfl
  · intro c hc
    rw [trim, dropBlankEnd, List.getLast?_reverse] at hc
    exact head?_skipBlanks _ c hc

theorem trim_append (hbefore : ∀ c ∈ before, isBlank c) (hbody : ∀ c ∈ body, isBlank c = false)
    (hafter : ∀ c ∈ after, isBlank c) : trim (before ++ (body ++ after)) = body :=
  IsTrimmed.trim_eq ⟨⟨before, after, hbefore, hafter, rfl⟩,
    fun c hc ↦ hbody c (List.mem_of_mem_head? hc), fun c hc ↦ hbody c (List.mem_of_mem_getLast? hc)⟩

end TieredRates.Text
