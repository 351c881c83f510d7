import TieredRates.Json.Value

namespace TieredRates.Json

def Token.IsScalar : Token → Prop
  | null | bool _ | text _ | number _ => True
  | _ => False

def followed (runs : List (List Token)) : List Token := runs.flatMap (.comma :: ·)

theorem followed_cons_append (run : List Token) (runs : List (List Token)) (rest : List Token) :
    followed (run :: runs) ++ rest = .comma :: (run ++ (followed runs ++ rest)) := by
  rw [followed, List.flatMap_cons, List.cons_append, List.cons_append, List.append_assoc]
  rfl

def separated : List (List Token) → List Token
  | [] => []
  | run :: runs => run ++ followed runs

def arrayTokens (items : List (List Token)) : List Token :=
  .openBracket :: (separated items ++ [.closeBracket])

/-- A member of an object. It has no name if that is half of a surrogate pair. -/
structure Member where
  name : Option String
  value : List Token

def Member.tokens (m : Member) : List Token := .text m.name :: .colon :: m.value

def objectTokens (members : List Member) : List Token :=
  .openBrace :: (separated (members.map Member.tokens) ++ [.closeBrace])

inductive IsValue : List Token → Prop
  | scalar {t : Token} (h : t.IsScalar) : IsValue [t]
  | array {items : List (List Token)} (h : ∀ item ∈ items, IsValue item) :
      IsValue (arrayTokens items)
  | object {members : List Member} (h : ∀ m ∈ members, IsValue m.value) :
      IsValue (objectTokens members)

def Progress.resume : Progress → List Token → Option (Value × List Token)
  | go place stack, ts => build? .passOver place stack ts
  | done v, ts => some (v, ts)
  | stuck, _ => none

variable {t : Token} {ts us rest : List Token} {stack : List Frame} {w : Value}
variable {items : List (List Token)} {ms : List Member}

theorem build?_cons (place : Place) (stack : List Frame) (t : Token) (ts : List Token) :
    build? .passOver place stack (t :: ts) = (advance .passOver place stack t).resume ts := by
  rw [build?]
  cases advance .passOver place stack t <;> rfl

theorem enter_scalar (h : t.IsScalar) : ∃ v, ∀ stack, enter .passOver stack t = finish v stack := by
  cases t with
  | null => exact ⟨.null, fun _ ↦ rfl⟩
  | bool b => exact ⟨.bool b, fun _ ↦ rfl⟩
  | text s => cases s <;> exact ⟨_, fun _ ↦ rfl⟩
  | number n => cases n <;> exact ⟨_, fun _ ↦ rfl⟩
  | _ => exact h.elim

theorem enterMember_text (acc : List (String × Value)) (old : String) (name : Option String) :
    ∃ new, ∀ stack, enterMember .passOver (.object acc old :: stack) (.text name) =
      .go .colon (.object acc new :: stack) := by
  cases name <;> exact ⟨_, fun _ ↦ rfl⟩

section Complete

/-- Where a value may begin, these tokens are passed over as one. -/
def Passes (us : List Token) : Prop :=
  ∃ v, ∀ stack rest,
    build? .passOver .value stack (us ++ rest) = (finish v stack).resume rest

theorem Passes.exists_cons (h : Passes us) : ∃ t ts, us = t :: ts ∧ t ≠ .closeBracket := by
  obtain ⟨v, h⟩ := h
  have hsome : build? .passOver .value [] us = some (v, []) := by
    have h0 := h [] []
    rwa [List.append_nil] at h0
  cases us with
  | nil => simp [build?] at hsome
  | cons t ts =>
    refine ⟨t, ts, rfl, ?_⟩
    rintro rfl
    simp [build?_cons, advance, enter, Care.scalar?, Progress.resume] at hsome

theorem advance_firstItem (h : t ≠ .closeBracket) :
    advance .passOver .firstItem stack t = advance .passOver .value stack t := by
  cases t with
  | closeBracket => exact absurd rfl h
  | _ => rcases stack with _ | ⟨_ | _, _⟩ <;> rfl

theorem Passes.build?_firstItem (h : Passes us) (stack : List Frame) (rest : List Token) :
    build? .passOver .firstItem stack (us ++ rest) =
      build? .passOver .value stack (us ++ rest) := by
  obtain ⟨t, ts, rfl, ht⟩ := h.exists_cons
  rw [List.cons_append, build?_cons, build?_cons, advance_firstItem ht]

theorem build?_followed (h : ∀ item ∈ items, Passes item) (acc : List Value) :
    ∃ v, ∀ stack rest,
      build? .passOver .next (.array acc :: stack) (followed items ++ .closeBracket :: rest) =
        (finish v stack).resume rest := by
  induction items generalizing acc with
  | nil => exact ⟨.array acc.reverse, fun stack rest ↦ build?_cons ..⟩
  | cons item items ih =>
    obtain ⟨v, hv⟩ := h item List.mem_cons_self
    obtain ⟨a, ha⟩ := ih (fun i hi ↦ h i (List.mem_cons_of_mem _ hi)) (v :: acc)
    refine ⟨a, fun stack rest ↦ ?_⟩
    rw [followed_cons_append, build?_cons]
    exact (hv (.array acc :: stack) _).trans (ha stack rest)

theorem passes_array (h : ∀ item ∈ items, Passes item) : Passes (arrayTokens items) := by
  cases items with
  | nil =>
    refine ⟨.array [], fun stack rest ↦ ?_⟩
    exact (build?_cons ..).trans (build?_cons ..)
  | cons item items =>
    have hitem := h item List.mem_cons_self
    obtain ⟨v, hv⟩ := id hitem
    obtain ⟨a, ha⟩ := build?_followed (fun i hi ↦ h i (List.mem_cons_of_mem _ hi)) [v]
    refine ⟨a, fun stack rest ↦ ?_⟩
    rw [arrayTokens, separated, List.cons_append, List.append_assoc, List.append_assoc, build?_cons]
    refine (hitem.build?_firstItem _ _).trans ((hv (.array [] :: stack) _).trans ?_)
    exact ha stack rest

theorem Passes.build?_member (h : Passes us) (acc : List (String × Value)) (old : String)
    (name : Option String) : ∃ new v, ∀ stack rest place, place = .name ∨ place = .firstName →
      build? .passOver place (.object acc old :: stack) (.text name :: .colon :: (us ++ rest)) =
        build? .passOver .next (.object ((new, v) :: acc) new :: stack) rest := by
  obtain ⟨new, hnew⟩ := enterMember_text acc old name
  obtain ⟨v, hv⟩ := h
  refine ⟨new, v, fun stack rest place hplace ↦ ?_⟩
  have hname : advance .passOver place (.object acc old :: stack) (.text name) =
      .go .colon (.object acc new :: stack) := by
    rcases hplace with rfl | rfl <;> exact hnew stack
  rw [build?_cons, hname]
  show build? .passOver .colon (.object acc new :: stack) (.colon :: (us ++ rest)) = _
  rw [build?_cons]
  exact hv (.object acc new :: stack) rest

theorem build?_followedMembers (h : ∀ m ∈ ms, Passes m.value) (acc : List (String × Value))
    (name : String) : ∃ v, ∀ stack rest,
      build? .passOver .next (.object acc name :: stack)
        (followed (ms.map Member.tokens) ++ .closeBrace :: rest) =
          (finish v stack).resume rest := by
  induction ms generalizing acc name with
  | nil => exact ⟨.object acc.reverse, fun stack rest ↦ build?_cons ..⟩
  | cons m ms ih =>
    obtain ⟨new, v, hv⟩ := (h m List.mem_cons_self).build?_member acc name m.name
    obtain ⟨a, ha⟩ := ih (fun i hi ↦ h i (List.mem_cons_of_mem _ hi)) ((new, v) :: acc) new
    refine ⟨a, fun stack rest ↦ ?_⟩
    rw [List.map_cons, followed_cons_append, build?_cons]
    exact (hv stack _ .name (.inl rfl)).trans (ha stack rest)

theorem passes_object (h : ∀ m ∈ ms, Passes m.value) : Passes (objectTokens ms) := by
  cases ms with
  | nil =>
    refine ⟨.object [], fun stack rest ↦ ?_⟩
    exact (build?_cons ..).trans (build?_cons ..)
  | cons m ms =>
    obtain ⟨new, v, hv⟩ := (h m List.mem_cons_self).build?_member [] "" m.name
    obtain ⟨a, ha⟩ :=
      build?_followedMembers (fun i hi ↦ h i (List.mem_cons_of_mem _ hi)) [(new, v)] new
    refine ⟨a, fun stack rest ↦ ?_⟩
    rw [objectTokens, List.map_cons, separated, List.cons_append, List.append_assoc,
      List.append_assoc, build?_cons]
    exact (hv stack _ .firstName (.inr rfl)).trans (ha stack rest)

theorem IsValue.passes (h : IsValue us) : Passes us := by
  induction h with
  | scalar h =>
    obtain ⟨v, hv⟩ := enter_scalar h
    refine ⟨v, fun stack rest ↦ ?_⟩
    rw [List.singleton_append, build?_cons, advance, hv]
  | array _ ih => exact passes_array ih
  | object _ ih => exact passes_object ih

end Complete

section Sound

variable (stack : List Frame) (out : Value × List Token) (ts : List Token)

def BeginsValue : Prop :=
  ∃ us ts' v, ts = us ++ ts' ∧ IsValue us ∧ (finish v stack).resume ts' = some out

def ClosesArray : Prop := ∃ (items : List (List Token)) (ts' : List Token) (v : Value),
  ts = followed items ++ .closeBracket :: ts' ∧ (∀ item ∈ items, IsValue item) ∧
    (finish v stack).resume ts' = some out

def ClosesObject : Prop := ∃ (ms : List Member) (ts' : List Token) (v : Value),
  ts = followed (ms.map Member.tokens) ++ .closeBrace :: ts' ∧ (∀ m ∈ ms, IsValue m.value) ∧
    (finish v stack).resume ts' = some out

/-- What is built from these tokens is of the grammar. -/
structure Sound (ts : List Token) : Prop where
  value : ∀ {stack out}, build? .passOver .value stack ts = some out → BeginsValue stack out ts
  items : ∀ {acc stack out}, build? .passOver .next (.array acc :: stack) ts = some out →
    ClosesArray stack out ts
  members : ∀ {acc name stack out},
    build? .passOver .next (.object acc name :: stack) ts = some out → ClosesObject stack out ts

variable {stack out ts} {acc : List Value} {mem : List (String × Value)} {old : String}

theorem length_lt_of_append {ts' : List Token} (h : ts = us ++ ts') :
    ts'.length < (t :: ts).length := by
  rw [h, List.length_cons, List.length_append]
  omega

theorem closesArray (ih : ∀ us : List Token, us.length < ts.length → Sound us)
    (h : build? .passOver .next (.array acc :: stack) ts = some out) :
    ClosesArray stack out ts := by
  cases ts with
  | nil => simp [build?] at h
  | cons t ts =>
    rw [build?_cons] at h
    cases t with
    | comma =>
      obtain ⟨us, ts', v, hts, hus, h⟩ := (ih ts (Nat.lt_succ_self _)).value h
      obtain ⟨items, ts'', w, rfl, hitems, h⟩ := (ih ts' (length_lt_of_append hts)).items h
      refine ⟨us :: items, ts'', w, ?_, List.forall_mem_cons.2 ⟨hus, hitems⟩, h⟩
      rw [hts, followed_cons_append]
    | closeBracket => exact ⟨[], ts, _, rfl, nofun, h⟩
    | _ => nomatch h

theorem exists_member (ih : ∀ us : List Token, us.length < (t :: ts).length → Sound us)
    (h : (enterMember .passOver (.object mem old :: stack) t).resume ts = some out) :
    ∃ (m : Member) (ts' : List Token) (mem' : List (String × Value)) (new : String),
      t :: ts = m.tokens ++ ts' ∧ IsValue m.value ∧
        build? .passOver .next (.object mem' new :: stack) ts' = some out := by
  cases t with
  | text name =>
    obtain ⟨new, hnew⟩ := enterMember_text mem old name
    rw [hnew] at h
    cases ts with
    | nil => nomatch h
    | cons t ts =>
      have h : (advance .passOver .colon (.object mem new :: stack) t).resume ts = some out :=
        (build?_cons ..).symm.trans h
      cases t with
      | colon =>
        have hlt : ts.length < (Token.text name :: .colon :: ts).length := by
          simp only [List.length_cons]
          omega
        obtain ⟨us, ts', v, rfl, hus, h⟩ := (ih ts hlt).value h
        exact ⟨⟨name, us⟩, ts', _, new, rfl, hus, h⟩
      | _ => nomatch h
  | _ => nomatch h

theorem closesObject (ih : ∀ us : List Token, us.length < ts.length → Sound us)
    (h : build? .passOver .next (.object mem old :: stack) ts = some out) :
    ClosesObject stack out ts := by
  cases ts with
  | nil => simp [build?] at h
  | cons t ts =>
    rw [build?_cons] at h
    cases t with
    | comma =>
      cases ts with
      | nil => nomatch h
      | cons t ts =>
        have h := (build?_cons ..).symm.trans h
        obtain ⟨m, ts', mem', new, hts, hm, h⟩ :=
          exists_member (fun us hus ↦ ih us (Nat.lt_succ_of_lt hus)) h
        obtain ⟨ms, ts'', w, rfl, hms, h⟩ := (ih ts' (length_lt_of_append hts)).members h
        refine ⟨m :: ms, ts'', w, ?_, List.forall_mem_cons.2 ⟨hm, hms⟩, h⟩
        rw [hts, List.map_cons, followed_cons_append]
    | closeBrace => exact ⟨[], ts, _, rfl, nofun, h⟩
    | _ => nomatch h

theorem beginsValue_array (ih : ∀ us : List Token, us.length ≤ ts.length → Sound us)
    (h : build? .passOver .firstItem (.array [] :: stack) ts = some out) :
    BeginsValue stack out (.openBracket :: ts) := by
  cases ts with
  | nil => simp [build?] at h
  | cons t ts =>
    by_cases ht : t = .closeBracket
    · subst ht
      rw [build?_cons] at h
      exact ⟨arrayTokens [], ts, _, rfl, .array nofun, h⟩
    · rw [build?_cons, advance_firstItem ht, ← build?_cons] at h
      obtain ⟨us, ts', v, hts, hus, h⟩ := (ih _ (Nat.le_refl _)).value h
      have hlt : ts'.length ≤ (t :: ts).length := by
        rw [hts, List.length_append]
        omega
      obtain ⟨items, ts'', w, rfl, hitems, h⟩ := (ih ts' hlt).items h
      refine ⟨arrayTokens (us :: items), ts'', w, ?_,
        .array (List.forall_mem_cons.2 ⟨hus, hitems⟩), h⟩
      simp [hts, arrayTokens, separated]

theorem beginsValue_object (ih : ∀ us : List Token, us.length ≤ ts.length → Sound us)
    (h : build? .passOver .firstName (.object [] "" :: stack) ts = some out) :
    BeginsValue stack out (.openBrace :: ts) := by
  cases ts with
  | nil => simp [build?] at h
  | cons t ts =>
    rw [build?_cons] at h
    by_cases ht : t = .closeBrace
    · subst ht
      exact ⟨objectTokens [], ts, _, rfl, .object nofun, h⟩
    · have hfirst : advance .passOver .firstName (.object [] "" :: stack) t =
          enterMember .passOver (.object [] "" :: stack) t := by
        cases t with
        | closeBrace => exact absurd rfl ht
        | _ => rfl
      rw [hfirst] at h
      obtain ⟨m, ts', mem', new, hts, hm, h⟩ :=
        exists_member (fun us hus ↦ ih us (Nat.le_of_lt hus)) h
      have hlt : ts'.length ≤ (t :: ts).length := by
        rw [hts, List.length_append]
        omega
      obtain ⟨ms, ts'', w, rfl, hms, h⟩ := (ih ts' hlt).members h
      refine ⟨objectTokens (m :: ms), ts'', w, ?_,
        .object (List.forall_mem_cons.2 ⟨hm, hms⟩), h⟩
      simp [hts, objectTokens, separated]

theorem beginsValue (ih : ∀ us : List Token, us.length < ts.length → Sound us)
    (h : build? .passOver .value stack ts = some out) : BeginsValue stack out ts := by
  cases ts with
  | nil => simp [build?] at h
  | cons t ts =>
    have ih' (us : List Token) (hus : us.length ≤ ts.length) : Sound us :=
      ih us (Nat.lt_succ_of_le hus)
    rw [build?_cons] at h
    have hscalar (ht : t.IsScalar) : BeginsValue stack out (t :: ts) := by
      obtain ⟨v, hv⟩ := enter_scalar ht
      rw [advance, hv] at h
      exact ⟨[t], ts, v, rfl, .scalar ht, h⟩
    cases t with
    | openBracket => exact beginsValue_array ih' h
    | openBrace => exact beginsValue_object ih' h
    | null | bool | text | number => exact hscalar trivial
    | _ => nomatch h

theorem sound (ts : List Token) : Sound ts :=
  have ih (us : List Token) (_ : us.length < ts.length) : Sound us := sound us
  ⟨beginsValue ih, closesArray ih, closesObject ih⟩
termination_by ts.length

end Sound

/-- Passing over a value is taking one of the grammar off the front. -/
theorem exists_value?_iff :
    (∃ v, value? .passOver ts = some (v, rest)) ↔ ∃ us, IsValue us ∧ ts = us ++ rest := by
  constructor
  · rintro ⟨v, h⟩
    obtain ⟨us, ts', w, rfl, hus, hdone⟩ := (sound ts).value h
    obtain ⟨-, rfl⟩ := Prod.mk.inj (Option.some.inj hdone)
    exact ⟨us, hus, rfl⟩
  · rintro ⟨us, hus, rfl⟩
    obtain ⟨v, hv⟩ := hus.passes
    exact ⟨v, hv [] rest⟩

theorem IsValue.append_inj {us' rest' : List Token} (h : IsValue us) (h' : IsValue us')
    (he : us ++ rest = us' ++ rest') : us = us' ∧ rest = rest' := by
  obtain ⟨v, hv⟩ := exists_value?_iff.2 ⟨us, h, rfl⟩
  obtain ⟨v', hv'⟩ := exists_value?_iff.2 ⟨us', h', he⟩
  obtain ⟨-, rfl⟩ := Prod.mk.inj (Option.some.inj (hv.symm.trans hv'))
  exact ⟨List.append_cancel_right he, rfl⟩

end TieredRates.Json
