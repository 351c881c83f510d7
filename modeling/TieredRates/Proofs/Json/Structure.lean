import TieredRates.Proofs.Json.Object
import TieredRates.Proofs.Json.Value

namespace TieredRates.Json

variable {names : List String} {ts ts' us : List Token} {ms ms' : List Member}

/-- The tokens are an object of these members, or an array of their values, which has the names in
this order. -/
def Spells (names : List String) (ts : List Token) (ms : List Member) : Prop :=
  (ts = objectTokens ms ∧ ∀ m ∈ ms, IsValue m.value) ∨
  ∃ items, ts = arrayTokens items ∧ (∀ item ∈ items, IsValue item) ∧
    ms = List.zipWith (fun name item ↦ ⟨some name, item⟩) names items

/-- The tokens spell a structure that has this value under this name. -/
def Gives (names : List String) (ts : List Token) (name : String) (value : List Token) : Prop :=
  ∃ ms, Spells names ts ms ∧ ⟨some name, value⟩ ∈ ms

section Unique

variable {α : Type} {run : α → List Token} {P : α → Prop} {close : Token} {as bs : List α}

theorem followed_inj
    (hrun : ∀ {a b ts us}, P a → P b → run a ++ ts = run b ++ us → a = b ∧ ts = us)
    (hclose : close ≠ .comma) (has : ∀ a ∈ as, P a) (hbs : ∀ b ∈ bs, P b)
    (h : followed (as.map run) ++ [close] = followed (bs.map run) ++ [close]) : as = bs := by
  induction as generalizing bs with
  | nil =>
    cases bs with
    | nil => rfl
    | cons b bs =>
      rw [List.map_cons, followed_cons_append] at h
      exact absurd (List.cons.inj h).1 hclose
  | cons a as ih =>
    cases bs with
    | nil =>
      rw [List.map_cons, followed_cons_append] at h
      exact absurd (List.cons.inj h).1.symm hclose
    | cons b bs =>
      rw [List.forall_mem_cons] at has hbs
      rw [List.map_cons, List.map_cons, followed_cons_append, followed_cons_append] at h
      obtain ⟨rfl, htail⟩ := hrun has.1 hbs.1 (List.cons.inj h).2
      rw [ih has.2 hbs.2 htail]

theorem separated_inj
    (hrun : ∀ {a b ts us}, P a → P b → run a ++ ts = run b ++ us → a = b ∧ ts = us)
    (hopen : ∀ {a ts us}, P a → run a ++ ts ≠ close :: us)
    (hclose : close ≠ .comma) (has : ∀ a ∈ as, P a) (hbs : ∀ b ∈ bs, P b)
    (h : separated (as.map run) ++ [close] = separated (bs.map run) ++ [close]) : as = bs := by
  cases as with
  | nil =>
    cases bs with
    | nil => rfl
    | cons b bs =>
      rw [List.map_cons, separated, List.append_assoc] at h
      exact absurd h.symm (hopen (hbs b List.mem_cons_self))
  | cons a as =>
    rw [List.forall_mem_cons] at has
    rw [List.map_cons, separated, List.append_assoc] at h
    cases bs with
    | nil => exact absurd h (hopen has.1)
    | cons b bs =>
      rw [List.forall_mem_cons] at hbs
      rw [List.map_cons, separated, List.append_assoc] at h
      obtain ⟨rfl, htail⟩ := hrun has.1 hbs.1 h
      rw [followed_inj hrun hclose has.2 hbs.2 htail]

theorem IsValue.append_ne_closeBracket (h : IsValue us) : us ++ ts ≠ .closeBracket :: ts' := by
  obtain ⟨t, rest, rfl, ht⟩ := h.passes.exists_cons
  intro he
  exact ht (List.cons.inj he).1

theorem arrayTokens_inj {items items' : List (List Token)} (h : ∀ item ∈ items, IsValue item)
    (h' : ∀ item ∈ items', IsValue item) (he : arrayTokens items = arrayTokens items') :
    items = items' := by
  have htail : separated (items.map id) ++ [.closeBracket] =
      separated (items'.map id) ++ [.closeBracket] := by
    rw [List.map_id, List.map_id]
    exact (List.cons.inj he).2
  exact separated_inj (fun ha hb ↦ ha.append_inj hb) (fun ha ↦ ha.append_ne_closeBracket)
    (by decide) h h' htail

theorem Member.append_inj {m m' : Member} (h : IsValue m.value) (h' : IsValue m'.value)
    (he : m.tokens ++ ts = m'.tokens ++ ts') : m = m' ∧ ts = ts' := by
  obtain ⟨name, value⟩ := m
  obtain ⟨name', value'⟩ := m'
  obtain ⟨hname, htail⟩ := List.cons.inj he
  obtain ⟨rfl, rfl⟩ := h.append_inj h' (List.cons.inj htail).2
  exact ⟨congrArg (Member.mk · value) (Token.text.inj hname), rfl⟩

theorem Member.append_ne_closeBrace {m : Member} : m.tokens ++ ts ≠ .closeBrace :: us := by
  intro he
  have hhead : Token.text m.name = .closeBrace := (List.cons.inj he).1
  nomatch hhead

theorem objectTokens_inj (h : ∀ m ∈ ms, IsValue m.value) (h' : ∀ m ∈ ms', IsValue m.value)
    (he : objectTokens ms = objectTokens ms') : ms = ms' :=
  separated_inj (fun ha hb ↦ Member.append_inj ha hb) (fun _ ↦ Member.append_ne_closeBrace)
    (by decide) h h' (List.cons.inj he).2

theorem Spells.unique (h : Spells names ts ms) (h' : Spells names ts ms') : ms = ms' := by
  rcases h with ⟨rfl, hms⟩ | ⟨items, rfl, hitems, rfl⟩
  · rcases h' with ⟨he, hms'⟩ | ⟨items', he, -, -⟩
    · exact objectTokens_inj hms hms' he
    · exact absurd (List.cons.inj he).1 (by decide)
  · rcases h' with ⟨he, -⟩ | ⟨items', he, hitems', rfl⟩
    · exact absurd (List.cons.inj he).1 (by decide)
    · rw [arrayTokens_inj hitems hitems' he]

end Unique

namespace Reader

variable {α β σ : Type} {reader : Reader α} {a : α} {rest bound : List Token}

/-- What the reader takes is one scalar, and it looks at nothing behind it. -/
def ReadsScalar (reader : Reader α) : Prop :=
  ∀ ts a rest, reader ts = .ok (a, rest) →
    ∃ t, t.IsScalar ∧ ts = t :: rest ∧ ∀ rest', reader (t :: rest') = .ok (a, rest')

theorem andThen_eq_ok {f : α → Except Fault β} {b : β}
    (h : reader.andThen f ts = .ok (b, rest)) : ∃ a, reader ts = .ok (a, rest) ∧ f a = .ok b := by
  rw [andThen] at h
  cases hts : reader ts with
  | error e => simp [hts] at h
  | ok r =>
    rw [hts] at h
    obtain ⟨c, hc, hpair⟩ := map_eq_ok_iff.1 h
    obtain ⟨rfl, rfl⟩ := Prod.mk.inj hpair
    exact ⟨r.1, rfl, hc⟩

theorem ReadsScalar.andThen (h : ReadsScalar reader) (f : α → Except Fault β) :
    ReadsScalar (reader.andThen f) := by
  intro ts b rest hread
  obtain ⟨a, ha, hb⟩ := andThen_eq_ok hread
  obtain ⟨t, ht, hcons, hlocal⟩ := h ts a rest ha
  refine ⟨t, ht, hcons, fun rest' ↦ ?_⟩
  rw [andThen_of_ok (hlocal rest'), hb]
  rfl

theorem exists_scalar_of_map {t : Token} (ht : t.IsScalar) {x : Except Fault α}
    (hreader : ∀ rest, reader (t :: rest) = x.map fun a ↦ (a, rest))
    (h : x.map (fun a ↦ (a, ts)) = .ok (a, rest)) :
    ∃ t', t'.IsScalar ∧ t :: ts = t' :: rest ∧ ∀ rest', reader (t' :: rest') = .ok (a, rest') := by
  obtain ⟨b, hb, hpair⟩ := map_eq_ok_iff.1 h
  obtain ⟨rfl, rfl⟩ := Prod.mk.inj hpair
  refine ⟨t, ht, rfl, fun rest' ↦ ?_⟩
  rw [hreader, hb]
  rfl

theorem readsScalar_text : ReadsScalar text := by
  intro ts a rest h
  rw [text.eq_def] at h
  split at h
  · next s ts =>
    exact exists_scalar_of_map (x := .ok s) trivial (fun _ ↦ rfl) h
  · nomatch h

theorem readsScalar_decimal : ReadsScalar decimal := by
  intro ts d rest h
  rw [decimal.eq_def] at h
  split at h
  · next s ts => exact exists_scalar_of_map (t := .text s) trivial (fun _ ↦ rfl) h
  · next n ts => exact exists_scalar_of_map (t := .number _) trivial (fun _ ↦ rfl) h
  · next negative size ts => exact exists_scalar_of_map (t := .number _) trivial (fun _ ↦ rfl) h
  · nomatch h

theorem ReadsScalar.optional (h : ReadsScalar reader) : ReadsScalar (optional reader) := by
  intro ts o rest hread
  rw [Reader.optional.eq_def] at hread
  split at hread
  · obtain ⟨rfl, rfl⟩ := Prod.mk.inj (Except.ok.inj hread)
    exact ⟨.null, trivial, rfl, fun _ ↦ rfl⟩
  · next hnull =>
    obtain ⟨t, ht, hts, hlocal⟩ := h.andThen _ _ _ _ hread
    refine ⟨t, ht, hts, fun rest' ↦ ?_⟩
    rw [Reader.optional.eq_def]
    split
    · next htn =>
      obtain ⟨rfl, -⟩ := List.cons.inj htn
      exact absurd hts (hnull rest)
    · exact hlocal rest'

section Fields

variable {fields fs : List (FieldReader σ)} {f : FieldReader σ} {s s' empty : σ}
variable {get : σ → Option α}

theorem readsScalar_of {name : String} {set : σ → α → σ} (h : ReadsScalar reader) (s : σ) :
    ReadsScalar ((FieldReader.of name reader get set).read s) :=
  h.andThen _

inductive ReadsMember (fields : List (FieldReader σ)) (s : σ) : Member → σ → Prop
  | field {name : String} {value : List Token} {f : FieldReader σ} {s' : σ}
      (hfind : fields.find? (·.name = name) = some f) (hset : f.isSet s = false)
      (hread : f.read s value = .ok (s', [])) : ReadsMember fields s ⟨some name, value⟩ s'
  | other {name : String} {value : List Token} (hfind : fields.find? (·.name = name) = none) :
      ReadsMember fields s ⟨some name, value⟩ s

inductive Reads (fields : List (FieldReader σ)) : σ → List Member → σ → Prop
  | nil {s : σ} : Reads fields s [] s
  | cons {s s' s'' : σ} {m : Member} {ms : List Member} (hm : ReadsMember fields s m s')
      (hms : Reads fields s' ms s'') : Reads fields s (m :: ms) s''

inductive ReadsItems : List (FieldReader σ) → σ → List (List Token) → σ → Prop
  | nil {fs : List (FieldReader σ)} {s : σ} : ReadsItems fs s [] s
  | cons {f : FieldReader σ} {fs : List (FieldReader σ)} {s s' s'' : σ} {item : List Token}
      {items : List (List Token)} (hread : f.read s item = .ok (s', []))
      (hitems : ReadsItems fs s' items s'') : ReadsItems (f :: fs) s (item :: items) s''

theorem expect_eq_ok {t : Token} {u : Unit} (h : expect t ts = .ok (u, rest)) : ts = t :: rest := by
  rw [expect.eq_def] at h
  split at h
  · split at h
    · next heq =>
      obtain ⟨-, rfl⟩ := Prod.mk.inj (Except.ok.inj h)
      rw [heq]
    · nomatch h
  · nomatch h

theorem text_eq_ok {name : String} (h : text ts = .ok (name, rest)) :
    ts = .text (some name) :: rest := by
  rw [text.eq_def] at h
  split at h
  · obtain ⟨rfl, rfl⟩ := Prod.mk.inj (Except.ok.inj h)
    rfl
  · nomatch h

theorem readWhole_eq_ok {text : String} (h : readWhole reader text = .ok a) :
    reader (tokens text.toList) = .ok (a, []) := by
  rw [readWhole] at h
  split at h
  · next heq => rw [heq, Except.ok.inj h]
  · nomatch h
  · nomatch h

theorem orMalformed_eq_ok {o : Option α} (h : orMalformed o = .ok a) : o = some a := by
  cases o with
  | none => nomatch h
  | some b => rw [Except.ok.inj h]

variable (hscalar : ∀ f ∈ fields, ∀ s, ReadsScalar (f.read s))
include hscalar

theorem exists_readsMember (h : member fields s ts = .ok (s', rest)) :
    ∃ m, ts = m.tokens ++ rest ∧ IsValue m.value ∧ ReadsMember fields s m s' := by
  obtain ⟨⟨name, ts₁⟩, hname, hfield⟩ := bind_eq_ok_iff.1 h
  obtain rfl := text_eq_ok hname
  cases hfind : fields.find? (·.name = name) with
  | some f =>
    simp only [hfind] at hfield
    split at hfield
    · nomatch hfield
    · next hset =>
      obtain ⟨⟨u, ts₂⟩, hcolon, hread⟩ := bind_eq_ok_iff.1 hfield
      obtain rfl := expect_eq_ok hcolon
      obtain ⟨t, ht, rfl, hlocal⟩ := hscalar f (List.mem_of_find?_eq_some hfind) s _ _ _ hread
      exact ⟨⟨some name, [t]⟩, rfl, .scalar ht, .field hfind (by simpa using hset) (hlocal [])⟩
  | none =>
    simp only [hfind] at hfield
    obtain ⟨⟨u, ts₂⟩, hcolon, hpass⟩ := bind_eq_ok_iff.1 hfield
    obtain rfl := expect_eq_ok hcolon
    obtain ⟨⟨v, ts₃⟩, hvalue, hend⟩ := bind_eq_ok_iff.1 hpass
    obtain ⟨us, hus, rfl⟩ := exists_value?_iff.1 ⟨v, orMalformed_eq_ok hvalue⟩
    obtain ⟨rfl, rfl⟩ := Prod.mk.inj (Except.ok.inj hend)
    exact ⟨⟨some name, us⟩, rfl, hus, .other hfind⟩

theorem exists_reads (h : members fields bound s ts = .ok (s', rest)) :
    ∃ m ms, ts = m.tokens ++ (followed (ms.map Member.tokens) ++ .closeBrace :: rest) ∧
      (∀ m' ∈ m :: ms, IsValue m'.value) ∧ Reads fields s (m :: ms) s' := by
  induction bound generalizing s ts with
  | nil => nomatch h
  | cons t bound ih =>
    obtain ⟨⟨s₁, ts₁⟩, hmember, hnext⟩ := bind_eq_ok_iff.1 h
    obtain ⟨m, rfl, hm, hreads⟩ := exists_readsMember hscalar hmember
    simp only at hnext
    split at hnext
    · obtain ⟨m₂, ms, rfl, hms, hrest⟩ := ih hnext
      refine ⟨m, m₂ :: ms, ?_, List.forall_mem_cons.2 ⟨hm, hms⟩, .cons hreads hrest⟩
      rw [List.map_cons, followed_cons_append]
    · obtain ⟨rfl, rfl⟩ := Prod.mk.inj (Except.ok.inj hnext)
      exact ⟨m, [], rfl, List.forall_mem_cons.2 ⟨hm, nofun⟩, .cons hreads .nil⟩
    · nomatch hnext

omit hscalar in
theorem exists_readsRest (hscalar : ∀ f ∈ fs, ∀ s, ReadsScalar (f.read s))
    (h : items fs false s ts = .ok (s', rest)) : ∃ vs, ts = followed vs ++ .closeBracket :: rest ∧
      (∀ v ∈ vs, IsValue v) ∧ ReadsItems fs s vs s' := by
  induction fs generalizing s ts with
  | nil =>
    rw [items.eq_def] at h
    split at h
    · obtain ⟨rfl, rfl⟩ := Prod.mk.inj (Except.ok.inj h)
      exact ⟨[], rfl, nofun, .nil⟩
    · next heq _ => nomatch heq
    · nomatch h
  | cons f fs ih =>
    rw [List.forall_mem_cons] at hscalar
    rw [items.eq_def] at h
    split at h
    · obtain ⟨rfl, rfl⟩ := Prod.mk.inj (Except.ok.inj h)
      exact ⟨[], rfl, nofun, .nil⟩
    · next heq _ =>
      obtain ⟨rfl, rfl⟩ := List.cons.inj heq
      obtain ⟨⟨u, ts₁⟩, hcomma, hfield⟩ := bind_eq_ok_iff.1 h
      obtain rfl := expect_eq_ok hcomma
      obtain ⟨⟨s₁, ts₂⟩, hread, hnext⟩ := bind_eq_ok_iff.1 hfield
      obtain ⟨t, ht, rfl, hlocal⟩ := hscalar.1 _ _ _ _ hread
      obtain ⟨vs, rfl, hvs, hrest⟩ := ih hscalar.2 hnext
      refine ⟨[t] :: vs, ?_, List.forall_mem_cons.2 ⟨.scalar ht, hvs⟩, .cons (hlocal []) hrest⟩
      rw [followed_cons_append]
      rfl
    · nomatch h

theorem exists_readsItems (h : items fields true s ts = .ok (s', rest)) :
    ∃ vs, ts = separated vs ++ .closeBracket :: rest ∧ (∀ v ∈ vs, IsValue v) ∧
      ReadsItems fields s vs s' := by
  rw [items.eq_def] at h
  split at h
  · obtain ⟨rfl, rfl⟩ := Prod.mk.inj (Except.ok.inj h)
    exact ⟨[], rfl, nofun, .nil⟩
  · next f fs _ =>
    rw [List.forall_mem_cons] at hscalar
    obtain ⟨⟨u, ts₁⟩, hfirst, hfield⟩ := bind_eq_ok_iff.1 h
    obtain ⟨-, rfl⟩ := Prod.mk.inj (Except.ok.inj hfirst)
    obtain ⟨⟨s₁, ts₂⟩, hread, hnext⟩ := bind_eq_ok_iff.1 hfield
    obtain ⟨t, ht, rfl, hlocal⟩ := hscalar.1 _ _ _ _ hread
    obtain ⟨vs, rfl, hvs, hrest⟩ := exists_readsRest hscalar.2 hnext
    exact ⟨[t] :: vs, rfl, List.forall_mem_cons.2 ⟨.scalar ht, hvs⟩, .cons (hlocal []) hrest⟩
  · nomatch h

end Fields

section Lawful

variable {fields fs : List (FieldReader σ)} {f : FieldReader σ} {s s' empty : σ}
variable {get : σ → Option α}

/-- A field has what its reader takes, and no other field changes that. -/
structure Shows (fields : List (FieldReader σ)) (f : FieldReader σ) (reader : Reader α)
    (get : σ → Option α) : Prop where
  isSet : ∀ s, f.isSet s = (get s).isSome
  read : ∀ s ts s' rest, f.read s ts = .ok (s', rest) →
    ∃ a, get s' = some a ∧ reader ts = .ok (a, rest)
  keep : ∀ g ∈ fields, g.name ≠ f.name → ∀ s ts s' rest, g.read s ts = .ok (s', rest) →
    get s' = get s

/-- Fields of different names that do not disturb each other, none of them set at first. -/
structure Lawful (fields : List (FieldReader σ)) (empty : σ) : Prop where
  nodup : (fields.map (·.name)).Nodup
  scalar : ∀ f ∈ fields, ∀ s, ReadsScalar (f.read s)
  unset : ∀ f ∈ fields, f.isSet empty = false
  shows : ∀ f ∈ fields, ∃ (α : Type) (reader : Reader α) (get : σ → Option α),
    Shows fields f reader get

theorem keep_of {name : String} {set : σ → α → σ} {obs : σ → Option β}
    (hobs : ∀ s a, obs (set s a) = obs s) (s : σ) (ts : List Token) (s' : σ) (rest : List Token)
    (h : (FieldReader.of name reader get set).read s ts = .ok (s', rest)) : obs s' = obs s := by
  obtain ⟨a, -, hs⟩ := andThen_eq_ok h
  rw [← Except.ok.inj hs, hobs]

theorem shows_of {name : String} {set : σ → α → σ} (hget : ∀ s a, get (set s a) = some a)
    (hkeep : ∀ g ∈ fields, g.name ≠ name → ∀ s ts s' rest, g.read s ts = .ok (s', rest) →
      get s' = get s) : Shows fields (.of name reader get set) reader get where
  isSet _ := rfl
  read s ts s' rest h := by
    obtain ⟨a, ha, hs⟩ := andThen_eq_ok h
    refine ⟨a, ?_, ha⟩
    rw [← Except.ok.inj hs, hget]
  keep := hkeep

theorem find?_name (hnodup : (fields.map (·.name)).Nodup) (hf : f ∈ fields) :
    fields.find? (·.name = f.name) = some f := by
  induction fields with
  | nil => nomatch hf
  | cons g gs ih =>
    rw [List.map_cons, List.nodup_cons] at hnodup
    rcases List.mem_cons.1 hf with rfl | hf
    · exact List.find?_cons_of_pos (decide_eq_true rfl)
    · have hne : g.name ≠ f.name := by
        intro heq
        exact hnodup.1 (heq ▸ List.mem_map_of_mem hf)
      rw [List.find?_cons_of_neg (by simpa using hne)]
      exact ih hnodup.2 hf

theorem ReadsItems.reads {items : List (List Token)} (hl : Lawful fields empty)
    (h : ReadsItems fs s items s') (hmem : ∀ f ∈ fs, f ∈ fields) (hnodup : (fs.map (·.name)).Nodup)
    (hunset : ∀ f ∈ fs, f.isSet s = false) : Reads fields s
      (List.zipWith (fun name item ↦ ⟨some name, item⟩) (fs.map (·.name)) items) s' := by
  induction h with
  | nil =>
    rw [List.zipWith_nil_right]
    exact .nil
  | @cons f fs s s₁ s₂ item items hread _ ih =>
    rw [List.forall_mem_cons] at hmem hunset
    rw [List.map_cons, List.nodup_cons] at hnodup
    refine .cons (.field (find?_name hl.nodup hmem.1) hunset.1 hread) (ih hmem.2 hnodup.2 ?_)
    intro g hg
    obtain ⟨β, reader, get, hshows⟩ := hl.shows g (hmem.2 g hg)
    have hne : f.name ≠ g.name := by
      intro heq
      exact hnodup.1 (heq ▸ List.mem_map_of_mem hg)
    rw [hshows.isSet, hshows.keep f hmem.1 hne _ _ _ _ hread, ← hshows.isSet]
    exact hunset.2 g hg

theorem exists_spells {assemble : σ → Except Fault α} (hl : Lawful fields empty)
    (h : structured fields empty assemble ts = .ok (a, rest)) :
    ∃ us ms s', ts = us ++ rest ∧ Spells (fields.map (·.name)) us ms ∧
      Reads fields empty ms s' ∧ assemble s' = .ok a := by
  obtain ⟨s', hs', ha⟩ := andThen_eq_ok h
  split at hs'
  · obtain ⟨rfl, rfl⟩ := Prod.mk.inj (Except.ok.inj hs')
    exact ⟨objectTokens [], [], empty, rfl, .inl ⟨rfl, List.forall_mem_nil _⟩, .nil, ha⟩
  · obtain ⟨m, ms, rfl, hms, hreads⟩ := exists_reads hl.scalar hs'
    refine ⟨objectTokens (m :: ms), m :: ms, s', ?_, .inl ⟨rfl, hms⟩, hreads, ha⟩
    simp [objectTokens, separated]
  · obtain ⟨items, rfl, hitems, hreads⟩ := exists_readsItems hl.scalar hs'
    refine ⟨arrayTokens items, _, s', ?_, .inr ⟨items, rfl, hitems, rfl⟩,
      hreads.reads hl (fun _ hf ↦ hf) hl.nodup hl.unset, ha⟩
    simp [arrayTokens]
  · cases hs'

theorem ReadsMember.exists_name {m : Member} (h : ReadsMember fields s m s') :
    ∃ name value, m = ⟨some name, value⟩ := by
  cases h with
  | field => exact ⟨_, _, rfl⟩
  | other => exact ⟨_, _, rfl⟩

theorem mem_cons_of_name_ne {name name' : String} {value v : List Token} (h : name' ≠ name) :
    ⟨some name, v⟩ ∈ ⟨some name', value⟩ :: ms ↔ (⟨some name, v⟩ : Member) ∈ ms := by
  simp [Ne.symm h]

variable (hfind : fields.find? (·.name = f.name) = some f)
include hfind

theorem ReadsMember.read {value : List Token} (h : ReadsMember fields s ⟨some f.name, value⟩ s') :
    f.isSet s = false ∧ f.read s value = .ok (s', []) := by
  cases h with
  | field hg hset hread =>
    obtain rfl := Option.some.inj (hg.symm.trans hfind)
    exact ⟨hset, hread⟩
  | other hnone => nomatch hnone.symm.trans hfind

variable (hf : Shows fields f reader get)
include hf

omit hfind in
theorem ReadsMember.keep {name : String} {value : List Token} (hne : name ≠ f.name)
    (h : ReadsMember fields s ⟨some name, value⟩ s') : get s' = get s := by
  cases h with
  | @field _ _ g _ hg _ hread =>
    have hname : g.name = name := by simpa using List.find?_some hg
    exact hf.keep g (List.mem_of_find?_eq_some hg) (hname ▸ hne) _ _ _ _ hread
  | other => rfl

theorem Reads.kept (h : Reads fields s ms s') (hset : get s = some a) :
    get s' = some a ∧ ∀ v, ⟨some f.name, v⟩ ∉ ms := by
  induction h with
  | nil => exact ⟨hset, nofun⟩
  | cons hm _ ih =>
    obtain ⟨name, value, rfl⟩ := hm.exists_name
    have hne : name ≠ f.name := by
      rintro rfl
      have hunset := (hm.read hfind).1
      rw [hf.isSet, hset] at hunset
      nomatch hunset
    obtain ⟨hget, hnot⟩ := ih ((hm.keep hf hne).trans hset)
    exact ⟨hget, fun v hv ↦ hnot v ((mem_cons_of_name_ne hne).1 hv)⟩

theorem Reads.given (h : Reads fields s ms s') (hset : get s = none) :
    (get s' = none ∧ ∀ v, ⟨some f.name, v⟩ ∉ ms) ∨
    ∃ a v, get s' = some a ∧ reader v = .ok (a, []) ∧ ⟨some f.name, v⟩ ∈ ms ∧
      ∀ v', ⟨some f.name, v'⟩ ∈ ms → v' = v := by
  induction h with
  | nil => exact .inl ⟨hset, nofun⟩
  | cons hm hms ih =>
    obtain ⟨name, value, rfl⟩ := hm.exists_name
    by_cases hname : name = f.name
    · subst hname
      obtain ⟨a, hget, hread⟩ := hf.read _ _ _ _ (hm.read hfind).2
      obtain ⟨hlast, hnot⟩ := hms.kept hfind hf hget
      refine .inr ⟨a, value, hlast, hread, List.mem_cons_self, fun v' hv' ↦ ?_⟩
      rcases List.mem_cons.1 hv' with heq | hv'
      · exact (Member.mk.inj heq).2
      · exact absurd hv' (hnot v')
    · simp only [mem_cons_of_name_ne hname]
      exact ih ((hm.keep hf hname).trans hset)

omit hfind hf in
/-- Of a text that a structure is read from, each field takes the one value that it is given, or is
given none. -/
theorem exists_given {text : String} {assemble : σ → Except Fault β} {b : β}
    (hl : Lawful fields empty) (h : readWhole (structured fields empty assemble) text = .ok b) :
    ∃ s, assemble s = .ok b ∧ ∀ {α : Type} {f : FieldReader σ} {reader : Reader α}
      {get : σ → Option α}, f ∈ fields → Shows fields f reader get →
      (get s = none ∧ ∀ v, ¬ Gives (fields.map (·.name)) (tokens text.toList) f.name v) ∨
      ∃ a v, get s = some a ∧ reader v = .ok (a, []) ∧
        ∀ v', Gives (fields.map (·.name)) (tokens text.toList) f.name v' ↔ v' = v := by
  obtain ⟨us, ms, s, htokens, hspells, hreads, hassemble⟩ := exists_spells hl (readWhole_eq_ok h)
  rw [List.append_nil] at htokens
  subst htokens
  refine ⟨s, hassemble, ?_⟩
  intro α f reader get hmem hshows
  have hgives {v : List Token} : Gives (fields.map (·.name)) (tokens text.toList) f.name v ↔
      ⟨some f.name, v⟩ ∈ ms :=
    ⟨fun ⟨_, hspells', hv⟩ ↦ hspells.unique hspells' ▸ hv, fun hv ↦ ⟨ms, hspells, hv⟩⟩
  have hempty : get empty = none := by
    have hunset := hl.unset f hmem
    rw [hshows.isSet] at hunset
    simpa using hunset
  rcases hreads.given (find?_name hl.nodup hmem) hshows hempty with ⟨hnone, hnot⟩ | ⟨a, v, hv⟩
  · exact .inl ⟨hnone, fun v hv ↦ hnot v (hgives.1 hv)⟩
  · obtain ⟨hget, hread, hin, honly⟩ := hv
    refine .inr ⟨a, v, hget, hread, fun v' ↦ ⟨fun hv' ↦ honly v' (hgives.1 hv'), ?_⟩⟩
    rintro rfl
    exact hgives.2 hin

end Lawful

end Reader

end TieredRates.Json
