import TieredRates.Proofs.Record
import TieredRates.Resolve.Basic

namespace TieredRates

inductive Origin where
  | first
  | cache
  | store
  | source
deriving DecidableEq

def Origin.rank : Origin → Nat
  | first => 0
  | cache => 1
  | store => 2
  | source => 3

theorem Origin.forall_iff {P : Origin → Prop} :
    (∀ o, P o) ↔ P .first ∧ P .cache ∧ P .store ∧ P .source :=
  ⟨fun h ↦ ⟨h _, h _, h _, h _⟩, fun ⟨h₁, h₂, h₃, h₄⟩ o ↦ by cases o <;> assumption⟩

inductive Verdict where
  | found (origin : Origin) (r : RateRecord)
  /-- The source has a record that the mode does not accept. -/
  | refused (r : RateRecord)
  | failed (e : SourceError)
deriving DecidableEq

namespace Lookup

def hit? : Lookup → Option RateRecord
  | hit r => some r
  | _ => none

variable {p : Policy} {mode : Mode} {now : Instant} {r : RateRecord}

theorem hit?_judge_eq_some_iff {fresh : Bool} {s : RateRecord} :
    (judge p mode fresh s).hit? = some r ↔ s = r ∧ p.Accepts mode r ∧ fresh = true := by
  rw [judge]
  split
  · next ha =>
    cases fresh
    · simp [hit?]
    · simp only [hit?, if_true, Option.some.injEq, and_true]
      exact ⟨fun h ↦ ⟨h, h ▸ ha⟩, fun h ↦ h.1⟩
  · next ha =>
    simp only [hit?, reduceCtorEq, false_iff]
    rintro ⟨rfl, h, -⟩
    exact ha h

theorem hit?_inFirst_eq_some_iff {e? : Option Cached} :
    (inFirst p mode now e?).hit? = some r ↔
      ∃ e, e? = some e ∧ e.record = r ∧ p.Accepts mode r ∧ e.Within p.l1Window now := by
  cases e? with
  | none => simp [inFirst, hit?]
  | some e =>
    simp only [inFirst, Option.some.injEq, exists_eq_left']
    split
    · next h => simp [hit?_judge_eq_some_iff, h]
    · next h => simp [hit?, h]

theorem hit?_inCache_eq_some_iff {got : Except CacheError (Option RateRecord)} :
    (inCache p mode now got).hit? = some r ↔
      got = .ok (some r) ∧ p.Accepts mode r ∧ r.FreshWithin p.syncInterval now := by
  rcases got with e | _ | s
  · simp [inCache, hit?]
  · simp [inCache, hit?]
  · simp only [inCache, Except.ok.injEq, Option.some.injEq]
    split
    · next h =>
      rw [hit?_judge_eq_some_iff]
      refine and_congr_right fun hs ↦ and_congr_right fun _ ↦ ?_
      simp [← hs, h]
    · next h =>
      simp only [hit?, reduceCtorEq, false_iff]
      rintro ⟨rfl, -, hf⟩
      exact h hf

theorem hit?_inStore_eq_some_iff {got : Except StoreError (Option RateRecord)} :
    (inStore p mode now got).hit? = some r ↔
      got = .ok (some r) ∧ p.Accepts mode r ∧ r.FreshWithin p.syncInterval now := by
  rcases got with e | _ | s
  · simp [inStore, hit?]
  · simp [inStore, hit?]
  · simp only [inStore, Except.ok.injEq, Option.some.injEq, hit?_judge_eq_some_iff,
      decide_eq_true_eq]
    exact and_congr_right fun hs ↦ by rw [hs]

end Lookup

namespace Tiers

variable {κ σ π : Type} [SharedCache κ] [RateStore σ] [LiveSource π]
variable (t : Tiers κ σ π) (p : Policy) (now : Instant) (mode : Mode) (c : CurrencyCode)

def lookFirst : Lookup := .inFirst p mode now (t.first.get? c)

def lookCache : Lookup := .inCache p mode now (SharedCache.get t.cache now c).1

def lookStore : Lookup := .inStore p mode now (RateStore.get t.store c).1

def live : Except SourceError RateRecord := (LiveSource.fetch t.source now c).1

def seen : Option RateRecord :=
  (t.lookFirst p now mode c).untrusted? <|> (t.lookCache p now mode c).untrusted?

def verdict : Verdict :=
  match (t.lookFirst p now mode c).hit?, (t.lookCache p now mode c).hit?,
    (t.lookStore p now mode c).hit?, t.live now c with
  | some r, _, _, _ => .found .first r
  | none, some r, _, _ => .found .cache r
  | none, none, some r, _ => .found .store r
  | none, none, none, .ok r => if p.Accepts mode r then .found .source r else .refused r
  | none, none, none, .error e => .failed e

def candidate? : Origin → Option RateRecord
  | .first => (t.lookFirst p now mode c).hit?
  | .cache => (t.lookCache p now mode c).hit?
  | .store => (t.lookStore p now mode c).hit?
  | .source => match t.live now c with
    | .ok r => if p.Accepts mode r then some r else none
    | .error _ => none

def answer : Verdict → Except ResolveError Decimal
  | .found _ r => .ok r.rate
  | .refused r => .error (p.refusal r)
  | .failed e => p.degrade mode c (t.lookStore p now mode c) (t.seen p now mode c) e

def askCache : Tiers κ σ π := { t with cache := (SharedCache.get t.cache now c).2 }

def askStore : Tiers κ σ π := { t.askCache now c with store := (RateStore.get t.store c).2 }

def askSource : Tiers κ σ π :=
  { t.askStore now c with source := (LiveSource.fetch t.source now c).2 }

/-- What a verdict leaves: the record goes into the tiers that were asked before it was found, and a
live one also into the store if its currency may come from its provider. -/
def after : Verdict → Tiers κ σ π
  | .found .first _ => t
  | .found .cache r => (t.askCache now c).fillFirst now r
  | .found .store r => (t.askStore now c).fill now r
  | .found .source r =>
    if p.Trusts r then ((t.askSource now c).persist r).fill now r
    else (t.askSource now c).fill now r
  | .refused _ | .failed _ => t.askSource now c

variable {t p now mode c}

omit [LiveSource π] in
theorem accept_eq (r : RateRecord) :
    t.accept p now mode r = if p.Accepts mode r then
      (.ok r.rate, if p.Trusts r then (t.persist r).fill now r else t.fill now r)
    else (.error (p.refusal r), t) := by
  rw [accept]
  by_cases ht : p.Trusts r
  · have ha : p.Accepts mode r := fun _ ↦ ht
    simp only [ht, ha, if_true]
  · cases mode with
    | strict => simp [ht, Policy.accepts_strict_iff]
    | nonStrict => simp [ht, p.accepts_nonStrict r]

theorem fromStore_eq (seen : Option RateRecord) :
    t.fromStore p now mode c seen = match (t.lookStore p now mode c).hit? with
      | some r => (.ok r.rate, { t with store := (RateStore.get t.store c).2 }.fill now r)
      | none => { t with store := (RateStore.get t.store c).2 }.fromSource p now mode c
          (t.lookStore p now mode c) seen := by
  rw [fromStore, lookStore]
  cases Lookup.inStore p mode now (RateStore.get t.store c).1 <;> rfl

theorem fromCache_eq (seen : Option RateRecord) :
    t.fromCache p now mode c seen = match (t.lookCache p now mode c).hit? with
      | some r => (.ok r.rate, (t.askCache now c).fillFirst now r)
      | none => (t.askCache now c).fromStore p now mode c
          (seen <|> (t.lookCache p now mode c).untrusted?) := by
  rw [fromCache, lookCache]
  cases Lookup.inCache p mode now (SharedCache.get t.cache now c).1 <;> rfl

theorem rateOf_eq_of_ne (hc : c ≠ .usd) :
    t.rateOf p now mode c = match (t.lookFirst p now mode c).hit? with
      | some r => (.ok r.rate, t)
      | none => t.fromCache p now mode c (t.lookFirst p now mode c).untrusted? := by
  rw [rateOf, if_neg hc, lookFirst]
  cases Lookup.inFirst p mode now (t.first.get? c) <;> rfl

theorem rateOf_eq (hc : c ≠ .usd) :
    t.rateOf p now mode c =
      (t.answer p now mode c (t.verdict p now mode c), t.after p now c (t.verdict p now mode c)) := by
  have hs : (t.askCache now c).lookStore p now mode c = t.lookStore p now mode c := rfl
  rw [rateOf_eq_of_ne hc, verdict]
  cases h₁ : (t.lookFirst p now mode c).hit? with
  | some r => rfl
  | none =>
    simp only [fromCache_eq]
    cases h₂ : (t.lookCache p now mode c).hit? with
    | some r => rfl
    | none =>
      simp only [fromStore_eq, hs]
      cases h₃ : (t.lookStore p now mode c).hit? with
      | some r => rfl
      | none =>
        have hl : (LiveSource.fetch t.source now c).1 = t.live now c := rfl
        simp only [fromSource, askCache, hl]
        cases h₄ : t.live now c with
        | error e => rfl
        | ok r =>
          simp only [accept_eq]
          split
          · simp only [answer, after, askSource, askStore, askCache]
          · rfl

theorem rateOf_usd : t.rateOf p now mode .usd = (.ok .one, t) := if_pos rfl

theorem after_first (v : Verdict) : (t.after p now c v).first = match v with
    | .found .cache r | .found .store r | .found .source r => FirstTier.cache t.first r now
    | _ => t.first := by
  rcases v with (_ | _ | _ | _) | _ | _ <;> try rfl
  rw [after]
  split <;> rfl

theorem after_cache (v : Verdict) : (t.after p now c v).cache = match v with
    | .found .first _ => t.cache
    | .found .store r | .found .source r =>
      (SharedCache.put (SharedCache.get t.cache now c).2 now r).2
    | _ => (SharedCache.get t.cache now c).2 := by
  rcases v with (_ | _ | _ | _) | _ | _ <;> try rfl
  simp only [after]
  split <;> rfl

theorem after_store (v : Verdict) : (t.after p now c v).store = match v with
    | .found .first _ | .found .cache _ => t.store
    | .found .source r =>
      if p.Trusts r then (RateStore.put (RateStore.get t.store c).2 r).2
      else (RateStore.get t.store c).2
    | _ => (RateStore.get t.store c).2 := by
  rcases v with (_ | _ | _ | _) | _ | _ <;> try rfl
  simp only [after]
  split <;> rfl

theorem after_source (v : Verdict) : (t.after p now c v).source = match v with
    | .found .source _ | .refused _ | .failed _ => (LiveSource.fetch t.source now c).2
    | _ => t.source := by
  rcases v with (_ | _ | _ | _) | _ | _ <;> try rfl
  rw [after]
  split <;> rfl

theorem candidate?_first_eq_some_iff {r : RateRecord} :
    t.candidate? p now mode c .first = some r ↔ ∃ e, t.first.get? c = some e ∧ e.record = r ∧
      p.Accepts mode r ∧ e.Within p.l1Window now :=
  Lookup.hit?_inFirst_eq_some_iff

theorem candidate?_cache_eq_some_iff {r : RateRecord} :
    t.candidate? p now mode c .cache = some r ↔
      (SharedCache.get t.cache now c).1 = .ok (some r) ∧ p.Accepts mode r ∧
        r.FreshWithin p.syncInterval now :=
  Lookup.hit?_inCache_eq_some_iff

theorem candidate?_store_eq_some_iff {r : RateRecord} :
    t.candidate? p now mode c .store = some r ↔ (RateStore.get t.store c).1 = .ok (some r) ∧
      p.Accepts mode r ∧ r.FreshWithin p.syncInterval now :=
  Lookup.hit?_inStore_eq_some_iff

theorem candidate?_source_eq_some_iff {r : RateRecord} :
    t.candidate? p now mode c .source = some r ↔ t.live now c = .ok r ∧ p.Accepts mode r := by
  rw [candidate?]
  cases t.live now c with
  | error e => simp
  | ok s =>
    simp only [Option.ite_none_right_eq_some, Option.some.injEq, Except.ok.injEq]
    constructor
    · rintro ⟨ha, rfl⟩
      exact ⟨rfl, ha⟩
    · rintro ⟨rfl, ha⟩
      exact ⟨ha, rfl⟩

theorem accepts_of_candidate? {o : Origin} {r : RateRecord}
    (h : t.candidate? p now mode c o = some r) : p.Accepts mode r := by
  cases o with
  | first =>
    obtain ⟨e, -, -, ha, -⟩ := candidate?_first_eq_some_iff.1 h
    exact ha
  | cache => exact (candidate?_cache_eq_some_iff.1 h).2.1
  | store => exact (candidate?_store_eq_some_iff.1 h).2.1
  | source => exact (candidate?_source_eq_some_iff.1 h).2

theorem verdict_eq_found_iff {o : Origin} {r : RateRecord} :
    t.verdict p now mode c = .found o r ↔ t.candidate? p now mode c o = some r ∧
      ∀ o', o'.rank < o.rank → t.candidate? p now mode c o' = none := by
  simp only [Origin.forall_iff, verdict, candidate?]
  cases (t.lookFirst p now mode c).hit? with
  | some s => cases o <;> simp [Origin.rank]
  | none =>
    cases (t.lookCache p now mode c).hit? with
    | some s => cases o <;> simp [Origin.rank]
    | none =>
      cases (t.lookStore p now mode c).hit? with
      | some s => cases o <;> simp [Origin.rank]
      | none =>
        cases t.live now c with
        | error e => cases o <;> simp [Origin.rank]
        | ok s => by_cases ha : p.Accepts mode s <;> cases o <;> simp [Origin.rank, ha]

theorem candidate?_of_verdict {o : Origin} {r : RateRecord}
    (h : t.verdict p now mode c = .found o r) : t.candidate? p now mode c o = some r :=
  (verdict_eq_found_iff.1 h).1

theorem first_rateOf {o : Origin} {r : RateRecord} (hc : c ≠ .usd)
    (hv : t.verdict p now mode c = .found o r) (ht : r.target = c) :
    ∃ e, (t.rateOf p now mode c).2.first.get? c = some e ∧ e.record = r := by
  have hfill : (FirstTier.cache t.first r now).get? c = some ⟨r, now⟩ := by
    rw [FirstTier.get?_cache, if_pos ht.symm]
  rw [rateOf_eq hc, hv, after_first]
  cases o with
  | first =>
    obtain ⟨e, he, hr, -⟩ := candidate?_first_eq_some_iff.1 (candidate?_of_verdict hv)
    exact ⟨e, he, hr⟩
  | cache => exact ⟨_, hfill, rfl⟩
  | store => exact ⟨_, hfill, rfl⟩
  | source => exact ⟨_, hfill, rfl⟩

theorem live_of_refused {r : RateRecord} (h : t.verdict p now mode c = .refused r) :
    t.live now c = .ok r ∧ ¬ p.Accepts mode r := by
  rw [verdict] at h
  split at h
  · simp at h
  · simp at h
  · simp at h
  · next s _ _ _ hl =>
    split at h
    · simp at h
    · next ha =>
      obtain rfl := Verdict.refused.inj h
      exact ⟨hl, ha⟩
  · simp at h

theorem live_of_failed {cause : SourceError} (h : t.verdict p now mode c = .failed cause) :
    t.live now c = .error cause ∧ (t.lookStore p now mode c).hit? = none := by
  rw [verdict] at h
  split at h
  · simp at h
  · simp at h
  · simp at h
  · split at h <;> simp at h
  · next cause' _ _ hs hl =>
    obtain rfl := Verdict.failed.inj h
    exact ⟨hl, hs⟩

theorem exists_found_of_candidate? {o : Origin} {r : RateRecord}
    (h : t.candidate? p now mode c o = some r) :
    ∃ o' r', t.verdict p now mode c = .found o' r' := by
  by_cases hn : ∀ o', o'.rank < o.rank → t.candidate? p now mode c o' = none
  · exact ⟨o, r, verdict_eq_found_iff.2 ⟨h, hn⟩⟩
  · simp only [Classical.not_forall] at hn
    obtain ⟨o', ho, hs⟩ := hn
    obtain ⟨s, hs⟩ := Option.ne_none_iff_exists'.1 hs
    exact exists_found_of_candidate? hs
termination_by o.rank

section Record

omit [LiveSource π]

variable {code provider : String} {rate : Decimal} {r : RateRecord}

theorem record_of_not_notes (h : ∀ r : RateRecord, ¬ r.Notes code rate provider now) :
    ∃ e, t.record now code rate provider = (.error (.invalid e), t) := by
  rw [record]
  cases hmake : CurrencyCode.parse code >>= fun c ↦ RateRecord.make c rate provider now with
  | error e => exact ⟨e, rfl⟩
  | ok r => exact absurd (RateRecord.notes_of_make hmake) (h r)

theorem record_of_refused {e : StoreError} (h : r.Notes code rate provider now)
    (hput : (RateStore.put t.store r).1 = .error e) :
    t.record now code rate provider = (.error (.store e), t.persist r) := by
  rw [record, h.make]
  simp only [hput]
  rfl

theorem record_of_taken (h : r.Notes code rate provider now)
    (hput : (RateStore.put t.store r).1 = .ok ()) :
    t.record now code rate provider = (.ok r, (t.persist r).fill now r) := by
  rw [record, h.make]
  simp only [hput]
  rfl

theorem record_eq_ok_iff : (t.record now code rate provider).1 = .ok r ↔
    r.Notes code rate provider now ∧ (RateStore.put t.store r).1 = .ok () := by
  constructor
  · intro h
    by_cases hnotes : ∃ r : RateRecord, r.Notes code rate provider now
    · obtain ⟨r', hr'⟩ := hnotes
      cases hput : (RateStore.put t.store r').1 with
      | error e =>
        rw [record_of_refused hr' hput] at h
        exact nomatch h
      | ok u =>
        rw [record_of_taken hr' hput] at h
        obtain rfl := Except.ok.inj h
        exact ⟨hr', hput⟩
    · obtain ⟨e, he⟩ := record_of_not_notes (t := t) (not_exists.1 hnotes)
      rw [he] at h
      exact nomatch h
  · rintro ⟨hnotes, hput⟩
    rw [record_of_taken hnotes hput]

theorem record_cases (t : Tiers κ σ π) (now : Instant) (code : String) (rate : Decimal)
    (provider : String) :
    (∃ e, t.record now code rate provider = (.error (.invalid e), t)) ∨
    (∃ r e, (RateStore.put t.store r).1 = .error e ∧
      t.record now code rate provider = (.error (.store e), t.persist r)) ∨
    ∃ r, r.capturedAt = now ∧ (RateStore.put t.store r).1 = .ok () ∧
      t.record now code rate provider = (.ok r, (t.persist r).fill now r) := by
  by_cases hnotes : ∃ r : RateRecord, r.Notes code rate provider now
  · obtain ⟨r, hr⟩ := hnotes
    cases hput : (RateStore.put t.store r).1 with
    | error e => exact .inr (.inl ⟨r, e, hput, record_of_refused hr hput⟩)
    | ok u => exact .inr (.inr ⟨r, hr.capturedAt, hput, record_of_taken hr hput⟩)
  · exact .inl (record_of_not_notes (not_exists.1 hnotes))

end Record

end Tiers

end TieredRates
