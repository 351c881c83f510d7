import TieredRates.Proofs.Resolution.Recall
import TieredRates.Proofs.Session.Run

namespace TieredRates

/-- The step gives a new record for the currency, or writes one into a tier past the resolver. -/
def Step.Rewrites (c : CurrencyCode) : Step → Prop
  | .record code .. => CurrencyCode.parse? code = some c
  | .putFirst r _ | .putCache r | .putStore r => r.target = c
  | .plantCache key _ => key = c.cacheKey
  | .writeRow key _ => key = .of c
  | _ => False

/-- From this step on the store cannot be read. -/
def Step.HidesStore : Step → Prop
  | .switchStore down => down.gets = true
  | _ => False

namespace Store

variable {s : Store} {c : CurrencyCode} {key : RowKey} {row : Row}

theorem record?_writeRow_of_ne (h : key ≠ .of c) :
    (s.writeRow key row).1.record? c = s.record? c := by
  cases s with
  | table t => rfl
  | rows s =>
    have hget : RowStore.get ⟨s.rows.insert key row⟩ c = s.get c := by
      rw [RowStore.get, RowStore.get, Table.get?_insert_of_ne _ (Ne.symm h)]
    simp only [record?, RateStore.get, writeRow, hget]

theorem Keyed.writeRow (h : s.Keyed) (key : RowKey) (row : Row) : (s.writeRow key row).1.Keyed := by
  cases s with
  | table t => exact h
  | rows s => exact keyed_rows _

end Store

namespace Session

variable {s : Session} {a : Step} {as : List Step} {mode : Mode} {c : CurrencyCode} {r : RateRecord}

theorem step_keyed (h : s.tiers.Keyed) (a : Step) : (s.step a).2.tiers.Keyed := by
  cases hq : a.question? with
  | some q =>
    rw [step_tiers_of_question hq]
    exact h.rateOf
  | none =>
    cases a with
    | resolve | convert | list | request =>
      rcases step_tiers_of_none hq trivial with ht | ht
      · rw [ht]
        exact h
      · rw [ht]
        exact h.of_store ((Monitored.inner_listStore s.tiers.store).symm ▸ h.store)
    | record code rate provider => exact h.record s.now code rate provider
    | check tier mode c time =>
      cases tier with
      | first => exact h
      | cache => exact h.askCache s.now c
      | store => exact h.of_store ((Monitored.inner_getStore s.tiers.store c).symm ▸ h.store)
    | putFirst r cachedAt => exact h.fillFirst _ r
    | clearFirst => exact { h with first := fun c e he ↦ absurd he (by simp [step, proceed]) }
    | putCache r => exact h.fillCache s.now r
    | getCache c => exact h.askCache s.now c
    | removeCache c => exact h.of_cache (h.cache.remove c)
    | plantCache key value => exact h.of_cache (h.cache.plant key value)
    | putStore r => exact h.persist r
    | getStore c => exact h.of_store ((Monitored.inner_getStore s.tiers.store c).symm ▸ h.store)
    | listStore => exact h.of_store ((Monitored.inner_listStore s.tiers.store).symm ▸ h.store)
    | writeRow key row => exact h.of_store (h.store.writeRow key row)
    | fetch | setRate | setRecord | setReply =>
      exact { h with source := step_every Provider.stable_keyed h.source _ }
    | switchCache | switchStore | switchSource => exact { h with }
    | advance | getFirst | listFirst | route => exact h

theorem run_keyed (h : s.tiers.Keyed) (as : List Step) : (s.run as).2.tiers.Keyed := by
  induction as generalizing s with
  | nil => exact h
  | cons a as ih => exact ih (step_keyed h a)

theorem step_sameFor (hk : s.tiers.Keyed) (ha : ¬ a.Rewrites c) (hup : ¬ a.HidesStore)
    (hclear : a ≠ .clearFirst) (hother : ∀ mode, a.question? ≠ some (mode, c)) :
    Tiers.SameFor s.now c s.tiers (s.step a).2.tiers := by
  have hsame := Tiers.SameFor.refl s.now c s.tiers
  cases hq : a.question? with
  | some q =>
    rw [step_tiers_of_question hq]
    exact .rateOf hk fun hc ↦ hother q.1 (hc ▸ hq)
  | none =>
    cases a with
    | resolve | convert | list | request =>
      rcases step_tiers_of_none hq trivial with ht | ht
      · rw [ht]
        exact hsame
      · rw [ht]
        exact hsame.listStore
    | record code rate provider => exact .record ha
    | check tier mode d time =>
      cases tier with
      | first => exact hsame
      | cache => exact hsame.askCache d
      | store => exact hsame.getStore d
    | putFirst r cachedAt => exact .of_slice (Tiers.slice_fillFirst_of_ne ha)
    | clearFirst => exact absurd rfl hclear
    | putCache r => exact .of_slice (Tiers.slice_fillCache_of_ne ha)
    | getCache d => exact hsame.askCache d
    | removeCache d => exact hsame.of_cache fun later _ r hr ↦ Cache.get_of_get_remove hr
    | plantCache key value =>
      refine hsame.of_cache fun later _ r hr ↦ ?_
      exact Cache.get_plant_of_ne (Ne.symm ha) ▸ hr
    | putStore r => exact .of_slice (Tiers.slice_persist_of_ne ha)
    | getStore d => exact hsame.getStore d
    | listStore => exact hsame.listStore
    | writeRow key row => exact hsame.of_store (Store.record?_writeRow_of_ne ha) rfl
    | switchStore down => exact { hsame with storeUp := fun _ ↦ Bool.eq_false_iff.2 hup }
    | switchCache | switchSource | fetch | setRate | setRecord | setReply => exact { hsame with }
    | advance | getFirst | listFirst | route => exact hsame

theorem step_resolve_of_verdict {spelling : String} {o : Origin}
    (hspelling : CurrencyCode.parse spelling = .ok c) (hc : c ≠ .usd)
    (hv : s.tiers.verdict s.policy s.now mode c = .found o r) :
    (s.step (.resolve mode spelling)).1 = .ok (.amount r.rate) := by
  rw [step, Tiers.resolve_eq_rateOf hspelling, Tiers.rateOf_eq hc, hv]
  rfl

theorem step_recalls {Left Old : RateRecord → Prop} (h : s.tiers.Recalls s.now r Left Old)
    (hopen : s.policy.authority? r.target = none) (ha : ¬ a.Rewrites r.target)
    (hup : ¬ a.HidesStore) (hclock : s.now ≤ (s.step a).2.now)
    (hfresh : r.FreshWithin s.policy.syncInterval s.now)
    (hold : ∀ mode r', Left r' →
      s.tiers.verdict s.policy s.now mode r.target = .found .cache r' → Old r') :
    (s.step a).2.tiers.Recalls (s.step a).2.now r Left Old := by
  have hkeyed := step_keyed h.keyed a
  refine Tiers.Recalls.mono ?_ hclock
  by_cases hclear : a = .clearFirst
  · subst hclear
    exact { h with keyed := hkeyed, first := fun e he ↦ absurd he (by simp [step, proceed]) }
  by_cases hq : ∃ mode, a.question? = some (mode, r.target)
  · obtain ⟨mode, hq⟩ := hq
    rw [step_tiers_of_question hq]
    exact h.rateOf hopen hfresh (hold mode)
  · exact h.of_sameFor hkeyed (step_sameFor h.keyed ha hup hclear fun mode hm ↦ hq ⟨mode, hm⟩)

theorem step_entry {e : Cached} (hk : s.tiers.Keyed) (hc : c ≠ .usd)
    (he : s.tiers.first.get? c = some e) (haccepts : ∀ mode, s.policy.Accepts mode e.record)
    (hwithin : e.Within s.policy.l1Window s.now) (ha : ¬ a.Rewrites c)
    (hup : ¬ a.HidesStore) (hclear : a ≠ .clearFirst) :
    (s.step a).2.tiers.first.get? c = some e := by
  by_cases hq : ∃ mode, a.question? = some (mode, c)
  · obtain ⟨mode, hq⟩ := hq
    rw [step_tiers_of_question hq, Tiers.rateOf_eq hc,
      Tiers.verdict_of_first he (haccepts mode) hwithin]
    exact he
  · have hsame := step_sameFor hk ha hup hclear fun mode hm ↦ hq ⟨mode, hm⟩
    exact hsame.first.trans he

theorem run_entry {e : Cached} (hk : s.tiers.Keyed) (hc : c ≠ .usd)
    (he : s.tiers.first.get? c = some e) (haccepts : ∀ mode, s.policy.Accepts mode e.record)
    (has : ∀ a ∈ as, ¬ a.Rewrites c ∧ ¬ a.HidesStore ∧ a ≠ .clearFirst)
    (hwithin : s.Along (fun σ _ ↦ e.Within s.policy.l1Window σ.now) as) :
    (s.run as).2.tiers.first.get? c = some e := by
  have hrun := run_invariant
    (I := fun σ ↦ σ.policy = s.policy ∧ σ.tiers.Keyed ∧ σ.tiers.first.get? c = some e)
    (fun σ a ⟨hp, hk, he⟩ ⟨⟨ha, hup, hclear⟩, hw⟩ ↦
      ⟨(σ.step_policy a).trans hp, step_keyed hk a,
        step_entry hk hc he (hp ▸ haccepts) (hp ▸ hw) ha hup hclear⟩)
    ((along_of_forall has).and hwithin) ⟨rfl, hk, he⟩
  exact hrun.2.2

theorem run_recalls {Left Old : RateRecord → Prop} (h : s.tiers.Recalls s.now r Left Old)
    (hopen : s.policy.authority? r.target = none)
    (has : ∀ a ∈ as, ¬ a.Rewrites r.target ∧ ¬ a.HidesStore)
    (hclock : s.Along (fun s a ↦ s.now ≤ (s.step a).2.now) as)
    (hfresh : s.Along (fun σ _ ↦ r.FreshWithin s.policy.syncInterval σ.now) as)
    (hold : ∀ before after, as = before ++ after → ∀ mode r', Left r' →
      (s.run before).2.tiers.verdict s.policy (s.run before).2.now mode r.target =
        .found .cache r' → Old r') :
    (s.run as).2.tiers.Recalls (s.run as).2.now r Left Old := by
  have hcached : s.Along (fun σ _ ↦ ∀ mode r', Left r' →
      σ.tiers.verdict s.policy σ.now mode r.target = .found .cache r' → Old r') as :=
    along_of_split fun before a after hsplit ↦ hold before (a :: after) hsplit
  have hrun := run_invariant
    (I := fun σ ↦ σ.policy = s.policy ∧ σ.tiers.Recalls σ.now r Left Old)
    (fun σ a ⟨hp, h⟩ ⟨⟨⟨ha, hup⟩, hclock⟩, hfresh, hold⟩ ↦
      ⟨(σ.step_policy a).trans hp,
        step_recalls h (hp ▸ hopen) ha hup hclock (hp ▸ hfresh) (hp ▸ hold)⟩)
    (((along_of_forall has).and hclock).and (hfresh.and hcached)) ⟨rfl, h⟩
  exact hrun.2

/-- The second tier takes nothing, and has a record of the currency. -/
def LeftBehind (s : Session) (c : CurrencyCode) (r : RateRecord) : Prop :=
  s.tiers.cache.down.puts = true ∧ (SharedCache.get s.tiers.cache.inner s.now c).1 = .ok (some r)

/-- A record that the second tier, which did not take the one of the step, had already. After more
steps it is given: the tier answers, the record is still young, and the new one is no longer in the
first tier, where its time is over or everything was dropped. -/
structure Resurfaces (s : Session) (a : Step) (as : List Step) (c : CurrencyCode)
    (r : RateRecord) : Prop where
  leftBehind : s.LeftBehind c r
  given : (SharedCache.get (s.run (a :: as)).2.tiers.cache (s.run (a :: as)).2.now c).1 =
    .ok (some r)
  fresh : r.FreshWithin s.policy.syncInterval (s.run (a :: as)).2.now
  first : 0 ≤ s.policy.l1Window →
    (s.run (a :: as)).2.now ≤ s.now.plus s.policy.l1Window → .clearFirst ∈ as

/-- The step has put a record of now into every tier that takes one. -/
structure Records (s : Session) (b : Step) (r : RateRecord) : Prop where
  capturedAt : r.capturedAt = s.now
  first : (s.step b).2.tiers.first.get? r.target = some ⟨r, s.now⟩
  recalls : ∀ Old, (s.step b).2.tiers.Recalls (s.step b).2.now r (s.LeftBehind r.target) Old

theorem records_of_ok {code provider : String} {rate : Decimal}
    (h : (s.step (.record code rate provider)).1 = .ok (.record r)) (hkeyed : s.tiers.Keyed)
    (hkeeps : s.tiers.store.inner.Keeps r) (hup : s.tiers.store.down.gets = false) :
    s.Records (.record code rate provider) r ∧ r.rate = rate := by
  obtain ⟨x, hx, hxr⟩ := finish_eq_ok h
  obtain rfl : x = r := by simpa using hxr
  have hnotes := (Tiers.record_eq_ok_iff.1 hx).1
  obtain ⟨htakes, htiers⟩ := Tiers.record_eq_of_ok hx
  have hstep : (s.step (.record code rate provider)).2.tiers =
      (s.tiers.persist x).fill s.now x := htiers
  refine ⟨⟨hnotes.capturedAt, ?_, fun Old ↦ ?_⟩, hnotes.rate⟩
  · rw [hstep]
    exact Tiers.first_fill
  · rw [hstep]
    exact Tiers.recalls_record hkeyed hup htakes hkeeps

section Recorded

variable {b : Step} {r' : RateRecord}
variable (h : s.Records b r) (hopen : s.policy.authority? r.target = none)
variable (has : ∀ a ∈ as, ¬ a.Rewrites r.target ∧ ¬ a.HidesStore)
variable (hclock : s.Along (fun s a ↦ s.now ≤ (s.step a).2.now) (b :: as))

include h hopen has hclock

theorem Records.resurfaces (hleft : s.LeftBehind r.target r')
    (hv : (s.run (b :: as)).2.tiers.verdict s.policy (s.run (b :: as)).2.now mode r.target =
      .found .cache r') : s.Resurfaces b as r.target r' := by
  obtain ⟨hgiven, -, hfresh⟩ :=
    Tiers.candidate?_cache_eq_some_iff.1 (Tiers.candidate?_of_verdict hv)
  refine ⟨hleft, hgiven, hfresh, fun hl1 hin ↦ Classical.byContradiction fun hclear ↦ ?_⟩
  -- otherwise the new record is still in the first tier, and that is asked first
  have haccepts : ∀ mode, s.policy.Accepts mode r := Policy.accepts_of_authority?_none hopen rfl
  have hwithin : (s.step b).2.Along (fun σ _ ↦
      Cached.Within ⟨r, s.now⟩ (s.step b).2.policy.l1Window σ.now) as := by
    refine along_of_split fun before a after hsplit ↦ ?_
    have hcons : b :: as = b :: before ++ a :: after := congrArg (b :: ·) hsplit
    have hsince : (s.run (b :: before)).2.now.since s.now ≤ s.policy.l1Window :=
      since_le_of_run hl1 hcons hclock hin
    rw [step_policy]
    exact hsince
  have hstays := run_entry (h.recalls fun _ ↦ True).keyed r.target_ne h.first
    (by rwa [step_policy])
    (fun a ha ↦ ⟨(has a ha).1, (has a ha).2, fun hc ↦ hclear (hc ▸ ha)⟩) hwithin
  have hend : (s.run (b :: as)).2.now.since s.now ≤ s.policy.l1Window :=
    since_le_of_run hl1 (List.append_nil (b :: as)).symm hclock hin
  have hverdict := Tiers.verdict_of_first hstays (haccepts mode) hend
  exact absurd (hverdict.symm.trans hv) (by simp)

variable (hsync : 0 ≤ s.policy.syncInterval)
variable (hsoon : (s.run (b :: as)).2.now ≤ s.now.plus s.policy.syncInterval)

include hsync hsoon

omit hopen has in
theorem Records.freshWithin {before after : List Step} (hsplit : as = before ++ after) :
    r.FreshWithin s.policy.syncInterval (s.run (b :: before)).2.now := by
  have hcons : b :: as = b :: before ++ after := congrArg (b :: ·) hsplit
  refine Int.max_le.2 ⟨hsync, ?_⟩
  rw [h.capturedAt]
  exact since_le_of_run hsync hcons hclock hsoon

theorem Records.run_recalls :
    (s.run (b :: as)).2.tiers.Recalls (s.run (b :: as)).2.now r (s.LeftBehind r.target)
      fun r' ↦ ∃ before after, as = before ++ after ∧ s.Resurfaces b before r.target r' := by
  have hpolicy := s.step_policy b
  show ((s.step b).2.run as).2.tiers.Recalls ((s.step b).2.run as).2.now r _ _
  refine Session.run_recalls (h.recalls _) (hpolicy ▸ hopen) has hclock.2 ?_ ?_
  · rw [hpolicy]
    exact along_of_split fun before a after hsplit ↦ h.freshWithin hclock hsync hsoon hsplit
  · rw [hpolicy]
    rintro before after rfl mode r' hleft hv
    refine ⟨before, after, rfl, h.resurfaces hopen (fun a ha ↦ has a (by simp [ha])) ?_ hleft hv⟩
    have hcons : b :: (before ++ after) = b :: before ++ after := rfl
    exact (along_append_iff.1 (hcons ▸ hclock)).1

end Recorded

/-- The clock does not go back with the step, and the program outlives it. -/
def Steady (s : Session) (a : Step) : Prop :=
  s.now ≤ (s.step a).2.now ∧ ¬ s.Aborts a

/-- For the length of the interval after a rate is recorded, its currency is answered with that
rate, whichever gets and puts of the second tier fail. The one exception is a record that the second
tier had before and could not replace. -/
theorem run_recording {code provider : String} {rate : Decimal}
    (hrecord : (s.step (.record code rate provider)).1 = .ok (.record r))
    (hopen : s.policy.authority? r.target = none) (hsync : 0 ≤ s.policy.syncInterval)
    (hkeyed : s.tiers.Keyed) (hkeeps : s.tiers.store.inner.Keeps r)
    (hup : s.tiers.store.down.gets = false)
    (has : ∀ a ∈ as, ¬ a.Rewrites r.target ∧ ¬ a.HidesStore)
    (hsoon : (s.run (.record code rate provider :: as)).2.now ≤ s.now.plus s.policy.syncInterval)
    {spelling : String} (hspelling : CurrencyCode.parse spelling = .ok r.target) {mode : Mode}
    (hsteady : s.Along Steady (.record code rate provider :: as ++ [.resolve mode spelling])) :
    ∃ x, ((s.run (.record code rate provider :: as)).2.step (.resolve mode spelling)).1 =
        .ok (.amount x) ∧
      (x = rate ∨ ∃ before after r', as = before ++ after ∧
        s.Resurfaces (.record code rate provider) before r.target r' ∧ x = r'.rate) := by
  obtain ⟨h, hrate⟩ := records_of_ok hrecord hkeyed hkeeps hup
  have hclock := (along_append_iff.1 hsteady).1.imp fun _ _ ↦ And.left
  generalize Step.record code rate provider = b at *
  have hend := h.run_recalls hopen has hclock hsync hsoon
  have hfresh := h.freshWithin hclock hsync hsoon (List.append_nil as).symm
  have hpolicy := s.run_policy (b :: as)
  obtain ⟨o, r', hv, hr⟩ := hend.found (hpolicy ▸ hopen) (hpolicy ▸ hfresh) mode
  refine ⟨r'.rate, step_resolve_of_verdict hspelling r.target_ne hv, ?_⟩
  have hagrees (hr : r'.Agrees r) : r'.rate = rate := hr.rate.trans hrate
  cases o with
  | first =>
    rcases hr with hr | ⟨before, after, hsplit, hold⟩
    · exact .inl (hagrees hr)
    · exact .inr ⟨before, after, r', hsplit, hold, rfl⟩
  | cache =>
    rcases hr with hr | hleft
    · exact .inl (hagrees hr)
    · rw [hpolicy] at hv
      exact .inr ⟨as, [], r', (List.append_nil as).symm, h.resurfaces hopen has hclock hleft hv, rfl⟩
  | store => exact .inl (hagrees hr)
  | source => exact hr.elim

def deskSession : Session :=
  start {} (midnight 9) (.timed (.empty (Span.ofSeconds 86400))) (.table ∅) []

def deskRecord (more : Nat) : RateRecord := wonRecord "desk" more (midnight 9)

def deskStep (more : Nat) : Step := .record "KRW" (deskRecord more).rate "desk"

def deskSteps : List Step :=
  [.removeCache won, .switchCache { puts := true }, .advance (Span.ofMillis 300001)]

theorem deskSession_keyed : deskSession.tiers.Keyed where
  first _ _ h := nomatch h
  cache _ _ h := nomatch h
  store _ _ h := nomatch h
  source _ h := nomatch h

theorem run_recording_won :
    ((deskSession.step (deskStep 300)).2.step (deskStep 400)).1 = .ok (.record (deskRecord 400)) ∧
      deskSession.policy.authority? won = none ∧ 0 ≤ deskSession.policy.syncInterval ∧
      (deskSession.step (deskStep 300)).2.tiers.Keyed ∧
      (∀ a ∈ deskSteps, ¬ a.Rewrites won ∧ ¬ a.HidesStore) ∧
      ((deskSession.step (deskStep 300)).2.run (deskStep 400 :: deskSteps)).2.now ≤
        (midnight 9).plus (Span.ofSeconds 86400) ∧
      (deskSession.step (deskStep 300)).2.Along Steady
        (deskStep 400 :: deskSteps ++ [.resolve .nonStrict "krw"]) ∧
      (((deskSession.step (deskStep 300)).2.run (deskStep 400 :: deskSteps)).2.step
        (.resolve .nonStrict "krw")).1 = .ok (.amount (deskRecord 400).rate) := by
  have hrecord : ((deskSession.step (deskStep 300)).2.step (deskStep 400)).1 =
      .ok (.record (deskRecord 400)) := by decide +kernel
  have hkeyed := step_keyed deskSession_keyed (deskStep 300)
  have has : ∀ a ∈ deskSteps, ¬ a.Rewrites won ∧ ¬ a.HidesStore := by
    simp [deskSteps, Step.Rewrites, Step.HidesStore]
  have hsoon : ((deskSession.step (deskStep 300)).2.run (deskStep 400 :: deskSteps)).2.now ≤
      (midnight 9).plus (Span.ofSeconds 86400) := by decide +kernel
  have hspelling : CurrencyCode.parse "krw" = .ok won := rfl
  have hsteady : (deskSession.step (deskStep 300)).2.Along Steady
      (deskStep 400 :: deskSteps ++ [.resolve .nonStrict "krw"]) := by
    refine ⟨⟨?_, ?_⟩, ⟨?_, ?_⟩, ⟨?_, ?_⟩, ⟨?_, ?_⟩, ⟨?_, ?_⟩, trivial⟩
    all_goals decide +kernel
  refine ⟨hrecord, rfl, by decide, hkeyed, has, hsoon, hsteady, ?_⟩
  obtain ⟨x, hx, rfl | ⟨_, _, _, -, hold, -⟩⟩ := run_recording hrecord rfl (by decide) hkeyed
    trivial rfl has hsoon hspelling hsteady
  · exact hx
  · exact absurd hold.leftBehind.1 (by decide +kernel)

structure Unheeded (s : Session) (r : RateRecord) (as : List Step) (x : Decimal) : Prop where
  recorded : (s.step (.record r.target.text r.rate r.provider)).1 = .ok (.record r)
  unrestricted : s.policy.authority? r.target = none
  storeUp : s.tiers.store.down = {}
  steps : ∀ a ∈ as, ¬ a.Rewrites r.target ∧ ∀ down, a ≠ .switchStore down
  clock : s.Along (fun s a ↦ s.now ≤ (s.step a).2.now)
    (.record r.target.text r.rate r.provider :: as)
  soon : (s.run (.record r.target.text r.rate r.provider :: as)).2.now ≤
    s.now.plus s.policy.syncInterval
  answer : ((s.run (.record r.target.text r.rate r.provider :: as)).2.step
    (.resolve .strict r.target.text)).1 = .ok (.amount x)
  ne : x ≠ r.rate

def lateSession : Session :=
  start {} (midnight 2932896) (.timed (.empty (Span.ofSeconds 86400))) (.rows ⟨∅⟩)
    [.fixed "bank" (Table.insert ∅ won (wonRecord "bank" 500 (midnight 9)).rate)]

/-- A second tier that is down while a rate is recorded, and then up again, answers with what it had
before. And rows do not give back a time after the year 9999, so that a rate recorded the next day
is lost with the first tier. -/
theorem deskSession_unheeded :
    (deskSession.run [deskStep 300, .switchCache .total]).2.Unheeded (deskRecord 400)
      [.switchCache {}, .advance (Span.ofMillis 300001)] (deskRecord 300).rate ∧
    (lateSession.run [.advance (Span.ofSeconds 86400), .switchCache .total]).2.Unheeded
      (wonRecord "desk" 400 (midnight 2932897)) [.advance (Span.ofMillis 300001)]
      (wonRecord "bank" 500 (midnight 9)).rate := by
  constructor
  · exact {
      recorded := by decide +kernel
      unrestricted := rfl
      storeUp := rfl
      steps := by simp [Step.Rewrites]
      clock := ⟨by decide +kernel, by decide +kernel, by decide +kernel, trivial⟩
      soon := by decide +kernel
      answer := by decide +kernel
      ne := by decide }
  · exact {
      recorded := by decide +kernel
      unrestricted := rfl
      storeUp := rfl
      steps := by simp [Step.Rewrites]
      clock := ⟨by decide +kernel, by decide +kernel, trivial⟩
      soon := by decide +kernel
      answer := by decide +kernel
      ne := by decide }

end Session

end TieredRates
