import TieredRates.Proofs.Resolution.Mirror
import TieredRates.Proofs.Resolution.Strict
import TieredRates.Proofs.Session.Answer
import TieredRates.Proofs.Session.Run

namespace TieredRates

/-- The step gets at the second tier behind its monitor. -/
def Step.Tampers : Step → Prop
  | .removeCache _ | .plantCache .. => True
  | _ => False

def Answer.undated : Answer → Answer
  | record r => record r.undated
  | record? r? => record? (r?.map (·.undated))
  | records rs => records (rs.map (·.undated))
  | lookup l => lookup l.undated
  | cached? e? => cached? (e?.map Cached.undated)
  | a => a

namespace Session

def persisted? (s : Session) : Step → Option RateRecord
  | .putStore r => if s.tiers.store.down.puts then none else some r
  | .record code rate provider =>
    if s.tiers.store.down.puts then none
    else (CurrencyCode.parse code >>= fun c ↦ RateRecord.make c rate provider s.now).toOption
  | a => a.question?.bind fun q ↦ s.tiers.persisted? s.policy s.now q.1 q.2

structure Mirrors (K : Instant → Cache → Cache → Prop) (S : Store → Store → Prop) (s s' : Session) :
    Prop where
  policy : s.policy = s'.policy
  now : s.now = s'.now
  tiers : s.tiers.Mirrors (K s.now) S s'.tiers

/-- What the relations need of a step: nobody gets at the second tier behind its monitor, the
relations outlast it, and what it puts into the store has the property. -/
structure Fits (K : Instant → Cache → Cache → Prop) (S : Store → Store → Prop)
    (P : RateRecord → Prop) (s : Session) (a : Step) : Prop where
  tampers : ¬ a.Tampers
  clock : ∀ k k', K s.now k k' → K (s.step a).2.now k k'
  row : ∀ key row, a = .writeRow key row → ∀ x x', S x x' →
    (x.writeRow key row).2 = (x'.writeRow key row).2 ∧
      S (x.writeRow key row).1 (x'.writeRow key row).1
  put : ∀ r, s.persisted? a = some r → P r

def Agree (K : Instant → Cache → Cache → Prop) (S : Store → Store → Prop)
    (done done' : Except StepError Answer × Session) : Prop :=
  done.1.map Answer.undated = done'.1.map Answer.undated ∧ done.2.Mirrors K S done'.2

variable {K : Instant → Cache → Cache → Prop} {S : Store → Store → Prop} {P : RateRecord → Prop}
variable {s s' : Session} {a : Step} {as : List Step}

theorem persisted?_of_asks (h : a.Asks) :
    s.persisted? a = a.question?.bind fun q ↦ s.tiers.persisted? s.policy s.now q.1 q.2 := by
  cases a with
  | resolve | convert | list | request => rfl
  | _ => exact h.elim

theorem Mirrors.proceed (h : s.Mirrors K S s') {t t' : ServiceTiers}
    (ht : t.Mirrors (K s.now) S t') {b b' : Answer} (hb : b.undated = b'.undated) :
    Agree K S (s.proceed t b) (s'.proceed t' b') :=
  ⟨congrArg Except.ok hb, h.policy, h.now, ht⟩

theorem Mirrors.finish {ε α : Type} (h : s.Mirrors K S s') {answer : α → Answer}
    {fault : ε → StepError} {done done' : Except ε α × ServiceTiers}
    (hdone : done.1.map (fun x ↦ (answer x).undated) = done'.1.map fun x ↦ (answer x).undated)
    (ht : done.2.Mirrors (K s.now) S done'.2) :
    Agree K S (s.finish answer fault done) (s'.finish answer fault done') := by
  refine ⟨?_, h.policy, h.now, ht⟩
  have hmap (x : Except ε α) : ((x.map answer).mapError fault).map Answer.undated =
      (x.map fun x ↦ (answer x).undated).mapError fault := by
    cases x <;> rfl
  exact (hmap done.1).trans ((congrArg (Except.mapError fault) hdone).trans (hmap done'.1).symm)

theorem Mirrors.setProviders (h : s.Mirrors K S s') (f : Provider → Provider) :
    Agree K S (s.setProviders f) (s'.setProviders f) := by
  have hsource := congrArg (fun m : Monitored Registry ↦
    { m with inner := (⟨m.inner.providers.map f⟩ : Registry) }) h.tiers.source
  have ht : (s.setProviders f).2.tiers.Mirrors (K s.now) S (s'.setProviders f).2.tiers :=
    { h.tiers with source := hsource }
  exact h.proceed ht rfl

theorem map_undated {ε α : Type} {x y : Except ε α} {f : α → α} {answer : α → Answer}
    (h : x.map f = y.map f) (hanswer : ∀ a, (answer a).undated = answer (f a)) :
    x.map (fun a ↦ (answer a).undated) = y.map fun a ↦ (answer a).undated := by
  have hmap (z : Except ε α) : z.map (fun a ↦ (answer a).undated) = (z.map f).map answer := by
    cases z with
    | error e => rfl
    | ok a => exact congrArg Except.ok (hanswer a)
  rw [hmap, hmap, h]

section Mirroring

variable (hK : ∀ now, Cache.Mirroring now (K now)) (hS : Store.Mirroring P S)

include hK hS

theorem Mirrors.check (h : s.Mirrors K S s') (mode : Mode) (c : CurrencyCode) (time : Instant)
    (tier : TierName) :
    (s.check mode c time tier).1.undated = (s'.check mode c time tier).1.undated ∧
      (s.check mode c time tier).2.Mirrors (K s.now) S (s'.check mode c time tier).2 := by
  cases tier with
  | first =>
    refine ⟨?_, h.tiers⟩
    simp only [Session.check, ← h.policy, ← Lookup.inFirst_undated, ← FirstTier.get?_undated,
      h.tiers.first]
  | cache =>
    have hget := h.tiers.cache.getCache (hK s.now) c
    simp only [Session.check, ← h.policy, ← h.now, ← Lookup.inCache_undated, hget.1, true_and]
    exact { h.tiers with cache := hget.2 }
  | store =>
    have hget := h.tiers.store.getStore hS c
    refine ⟨?_, { h.tiers with store := hget.2 }⟩
    simp only [Session.check, ← h.policy, ← Lookup.inStore_undated, hget.1]

theorem Mirrors.step_of_asks (h : s.Mirrors K S s') (ha : a.Asks)
    (hput : ∀ r, s.persisted? a = some r → P r) : Agree K S (s.step a) (s'.step a) := by
  have hrate mode c (hq : a.question? = some (mode, c)) :=
    h.tiers.rateOf (hK s.now) hS s.policy mode c fun r hr ↦
      hput r (by rw [persisted?_of_asks ha, hq]; exact hr)
  have hanswer : (s.step a).1 = (s'.step a).1 :=
    step_congr ha h.policy h.now (fun mode c hq ↦ (hrate mode c hq).1)
      fun _ ↦ (h.tiers.rates hS).1
  refine ⟨congrArg _ hanswer, ?_, ?_, ?_⟩
  · rw [step_policy, step_policy]
    exact h.policy
  · rw [step_now_of_asks ha, step_now_of_asks ha]
    exact h.now
  · rw [step_now_of_asks ha]
    exact step_rel (R := Tiers.Mirrors (K s.now) S) ha h.policy h.now h.tiers
      (fun mode c hq ↦ (hrate mode c hq).2) (h.tiers.rates hS).2

theorem Mirrors.step (h : s.Mirrors K S s') (ha : s.Fits K S P a) :
    Agree K S (s.step a) (s'.step a) := by
  cases a with
  | resolve | convert | list | request => exact h.step_of_asks hK hS trivial ha.put
  | advance span =>
    have hnow : s.now.plus span = s'.now.plus span := congrArg (·.plus span) h.now
    refine ⟨congrArg (fun t ↦ Except.ok (Answer.time t)) hnow, h.policy, hnow, ?_⟩
    have hcache := h.tiers.cache
    exact { h.tiers with cache := { hcache with inner := ha.clock _ _ hcache.inner } }
  | record code rate provider =>
    have hrecord := h.tiers.record (hK s.now) hS code rate provider
      fun r hup hr ↦ ha.put r (by simp only [persisted?, hup, hr]; rfl)
    simp only [Session.step, ← h.now]
    exact h.finish (congrArg _ hrecord.1) hrecord.2
  | check tier mode c time =>
    have hcheck := h.check hK hS mode c (time.getD s.now) tier
    simp only [Session.step, ← h.now]
    exact h.proceed hcheck.2 (congrArg Answer.lookup hcheck.1)
  | putFirst r cachedAt =>
    simp only [Session.step, ← h.now]
    exact h.proceed (h.tiers.fillFirst rfl _) rfl
  | removeCache c => exact (ha.tampers trivial).elim
  | plantCache key value => exact (ha.tampers trivial).elim
  | setRate name c rate => exact h.setProviders _
  | setRecord name r => exact h.setProviders _
  | setReply name reply => exact h.setProviders _
  | switchCache down =>
    refine ⟨rfl, h.policy, h.now, { h.tiers with cache := ?_ }⟩
    exact { h.tiers.cache with down := rfl }
  | switchStore down =>
    refine ⟨rfl, h.policy, h.now, { h.tiers with store := ?_ }⟩
    exact { h.tiers.store with down := rfl }
  | switchSource down =>
    simp only [Session.step, ← h.tiers.source]
    exact ⟨rfl, h.policy, h.now, { h.tiers with source := rfl }⟩
  | getFirst c =>
    refine h.proceed h.tiers ?_
    show Answer.cached? ((s.tiers.first.get? c).map Cached.undated) = _
    rw [← FirstTier.get?_undated, h.tiers.first, FirstTier.get?_undated]
    rfl
  | listFirst window time =>
    simp only [Session.step, ← h.now]
    refine h.proceed h.tiers ?_
    have hwithin := congrArg (FirstTier.recordsWithin · window (time.getD s.now)) h.tiers.first
    simp only [FirstTier.recordsWithin_undated] at hwithin
    have hcodes := congrArg (List.map (·.target)) hwithin
    rw [List.map_map, List.map_map] at hcodes
    exact congrArg Answer.codes hcodes
  | clearFirst => exact ⟨rfl, h.policy, h.now, { h.tiers with first := rfl }⟩
  | putCache r =>
    have hputCache := h.tiers.cache.putCache (hK s.now) (rfl : r.undated = r.undated)
    simp only [Session.step, ← h.now]
    exact h.finish (congrArg _ hputCache.1) { h.tiers with cache := hputCache.2 }
  | getCache c =>
    have hget := h.tiers.cache.getCache (hK s.now) c
    simp only [Session.step, ← h.now]
    exact h.finish (map_undated hget.1 fun _ ↦ rfl) { h.tiers with cache := hget.2 }
  | putStore r =>
    have hputStore := h.tiers.store.putStore hS (r := r)
      fun hup ↦ ha.put r (by simp only [persisted?, hup]; rfl)
    exact h.finish (congrArg _ hputStore.1) { h.tiers with store := hputStore.2 }
  | getStore c =>
    have hget := h.tiers.store.getStore hS c
    exact h.finish (map_undated hget.1 fun _ ↦ rfl) { h.tiers with store := hget.2 }
  | listStore =>
    have hlist := h.tiers.store.listStore hS
    exact h.finish (map_undated hlist.1 fun _ ↦ rfl) { h.tiers with store := hlist.2 }
  | writeRow key row =>
    obtain ⟨hwritten, hinner⟩ := ha.row key row rfl _ _ h.tiers.store.inner
    refine ⟨congrArg (fun n ↦ Except.ok (Answer.rowsWritten n)) hwritten, h.policy, h.now, ?_⟩
    exact { h.tiers with store := { h.tiers.store with inner := hinner } }
  | fetch c =>
    simp only [Session.step, ← h.tiers.source, ← h.now]
    exact h.finish rfl { h.tiers with source := rfl }
  | route c =>
    simp only [Session.step, ← h.tiers.source]
    exact h.proceed h.tiers rfl

theorem Mirrors.run (h : s.Mirrors K S s') (has : s.Along (Fits K S P) as) :
    (s.run as).1.map (Except.map Answer.undated) = (s'.run as).1.map (Except.map Answer.undated) ∧
      (s.run as).2.Mirrors K S (s'.run as).2 := by
  induction as generalizing s s' with
  | nil => exact ⟨rfl, h⟩
  | cons a as ih =>
    obtain ⟨hanswer, hstep⟩ := h.step hK hS has.1
    obtain ⟨hanswers, hrun⟩ := ih hstep has.2
    exact ⟨congrArg₂ List.cons hanswer hanswers, hrun⟩

end Mirroring

theorem Mirrors.calls (h : s.Mirrors K S s') : s.calls = s'.calls := by
  rw [Session.calls, Session.calls, h.tiers.store.gets, h.tiers.store.puts, h.tiers.store.lists,
    h.tiers.source, h.tiers.cache.gets, h.tiers.cache.puts]

section Start

variable (policy : Policy) (now : Instant) (seconds : Nat) (store : Store)
variable (providers : List Provider)

def startTimed : Session :=
  start policy now (.timed (.empty (Span.ofSeconds seconds))) store providers

def startRemote : Session :=
  start policy now (.remote (.empty (Span.ofSeconds seconds))) store providers

variable {seconds} in
theorem startTimed_mirrors (hseconds : 1 ≤ seconds) :
    (startTimed policy now seconds store providers).Mirrors Cache.Mirrors Eq
      (startRemote policy now seconds store providers) where
  policy := rfl
  now := rfl
  tiers := {
    first := rfl
    cache := ⟨Cache.mirrors_empty hseconds now, rfl, rfl, rfl, rfl⟩
    store := ⟨rfl, rfl, rfl, rfl, rfl⟩
    source := rfl }

theorem fits_mirrors {s : Session} {a : Step} (ha : ¬ a.Tampers)
    (hclock : s.now ≤ (s.step a).2.now) : s.Fits Cache.Mirrors Eq (fun _ ↦ True) a where
  tampers := ha
  clock _ _ h := h.mono hclock
  row _ _ _ _ _ h := h ▸ ⟨rfl, rfl⟩
  put _ _ := trivial

variable {policy now seconds store providers}

/-- It is nothing to a run which of the two caches is the second tier, if both keep records for as
many whole seconds: but for the days of quotations every step has the same answer, and the first
tier, the store and the numbers of requests are the same. -/
theorem run_interchange (hseconds : 1 ≤ seconds) (has : ∀ a ∈ as, ¬ a.Tampers)
    (hclock : (startTimed policy now seconds store providers).Along
      (fun s a ↦ s.now ≤ (s.step a).2.now) as) :
    ((startTimed policy now seconds store providers).run as).1.map (Except.map Answer.undated) =
      ((startRemote policy now seconds store providers).run as).1.map
        (Except.map Answer.undated) ∧
    ((startTimed policy now seconds store providers).run as).2.tiers.first.undated =
      ((startRemote policy now seconds store providers).run as).2.tiers.first.undated ∧
    ((startTimed policy now seconds store providers).run as).2.tiers.store.inner =
      ((startRemote policy now seconds store providers).run as).2.tiers.store.inner ∧
    ((startTimed policy now seconds store providers).run as).2.calls =
      ((startRemote policy now seconds store providers).run as).2.calls := by
  have hstart := startTimed_mirrors policy now store providers hseconds
  have hfits : (startTimed policy now seconds store providers).Along
      (Fits Cache.Mirrors Eq fun _ ↦ True) as :=
    Along.of_invariant (I := fun _ ↦ True) (fun _ _ _ _ ↦ trivial)
      (fun _ _ _ h ↦ fits_mirrors h.1 h.2) ((along_of_forall has).and hclock) trivial
  obtain ⟨hanswers, hrun⟩ := hstart.run Cache.mirroring_mirrors (Store.mirroring_eq _) hfits
  exact ⟨hanswers, hrun.tiers.first, hrun.tiers.store.inner, hrun.calls⟩

end Start

def datedRecord : RateRecord :=
  (wonRecord "bank" 350 (midnight 9)).withObservedOn (some (midnight 8).date)

def datedProviders : List Provider := [.canned "bank" (Table.insert ∅ won datedRecord)]

def datedSteps : List Step :=
  [.resolve .strict "KRW", .clearFirst, .advance (Span.ofSeconds 1), .resolve .nonStrict "KRW",
    .getFirst won, .getCache won, .advance (Span.ofSeconds 1), .getCache won]

theorem run_interchange_won :
    1 ≤ 2 ∧ (∀ a ∈ datedSteps, ¬ a.Tampers) ∧
      (startTimed bankPolicy (midnight 9) 2 (.table ∅) datedProviders).Along
        (fun s a ↦ s.now ≤ (s.step a).2.now) datedSteps ∧
      ((startRemote bankPolicy (midnight 9) 2 (.table ∅) datedProviders).run datedSteps).1.map
          (Except.map Answer.undated) =
        [.ok (.amount datedRecord.rate), .ok (.isEmpty true),
          .ok (.time ((midnight 9).plus (Span.ofSeconds 1))), .ok (.amount datedRecord.rate),
          .ok (.cached? (some ⟨datedRecord.undated, (midnight 9).plus (Span.ofSeconds 1)⟩)),
          .ok (.record? (some datedRecord.undated)),
          .ok (.time ((midnight 9).plus (Span.ofSeconds 2))), .ok (.record? none)] := by
  have has : ∀ a ∈ datedSteps, ¬ a.Tampers := by simp [datedSteps, Step.Tampers]
  have hclock : (startTimed bankPolicy (midnight 9) 2 (.table ∅) datedProviders).Along
      (fun s a ↦ s.now ≤ (s.step a).2.now) datedSteps := by
    refine ⟨?_, ?_, ?_, ?_, ?_, ?_, ?_, ?_, trivial⟩
    all_goals decide +kernel
  refine ⟨by decide, has, hclock, ?_⟩
  rw [← (run_interchange (by decide) has hclock).1]
  decide +kernel

end Session

end TieredRates
