import TieredRates.Proofs.Calendar.Instant
import TieredRates.Proofs.Record
import TieredRates.Session

namespace TieredRates.Session

theorem run_append (s : Session) (as bs : List Step) :
    (s.run (as ++ bs)).2 = ((s.run as).2.run bs).2 := by
  induction as generalizing s with
  | nil => rfl
  | cons a as ih => exact ih (s.step a).2

@[simp] theorem step_policy (s : Session) (a : Step) : (s.step a).2.policy = s.policy := by
  cases a <;> rfl

@[simp] theorem run_policy (s : Session) (as : List Step) : (s.run as).2.policy = s.policy := by
  induction as generalizing s with
  | nil => rfl
  | cons a as ih => exact (ih (s.step a).2).trans (s.step_policy a)

theorem step_now (s : Session) (a : Step) : (s.step a).2.now = match a with
    | .advance span => s.now.plus span
    | _ => s.now := by
  cases a <;> rfl

theorem finish_eq_ok {ε α : Type} {s : Session} {answer : α → Answer} {fault : ε → StepError}
    {done : Except ε α × ServiceTiers} {b : Answer} (h : (s.finish answer fault done).1 = .ok b) :
    ∃ x, done.1 = .ok x ∧ answer x = b := by
  have hmap : done.1.map answer = .ok b := mapError_eq_ok_iff.1 h
  cases hd : done.1 with
  | error e =>
    rw [hd] at hmap
    exact nomatch hmap
  | ok x =>
    rw [hd] at hmap
    exact ⟨x, rfl, Except.ok.inj hmap⟩

/-- A session with nothing in the first tier and every monitor on. -/
def start (policy : Policy) (now : Instant) (cache : Cache) (store : Store)
    (providers : List Provider) : Session where
  policy
  now
  tiers := {
    first := ∅
    cache := { inner := cache }
    store := { inner := store }
    source := { inner := ⟨providers⟩ } }

/-- A condition on every step of a run and the session that it meets. -/
def Along (P : Session → Step → Prop) : Session → List Step → Prop
  | _, [] => True
  | s, a :: as => P s a ∧ Along P (s.step a).2 as

variable {P Q : Session → Step → Prop} {s : Session} {as bs : List Step}

theorem along_append_iff : s.Along P (as ++ bs) ↔ s.Along P as ∧ (s.run as).2.Along P bs := by
  induction as generalizing s with
  | nil => simp [Along, run]
  | cons a as ih => exact (and_congr_right fun _ ↦ ih).trans and_assoc.symm

theorem along_of_forall {R : Step → Prop} (h : ∀ a ∈ as, R a) : s.Along (fun _ a ↦ R a) as := by
  induction as generalizing s with
  | nil => trivial
  | cons a as ih => exact ⟨h a (by simp), ih fun b hb ↦ h b (by simp [hb])⟩

theorem along_of_split (h : ∀ before a after, as = before ++ a :: after → P (s.run before).2 a) :
    s.Along P as := by
  induction as generalizing s with
  | nil => trivial
  | cons a as ih =>
    exact ⟨h [] a as rfl, ih fun before b after has ↦ h (a :: before) b after (has ▸ rfl)⟩

theorem Along.and (hp : s.Along P as) (hq : s.Along Q as) :
    s.Along (fun s a ↦ P s a ∧ Q s a) as := by
  induction as generalizing s with
  | nil => trivial
  | cons a as ih => exact ⟨⟨hp.1, hq.1⟩, ih hp.2 hq.2⟩

theorem Along.imp (h : s.Along P as) (himp : ∀ s a, P s a → Q s a) : s.Along Q as := by
  induction as generalizing s with
  | nil => trivial
  | cons a as ih => exact ⟨himp s a h.1, ih h.2⟩

theorem Along.of_invariant {I : Session → Prop}
    (hstep : ∀ s a, I s → P s a → I (s.step a).2) (hq : ∀ s a, I s → P s a → Q s a)
    (hp : s.Along P as) (h : I s) : s.Along Q as := by
  induction as generalizing s with
  | nil => trivial
  | cons a as ih => exact ⟨hq s a h hp.1, ih hp.2 (hstep s a h hp.1)⟩

theorem run_invariant {I : Session → Prop} (hstep : ∀ s a, I s → P s a → I (s.step a).2)
    (hp : s.Along P as) (h : I s) : I (s.run as).2 := by
  induction as generalizing s with
  | nil => exact h
  | cons a as ih => exact ih hp.2 (hstep s a h hp.1)

theorem now_le_run (h : s.Along (fun s a ↦ s.now ≤ (s.step a).2.now) as) :
    s.now ≤ (s.run as).2.now := by
  induction as generalizing s with
  | nil => exact Instant.le_refl s.now
  | cons a as ih => exact Instant.le_trans h.1 (ih h.2)

theorem sharesLeap_run {t : Instant} (h : t.SharesLeap s.now) (as : List Step) :
    t.SharesLeap (s.run as).2.now := by
  induction as generalizing s with
  | nil => exact h
  | cons a as ih =>
    refine ih ?_
    rw [step_now]
    split
    · exact h.plus _
    · exact h

theorem since_le_of_run {w : Int} {cs : List Step} (hw : 0 ≤ w) (hsplit : cs = as ++ bs)
    (hclock : s.Along (fun s a ↦ s.now ≤ (s.step a).2.now) cs)
    (h : (s.run cs).2.now ≤ s.now.plus w) : (s.run as).2.now.since s.now ≤ w := by
  subst hsplit
  obtain ⟨has, hbs⟩ := along_append_iff.1 hclock
  rw [run_append] at h
  exact Instant.since_le_of_le_plus hw (now_le_run has) (Instant.le_trans (now_le_run hbs) h)
    (sharesLeap_run (.refl s.now) as)

end TieredRates.Session
