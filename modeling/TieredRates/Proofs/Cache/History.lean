import Mathlib.Data.List.Induction
import TieredRates.Proofs.Cache.Lookup
import TieredRates.Proofs.Resolution.Strict
import TieredRates.Proofs.Table

namespace TieredRates.TimedCache

inductive Act where
  | put (r : RateRecord)
  | get (c : CurrencyCode)
  | remove (c : CurrencyCode)
deriving DecidableEq

structure Call where
  time : Instant
  act : Act
deriving DecidableEq

namespace Call

def perform (t : TimedCache) (k : Call) : TimedCache :=
  match k.act with
  | .put r => (SharedCache.put t k.time r).2
  | .get c => (SharedCache.get t k.time c).2
  | .remove c => t.remove c

def changes (k : Call) : Bool :=
  match k.act with
  | .put _ | .remove _ => true
  | .get _ => false

def Touches (c : CurrencyCode) (k : Call) : Prop :=
  match k.act with
  | .put r => r.target = c
  | .get _ => False
  | .remove d => d = c

end Call

def after (lifetime : Int) (ks : List Call) : TimedCache := ks.foldl Call.perform (empty lifetime)

/-- The record was put at this time, and nothing was put or removed for its currency since. -/
def Standing (c : CurrencyCode) (ks : List Call) (time : Instant) (r : RateRecord) : Prop :=
  ∃ before later, ks = before ++ ⟨time, .put r⟩ :: later ∧ r.target = c ∧
    ∀ k ∈ later, ¬ k.Touches c

section Standing

variable {c : CurrencyCode} {ks ks' : List Call} {k : Call} {time : Instant} {r : RateRecord}

theorem not_standing_nil : ¬ Standing c [] time r := by
  rintro ⟨before, later, h, -⟩
  simp at h

theorem Standing.concat (h : Standing c ks time r) (hk : ¬ k.Touches c) :
    Standing c (ks ++ [k]) time r := by
  obtain ⟨before, later, rfl, hr, hlater⟩ := h
  refine ⟨before, later ++ [k], by simp, hr, ?_⟩
  intro j hj
  rcases List.mem_append.1 hj with hj | hj
  · exact hlater j hj
  · exact List.mem_singleton.1 hj ▸ hk

theorem standing_concat_iff : Standing c (ks ++ [k]) time r ↔
    k = ⟨time, .put r⟩ ∧ r.target = c ∨ ¬ k.Touches c ∧ Standing c ks time r := by
  constructor
  · rintro ⟨before, later, h, hr, hlater⟩
    rcases List.eq_nil_or_concat later with rfl | ⟨later, j, rfl⟩
    · obtain ⟨-, hk⟩ := List.append_inj' h rfl
      exact .inl ⟨List.singleton_inj.1 hk, hr⟩
    · rw [List.concat_eq_append] at h hlater
      have hsplit : ks ++ [k] = (before ++ ⟨time, .put r⟩ :: later) ++ [j] := by simpa using h
      obtain ⟨hks, hk⟩ := List.append_inj' hsplit rfl
      obtain rfl := List.singleton_inj.1 hk
      have hold : ∀ i ∈ later, ¬ i.Touches c := fun i hi ↦ hlater i (List.mem_append_left _ hi)
      have hlast : k ∈ later ++ [k] := List.mem_append_right _ (List.mem_singleton.2 rfl)
      exact .inr ⟨hlater k hlast, before, later, hks, hr, hold⟩
  · rintro (⟨rfl, hr⟩ | ⟨hk, h⟩)
    · exact ⟨ks, [], rfl, hr, fun j hj ↦ absurd hj List.not_mem_nil⟩
    · exact h.concat hk

theorem Standing.mem (h : Standing c ks time r) : ⟨time, .put r⟩ ∈ ks := by
  obtain ⟨before, later, rfl, -⟩ := h
  simp

theorem standing_concat_get (hk : k.changes = false) :
    Standing c (ks ++ [k]) time r ↔ Standing c ks time r := by
  obtain ⟨u, act⟩ := k
  cases act with
  | put r' => nomatch hk
  | remove d => nomatch hk
  | get d => simp [standing_concat_iff, Call.Touches]

theorem standing_filter_changes :
    Standing c (ks.filter Call.changes) time r ↔ Standing c ks time r := by
  induction ks using List.reverseRecOn with
  | nil => rfl
  | append_singleton ks k ih =>
    rw [List.filter_append]
    cases hk : k.changes with
    | true => rw [List.filter_cons_of_pos hk, List.filter_nil, standing_concat_iff,
        standing_concat_iff, ih]
    | false => rw [List.filter_cons_of_neg (by simp [hk]), List.filter_nil, List.append_nil, ih,
        standing_concat_get hk]

end Standing

section Reflects

variable {t : TimedCache} {ks : List Call} {k : Call} {now later : Instant} {c d : CurrencyCode}
variable {time : Instant} {r : RateRecord} {e : Expiring}

/-- The entries are those of records that stand, and none is missing that has not expired. -/
structure Reflects (t : TimedCache) (ks : List Call) (now : Instant) : Prop where
  entry : ∀ {c e}, t.entries.get? c = some e →
    ∃ time, Standing c ks time e.record ∧ e.expiresAt = time.plus t.lifetime
  kept : ∀ {c time r}, Standing c ks time r → now < time.plus t.lifetime →
    t.entries.get? c = some ⟨r, time.plus t.lifetime⟩

theorem get?_get (t : TimedCache) (now : Instant) (c d : CurrencyCode) :
    (SharedCache.get t now c).2.entries.get? d = t.entries.get? d ∨
      (SharedCache.get t now c).2.entries.get? d = none ∧
        ∃ e, t.entries.get? d = some e ∧ e.expiresAt ≤ now := by
  rcases t.get_snd now c with h | h
  · exact .inl (by rw [h])
  · rw [h]
    exact get?_evict

theorem get?_get_of_live (he : t.entries.get? d = some e) (hlive : now < e.expiresAt) :
    (SharedCache.get t now c).2.entries.get? d = some e := by
  rcases t.get?_get now c d with h | ⟨-, e', he', hexpired⟩
  · rw [h, he]
  · obtain rfl := Option.some.inj (he.symm.trans he')
    exact absurd hlive hexpired

theorem lifetime_perform (t : TimedCache) (k : Call) : (k.perform t).lifetime = t.lifetime := by
  rw [Call.perform]
  split
  · rfl
  · rcases t.get_snd k.time ‹_› with h | h
    · rw [h]
    · rw [h]
      exact lifetime_evict
  · rfl

theorem Reflects.put (h : t.Reflects ks now) (hnow : now ≤ time) (r : RateRecord) :
    (SharedCache.put t time r).2.Reflects (ks ++ [⟨time, .put r⟩]) time where
  entry := by
    intro c e he
    have hget : (t.put time r).entries.get? c = some e := he
    rw [TimedCache.put, Table.get?_insert] at hget
    split at hget
    · next hc =>
      obtain rfl := Option.some.inj hget
      exact ⟨time, standing_concat_iff.2 (.inl ⟨rfl, hc.symm⟩), rfl⟩
    · next hc =>
      obtain ⟨u, hu, hexpiry⟩ := h.entry hget
      exact ⟨u, hu.concat (Ne.symm hc), hexpiry⟩
  kept := by
    intro c u r' hu hlive
    show (t.put time r).entries.get? c = _
    rw [TimedCache.put, Table.get?_insert]
    rcases standing_concat_iff.1 hu with ⟨hcall, hr⟩ | ⟨hc, hu⟩
    · obtain ⟨rfl, hact⟩ := Call.mk.inj hcall
      obtain rfl := Act.put.inj hact
      exact if_pos hr.symm
    · rw [if_neg (Ne.symm hc)]
      exact h.kept hu (Instant.lt_of_le_of_lt hnow hlive)

theorem Reflects.remove (h : t.Reflects ks now) (hnow : now ≤ time) (d : CurrencyCode) :
    (t.remove d).Reflects (ks ++ [⟨time, .remove d⟩]) time where
  entry := by
    intro c e he
    rw [TimedCache.remove, Table.get?_erase] at he
    split at he
    · nomatch he
    · next hc =>
      obtain ⟨u, hu, hexpiry⟩ := h.entry he
      exact ⟨u, hu.concat (Ne.symm hc), hexpiry⟩
  kept := by
    intro c u r' hu hlive
    rcases standing_concat_iff.1 hu with ⟨hcall, -⟩ | ⟨hc, hu⟩
    · nomatch (Call.mk.inj hcall).2
    · rw [TimedCache.remove, Table.get?_erase, if_neg (Ne.symm hc)]
      exact h.kept hu (Instant.lt_of_le_of_lt hnow hlive)

theorem Reflects.get (h : t.Reflects ks now) (hnow : now ≤ time) (d : CurrencyCode) :
    (SharedCache.get t time d).2.Reflects (ks ++ [⟨time, .get d⟩]) time where
  entry := by
    intro c e he
    rcases t.get?_get time d c with hsame | ⟨hnone, -⟩
    · obtain ⟨u, hu, hexpiry⟩ := h.entry (hsame.symm.trans he)
      have hlifetime := lifetime_perform t ⟨time, .get d⟩
      exact ⟨u, hu.concat id, hexpiry.trans (congrArg u.plus hlifetime.symm)⟩
    · nomatch hnone.symm.trans he
  kept := by
    -- a record that is still live is none of those that the lookup may drop
    intro c u r' hu hlive
    have hlifetime : (SharedCache.get t time d).2.lifetime = t.lifetime :=
      lifetime_perform t ⟨time, .get d⟩
    rw [hlifetime] at hlive ⊢
    rcases standing_concat_iff.1 hu with ⟨hcall, -⟩ | ⟨-, hu⟩
    · nomatch (Call.mk.inj hcall).2
    · exact get?_get_of_live (h.kept hu (Instant.lt_of_le_of_lt hnow hlive)) hlive

theorem Reflects.perform (h : t.Reflects ks now) (hnow : now ≤ k.time) :
    (k.perform t).Reflects (ks ++ [k]) k.time := by
  obtain ⟨time, act⟩ := k
  cases act with
  | put r => exact h.put hnow r
  | get d => exact h.get hnow d
  | remove d => exact h.remove hnow d

theorem Reflects.of_le (h : t.Reflects ks now) (hlater : now ≤ later) : t.Reflects ks later :=
  ⟨h.entry, fun hstanding hlive ↦ h.kept hstanding (Instant.lt_of_le_of_lt hlater hlive)⟩

theorem Reflects.live?_eq_some_iff (h : t.Reflects ks now) :
    t.live? now c = some r ↔ ∃ time, Standing c ks time r ∧ now < time.plus t.lifetime := by
  rw [live?]
  constructor
  · intro hlive
    split at hlive
    · next e he =>
      obtain ⟨hexpiry, hrecord⟩ := Option.ite_none_right_eq_some.1 hlive
      obtain rfl := Option.some.inj hrecord
      obtain ⟨time, htime, heq⟩ := h.entry he
      exact ⟨time, htime, heq ▸ hexpiry⟩
    · simp at hlive
  · rintro ⟨time, htime, hlive⟩
    rw [h.kept htime hlive]
    exact if_pos hlive

end Reflects

section After

variable {lifetime : Int} {ks ks' : List Call} {k : Call} {now : Instant} {c : CurrencyCode}

/-- No call is earlier than one before it, and none is later than now. -/
def InOrder (ks : List Call) (now : Instant) : Prop :=
  (ks.map (·.time) ++ [now]).Pairwise (· ≤ ·)

instance (ks : List Call) (now : Instant) : Decidable (InOrder ks now) :=
  inferInstanceAs (Decidable (List.Pairwise _ _))

theorem after_concat (lifetime : Int) (ks : List Call) (k : Call) :
    after lifetime (ks ++ [k]) = k.perform (after lifetime ks) := by
  rw [after, List.foldl_append]
  rfl

theorem InOrder.of_concat (h : InOrder (ks ++ [k]) now) : InOrder ks k.time ∧ k.time ≤ now := by
  rw [InOrder, List.map_append, List.pairwise_append] at h
  exact ⟨h.1, h.2.2 k.time (by simp) now (by simp)⟩

theorem InOrder.sublist (h : InOrder ks now) (hs : ks'.Sublist ks) : InOrder ks' now :=
  List.Pairwise.sublist ((hs.map _).append_right _) h

theorem lifetime_after (lifetime : Int) (ks : List Call) :
    (after lifetime ks).lifetime = lifetime := by
  induction ks using List.reverseRecOn with
  | nil => rfl
  | append_singleton ks k ih => rw [after_concat, lifetime_perform, ih]

theorem reflects_after (lifetime : Int) (h : InOrder ks now) :
    (after lifetime ks).Reflects ks now := by
  induction ks using List.reverseRecOn generalizing now with
  | nil => exact ⟨nofun, fun hstanding ↦ absurd hstanding not_standing_nil⟩
  | append_singleton ks k ih =>
    -- the cache reflects the earlier calls at the time of the last one, which may drop entries
    obtain ⟨hks, hk⟩ := h.of_concat
    rw [after_concat]
    exact ((ih hks).perform (Instant.le_refl k.time)).of_le hk

theorem Reflects.target {t : TimedCache} {e : Expiring} (h : t.Reflects ks now)
    (he : t.entries.get? c = some e) : e.record.target = c := by
  obtain ⟨time, ⟨_, _, -, htarget, -⟩, -⟩ := h.entry he
  exact htarget

theorem Reflects.target_of_mem {t : TimedCache} {e : CurrencyCode × Expiring}
    (h : t.Reflects ks now) (he : e ∈ t.entries.entries) : e.2.record.target = e.1 :=
  h.target (Table.get?_eq_some_iff.2 he)

theorem Reflects.nodup_targets {t : TimedCache} (h : t.Reflects ks now) :
    (t.entries.values.map (·.record.target)).Nodup := by
  have hkeys : t.entries.values.map (·.record.target) = t.entries.keys := by
    rw [Table.values, Table.keys, List.map_map]
    exact List.map_congr_left fun e he ↦ h.target_of_mem he
  rw [hkeys]
  exact t.entries.nodup_keys

/-- After any calls a lookup gives the record that was put last for its currency and not removed
since, if its lifetime is not over, and nothing otherwise. The lookups among the calls make no
difference, and there is one entry for a currency at most. -/
theorem get_standing (lifetime : Int) (ks : List Call) (now : Instant) (horder : InOrder ks now)
    (hrange : ∀ k ∈ ks, ∀ r, k.act = .put r → k.time.plus? lifetime ≠ none) :
    (∀ c, ∃ found, (SharedCache.get (after lifetime ks) now c).1 = .ok found ∧
      ∀ r, found = some r ↔ ∃ time expiry, Standing c ks time r ∧
        time.plus? lifetime = some expiry ∧ now < expiry) ∧
    (∀ ks' c, ks'.Sublist ks → ks'.filter Call.changes = ks.filter Call.changes →
      (SharedCache.get (after lifetime ks') now c).1 =
        (SharedCache.get (after lifetime ks) now c).1) ∧
    (∀ c d e, (after lifetime ks).entries.get? d = some e → now < e.expiresAt →
      (SharedCache.get (after lifetime ks) now c).2.entries.get? d = some e) ∧
    (∀ e ∈ (after lifetime ks).entries.entries, e.2.record.target = e.1) ∧
    ((after lifetime ks).entries.values.map (·.record.target)).Nodup := by
  have hreflects := reflects_after lifetime horder
  refine ⟨?_, ?_, fun c d e ↦ get?_get_of_live, fun e ↦ hreflects.target_of_mem,
    hreflects.nodup_targets⟩
  · intro c
    refine ⟨_, get_fst _ now c, fun r ↦ ?_⟩
    rw [hreflects.live?_eq_some_iff, lifetime_after]
    refine exists_congr fun time ↦ ?_
    constructor
    · rintro ⟨hstanding, hlive⟩
      obtain ⟨expiry, hexpiry, hlt⟩ := (Instant.lt_plus_iff (hrange _ hstanding.mem r rfl)).1 hlive
      exact ⟨expiry, hstanding, hexpiry, hlt⟩
    · rintro ⟨expiry, hstanding, hexpiry, hlt⟩
      have hlive := (Instant.lt_plus_iff (hrange _ hstanding.mem r rfl)).2 ⟨expiry, hexpiry, hlt⟩
      exact ⟨hstanding, hlive⟩
  · intro ks' c hs hchanges
    -- what stands does not depend on lookups, and a lookup gives nothing else
    have hreflects' := reflects_after lifetime (horder.sublist hs)
    rw [get_fst, get_fst]
    refine congrArg Except.ok (Option.ext fun r ↦ ?_)
    rw [hreflects'.live?_eq_some_iff, hreflects.live?_eq_some_iff, lifetime_after, lifetime_after]
    refine exists_congr fun time ↦ and_congr_left fun _ ↦ ?_
    rw [← standing_filter_changes, hchanges, standing_filter_changes]

def deskCalls : List Call :=
  [⟨midnight 9, .put (wonRecord "bank" 300 (midnight 9))⟩,
    ⟨(midnight 9).plus (Span.ofSeconds 60), .get won⟩,
    ⟨(midnight 9).plus (Span.ofSeconds 60), .put (wonRecord "desk" 400 (midnight 9))⟩,
    ⟨(midnight 9).plus (Span.ofSeconds 90), .remove .usd⟩]

theorem get_standing_desk :
    InOrder deskCalls ((midnight 9).plus 119999999999) ∧
      (∀ k ∈ deskCalls, ∀ r, k.act = .put r → k.time.plus? (Span.ofSeconds 60) ≠ none) ∧
      (SharedCache.get (after (Span.ofSeconds 60) (deskCalls.filter Call.changes))
        ((midnight 9).plus 119999999999) won).1 =
          .ok (some (wonRecord "desk" 400 (midnight 9))) := by
  have horder : InOrder deskCalls ((midnight 9).plus 119999999999) := by decide +kernel
  have hall : ∀ k ∈ deskCalls, k.time.plus? (Span.ofSeconds 60) ≠ none := by decide +kernel
  have hrange : ∀ k ∈ deskCalls, ∀ r, k.act = .put r →
      k.time.plus? (Span.ofSeconds 60) ≠ none := fun k hk _ _ ↦ hall k hk
  have hstanding : Standing won deskCalls ((midnight 9).plus (Span.ofSeconds 60))
      (wonRecord "desk" 400 (midnight 9)) := by
    refine ⟨deskCalls.take 2, deskCalls.drop 3, rfl, rfl, ?_⟩
    intro k hk
    obtain rfl := List.mem_singleton.1 hk
    exact fun h : CurrencyCode.usd = won ↦ absurd h (by decide)
  obtain ⟨hfound, hleave, -⟩ :=
    get_standing (Span.ofSeconds 60) deskCalls ((midnight 9).plus 119999999999) horder hrange
  obtain ⟨found, hget, hiff⟩ := hfound won
  refine ⟨horder, hrange, ?_⟩
  rw [hleave _ won List.filter_sublist (by simp), hget]
  exact congrArg Except.ok ((hiff _).2 ⟨_, _, hstanding, rfl, by decide +kernel⟩)

end After

end TieredRates.TimedCache
