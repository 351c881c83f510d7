import TieredRates.Proofs.Cache.Mirror
import TieredRates.Proofs.Http.Response
import TieredRates.Proofs.Resolution.Verdict
import TieredRates.Proofs.Store.Mirror

namespace TieredRates

def Cached.undated (e : Cached) : Cached := { e with record := e.record.undated }

namespace FirstTier

def undated (t : FirstTier) : FirstTier := Table.mapValues t Cached.undated

theorem get?_undated (t : FirstTier) (c : CurrencyCode) :
    t.undated.get? c = (t.get? c).map Cached.undated :=
  t.get?_mapValues Cached.undated c

theorem undated_cache (t : FirstTier) (r : RateRecord) (now : Instant) :
    (t.cache r now).undated = t.undated.cache r.undated now :=
  t.mapValues_insert Cached.undated r.target ⟨r, now⟩

theorem recordsWithin_undated (t : FirstTier) (window : Int) (now : Instant) :
    t.undated.recordsWithin window now = (t.recordsWithin window now).map (·.undated) := by
  have hvalues : Table.values t.undated = (Table.values t).map Cached.undated :=
    t.values_mapValues Cached.undated
  rw [recordsWithin, recordsWithin, hvalues, List.filter_map, List.map_map, List.map_map]
  rfl

end FirstTier

namespace Lookup

def undated : Lookup → Lookup
  | hit r => hit r.undated
  | untrusted r => untrusted r.undated
  | stale r => stale r.undated
  | miss => miss

variable {p : Policy} {mode : Mode} {now : Instant}

theorem judge_undated (fresh : Bool) (r : RateRecord) :
    judge p mode fresh r.undated = (judge p mode fresh r).undated := by
  by_cases ha : p.Accepts mode r
  · have ha' : p.Accepts mode r.undated := ha
    rw [judge, judge, if_pos ha, if_pos ha']
    cases fresh <;> rfl
  · have ha' : ¬ p.Accepts mode r.undated := ha
    rw [judge, judge, if_neg ha, if_neg ha']
    rfl

theorem inFirst_undated (e? : Option Cached) :
    inFirst p mode now (e?.map Cached.undated) = (inFirst p mode now e?).undated := by
  cases e? with
  | none => rfl
  | some e =>
    by_cases hw : e.Within p.l1Window now
    · have hw' : e.undated.Within p.l1Window now := hw
      simp only [Option.map_some, inFirst, if_pos hw, if_pos hw']
      exact judge_undated true e.record
    · have hw' : ¬ e.undated.Within p.l1Window now := hw
      simp only [Option.map_some, inFirst, if_neg hw, if_neg hw']
      rfl

theorem inCache_undated (got : Except CacheError (Option RateRecord)) :
    inCache p mode now (got.map (Option.map (·.undated))) = (inCache p mode now got).undated := by
  rcases got with e | _ | r
  · rfl
  · rfl
  · by_cases hf : r.FreshWithin p.syncInterval now
    · have hf' : r.undated.FreshWithin p.syncInterval now := hf
      simp only [Except.map, Option.map_some, inCache, if_pos hf, if_pos hf']
      exact judge_undated true r
    · have hf' : ¬ r.undated.FreshWithin p.syncInterval now := hf
      simp only [Except.map, Option.map_some, inCache, if_neg hf, if_neg hf']
      rfl

theorem inStore_undated (got : Except StoreError (Option RateRecord)) :
    inStore p mode now (got.map (Option.map (·.undated))) = (inStore p mode now got).undated := by
  rcases got with e | _ | r
  · rfl
  · rfl
  · exact judge_undated (r.FreshWithin p.syncInterval now) r

theorem hit?_undated (l : Lookup) : l.undated.hit? = l.hit?.map (·.undated) := by
  cases l <;> rfl

theorem untrusted?_undated (l : Lookup) : l.undated.untrusted? = l.untrusted?.map (·.undated) := by
  cases l <;> rfl

end Lookup

/-- The same verdict, but for the day of a record that is found. -/
inductive Verdict.Alike : Verdict → Verdict → Prop
  | found {o : Origin} {r r' : RateRecord} (hr : r.undated = r'.undated) :
      Alike (.found o r) (.found o r')
  | refused (r : RateRecord) : Alike (.refused r) (.refused r)
  | failed (e : SourceError) : Alike (.failed e) (.failed e)

theorem Verdict.Alike.refl (v : Verdict) : v.Alike v := by
  cases v with
  | found o r => exact .found rfl
  | refused r => exact .refused r
  | failed e => exact .failed e

theorem RateRecord.undated_cases {x y : Option RateRecord}
    (h : x.map (·.undated) = y.map (·.undated)) :
    (x = none ∧ y = none) ∨ ∃ r r', x = some r ∧ y = some r' ∧ r.undated = r'.undated := by
  cases x with
  | none => exact .inl ⟨rfl, Option.map_eq_none_iff.1 h.symm⟩
  | some r =>
    obtain ⟨r', hy, hr⟩ := Option.map_eq_some_iff.1 h.symm
    exact .inr ⟨r, r', rfl, hy, hr.symm⟩

theorem Policy.degrade_undated (p : Policy) (mode : Mode) (c : CurrencyCode) (stored : Lookup)
    (seen : Option RateRecord) (e : SourceError) :
    p.degrade mode c stored.undated (seen.map (·.undated)) e = p.degrade mode c stored seen e := by
  cases mode with
  | nonStrict => cases stored <;> rfl
  | strict => cases stored <;> cases seen <;> rfl

namespace Tiers

/-- The tiers are the same, but for the days of quotations in the first, and what is behind the
monitors of the second and the store is related. -/
structure Mirrors (K : Cache → Cache → Prop) (S : Store → Store → Prop) (t t' : ServiceTiers) :
    Prop where
  first : t.first.undated = t'.first.undated
  cache : t.cache.Mirrors K t'.cache
  store : t.store.Mirrors S t'.store
  source : t.source = t'.source

/-- The live record that a question puts into the store, if the store takes it. -/
def persisted? (t : ServiceTiers) (p : Policy) (now : Instant) (mode : Mode) (c : CurrencyCode) :
    Option RateRecord :=
  if c = .usd ∨ t.store.down.puts = true then none
  else match t.verdict p now mode c with
    | .found .source r => if p.Trusts r then some r else none
    | _ => none

variable {K : Cache → Cache → Prop} {S : Store → Store → Prop} {P : RateRecord → Prop}
variable {t t' : ServiceTiers} {p : Policy} {now : Instant} {mode : Mode} {c : CurrencyCode}
variable {r r' : RateRecord}

theorem persisted?_of_verdict (hc : c ≠ .usd) (hup : t.store.down.puts = false)
    (hv : t.verdict p now mode c = .found .source r) (hr : p.Trusts r) :
    t.persisted? p now mode c = some r := by
  simp [persisted?, hc, hup, hv, hr]

theorem Mirrors.fillFirst (h : t.Mirrors K S t') (hr : r.undated = r'.undated) (at_ : Instant) :
    (t.fillFirst at_ r).Mirrors K S (t'.fillFirst at_ r') where
  __ := h
  first := by
    show (FirstTier.cache t.first r at_).undated = (FirstTier.cache t'.first r' at_).undated
    rw [FirstTier.undated_cache, FirstTier.undated_cache, h.first, hr]

theorem Mirrors.lookFirst (h : t.Mirrors K S t') :
    (t.lookFirst p now mode c).undated = (t'.lookFirst p now mode c).undated := by
  rw [Tiers.lookFirst, Tiers.lookFirst, ← Lookup.inFirst_undated, ← Lookup.inFirst_undated,
    ← FirstTier.get?_undated, ← FirstTier.get?_undated, h.first]

theorem Mirrors.live (h : t.Mirrors K S t') : t.live now c = t'.live now c := by
  rw [Tiers.live, Tiers.live, h.source]

section Cache

variable (hK : Cache.Mirroring now K)

include hK

theorem Mirrors.askCache (h : t.Mirrors K S t') :
    (t.askCache now c).Mirrors K S (t'.askCache now c) :=
  { h with cache := (h.cache.getCache hK c).2 }

theorem Mirrors.fill (h : t.Mirrors K S t') (hr : r.undated = r'.undated) :
    (t.fill now r).Mirrors K S (t'.fill now r') := by
  have hcache : (t.fillCache now r).Mirrors K S (t'.fillCache now r') :=
    { h with cache := (h.cache.putCache hK hr).2 }
  exact hcache.fillFirst hr now

theorem Mirrors.lookCache (h : t.Mirrors K S t') :
    (t.lookCache p now mode c).undated = (t'.lookCache p now mode c).undated := by
  rw [Tiers.lookCache, Tiers.lookCache, ← Lookup.inCache_undated, ← Lookup.inCache_undated,
    (h.cache.getCache hK c).1]

theorem Mirrors.seen (h : t.Mirrors K S t') :
    (t.seen p now mode c).map (·.undated) = (t'.seen p now mode c).map (·.undated) := by
  simp only [Tiers.seen, Option.orElse_eq_orElse, Option.orElse_eq_or, Option.map_or,
    ← Lookup.untrusted?_undated, h.lookFirst, h.lookCache hK]

end Cache

section Store

variable (hS : Store.Mirroring P S)

include hS

theorem Mirrors.persist (h : t.Mirrors K S t') (hr : t.store.down.puts = false → P r) :
    (t.persist r).Mirrors K S (t'.persist r) :=
  { h with store := (h.store.putStore hS hr).2 }

theorem Mirrors.lookStore (h : t.Mirrors K S t') :
    (t.lookStore p now mode c).undated = (t'.lookStore p now mode c).undated := by
  rw [Tiers.lookStore, Tiers.lookStore, ← Lookup.inStore_undated, ← Lookup.inStore_undated,
    (h.store.getStore hS c).1]

theorem Mirrors.rates (h : t.Mirrors K S t') :
    (t.rates p now).1 = (t'.rates p now).1 ∧ (t.rates p now).2.Mirrors K S (t'.rates p now).2 := by
  obtain ⟨hlist, hstore⟩ := h.store.listStore hS
  have hpairs (rs : List RateRecord) :
      (rs.map (·.undated)).map (fun r ↦ (r.target, r.rate)) = rs.map fun r ↦ (r.target, r.rate) :=
    List.map_map
  have hcached (stored : Table CurrencyCode Decimal) :
      (FirstTier.recordsWithin t.first p.l1Window now).foldl
          (fun rates r ↦ rates.insertNew r.target r.rate) stored =
        (FirstTier.recordsWithin t'.first p.l1Window now).foldl
          (fun rates r ↦ rates.insertNew r.target r.rate) stored := by
    have hwithin := congrArg (FirstTier.recordsWithin · p.l1Window now) h.first
    simp only [FirstTier.recordsWithin_undated] at hwithin
    have hfold := congrArg (List.foldl
      (fun rates (r : RateRecord) ↦ rates.insertNew r.target r.rate) stored) hwithin
    rw [List.foldl_map, List.foldl_map] at hfold
    exact hfold
  refine ⟨?_, { h with store := hstore }⟩
  rw [Tiers.rates, Tiers.rates]
  simp only [hcached]
  generalize (RateStore.list t.store).1 = x, (RateStore.list t'.store).1 = y at hlist ⊢
  cases x with
  | error e =>
    cases y with
    | error e' => rfl
    | ok rs' => exact nomatch hlist
  | ok rs =>
    cases y with
    | error e' => exact nomatch hlist
    | ok rs' =>
      simp only
      rw [← hpairs rs, Except.ok.inj hlist, hpairs]

end Store

section Both

variable (hK : Cache.Mirroring now K) (hS : Store.Mirroring P S)

include hK hS

theorem Mirrors.askStore (h : t.Mirrors K S t') :
    (t.askStore now c).Mirrors K S (t'.askStore now c) :=
  { h.askCache hK with store := (h.store.getStore hS c).2 }

theorem Mirrors.askSource (h : t.Mirrors K S t') :
    (t.askSource now c).Mirrors K S (t'.askSource now c) :=
  { h.askStore hK hS with source := congrArg (fun m ↦ (LiveSource.fetch m now c).2) h.source }

theorem Mirrors.verdict (h : t.Mirrors K S t') :
    (t.verdict p now mode c).Alike (t'.verdict p now mode c) := by
  have hhit {l l' : Lookup} (hl : l.undated = l'.undated) :
      l.hit?.map (·.undated) = l'.hit?.map (·.undated) := by
    rw [← Lookup.hit?_undated, hl, Lookup.hit?_undated]
  rw [Tiers.verdict, Tiers.verdict, h.live]
  rcases RateRecord.undated_cases (hhit h.lookFirst) with ⟨hx, hx'⟩ | ⟨r, r', hx, hx', hr⟩
  · rcases RateRecord.undated_cases (hhit (h.lookCache hK)) with
      ⟨hy, hy'⟩ | ⟨r, r', hy, hy', hr⟩
    · rcases RateRecord.undated_cases (hhit (h.lookStore hS)) with
        ⟨hz, hz'⟩ | ⟨r, r', hz, hz', hr⟩
      · rw [hx, hx', hy, hy', hz, hz']
        exact .refl _
      · rw [hx, hx', hy, hy', hz, hz']
        exact .found hr
    · rw [hx, hx', hy, hy']
      exact .found hr
  · rw [hx, hx']
    exact .found hr

theorem Mirrors.answer (h : t.Mirrors K S t') {v v' : Verdict} (hv : v.Alike v') :
    t.answer p now mode c v = t'.answer p now mode c v' := by
  cases hv with
  | @found o r r' hr =>
    have hrate : r.rate = r'.rate := congrArg (·.rate) hr
    exact congrArg Except.ok hrate
  | refused r => rfl
  | failed e =>
    show p.degrade mode c (t.lookStore p now mode c) (t.seen p now mode c) e =
      p.degrade mode c (t'.lookStore p now mode c) (t'.seen p now mode c) e
    rw [← p.degrade_undated, h.lookStore hS, h.seen hK, p.degrade_undated]

theorem Mirrors.after (h : t.Mirrors K S t') (hc : c ≠ .usd)
    (hput : ∀ r, t.persisted? p now mode c = some r → P r) :
    (t.after p now c (t.verdict p now mode c)).Mirrors K S
      (t'.after p now c (t'.verdict p now mode c)) := by
  have halike : (t.verdict p now mode c).Alike (t'.verdict p now mode c) := h.verdict hK hS
  generalize hv : t.verdict p now mode c = v, hv' : t'.verdict p now mode c = v' at halike ⊢
  cases halike with
  | refused r => exact h.askSource hK hS
  | failed e => exact h.askSource hK hS
  | @found o r r' hr =>
    cases o with
    | first => exact h
    | cache => exact (h.askCache hK).fillFirst hr now
    | store => exact (h.askStore hK hS).fill hK hr
    | source =>
      -- the store may take a live record, day and all, and both sources give the same one
      have hlive := (candidate?_source_eq_some_iff.1 (candidate?_of_verdict hv)).1
      have hlive' := (candidate?_source_eq_some_iff.1 (candidate?_of_verdict hv')).1
      obtain rfl : r = r' := Except.ok.inj (hlive.symm.trans (h.live.trans hlive'))
      have hask := h.askSource hK hS (c := c)
      have hdown : (t.askSource now c).store.down = t.store.down :=
        Monitored.down_pass t.store.countGet _ _ _
      simp only [Tiers.after]
      split
      · next hr =>
        have hP : (t.askSource now c).store.down.puts = false → P r :=
          fun hup ↦ hput r (persisted?_of_verdict hc (hdown ▸ hup) hv hr)
        exact (hask.persist hS hP).fill hK rfl
      · exact hask.fill hK rfl

theorem Mirrors.rateOf (h : t.Mirrors K S t') (p : Policy) (mode : Mode) (c : CurrencyCode)
    (hput : ∀ r, t.persisted? p now mode c = some r → P r) :
    (t.rateOf p now mode c).1 = (t'.rateOf p now mode c).1 ∧
      (t.rateOf p now mode c).2.Mirrors K S (t'.rateOf p now mode c).2 := by
  by_cases hc : c = .usd
  · rw [hc, rateOf_usd, rateOf_usd]
    exact ⟨rfl, h⟩
  · rw [rateOf_eq hc, rateOf_eq hc]
    exact ⟨h.answer hK hS (h.verdict hK hS), h.after hK hS hc hput⟩

theorem Mirrors.record (h : t.Mirrors K S t') (code : String) (rate : Decimal) (provider : String)
    (hput : ∀ r, t.store.down.puts = false →
      (CurrencyCode.parse code >>= fun c ↦ RateRecord.make c rate provider now) = .ok r → P r) :
    (t.record now code rate provider).1 = (t'.record now code rate provider).1 ∧
      (t.record now code rate provider).2.Mirrors K S (t'.record now code rate provider).2 := by
  rw [Tiers.record, Tiers.record]
  cases hmake : CurrencyCode.parse code >>= fun c ↦ RateRecord.make c rate provider now with
  | error e => exact ⟨rfl, h⟩
  | ok r =>
    have hr : t.store.down.puts = false → P r := fun hup ↦ hput r hup hmake
    simp only [(h.store.putStore hS hr).1]
    cases (RateStore.put t'.store r).1 with
    | error e => exact ⟨rfl, h.persist hS hr⟩
    | ok _ => exact ⟨rfl, (h.persist hS hr).fill hK rfl⟩

end Both

end Tiers

end TieredRates
