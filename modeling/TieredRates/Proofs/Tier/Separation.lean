import TieredRates.Proofs.Cache.Laws
import TieredRates.Proofs.Store.Rows
import TieredRates.Proofs.Table
import TieredRates.Proofs.Tier.Monitor

namespace TieredRates

namespace Cache

/-- The commands that have been sent are left out, whatever they were about. -/
noncomputable def slice (c : CurrencyCode) : Cache → Cache
  | table t => table (t.only id c)
  | timed t => timed { t with entries := t.entries.only id c }
  | remote k => remote { k with
      server := Table.only CurrencyCode.cacheKey c k.server, commands := [] }

variable {k : Cache} {now : Instant} {c d : CurrencyCode} {r : RateRecord}

theorem slice_slice (k : Cache) (c : CurrencyCode) : (k.slice c).slice c = k.slice c := by
  cases k <;> simp only [slice, Table.only_only]

theorem slice_get_of_ne (hd : d ≠ c) : (SharedCache.get k now d).2.slice c = k.slice c := by
  cases k with
  | table t => rfl
  | remote k => rfl
  | timed t =>
    rcases (get_timed t now d).2 with hget | hget
    · rw [hget]
    · have herase : (t.entries.erase d).only id c = t.entries.only id c :=
        t.entries.only_erase_of_ne id hd
      rw [hget, TimedCache.evict]
      split
      · split
        · simp only [slice, herase]
        · rfl
      · rfl

@[simp] theorem put_answer (k : Cache) (now : Instant) (r : RateRecord) :
    (SharedCache.put k now r).1 = .ok () := by
  cases k <;> rfl

theorem slice_put_of_ne (hr : r.target ≠ c) : (SharedCache.put k now r).2.slice c = k.slice c := by
  cases k with
  | table t => exact congrArg table (t.only_insert_of_ne id hr r)
  | timed t =>
    have hinsert (e : Expiring) : (t.entries.insert r.target e).only id c = t.entries.only id c :=
      t.entries.only_insert_of_ne id hr e
    simp only [SharedCache.put, TimedCache.put, slice, hinsert]
  | remote k =>
    simp only [SharedCache.put, RemoteCache.put, KeyValueServer.setFor, slice,
      Table.only_insert_of_ne CurrencyCode.cacheKey k.server hr]

theorem get_slice : (SharedCache.get (k.slice c) now c).1 = (SharedCache.get k now c).1 := by
  have hid : ∀ d, c = id d → d = c := fun d ↦ Eq.symm
  cases k with
  | table t => exact congrArg Except.ok (t.get?_only id c hid)
  | timed t =>
    rw [slice, (get_timed _ now c).1, (get_timed t now c).1, TimedCache.live?, TimedCache.live?,
      Table.get?_only id c _ hid]
  | remote k =>
    have hkey : ∀ d, c.cacheKey = CurrencyCode.cacheKey d → d = c :=
      fun d h ↦ (CurrencyCode.cacheKey_inj.1 h).symm
    show RemoteCache.get _ now c = k.get now c
    rw [RemoteCache.get, RemoteCache.get, KeyValueServer.value?, KeyValueServer.value?,
      Table.get?_only CurrencyCode.cacheKey c k.server hkey]

theorem slice_get_slice :
    (SharedCache.get (k.slice c) now c).2.slice c = (SharedCache.get k now c).2.slice c := by
  cases k with
  | table t => exact slice_slice (table t) c
  | remote k => exact slice_slice (remote k) c
  | timed t =>
    have hself := slice_slice (timed t) c
    have hget : (t.entries.only id c).get? c = t.entries.get? c :=
      t.entries.get?_only id c fun d ↦ Eq.symm
    have hlive :
        TimedCache.live? { t with entries := t.entries.only id c } now c = t.live? now c := by
      rw [TimedCache.live?, TimedCache.live?, hget]
    have hevict :
        (timed (TimedCache.evict { t with entries := t.entries.only id c } now c)).slice c =
          (timed (t.evict now c)).slice c := by
      rw [TimedCache.evict, TimedCache.evict, hget]
      split
      · split
        · simp only [slice, Table.only_erase_only]
        · exact hself
      · exact hself
    simp only [SharedCache.get, slice, hlive] at hself hevict ⊢
    cases t.live? now c with
    | some r => exact hself
    | none => exact hevict

theorem slice_put_slice :
    (SharedCache.put (k.slice c) now r).2.slice c = (SharedCache.put k now r).2.slice c := by
  cases k <;> simp only [slice, SharedCache.put, TimedCache.put, RemoteCache.put,
    KeyValueServer.setFor, Table.only_insert_only]

theorem slice_remove_slice : ((k.slice c).remove d).slice c = (k.remove d).slice c := by
  cases k <;> simp only [slice, remove, TimedCache.remove, Table.only_erase_only]

theorem slice_plant_slice {key value : String} :
    ((k.slice c).plant key value).slice c = (k.plant key value).slice c := by
  cases k <;> simp only [slice, plant, KeyValueServer.set, Table.only_insert_only, Table.only_only]

def contents : Cache → Cache
  | remote k => remote { k with commands := [] }
  | k => k

theorem contents_ext {k k' : Cache} (h : ∀ c, k.slice c = k'.slice c) :
    k.contents = k'.contents := by
  match k, k' with
  | table t, table t' =>
    have ht : t = t' := Table.ext_only id (fun _ _ ↦ id) fun c ↦ by simpa [slice] using h c
    rw [ht]
  | timed ⟨entries, lifetime⟩, timed ⟨entries', lifetime'⟩ =>
    simp only [slice, timed.injEq, TimedCache.mk.injEq] at h
    obtain rfl : entries = entries' := Table.ext_only id (fun _ _ ↦ id) fun c ↦ (h c).1
    obtain rfl : lifetime = lifetime' := (h .usd).2
    rfl
  | remote ⟨server, seconds, _⟩, remote ⟨server', seconds', _⟩ =>
    simp only [slice, remote.injEq, RemoteCache.mk.injEq, and_true] at h
    obtain rfl : server = server' :=
      Table.ext_only CurrencyCode.cacheKey (fun _ _ ↦ CurrencyCode.cacheKey_inj.1) fun c ↦ (h c).1
    obtain rfl : seconds = seconds' := (h .usd).2
    rfl
  | table _, timed _ | table _, remote _ | timed _, table _ | timed _, remote _ | remote _, table _
  | remote _, timed _ => exact absurd (h .usd) (by simp [slice])

end Cache

namespace Store

noncomputable def slice (c : CurrencyCode) : Store → Store
  | table t => table (t.only id c)
  | rows s => rows ⟨s.rows.only RowKey.of c⟩

variable {s : Store} {c : CurrencyCode} {r : RateRecord}

theorem slice_put_of_ne (hr : r.target ≠ c) : (RateStore.put s r).2.slice c = s.slice c := by
  cases s with
  | table t => exact congrArg table (t.only_insert_of_ne id hr r)
  | rows s => simp only [RateStore.put, RowStore.put, slice, s.rows.only_insert_of_ne RowKey.of hr]

theorem get_slice : (RateStore.get (s.slice c) c).1 = (RateStore.get s c).1 := by
  cases s with
  | table t => exact congrArg Except.ok (t.get?_only id c fun d ↦ Eq.symm)
  | rows s =>
    have hkey : ∀ d, RowKey.of c = RowKey.of d → d = c := fun d h ↦ (RowKey.of_inj.1 h).symm
    show RowStore.get _ c = s.get c
    rw [RowStore.get, RowStore.get, Table.get?_only RowKey.of c s.rows hkey]

theorem slice_put_slice :
    (RateStore.put (s.slice c) r).2.slice c = (RateStore.put s r).2.slice c := by
  cases s <;> simp only [slice, RateStore.put, RowStore.put, Table.only_insert_only]

theorem slice_writeRow_slice {key : RowKey} {row : Row} :
    ((s.slice c).writeRow key row).1.slice c = (s.writeRow key row).1.slice c := by
  cases s <;> simp only [slice, writeRow, Table.only_insert_only, Table.only_only]

theorem list_slice (hs : s.Keyed) :
    (RateStore.list (s.slice c)).1.map (List.filter (·.target = c)) =
      (RateStore.list s).1.map (List.filter (·.target = c)) := by
  cases s with
  | table t =>
    refine congrArg Except.ok (t.filter_values_only id c fun e he d hd hc ↦ ?_)
    have htarget : e.2.target = e.1 := hs e.1 e.2 (Table.get?_eq_some_iff.2 he)
    exact hd.symm.trans (htarget.symm.trans hc)
  | rows s =>
    refine congrArg Except.ok ?_
    refine s.rows.filterMap_only RowKey.of c fun e _ d r hd hr hc ↦ ?_
    have hdecode : e.2.decode (.of d) = .ok r := hd ▸ toOption_eq_some_iff.1 hr
    exact (Row.target_of_decode hdecode).symm.trans hc

theorem ext_slice {s s' : Store} (h : ∀ c, s.slice c = s'.slice c) : s = s' := by
  match s, s' with
  | table t, table t' =>
    have ht : t = t' := Table.ext_only id (fun _ _ ↦ id) fun c ↦ by simpa [slice] using h c
    rw [ht]
  | rows ⟨t⟩, rows ⟨t'⟩ =>
    simp only [slice, rows.injEq, RowStore.mk.injEq] at h
    rw [Table.ext_only RowKey.of (fun _ _ ↦ RowKey.of_inj.1) h]
  | table _, rows _ | rows _, table _ => exact absurd (h .usd) (by simp [slice])

end Store

namespace Provider

noncomputable def slice (c : CurrencyCode) : Provider → Provider
  | fixed name rates => fixed name (rates.only id c)
  | canned name records => canned name (records.only id c)
  | feed f => if f.currency = c then feed f else
      feed { f with path := "", key := none, reply := .unreachable, requests := [] }

variable {p : Provider} {now : Instant} {c d : CurrencyCode} {r : RateRecord} {name : String}

theorem slice_slice (p : Provider) (c : CurrencyCode) : (p.slice c).slice c = p.slice c := by
  cases p with
  | feed f =>
    rw [slice]
    split
    · next hc => rw [slice, if_pos hc]
    · next hc => rw [slice, if_neg hc]
  | _ => simp only [slice, Table.only_only]

@[simp] theorem supports_slice : (p.slice c).supports c = p.supports c := by
  cases p with
  | fixed name rates => exact congrArg Option.isSome (rates.get?_only id c fun d ↦ Eq.symm)
  | canned name records => exact congrArg Option.isSome (records.get?_only id c fun d ↦ Eq.symm)
  | feed f =>
    rw [slice]
    split <;> rfl

theorem answer_slice : (p.slice c).answer now c = p.answer now c := by
  cases p with
  | fixed name rates => simp only [slice, answer, rates.get?_only id c fun d ↦ Eq.symm]
  | canned name records => simp only [slice, answer, records.get?_only id c fun d ↦ Eq.symm]
  | feed f =>
    rw [slice]
    split
    · rfl
    · next hc => simp only [answer, Ne.symm hc, if_false]

theorem asked_slice : ((p.slice c).asked c).slice c = (p.asked c).slice c := by
  cases p with
  | feed f =>
    rw [slice]
    split
    · rfl
    · next hc => simp only [asked, Ne.symm hc, if_false, slice, hc]
  | fixed name rates => exact slice_slice (fixed name rates) c
  | canned name records => exact slice_slice (canned name records) c

theorem slice_asked_of_ne (hd : d ≠ c) : (p.asked d).slice c = p.slice c := by
  cases p with
  | feed f =>
    rw [asked]
    split
    · next hf =>
      have hc : f.currency ≠ c := hf ▸ hd
      rw [Feed.asked]
      split
      · split
        · simp only [slice, hc, if_false]
        · rfl
      · rfl
    · rfl
  | _ => rfl

theorem slice_setRate_of_ne (hd : d ≠ c) (rate : Decimal) :
    (p.setRate name d rate).slice c = p.slice c := by
  cases p with
  | fixed n rates =>
    have hinsert : (rates.insert d rate).only id c = rates.only id c :=
      rates.only_insert_of_ne id hd rate
    rw [setRate]
    split
    · simp only [slice, hinsert]
    · rfl
  | _ => rfl

theorem slice_setRecord_of_ne (hr : r.target ≠ c) :
    (p.setRecord name r).slice c = p.slice c := by
  cases p with
  | canned n records =>
    have hinsert : (records.insert r.target r).only id c = records.only id c :=
      records.only_insert_of_ne id hr r
    rw [setRecord]
    split
    · simp only [slice, hinsert]
    · rfl
  | _ => rfl

theorem slice_setRate_slice {rate : Decimal} :
    ((p.slice c).setRate name d rate).slice c = (p.setRate name d rate).slice c := by
  cases p with
  | fixed n rates =>
    by_cases hn : n = name
    · simp only [slice, setRate, if_pos hn, Table.only_insert_only]
    · simp only [slice, setRate, if_neg hn, Table.only_only]
  | canned n records => exact slice_slice (canned n records) c
  | feed f =>
    rw [slice]
    split
    · rfl
    · next hc => simp only [setRate, slice, hc, if_false]

theorem slice_setRecord_slice :
    ((p.slice c).setRecord name r).slice c = (p.setRecord name r).slice c := by
  cases p with
  | canned n records =>
    by_cases hn : n = name
    · simp only [slice, setRecord, if_pos hn, Table.only_insert_only]
    · simp only [slice, setRecord, if_neg hn, Table.only_only]
  | fixed n rates => exact slice_slice (fixed n rates) c
  | feed f =>
    rw [slice]
    split
    · rfl
    · next hc => simp only [setRecord, slice, hc, if_false]

theorem slice_setReply_slice {reply : Reply} :
    ((p.slice c).setReply name reply).slice c = (p.setReply name reply).slice c := by
  cases p with
  | feed f =>
    rw [slice]
    split
    · rfl
    · next hc =>
      simp only [setReply]
      split <;> simp only [slice, hc, if_false]
  | fixed n rates => exact slice_slice (fixed n rates) c
  | canned n records => exact slice_slice (canned n records) c

theorem ext_slice {p p' : Provider} (h : ∀ c, p.slice c = p'.slice c) : p = p' := by
  match p, p' with
  | fixed n t, fixed n' t' =>
    simp only [slice, fixed.injEq] at h
    rw [(h .usd).1, Table.ext_only id (fun _ _ ↦ id) fun c ↦ (h c).2]
  | canned n t, canned n' t' =>
    simp only [slice, canned.injEq] at h
    rw [(h .usd).1, Table.ext_only id (fun _ _ ↦ id) fun c ↦ (h c).2]
  | feed f, feed f' =>
    have hf := h f.currency
    by_cases hc : f'.currency = f.currency
    · rwa [slice, slice, if_pos rfl, if_pos hc] at hf
    · rw [slice, slice, if_pos rfl, if_neg hc] at hf
      exact absurd (congrArg Feed.currency (feed.inj hf)).symm hc
  | fixed .., canned .. | canned .., fixed .. => exact absurd (h .usd) (by simp [slice])
  | fixed .., feed f | canned .., feed f => exact absurd (h f.currency) (by simp [slice])
  | feed f, fixed .. | feed f, canned .. => exact absurd (h f.currency) (by simp [slice])

end Provider

namespace Registry

noncomputable def slice (c : CurrencyCode) (g : Registry) : Registry :=
  ⟨g.providers.map (·.slice c)⟩

variable {g : Registry} {now : Instant} {c d : CurrencyCode}

theorem route?_slice : (g.slice c).route? c = (g.route? c).map (·.slice c) := by
  simp only [route?, slice, List.find?_map, Function.comp_def, Provider.supports_slice]

theorem supports_slice : (g.slice c).supports c = g.supports c := by
  rw [supports, supports, route?_slice, Option.isSome_map]

theorem answer_slice : (g.slice c).answer now c = g.answer now c := by
  rw [answer, answer, route?_slice]
  cases g.route? c with
  | none => rfl
  | some p => exact Provider.answer_slice

theorem slice_asked_of_ne (hd : d ≠ c) : (g.asked d).slice c = g.slice c := by
  obtain ⟨ps⟩ := g
  show mk ((askFirst d ps).map (·.slice c)) = mk (ps.map (·.slice c))
  congr 1
  induction ps with
  | nil => rfl
  | cons p ps ih =>
    rw [askFirst]
    split
    · rw [List.map_cons, List.map_cons, Provider.slice_asked_of_ne hd]
    · rw [List.map_cons, List.map_cons, ih]

theorem slice_asked_slice : ((g.slice c).asked c).slice c = (g.asked c).slice c := by
  obtain ⟨ps⟩ := g
  show mk ((askFirst c (ps.map (·.slice c))).map (·.slice c)) = mk ((askFirst c ps).map (·.slice c))
  congr 1
  induction ps with
  | nil => rfl
  | cons p ps ih =>
    rw [List.map_cons, askFirst, askFirst, Provider.supports_slice]
    split
    · rw [List.map_cons, List.map_cons, Provider.asked_slice, List.map_map]
      congr 1
      exact List.map_congr_left fun p _ ↦ p.slice_slice c
    · rw [List.map_cons, List.map_cons, p.slice_slice, ih]

theorem slice_map_of_ne {f : Provider → Provider} (hf : ∀ p, (f p).slice c = p.slice c) :
    slice c ⟨g.providers.map f⟩ = g.slice c := by
  simp only [slice, List.map_map, mk.injEq]
  exact List.map_congr_left fun p _ ↦ hf p

theorem slice_map_slice {f : Provider → Provider}
    (hf : ∀ p, (f (p.slice c)).slice c = (f p).slice c) :
    slice c ⟨(g.slice c).providers.map f⟩ = slice c ⟨g.providers.map f⟩ := by
  simp only [slice, List.map_map, mk.injEq]
  exact List.map_congr_left fun p _ ↦ hf p

theorem ext_slice {g g' : Registry} (h : ∀ c, g.slice c = g'.slice c) : g = g' := by
  obtain ⟨ps⟩ := g
  obtain ⟨ps'⟩ := g'
  simp only [slice, mk.injEq] at h ⊢
  induction ps generalizing ps' with
  | nil => exact (List.map_eq_nil_iff.1 (h .usd).symm).symm
  | cons p ps ih =>
    cases ps' with
    | nil => exact absurd (h .usd) (by simp)
    | cons p' ps' =>
      simp only [List.map_cons, List.cons.injEq] at h
      rw [Provider.ext_slice fun c ↦ (h c).1, ih ps' fun c ↦ (h c).2]

theorem length_slice : (g.slice c).providers.length = g.providers.length :=
  List.length_map _

end Registry

namespace Monitored

section Cache

variable {m m' : Monitored Cache} {now : Instant} {c d : CurrencyCode} {r : RateRecord}

theorem only_getCache_of_ne (hd : d ≠ c) :
    (SharedCache.get m now d).2.only (Cache.slice c) = m.only (Cache.slice c) :=
  only_pass (m := m.countGet) (Cache.slice_get_of_ne hd)

theorem only_putCache_of_ne (hr : r.target ≠ c) :
    (SharedCache.put m now r).2.only (Cache.slice c) = m.only (Cache.slice c) :=
  only_pass (m := m.countPut) (Cache.slice_put_of_ne hr)

theorem getCache_congr (h : m.only (Cache.slice c) = m'.only (Cache.slice c)) :
    (SharedCache.get m now c).1 = (SharedCache.get m' now c).1 ∧
      (SharedCache.get m now c).2.only (Cache.slice c) =
        (SharedCache.get m' now c).2.only (Cache.slice c) := by
  refine pass_congr (m := m.countGet) h fun hinner ↦ ⟨?_, ?_⟩
  · rw [← Cache.get_slice, hinner, Cache.get_slice]
  · rw [← Cache.slice_get_slice, hinner, Cache.slice_get_slice]

theorem putCache_congr (h : m.only (Cache.slice c) = m'.only (Cache.slice c)) :
    (SharedCache.put m now r).1 = (SharedCache.put m' now r).1 ∧
      (SharedCache.put m now r).2.only (Cache.slice c) =
        (SharedCache.put m' now r).2.only (Cache.slice c) := by
  refine pass_congr (m := m.countPut) h fun hinner ↦ ⟨?_, ?_⟩
  · rw [Cache.put_answer, Cache.put_answer]
  · rw [← Cache.slice_put_slice, hinner, Cache.slice_put_slice]

end Cache

section Store

variable {m m' : Monitored Store} {c d : CurrencyCode} {r : RateRecord}

theorem only_getStore (f : Store → Store) :
    (RateStore.get m d).2.only f = m.only f :=
  only_pass (m := m.countGet) (by rw [Store.get_store])

theorem only_listStore (f : Store → Store) : (RateStore.list m).2.only f = m.only f :=
  only_pass (m := m.countList) (by rw [Store.list_store])

theorem only_putStore_of_ne (hr : r.target ≠ c) :
    (RateStore.put m r).2.only (Store.slice c) = m.only (Store.slice c) :=
  only_pass (m := m.countPut) (Store.slice_put_of_ne hr)

theorem getStore_congr (h : m.only (Store.slice c) = m'.only (Store.slice c)) :
    (RateStore.get m c).1 = (RateStore.get m' c).1 ∧
      (RateStore.get m c).2.only (Store.slice c) = (RateStore.get m' c).2.only (Store.slice c) := by
  refine pass_congr (m := m.countGet) h fun hinner ↦ ⟨?_, ?_⟩
  · rw [← Store.get_slice, hinner, Store.get_slice]
  · rwa [Store.get_store, Store.get_store]

theorem listStore_congr (hm : m.inner.Keyed) (hm' : m'.inner.Keyed)
    (h : m.only (Store.slice c) = m'.only (Store.slice c)) :
    (RateStore.list m).1.map (List.filter (·.target = c)) =
        (RateStore.list m').1.map (List.filter (·.target = c)) ∧
      (RateStore.list m).2.inner.slice c = (RateStore.list m').2.inner.slice c := by
  obtain ⟨hinner, hdown⟩ := only_eq_iff.1 h
  have hcount : m.countList.down = m'.countList.down := hdown
  refine pass_rel (R := fun s s' ↦ s.slice c = s'.slice c) _ _ hcount hinner fun _ ↦ ⟨?_, ?_⟩
  · show (RateStore.list m.inner).1.map _ = (RateStore.list m'.inner).1.map _
    rw [← Store.list_slice hm, hinner, Store.list_slice hm']
  · rwa [Store.list_store, Store.list_store]

theorem putStore_congr (h : m.only (Store.slice c) = m'.only (Store.slice c)) :
    (RateStore.put m r).1 = (RateStore.put m' r).1 ∧
      (RateStore.put m r).2.only (Store.slice c) = (RateStore.put m' r).2.only (Store.slice c) := by
  refine pass_congr (m := m.countPut) h fun hinner ↦ ⟨?_, ?_⟩
  · rw [Store.put_answer, Store.put_answer]
  · rw [← Store.slice_put_slice, hinner, Store.slice_put_slice]

end Store

section Source

variable {m m' : Monitored Registry} {now : Instant} {c d : CurrencyCode}

theorem only_fetch_of_ne (hd : d ≠ c) :
    (LiveSource.fetch m now d).2.only (Registry.slice c) = m.only (Registry.slice c) :=
  only_pass (m := m.countGet) (Registry.slice_asked_of_ne hd)

theorem fetch_congr (h : m.only (Registry.slice c) = m'.only (Registry.slice c)) :
    (LiveSource.fetch m now c).1 = (LiveSource.fetch m' now c).1 ∧
      (LiveSource.fetch m now c).2.only (Registry.slice c) =
        (LiveSource.fetch m' now c).2.only (Registry.slice c) := by
  refine pass_congr (m := m.countGet) h
    fun (hinner : m.inner.slice c = m'.inner.slice c) ↦ ⟨?_, ?_⟩
  · show m.inner.answer now c = m'.inner.answer now c
    rw [← Registry.answer_slice, hinner, Registry.answer_slice]
  · show (m.inner.asked c).slice c = (m'.inner.asked c).slice c
    rw [← Registry.slice_asked_slice, hinner, Registry.slice_asked_slice]

end Source

end Monitored

end TieredRates
