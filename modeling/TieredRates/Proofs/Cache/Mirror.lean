import TieredRates.Proofs.Cache.Laws
import TieredRates.Proofs.Cache.Lookup
import TieredRates.Proofs.Table
import TieredRates.Proofs.Tier.Monitor

namespace TieredRates

namespace TimedCache

def undated (t : TimedCache) : TimedCache :=
  { t with entries := t.entries.mapValues fun e ↦ { e with record := e.record.undated } }

variable (t : TimedCache) (now : Instant) (c : CurrencyCode)

theorem live?_undated : t.undated.live? now c = (t.live? now c).map (·.undated) := by
  simp only [live?, undated, Table.get?_mapValues]
  cases t.entries.get? c with
  | none => rfl
  | some e =>
    simp only [Option.map_some]
    split <;> rfl

theorem evict_undated : t.undated.evict now c = (t.evict now c).undated := by
  simp only [evict, undated, Table.get?_mapValues]
  cases t.entries.get? c with
  | none => rfl
  | some e =>
    simp only [Option.map_some]
    split
    · rw [Table.mapValues_erase]
    · rfl

theorem put_undated (r : RateRecord) : t.undated.put now r.undated = (t.put now r).undated := by
  rw [put, undated, put, undated, Table.mapValues_insert]
  rfl

end TimedCache

namespace Cache

/-- Related caches give the same now, but for days, and whatever they are asked and told they stay
related. -/
structure Mirroring (now : Instant) (K : Cache → Cache → Prop) : Prop where
  get : ∀ {k k'} c, K k k' →
    (SharedCache.get k now c).1.map (Option.map (·.undated)) =
        (SharedCache.get k' now c).1.map (Option.map (·.undated)) ∧
      K (SharedCache.get k now c).2 (SharedCache.get k' now c).2
  put : ∀ {k k'} {r r' : RateRecord}, K k k' → r.undated = r'.undated →
    (SharedCache.put k now r).1 = (SharedCache.put k' now r').1 ∧
      K (SharedCache.put k now r).2 (SharedCache.put k' now r').2

/-- From now on the cache on the server gives what the one in the process does. -/
def Mirrors (now : Instant) : Cache → Cache → Prop
  | timed t, remote k => t.lifetime = Span.ofSeconds k.seconds ∧
    ∀ later, now ≤ later → ∀ c, k.get later c = .ok ((t.live? later c).map (·.undated))
  | _, _ => False

variable {k k' : Cache} {now later : Instant} {c : CurrencyCode} {r r' : RateRecord}

theorem mirrors_empty {n : Nat} (hn : 1 ≤ n) (now : Instant) :
    Mirrors now (timed (.empty (Span.ofSeconds n))) (remote (.empty (Span.ofSeconds n))) := by
  have hseconds : (RemoteCache.empty (Span.ofSeconds n)).seconds = n := by
    have hspan : Span.toSeconds (Span.ofSeconds n) = n :=
      Int.mul_tdiv_cancel _ (by decide)
    simp only [RemoteCache.empty, hspan]
    omega
  exact ⟨congrArg (fun n : Nat ↦ Span.ofSeconds n) hseconds.symm, fun later _ c ↦ rfl⟩

theorem Mirrors.mono (h : k.Mirrors now k') (hlater : now ≤ later) : k.Mirrors later k' := by
  match k, k', h with
  | timed t, remote k, ⟨hlife, hget⟩ =>
    exact ⟨hlife, fun u hu c ↦ hget u (Instant.le_trans hlater hu) c⟩

theorem Mirrors.get (h : k.Mirrors now k') (c : CurrencyCode) :
    (SharedCache.get k now c).1.map (Option.map (·.undated)) =
        (SharedCache.get k' now c).1.map (Option.map (·.undated)) ∧
      Mirrors now (SharedCache.get k now c).2 (SharedCache.get k' now c).2 := by
  have hsheds := sheds_get k now c
  match k, k', h with
  | timed t, remote k, ⟨hlife, hget⟩ =>
    constructor
    · have hremote : (SharedCache.get (remote k) now c).1 = .ok ((t.live? now c).map (·.undated)) :=
        hget now (Instant.le_refl now) c
      rw [(get_timed t now c).1, hremote]
      cases t.live? now c <;> rfl
    obtain ⟨t', ht'⟩ : ∃ t', (SharedCache.get (timed t) now c).2 = timed t' := ⟨_, rfl⟩
    rw [ht'] at hsheds ⊢
    refine ⟨hsheds.1.trans hlife, fun later hlater d ↦ ?_⟩
    have heq := hsheds.get_eq hlater (d := d)
    rw [(get_timed t' later d).1, (get_timed t later d).1, Except.ok.injEq] at heq
    rw [heq]
    exact hget later hlater d

theorem Mirrors.put (h : k.Mirrors now k') (hr : r.undated = r'.undated) :
    (SharedCache.put k now r).1 = (SharedCache.put k' now r').1 ∧
      Mirrors now (SharedCache.put k now r).2 (SharedCache.put k' now r').2 := by
  match k, k', h with
  | timed t, remote k, ⟨hlife, hget⟩ =>
    refine ⟨rfl, hlife, fun later hlater c ↦ ?_⟩
    have htarget : r.target = r'.target := congrArg (·.target) hr
    show (k.put now r').get later c = .ok (((t.put now r).live? later c).map (·.undated))
    rw [RemoteCache.get_put, TimedCache.live?_put, hlife, htarget]
    split
    · split
      · rw [← hr]
        rfl
      · rfl
    · exact hget later hlater c

theorem mirroring_mirrors (now : Instant) : Mirroring now (Mirrors now) where
  get c h := h.get c
  put h hr := h.put hr

def undated : Cache → Cache
  | table t => table (t.mapValues (·.undated))
  | timed t => timed t.undated
  | remote k => remote k

theorem get_undated (k : Cache) (now : Instant) (c : CurrencyCode) :
    (SharedCache.get k.undated now c).1.map (Option.map (·.undated)) =
        (SharedCache.get k now c).1.map (Option.map (·.undated)) ∧
      (SharedCache.get k.undated now c).2 = (SharedCache.get k now c).2.undated := by
  cases k with
  | remote k => exact ⟨rfl, rfl⟩
  | table t =>
    refine ⟨congrArg Except.ok ?_, rfl⟩
    rw [Table.get?_mapValues]
    cases t.get? c <;> rfl
  | timed t =>
    simp only [undated, SharedCache.get, TimedCache.live?_undated]
    cases t.live? now c with
    | some r => exact ⟨rfl, rfl⟩
    | none => exact ⟨rfl, congrArg timed (t.evict_undated now c)⟩

theorem put_undated (k : Cache) (now : Instant) (r : RateRecord) :
    SharedCache.put k.undated now r.undated =
      ((SharedCache.put k now r).1, (SharedCache.put k now r).2.undated) := by
  cases k with
  | remote k => rfl
  | table t =>
    have hinsert := t.mapValues_insert (·.undated) r.target r
    exact Prod.ext rfl (congrArg table hinsert.symm)
  | timed t => exact Prod.ext rfl (congrArg timed (t.put_undated now r))

theorem mirroring_undated (now : Instant) :
    Mirroring now fun k k' ↦ k.undated = k'.undated where
  get {k k'} c h := by
    have hk := k.get_undated now c
    have hk' := k'.get_undated now c
    rw [← h] at hk'
    exact ⟨hk.1.symm.trans hk'.1, hk.2.symm.trans hk'.2⟩
  put {k k' r r'} h hr := by
    have hput := k.put_undated now r
    rw [h, hr, k'.put_undated now r', Prod.mk.injEq] at hput
    exact ⟨hput.1.symm, hput.2.symm⟩

end Cache

namespace Monitored

variable {K : Cache → Cache → Prop} {m m' : Monitored Cache} {now : Instant} {r r' : RateRecord}

theorem Mirrors.getCache (h : m.Mirrors K m') (hK : Cache.Mirroring now K) (c : CurrencyCode) :
    (SharedCache.get m now c).1.map (Option.map (·.undated)) =
        (SharedCache.get m' now c).1.map (Option.map (·.undated)) ∧
      Mirrors K (SharedCache.get m now c).2 (SharedCache.get m' now c).2 :=
  h.countGet.pass (f := Except.map _) fun _ ↦ hK.get c h.inner

theorem Mirrors.putCache (h : m.Mirrors K m') (hK : Cache.Mirroring now K)
    (hr : r.undated = r'.undated) :
    (SharedCache.put m now r).1 = (SharedCache.put m' now r').1 ∧
      Mirrors K (SharedCache.put m now r).2 (SharedCache.put m' now r').2 :=
  h.countPut.pass (f := id) fun _ ↦ hK.put h.inner hr

end Monitored

end TieredRates
