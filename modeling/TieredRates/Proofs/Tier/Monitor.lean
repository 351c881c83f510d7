import TieredRates.Cache.Remote
import TieredRates.Source.Provider
import TieredRates.Store.Rows
import TieredRates.Tier.Monitor

namespace TieredRates

namespace Store

@[simp] theorem get_store (s : Store) (c : CurrencyCode) : (RateStore.get s c).2 = s := by
  cases s <;> rfl

@[simp] theorem list_store (s : Store) : (RateStore.list s).2 = s := by
  cases s <;> rfl

@[simp] theorem put_answer (s : Store) (r : RateRecord) : (RateStore.put s r).1 = .ok () := by
  cases s <;> rfl

end Store

namespace Monitored

section Pass

variable {α β ε : Type} (m : Monitored α) (kind : Outage → Bool) (e : ε)
variable (request : α → Except ε β × α)

@[simp] theorem down_pass : (m.pass kind e request).2.down = m.down := by
  rw [pass]
  split <;> rfl

@[simp] theorem gets_pass : (m.pass kind e request).2.gets = m.gets := by
  rw [pass]
  split <;> rfl

@[simp] theorem puts_pass : (m.pass kind e request).2.puts = m.puts := by
  rw [pass]
  split <;> rfl

@[simp] theorem lists_pass : (m.pass kind e request).2.lists = m.lists := by
  rw [pass]
  split <;> rfl

theorem inner_pass : (m.pass kind e request).2.inner =
    if kind m.down then m.inner else (request m.inner).2 := by
  rw [pass]
  split <;> rfl

theorem inner_pass_cases : (m.pass kind e request).2.inner = m.inner ∨
    (m.pass kind e request).2.inner = (request m.inner).2 := by
  rw [inner_pass]
  split
  · exact .inl rfl
  · exact .inr rfl

theorem pass_eq_ok_iff {b : β} :
    (m.pass kind e request).1 = .ok b ↔ kind m.down = false ∧ (request m.inner).1 = .ok b := by
  rw [pass]
  cases kind m.down <;> simp

theorem pass_rel {γ : Type} {R : α → α → Prop} {m m' : Monitored α} {f : Except ε β → γ}
    {request request' : α → Except ε β × α} (hdown : m.down = m'.down) (hinner : R m.inner m'.inner)
    (hrequest : kind m.down = false → f (request m.inner).1 = f (request' m'.inner).1 ∧
      R (request m.inner).2 (request' m'.inner).2) :
    f (m.pass kind e request).1 = f (m'.pass kind e request').1 ∧
      R (m.pass kind e request).2.inner (m'.pass kind e request').2.inner := by
  rw [pass, pass, ← hdown]
  by_cases hd : kind m.down = true
  · rw [if_pos hd, if_pos hd]
    exact ⟨rfl, hinner⟩
  · rw [if_neg hd, if_neg hd]
    exact hrequest (Bool.eq_false_iff.2 hd)

end Pass

section Store

variable (m : Monitored Store) (c : CurrencyCode) (r : RateRecord)

@[simp] theorem inner_getStore : (RateStore.get m c).2.inner = m.inner := by
  refine (inner_pass m.countGet _ _ _).trans ?_
  simp [countGet]

@[simp] theorem inner_listStore : (RateStore.list m).2.inner = m.inner := by
  refine (inner_pass m.countList _ _ _).trans ?_
  simp [countList]

theorem inner_putStore : (RateStore.put m r).2.inner =
    if m.down.puts then m.inner else (RateStore.put m.inner r).2 :=
  inner_pass m.countPut _ _ _

theorem putStore_cases : (RateStore.put m r).2.inner = m.inner ∨
    (RateStore.put m r).2.inner = (RateStore.put m.inner r).2 :=
  inner_pass_cases m.countPut _ _ _

theorem putStore_eq_ok_iff : (RateStore.put m r).1 = .ok () ↔ m.down.puts = false := by
  refine (pass_eq_ok_iff m.countPut _ _ _).trans ?_
  simp [countPut]

theorem getStore_eq_ok_iff {r? : Option RateRecord} : (RateStore.get m c).1 = .ok r? ↔
    m.down.gets = false ∧ (RateStore.get m.inner c).1 = .ok r? :=
  pass_eq_ok_iff m.countGet _ _ _

end Store

section Cache

variable (m : Monitored Cache) (now : Instant) (c : CurrencyCode) (r : RateRecord)

theorem inner_getCache : (SharedCache.get m now c).2.inner =
    if m.down.gets then m.inner else (SharedCache.get m.inner now c).2 :=
  inner_pass m.countGet _ _ _

theorem inner_putCache : (SharedCache.put m now r).2.inner =
    if m.down.puts then m.inner else (SharedCache.put m.inner now r).2 :=
  inner_pass m.countPut _ _ _

theorem getCache_cases : (SharedCache.get m now c).2.inner = m.inner ∨
    (SharedCache.get m now c).2.inner = (SharedCache.get m.inner now c).2 :=
  inner_pass_cases m.countGet _ _ _

theorem putCache_cases : (SharedCache.put m now r).2.inner = m.inner ∨
    (SharedCache.put m now r).2.inner = (SharedCache.put m.inner now r).2 :=
  inner_pass_cases m.countPut _ _ _

theorem getCache_eq_ok_iff {r? : Option RateRecord} : (SharedCache.get m now c).1 = .ok r? ↔
    m.down.gets = false ∧ (SharedCache.get m.inner now c).1 = .ok r? :=
  pass_eq_ok_iff m.countGet _ _ _

end Cache

/-- The same requests fail, the monitors have counted the same, and what is behind them is related. -/
structure Mirrors {α : Type} (R : α → α → Prop) (m m' : Monitored α) : Prop where
  inner : R m.inner m'.inner
  down : m.down = m'.down
  gets : m.gets = m'.gets
  puts : m.puts = m'.puts
  lists : m.lists = m'.lists

section Mirrors

variable {α β γ ε : Type} {R : α → α → Prop} {m m' : Monitored α}

theorem Mirrors.countGet (h : m.Mirrors R m') : m.countGet.Mirrors R m'.countGet :=
  { h with gets := congrArg (· + 1) h.gets }

theorem Mirrors.countPut (h : m.Mirrors R m') : m.countPut.Mirrors R m'.countPut :=
  { h with puts := congrArg (· + 1) h.puts }

theorem Mirrors.countList (h : m.Mirrors R m') : m.countList.Mirrors R m'.countList :=
  { h with lists := congrArg (· + 1) h.lists }

theorem Mirrors.pass (h : m.Mirrors R m') {kind : Outage → Bool} {e : ε}
    {request request' : α → Except ε β × α} {f : Except ε β → γ} (hrequest : kind m.down = false →
      f (request m.inner).1 = f (request' m'.inner).1 ∧
        R (request m.inner).2 (request' m'.inner).2) :
    f (m.pass kind e request).1 = f (m'.pass kind e request').1 ∧
      Mirrors R (m.pass kind e request).2 (m'.pass kind e request').2 := by
  obtain ⟨hanswer, hinner⟩ := pass_rel kind e h.down h.inner hrequest
  refine ⟨hanswer, hinner, ?_, ?_, ?_, ?_⟩
  · rw [down_pass, down_pass, h.down]
  · rw [gets_pass, gets_pass, h.gets]
  · rw [puts_pass, puts_pass, h.puts]
  · rw [lists_pass, lists_pass, h.lists]

end Mirrors

def only {α : Type} (f : α → α) (m : Monitored α) : Monitored α :=
  { inner := f m.inner, down := m.down }

section Only

variable {α β ε : Type} {f : α → α} {m m' : Monitored α} {kind : Outage → Bool} {e : ε}
variable {request : α → Except ε β × α}

theorem only_pass (h : f (request m.inner).2 = f m.inner) :
    (m.pass kind e request).2.only f = m.only f := by
  rw [pass]
  split
  · rfl
  · rw [only, only, h]

theorem only_eq_iff : m.only f = m'.only f ↔ f m.inner = f m'.inner ∧ m.down = m'.down := by
  simp [only]

theorem pass_congr (h : m.only f = m'.only f)
    (hrequest : f m.inner = f m'.inner → (request m.inner).1 = (request m'.inner).1 ∧
      f (request m.inner).2 = f (request m'.inner).2) :
    (m.pass kind e request).1 = (m'.pass kind e request).1 ∧
      (m.pass kind e request).2.only f = (m'.pass kind e request).2.only f := by
  obtain ⟨hinner, hdown⟩ := only_eq_iff.1 h
  obtain ⟨hanswer, hrest⟩ := pass_rel (R := fun x y ↦ f x = f y) (f := id) kind e hdown hinner
    fun _ ↦ hrequest hinner
  exact ⟨hanswer, only_eq_iff.2 ⟨hrest, by rw [down_pass, down_pass, hdown]⟩⟩

end Only

theorem inner_fetch (m : Monitored Registry) (now : Instant) (c : CurrencyCode) :
    (LiveSource.fetch m now c).2.inner =
    if m.down.gets then m.inner else m.inner.asked c :=
  inner_pass m.countGet _ _ _

theorem fetch_eq_ok_iff {m : Monitored Registry} {now : Instant} {c : CurrencyCode}
    {r : RateRecord} : (LiveSource.fetch m now c).1 = .ok r ↔
      m.down.gets = false ∧ m.inner.answer now c = .ok r :=
  pass_eq_ok_iff m.countGet _ _ _

end Monitored

end TieredRates
