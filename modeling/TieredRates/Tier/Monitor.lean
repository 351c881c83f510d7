import TieredRates.Tier.Cache
import TieredRates.Tier.Source
import TieredRates.Tier.Store

namespace TieredRates

/-- The kinds of requests that fail. -/
structure Outage where
  gets : Bool := false
  puts : Bool := false
  lists : Bool := false
deriving DecidableEq

def Outage.total : Outage := ⟨true, true, true⟩

/-- A tier or the source with the numbers of requests for it. One that an outage hits is counted
too, but fails and goes no further. -/
structure Monitored (α : Type) where
  inner : α
  down : Outage := {}
  gets : Nat := 0
  puts : Nat := 0
  lists : Nat := 0

namespace Monitored

variable {α : Type}

/-- Lets a request through unless its kind fails. -/
def pass {ε β : Type} (m : Monitored α) (kind : Outage → Bool) (e : ε)
    (request : α → Except ε β × α) : Except ε β × Monitored α :=
  if kind m.down then (.error e, m)
  else ((request m.inner).1, { m with inner := (request m.inner).2 })

def countGet (m : Monitored α) : Monitored α := { m with gets := m.gets + 1 }

def countPut (m : Monitored α) : Monitored α := { m with puts := m.puts + 1 }

def countList (m : Monitored α) : Monitored α := { m with lists := m.lists + 1 }

instance [SharedCache α] : SharedCache (Monitored α) where
  get m now c := m.countGet.pass Outage.gets (.backend "timeout") fun k ↦ SharedCache.get k now c
  put m now r := m.countPut.pass Outage.puts (.backend "timeout") fun k ↦ SharedCache.put k now r

instance [RateStore α] : RateStore (Monitored α) where
  get m c := m.countGet.pass Outage.gets (.database "connection refused") fun s ↦ RateStore.get s c
  put m r := m.countPut.pass Outage.puts (.database "connection refused") fun s ↦ RateStore.put s r
  list m := m.countList.pass Outage.lists (.database "connection refused") fun s ↦ RateStore.list s

instance [LiveSource α] : LiveSource (Monitored α) where
  fetch m now c := m.countGet.pass Outage.gets (.failed c .switchedOff) fun g ↦
    LiveSource.fetch g now c

end Monitored

end TieredRates
