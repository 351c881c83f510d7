import TieredRates.Mode
import TieredRates.Record
import TieredRates.Table

namespace TieredRates

structure Policy where
  /-- How long a record may stay in the first tier. -/
  l1Window : Int := Span.ofSeconds 300
  /-- How old a record may be. -/
  syncInterval : Int := Span.ofSeconds 86400
  restricted : Table CurrencyCode String := ∅

namespace Policy

instance : Inhabited Policy := ⟨{}⟩

def restrict (p : Policy) (c : CurrencyCode) (provider : String) : Policy :=
  { p with restricted := p.restricted.insert c provider }

def authority? (p : Policy) (c : CurrencyCode) : Option String := p.restricted.get? c

/-- Anyone may speak for an unrestricted currency, and only its authority for a restricted one. -/
def Trusts (p : Policy) (r : RateRecord) : Prop :=
  ∀ provider, p.authority? r.target = some provider → r.provider = provider

instance (p : Policy) (r : RateRecord) : Decidable (p.Trusts r) :=
  match h : p.authority? r.target with
  | none => isTrue fun _ hp ↦ by simp [h] at hp
  | some provider =>
    if hp : r.provider = provider then isTrue fun q hq ↦ by
      rw [h] at hq
      exact hp.trans (Option.some.inj hq)
    else isFalse fun hall ↦ hp (hall provider h)

def Accepts (p : Policy) (mode : Mode) (r : RateRecord) : Prop := mode = .strict → p.Trusts r

instance (p : Policy) (mode : Mode) (r : RateRecord) : Decidable (p.Accepts mode r) :=
  inferInstanceAs (Decidable (_ → _))

theorem accepts_nonStrict (p : Policy) (r : RateRecord) : p.Accepts .nonStrict r := nofun

theorem accepts_strict_iff {p : Policy} {r : RateRecord} : p.Accepts .strict r ↔ p.Trusts r :=
  ⟨fun h ↦ h rfl, fun h _ ↦ h⟩

end Policy

end TieredRates
