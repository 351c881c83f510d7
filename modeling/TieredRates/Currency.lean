import TieredRates.Text.Blank

namespace TieredRates

open Std

abbrev Letter := { c : Char // 'A' ≤ c ∧ c ≤ 'Z' }

structure CurrencyCode where
  first : Letter
  second : Letter
  third : Letter
deriving DecidableEq

namespace CurrencyCode

def chars (c : CurrencyCode) : List Char := [c.first.1, c.second.1, c.third.1]

def text (c : CurrencyCode) : String := String.ofList c.chars

instance : ToString CurrencyCode := ⟨text⟩

def usd : CurrencyCode := ⟨⟨'U', by decide⟩, ⟨'S', by decide⟩, ⟨'D', by decide⟩⟩

instance : Inhabited CurrencyCode := ⟨usd⟩

def isBase (c : CurrencyCode) : Bool := c = usd

def letter? (c : Char) : Option Letter :=
  if h : 'A' ≤ c ∧ c ≤ 'Z' then some ⟨c, h⟩ else none

def ofChars? : List Char → Option CurrencyCode
  | [a, b, c] => do return ⟨← letter? a, ← letter? b, ← letter? c⟩
  | _ => none

/-- White space at the ends is dropped and ASCII letters are raised before the letters are read;
a blank text is the base currency. -/
def ofText? (s : List Char) : Option CurrencyCode :=
  match Text.trim s with
  | [] => some usd
  | t => ofChars? (Text.upper t)

def parse? (s : String) : Option CurrencyCode := ofText? s.toList

theorem chars_inj {c d : CurrencyCode} : c.chars = d.chars ↔ c = d := by
  refine ⟨fun h ↦ ?_, fun h ↦ h ▸ rfl⟩
  obtain ⟨⟨a, _⟩, ⟨b, _⟩, ⟨e, _⟩⟩ := c
  obtain ⟨⟨a', _⟩, ⟨b', _⟩, ⟨e', _⟩⟩ := d
  simp only [chars, List.cons.injEq, and_true] at h
  obtain ⟨rfl, rfl, rfl⟩ := h
  rfl

theorem text_inj {c d : CurrencyCode} : c.text = d.text ↔ c = d := by
  rw [text, text, String.ofList_inj, chars_inj]

@[simp] theorem ofChars?_chars (c : CurrencyCode) : ofChars? c.chars = some c := by
  obtain ⟨a, b, e⟩ := c
  simp [ofChars?, chars, letter?, a.2, b.2, e.2]

instance : Ord CurrencyCode := ⟨compareOn chars⟩

instance : TransOrd CurrencyCode := inferInstanceAs (TransCmp (compareOn chars))

instance : LawfulEqOrd CurrencyCode where
  compare_self {c} := (ReflCmp.compare_self : compare c.chars c.chars = .eq)
  eq_of_compare {c d} h :=
    have h : compare c.chars d.chars = .eq := h
    chars_inj.1 (LawfulEqCmp.eq_of_compare h)

end CurrencyCode

end TieredRates
