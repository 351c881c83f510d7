import TieredRates.Text.Digits
import TieredRates.Text.Split

namespace TieredRates.Json

open Text

structure Located where
  text : List Char
  line : Nat
  column : Nat

/-- Takes ` at line L column C` off the end of a message. -/
def located? (message : List Char) : Option Located := do
  let (column, rest) := spanDigits message.reverse
  let rest ← behind? " column ".toList.reverse rest
  let (line, rest) := spanDigits rest
  let rest ← behind? " at line ".toList.reverse rest
  if line = [] ∨ column = [] then none
  else return { text := rest.reverse, line := value line.reverse, column := value column.reverse }

/-- A message without any position, of which it may have two: lines are counted from one, so line
zero, if both numbers fit into 64 bits, is no position of its own and uncovers the one before. -/
def withoutPosition (message : List Char) : List Char :=
  match located? message with
  | none => message
  | some m =>
    if m.line = 0 ∧ m.column < 0x10000000000000000 then
      ((located? m.text).map Located.text).getD m.text
    else m.text

end TieredRates.Json
