import TieredRates.Text.Printable

namespace TieredRates.Text

def hex (n : Nat) : List Char := Nat.toDigits 16 n

/-- A backslash form for quotes, backslashes, the named controls and NUL, the code point for
whatever else is not printable, and the character itself otherwise. -/
def quoteChar (c : Char) : List Char :=
  match c with
  | '"' => ['\\', '"']
  | '\\' => ['\\', '\\']
  | '\n' => ['\\', 'n']
  | '\r' => ['\\', 'r']
  | '\t' => ['\\', 't']
  | '\x00' => ['\\', '0']
  | _ => if isPrintable c then [c] else ['\\', 'u', '\x7b'] ++ hex c.toNat ++ ['\x7d']

def quote (s : String) : String :=
  String.ofList ('"' :: s.toList.flatMap quoteChar ++ ['"'])

end TieredRates.Text
