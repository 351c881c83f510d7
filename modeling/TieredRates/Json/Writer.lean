namespace TieredRates.Json

def escapeDigit (n : Nat) : Char := if n < 10 then Char.ofNat (48 + n) else Char.ofNat (87 + n)

/-- Quotes, backslashes and control characters are escaped, five of the controls by a letter. -/
def escapeChar (c : Char) : List Char :=
  match c with
  | '"' => ['\\', '"']
  | '\\' => ['\\', '\\']
  | '\x08' => ['\\', 'b']
  | '\x0c' => ['\\', 'f']
  | '\n' => ['\\', 'n']
  | '\r' => ['\\', 'r']
  | '\t' => ['\\', 't']
  | _ =>
    if c.toNat < 0x20 then
      ['\\', 'u', '0', '0', escapeDigit (c.toNat / 16), escapeDigit (c.toNat % 16)]
    else [c]

def quotedChars (s : List Char) : List Char := '"' :: s.flatMap escapeChar ++ ['"']

def commaSeparated : List (List Char) → List Char
  | [] => []
  | [a] => a
  | a :: as => a ++ ',' :: commaSeparated as

def memberChars (name : String) (value : List Char) : List Char :=
  quotedChars name.toList ++ ':' :: value

def objectChars (members : List (String × List Char)) : List Char :=
  '{' :: commaSeparated (members.map fun m ↦ memberChars m.1 m.2) ++ ['}']

def textChars (s : String) : List Char := quotedChars s.toList

end TieredRates.Json
