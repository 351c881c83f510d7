import TieredRates.Host.Basic
import TieredRates.Text.Blank

namespace TieredRates.Feed

open Text

structure Elsewhere where
  host : Host
  number : Option Nat
deriving DecidableEq

structure Address where
  elsewhere : Option Elsewhere
  path : List Char
  query : Option (List Char)
  fragment : Option (List Char)
deriving DecidableEq

namespace Address

def isIgnored (c : Char) : Bool := c = '\t' || c = '\n' || c = '\r'

def isLowEnd (c : Char) : Bool := c.toNat ≤ 0x20

def endsHost (c : Char) : Bool := c = '/' || c = '\\' || c = '?' || c = '#'

/-- Splits a host from the number behind it. A colon in brackets is part of the host. -/
def splitNumber (inside : Bool) : List Char → List Char × List Char
  | [] => ([], [])
  | c :: s =>
    if c = ':' ∧ !inside then ([], c :: s)
    else
      let (host, rest) := splitNumber (c = '[' || (inside && c ≠ ']')) s
      (c :: host, rest)

/-- The number behind a colon, below `2 ^ 16`; none inside if it is the usual one or left out. -/
def number? : List Char → Option (Option Nat)
  | [] | [':'] => some none
  | ':' :: ds =>
    if ds.all Char.isDigit ∧ value ds < 0x10000 then
      some (if value ds = 80 then none else some (value ds))
    else none
  | _ => none

def elsewhere? (s : List Char) : Option Elsewhere := do
  let (host, number) := splitNumber false s
  return { host := ← Host.read? host, number := ← number? number }

def encoded (barred : List Char) (s : List Char) : List Char :=
  percentChars (fun c ↦ 0x20 < c.toNat && c.toNat < 0x7f && c ∉ barred) s

def isSingleDot (s : List Char) : Bool := lower s ∈ [".".toList, "%2e".toList]

def isDoubleDot (s : List Char) : Bool :=
  lower s ∈ ["..".toList, ".%2e".toList, "%2e.".toList, "%2e%2e".toList]

/-- The segments of a path once its dots have been followed; `done` is what one has come to, in
reverse. -/
def resolved (done : List (List Char)) : List (List Char) → List (List Char)
  | [] => done.reverse
  | s :: rest =>
    let done :=
      if isDoubleDot s then done.drop 1 else if isSingleDot s then done else s :: done
    let ends := rest.isEmpty && (isDoubleDot s || isSingleDot s)
    resolved (if ends then [] :: done else done) rest

def pathOf (s : List Char) : List Char :=
  let segments := splitAll '/' ((s.map fun c ↦ if c = '\\' then '/' else c).drop 1)
  (resolved [] segments).flatMap fun t ↦
    '/' :: encoded ['"', '#', '<', '>', '?', '\x60', '\x7b', '\x7d'] t

/-- Reads what is given for the address of a feed behind its host and the number of five digits of
that, as in `host:40000`. It should begin a path, a query or a fragment, for the number has no room
for another digit. With an `@` in it, all in front of that is the name of a user, and another host
has to follow. -/
def ofText? (given : List Char) : Option Address := do
  let counted := ((given.filter (!isIgnored ·)).reverse.dropWhile isLowEnd).reverse
  let more := counted.takeWhile (!endsHost ·)
  let elsewhere ←
    if more = [] then some none
    else if '@' ∈ more then some <$> elsewhere? (more.reverse.takeWhile (· ≠ '@')).reverse
    else none
  let (rest, fragment) := splitFirst '#' (counted.dropWhile (!endsHost ·))
  let (path, query) := splitFirst '?' rest
  return {
    elsewhere
    path := pathOf path
    query := query.map (encoded ['"', '#', '<', '>', '\''])
    fragment := fragment.map (encoded ['"', '<', '>', '\x60']) }

def withKey (a : Address) (key : List Char) : Address :=
  let pair := "authkey=".toList ++ formChars key
  { a with query := some (match a.query with
      | none | some [] => pair
      | some query => query ++ '&' :: pair) }

def target (a : Address) : List Char := a.path ++ (a.query.map ('?' :: ·)).getD []

def textAt (name : List Char) (number : Option Nat) (a : Address) : List Char :=
  "http://".toList ++ name ++ (number.map fun n ↦ ':' :: digits n).getD [] ++ a.target ++
    (a.fragment.map ('#' :: ·)).getD []

def unsendable? (a : Address) : Option (List Char) :=
  match a.elsewhere with
  | some ⟨.byName name, number⟩ =>
    if (Host.byName name).isSendable then none else some (a.textAt name number)
  | _ => none

end Address

end TieredRates.Feed
