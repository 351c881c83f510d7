import TieredRates.Text.Percent

namespace TieredRates

open Text

/-- A place: the names on the way from the root. -/
abbrev Location := List (List Char)

namespace Location

def step (l : Location) (name : List Char) : Location :=
  if name = [] ∨ name = ['.'] then l
  else if name = ['.', '.'] then l.dropLast
  else l ++ [name]

def start (here : Location) (path : List Char) : Location :=
  if path.head? = some '/' then [] else here

def names (path : List Char) : List (List Char) :=
  (splitAll '/' path).filter fun name ↦ name ≠ [] ∧ name ≠ ['.']

def follow (here : Location) (path : List Char) : Location :=
  (names path).foldl step (start here path)

/-- Every place on a path in front of its last name. -/
def before (here : Location) (path : List Char) : List Location :=
  (List.range (names path).length).map fun n ↦
    ((names path).take n).foldl step (start here path)

def nameSize (name : List Char) : Nat := (utf8Bytes name).length

def isShortName (name : List Char) : Bool := nameSize name ≤ 255

def size (l : Location) : Nat := l.foldl (fun n name ↦ n + nameSize name + 1) 0

end Location

structure Folders where
  here : Location
  all : List Location

namespace Folders

def make? (f : Folders) (path : List Char) : Option Folders :=
  if (Location.names path).dropLast.all Location.isShortName then
    some { f with all := Location.before f.here path ++ f.all }
  else none

/-- Whether a file of rows can be at a place. The folder must be there, and no folder in its stead;
and there must be room for the longer name of the journal beside it, within 255 bytes for the name
and 512 for the whole. -/
def canHold (f : Folders) (l : Location) : Bool :=
  l ∉ f.all && l.dropLast ∈ f.all && (l.getLast?.any fun name ↦ Location.nameSize name + 8 ≤ 255) &&
    Location.size l + 8 ≤ 512

end Folders

end TieredRates
