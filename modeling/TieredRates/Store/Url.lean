import TieredRates.Store.Location
import TieredRates.Store.Rows
import TieredRates.Text.Quoted

namespace TieredRates

open Text

inductive OpenError where
  | unsupportedScheme (scheme : String)
  | refused
deriving DecidableEq

namespace OpenError

def message : OpenError → String
  | unsupportedScheme scheme => s!"Unsupported database scheme {Text.quote scheme} " ++
      "(is the matching repo feature enabled?)"
  | refused => "<detail>"

end OpenError

inductive StorePlace where
  | table
  | rows
  | file (location : Location)
deriving DecidableEq

namespace StorePlace

/-- How rows are opened. A file that cannot change can only be read, like one that is opened for
reading. -/
structure Access where
  readOnly : Bool := false
  unchanging : Bool := false
  inMemory : Bool := false
  system : Option String := none

def Access.set? (a : Access) : String × String → Option Access
  | ("mode", "ro") => some { a with readOnly := true }
  | ("mode", "rw") | ("mode", "rwc") => some a
  | ("mode", "memory") => some { a with inMemory := true }
  | ("cache", "private") | ("cache", "shared") => some a
  | ("immutable", "true") | ("immutable", "1") => some { a with unchanging := true }
  | ("immutable", "false") | ("immutable", "0") => some { a with unchanging := false }
  | ("vfs", system) => some { a with system := some system }
  | _ => none

def systems : List String := ["unix", "unix-excl", "unix-dotfile", "unix-none", "memdb"]

def Access.isUsable (a : Access) : Bool := !a.readOnly && a.system.all (· ∈ systems)

/-- The path in an address of a file: behind the scheme and the host, which must be this one, and as
far as a query or a fragment. -/
def filePath? (s : List Char) : Option (List Char) := do
  let path ← match s with
    | '/' :: '/' :: s =>
      let host := s.takeWhile (· ≠ '/')
      if host = [] ∨ host = "localhost".toList then some (s.dropWhile (· ≠ '/')) else none
    | s => some s
  return ofUtf8 (percentBytes (path.takeWhile fun c ↦ c ≠ '?' && c ≠ '#'))

/-- The path that a name of rows stands for: the name itself or, if it is the address of a file, the
path in that. Where a system or a promise is given along with it, a name is only a name. -/
def pathOf? (a : Access) (name : List Char) : Option (List Char) :=
  match behind? "file:".toList name with
  | some rest => if a.system.isSome ∨ a.unchanging then some name else filePath? rest
  | none => some name

def memory : List Char := ":memory:".toList

def ofRows? (folders : Folders) (given : List Char) : Option StorePlace := do
  let (raw, query) := splitFirst '?' given
  let name ← ofUtf8? (percentBytes raw)
  let access ← (queryPairs (query.getD [])).foldlM Access.set? {}
  let path ← pathOf? access name
  let location := Location.follow folders.here path
  if !access.isUsable ∨ '\x00' ∈ name then none
  else if access.inMemory ∨ path = [] ∨ path = memory then some .rows
  else if access.unchanging then none
  else if access.system = some "memdb" then some .rows
  else if !(Location.names path).all Location.isShortName then none
  else if folders.canHold location then some (.file location)
  else none

/-- The folders once those are made that an address leads through. That happens only behind two
slashes, and for the path as it stands in the address. -/
def madeFor? (folders : Folders) (url : List Char) : Option Folders :=
  match behind? "sqlite://".toList url with
  | some rest =>
    let (raw, _) := splitFirst '?' rest
    if raw = memory then some folders else folders.make? raw
  | none => some folders

def ofUrl (folders : Folders) (url : String) : Except OpenError StorePlace :=
  let scheme := (splitFirst ':' url.toList).1
  if scheme = "memory".toList then .ok .table
  else if scheme = "sqlite".toList then
    let given := dropRepeated "sqlite:".toList (dropRepeated "sqlite://".toList url.toList)
    match (madeFor? folders url.toList).bind (ofRows? · given) with
    | some place => .ok place
    | none => .error .refused
  else .error (.unsupportedScheme (String.ofList scheme))

def isLasting : StorePlace → Bool
  | file _ => true
  | _ => false

def create : StorePlace → Store
  | table => .table ∅
  | rows | file _ => .rows default

/-- What a place holds once the store in it has been left and opened again. -/
def reopen (place : StorePlace) (s : Store) : Store :=
  if place.isLasting then s else place.create

end StorePlace

end TieredRates
