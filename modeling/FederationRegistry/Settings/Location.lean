import FederationRegistry.Settings.Address
import FederationRegistry.Settings.Files
import FederationRegistry.Settings.Store

/-!
# Where a database is

The path of a store is the name of its database. Most names are paths of files; `:memory:` is a
database in memory; and a name that starts with `file:` is an address.

**In memory** every connection has a database of its own, unless an address makes them share one.

**Files.** The directories on the way to a name are made, as far as it is a path: an address leads
where its own path says, and finds the directories there or does not. Beside a database the engine
keeps a journal, so a path has to leave room for the ending of its name.
-/

namespace FederationRegistry

/-- Where a database is. -/
inductive Location where
  /-- In memory, for all connections together or for each of them. -/
  | memory (isShared : Bool)
  | file (place : Place)
deriving DecidableEq

/-! ## Room -/

/-- The ending of the name of a journal. -/
def journalEnding : String := "-journal"

/-- So many bytes and the ending of a journal keep in a limit. -/
def leavesRoom (limit length : Nat) : Bool :=
  decide (length + journalEnding.utf8ByteSize ≤ limit)

/-- The greatest length in bytes of a path on the disk. -/
def maxDiskPath : Nat := 512

/-- The greatest length in bytes of a path in memory. -/
def maxMemoryPath : Nat := 1024

/-- The engine can keep a database at a path: it leads to a place with a name, in a directory that
is there, and to no directory; there is room for a journal, and for every place on the way; and no
name on the way is looked up in a file, which the database is as well once it is there. -/
def Files.canKeepDatabase (files : Files) (path : String) : Bool :=
  let place := Place.ofPath path
  (place.name?.any fun name =>
    files.isDirectory place.parent.text && !files.isDirectory place.text &&
      leavesRoom Path.maxSegmentLength (String.ofList name).utf8ByteSize &&
      leavesRoom maxDiskPath place.text.utf8ByteSize) &&
    ((Place.way path).all fun p => decide (p.text.utf8ByteSize < maxDiskPath)) &&
    (Place.searches path).all fun p => p != place && !files.isFile p

/-! ## Addresses -/

/-- The name of a database in memory. -/
def memoryName : String := ":memory:"

/-- The system that keeps files in memory. -/
def memorySystem : String := "memdb"

/-- The systems that keep files on the disk. -/
def diskSystems : List String := ["unix", "unix-dotfile", "unix-excl", "unix-none"]

namespace Address

/-- The path names a file that all connections find in memory: more follows a slash of either
kind. -/
def isFoundInMemory (a : Address) : Bool :=
  match a.path with
  | [] | [_] => false
  | b :: _ => [47, 92].contains b

/-- The file whose permissions a new file gets is there, if the address names one. -/
def hasModel (a : Address) (files : Files) : Bool :=
  (a.values "modeof").head?.all files.isThere

/-- The index of a journal of the newer kind, which connections have in common, may not be made. -/
def lacksIndex (a : Address) (journal : JournalMode) : Bool :=
  journal = .wal && a.system = "unix" && a.isOn "readonly_shm" && !a.isOn "nolock"

/-- Where the database of an address is, if a store can be opened there. A store writes, so it takes
none that is only read or that never changes. Without a path a database goes with its
connection. -/
def location? (a : Address) (files : Files) (journal : JournalMode) : Option Location := do
  let mode ← a.mode?
  let isShared ← a.isShared?
  if mode = .read || !(memorySystem :: diskSystems).contains a.system then none
  else if a.path.isEmpty then some (.memory false)
  else if mode = .memory || a.text = memoryName then some (.memory isShared)
  else if a.isOn "immutable" then none
  else if a.system = memorySystem then
    if leavesRoom maxMemoryPath a.path.length then some (.memory (isShared || a.isFoundInMemory))
    else none
  else if (mode = .write && !files.isFile (.ofPath a.text)) || !a.hasModel files ||
      a.lacksIndex journal then none
  else if files.canKeepDatabase a.text then some (.file (.ofPath a.text))
  else none

end Address

/-! ## Names -/

/-- What an address starts with. -/
def addressScheme : String := "file:"

namespace Location

/-- Where the database of a name is, if it can be opened among the files. -/
def find? (files : Files) (journal : JournalMode) (name : String) : Option Location :=
  let cs := name.toList
  if cs.contains '\x00' then none
  else
    (files.makeWay name).toOption.bind fun files =>
      if name = memoryName then some (.memory false)
      else if addressScheme.toList.isPrefixOf cs then
        (Address.read? (cs.drop addressScheme.length)).bind (·.location? files journal)
      else if files.canKeepDatabase name then some (.file (.ofPath name))
      else none

/-- Why no database of a name can be opened among the files: there is no way to it, or the engine
does not take it. -/
def failure (files : Files) (name : String) : StoreError :=
  match files.makeWay name with
  | .error failure => .files failure
  | .ok _ =>
    let cs := name.toList
    if cs.contains '\x00' then
      .engine (.nul (String.ofList (cs.takeWhile (· ≠ '\x00'))).utf8ByteSize)
    else .engine .cannotOpen

/-- All connections see one database. -/
def isShared : Location → Bool
  | .memory isShared => isShared
  | .file _ => true

end Location

end FederationRegistry
