import FederationRegistry.Json.Form
import FederationRegistry.Settings.Path
import FederationRegistry.Settings.Value
import FederationRegistry.Store.Error

/-!
# Settings of a relational store

Where the database is, how long to wait for it, how it keeps its journal, and how many connections
read from it. All but the path have defaults. `validate` reports the first setting that a store
cannot be opened with.
-/

namespace FederationRegistry

/-- How a database keeps its journal. -/
inductive JournalMode where
  | wal
  | delete
deriving DecidableEq

/-- The name of the mode. -/
def JournalMode.label : JournalMode → String
  | .wal => "wal"
  | .delete => "delete"

/-- How a database waits for the disk. -/
inductive SyncMode where
  | full
  | normal
deriving DecidableEq

/-- The name of the mode. -/
def SyncMode.label : SyncMode → String
  | .full => "full"
  | .normal => "normal"

/-- The settings of a relational store. -/
structure StoreSettings where
  path : String
  busyTimeoutMs : Nat := 5000
  journalMode : JournalMode := .wal
  syncMode : SyncMode := .full
  /-- The number of connections that read. -/
  readPoolSize : Nat := 4
deriving DecidableEq

namespace StoreSettings

/-- The fields of the settings in order. -/
def fields (format : SettingFormat) : List (SettingField StoreSettings) :=
  [⟨"path", true, fun v s => v.text?.map fun path => { s with path }⟩,
    ⟨"busy_timeout_ms", false, fun v s => v.word64?.map fun n => { s with busyTimeoutMs := n }⟩,
    ⟨"journal_mode", false, fun v s =>
      (format.word? ([JournalMode.wal, .delete].map fun m => (m.label, m)) v).map
        fun journalMode => { s with journalMode }⟩,
    ⟨"sync_mode", false, fun v s =>
      (format.word? ([SyncMode.full, .normal].map fun m => (m.label, m)) v).map
        fun syncMode => { s with syncMode }⟩,
    ⟨"read_pool_size", false, fun v s => v.word64?.map fun n => { s with readPoolSize := n }⟩]

/-- The settings that a value gives. -/
def ofValue? (format : SettingFormat) : SettingValue → Option StoreSettings :=
  SettingField.read? format (fields format) { path := "" }

/-- The JSON form of the settings. -/
def toJson (s : StoreSettings) : Json :=
  .object
    [("path", .string s.path),
      ("busy_timeout_ms", Json.ofNat s.busyTimeoutMs),
      ("journal_mode", .string s.journalMode.label),
      ("sync_mode", .string s.syncMode.label),
      ("read_pool_size", Json.ofNat s.readPoolSize)]

/-- A file can be at the path, as far as `isDirectory` knows. -/
def checkPath (isDirectory : String → Bool) (path : String) : Except Unfit Unit :=
  if path = "" then .error .emptyPath
  else if Path.isLong path then .error .longPath
  else if Path.hasLongComponent path then .error .longPathSegment
  else if isDirectory path then .error .directoryPath
  else .ok ()

/-- A store can be opened with the settings. -/
def validate (isDirectory : String → Bool) (s : StoreSettings) : Except Unfit Unit :=
  if s.readPoolSize = 0 then .error .emptyReadPool else checkPath isDirectory s.path

end StoreSettings

end FederationRegistry
