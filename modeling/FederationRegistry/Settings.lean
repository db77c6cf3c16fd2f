import FederationRegistry.Service
import FederationRegistry.Store.Relational.Connections
import FederationRegistry.Toml.Document

/-!
# Settings of a registry

A registry is set up by a TOML document with two tables: `store` says where its database is, `audit`
where audit records go. The document is refused as a whole when it is too large, is not UTF-8, is
not TOML, names what no setting is called, or has values that do not go together.

**Loading.** The document is at the path that the caller gives, else at the one that the
environment gives, else at a path of its own.
-/

namespace FederationRegistry

/-! ## Audit -/

/-- Where audit records go. -/
inductive AuditTarget where
  | none
  | stderr
  | file
deriving DecidableEq

/-- The name of the target. -/
def AuditTarget.label : AuditTarget → String
  | .none => "none"
  | .stderr => "stderr"
  | .file => "file"

/-- The audit settings. -/
structure AuditSettings where
  sink : AuditTarget := .none
  /-- The file, which the file target alone has. -/
  path : Option String := none
deriving DecidableEq

/-- The fields of the audit settings in order. -/
def AuditSettings.fields (format : SettingFormat) : List (SettingField AuditSettings) :=
  [⟨"sink", false, fun v s =>
      (format.word? ([AuditTarget.none, .stderr, .file].map fun t => (t.label, t)) v).map
        fun sink => { s with sink }⟩,
    ⟨"path", false, fun v s => v.optionalText?.map fun path => { s with path }⟩]

/-! ## Faults -/

/-- What a path is for. -/
inductive PathRole where
  | config
  | audit
deriving DecidableEq

/-- The role in words. -/
def PathRole.label : PathRole → String
  | .config => "config path"
  | .audit => "audit path"

/-- Why settings are refused. -/
inductive SettingsFault where
  | store (reason : Unfit)
  | fileWithoutPath
  | pathWithoutFile
  | blankPath (role : PathRole)
  | longPath (role : PathRole)
  | longComponent (role : PathRole)
  | tooLarge
  | notUtf8
deriving DecidableEq

/-- The fault in words. -/
def SettingsFault.message : SettingsFault → String
  | .store reason => "store: " ++ (StoreError.unfit reason).message
  | .fileWithoutPath => "file audit sink requires path"
  | .pathWithoutFile => "audit path is only valid for the file sink"
  | .blankPath role => role.label ++ " must be non-empty"
  | .longPath role => role.label ++ " exceeds max length"
  | .longComponent role => role.label ++ " component too long"
  | .tooLarge => "config file exceeds size limit"
  | .notUtf8 => "config file must be utf-8"

/-- Why a registry cannot be set up. -/
inductive SettingsError where
  /-- A file cannot be read or a store cannot be opened. -/
  | unreachable
  /-- The document is not TOML or does not have the shape of settings. -/
  | malformed
  | invalid (fault : SettingsFault)
  /-- The program stops while it opens the store. -/
  | stopped
deriving DecidableEq

/-- A store that does not open, as a reason why a registry cannot be set up. -/
def SettingsError.ofOpenFailure : OpenFailure → SettingsError
  | .refused _ => .unreachable
  | .stopped => .stopped

/-- The words of a refusal. -/
def SettingsFault.refusal (fault : SettingsFault) : String := "invalid config: " ++ fault.message

/-! ## Validity -/

/-- A file can be at a path for a purpose. -/
def checkPath (role : PathRole) (path : String) : Except SettingsFault Unit :=
  if Text.isBlank path then .error (.blankPath role)
  else if Path.isLong path then .error (.longPath role)
  else if Path.hasLongComponent path then .error (.longComponent role)
  else .ok ()

/-- There is a path exactly for the file target. -/
def AuditSettings.validate (s : AuditSettings) : Except SettingsFault Unit :=
  match s.sink, s.path with
  | .file, none => .error .fileWithoutPath
  | .file, some path => checkPath .audit path
  | _, some _ => .error .pathWithoutFile
  | _, none => .ok ()

/-- The settings of a registry. -/
structure RegistrySettings where
  store : StoreSettings
  audit : AuditSettings := {}
deriving DecidableEq

namespace RegistrySettings

/-- The first fault of the settings: the store comes before the audit. -/
def validate (isDirectory : String → Bool) (s : RegistrySettings) : Except SettingsFault Unit := do
  (s.store.validate isDirectory).mapError .store
  s.audit.validate

/-- The fields of the settings in order. -/
def fields (format : SettingFormat) : List (SettingField RegistrySettings) :=
  [⟨"store", true, fun v s => (StoreSettings.ofValue? format v).map fun store => { s with store }⟩,
    ⟨"audit", false, fun v s =>
      (SettingField.read? format (AuditSettings.fields format) {} v).map
        fun audit => { s with audit }⟩]

/-- The settings that a TOML document gives. -/
def ofToml? (text : String) : Option RegistrySettings :=
  (Toml.read text).bind
    (SettingField.read? .toml (fields .toml) { store := { path := "" } })

/-- The JSON form of the settings. -/
def toJson (s : RegistrySettings) : Json :=
  .object
    [("store", s.store.toJson),
      ("audit", .object
        [("sink", .string s.audit.sink.label), ("path", Json.ofText? s.audit.path)])]

/-- The greatest size of a document in bytes. -/
def maxSize : Nat := 1024 * 1024

/-- The settings in a document. -/
def ofBytes (isDirectory : String → Bool) (bytes : ByteArray) :
    Except SettingsError RegistrySettings := do
  if maxSize < bytes.size then throw (.invalid .tooLarge)
  let some text := String.fromUTF8? bytes | throw (.invalid .notUtf8)
  let some settings := ofToml? text | throw .malformed
  (settings.validate isDirectory).mapError .invalid
  return settings

/-! ## Loading -/

/-- The path of a document that nobody gives a path. -/
def defaultPath : String := "provider-registry.toml"

/-- The path of the document. A path from the environment is measured at once. -/
def choosePath (explicit environment : Option String) : Except SettingsFault String :=
  match explicit, environment with
  | some path, _ => .ok path
  | none, some path => if Path.isLong path then .error (.longPath .config) else .ok path
  | none, none => .ok defaultPath

/-- The settings in the document that the caller or the environment points to. -/
def load (files : Files) (explicit environment : Option String) :
    Except SettingsError RegistrySettings := do
  let path ← (choosePath explicit environment).mapError .invalid
  (checkPath .config path).mapError .invalid
  let some bytes := files.read? path | throw .unreachable
  ofBytes files.isDirectory bytes

/-! ## Opening -/

/-- The interceptor that the audit settings ask for, with a sink for each target. -/
def auditor? {ε : Type} (s : RegistrySettings) (sink : AuditTarget → AuditSink ε) :
    Option (Interceptor ε) :=
  match s.audit.sink with
  | .none => none
  | target => some (.audit (sink target))

/-- The files when the audit file is open. -/
def openAudit (s : RegistrySettings) (files : Files) : Except SettingsError Files :=
  match s.audit.path with
  | none => .ok files
  | some path => if files.canWrite path then .ok (files.touch path) else .error .unreachable

/-- A service over a database, with the audit that the settings ask for. The audit file is opened
before the database. -/
def openService {ε : Type} (s : RegistrySettings) (files : Files) (db : Database)
    (sink : AuditTarget → AuditSink ε) : Except SettingsError (Service OpenStore ε) := do
  (s.validate files.isDirectory).mapError .invalid
  let files ← s.openAudit files
  let opened ← (s.store.connect files db).mapError .ofOpenFailure
  return { store := opened, interceptors := (s.auditor? sink).toList }

end RegistrySettings

end FederationRegistry
