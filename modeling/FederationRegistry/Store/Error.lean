import FederationRegistry.ModelError
import FederationRegistry.Reference
import FederationRegistry.Store.Relational.Cell

/-!
# What can go wrong in storage

A relational store fails for one of five kinds of reason: the file system, the database engine,
rows that no longer form an aggregate, a schema of another version, or a value that the store does
not take. The wording is in `StoreError.message` alone.
-/

namespace FederationRegistry

/-- Why the engine refused a statement. -/
inductive EngineFailure where
  /-- Another row has the same values in these columns. -/
  | unique (columns : List String)
  /-- A row would refer to a row that is not there. -/
  | foreignKey
  /-- No identifier is left for a new row. -/
  | full
  /-- A column that is read holds a value of another kind than the reader wants; columns are counted
  from zero in the order in which they are read. -/
  | columnKind (found : CellKind) (index : Nat) (column : String)
  | noTable (name : String)
  /-- There is no database, and none can be made. -/
  | cannotOpen
  /-- The name of a database has a NUL in it. -/
  | nul (position : Nat)
  | other (text : String)
deriving DecidableEq

namespace EngineFailure

/-- The failure in the engine's words. -/
def message : EngineFailure → String
  | .unique columns => "UNIQUE constraint failed: " ++ ", ".intercalate columns
  | .foreignKey => "FOREIGN KEY constraint failed"
  | .full => "database or disk is full"
  | .columnKind found index column =>
    "Invalid column type " ++ found.label ++ " at index: " ++ Decimal.text index ++
      ", name: " ++ column
  | .noTable name => "no such table: " ++ name
  | .cannotOpen => "unable to open database file"
  | .nul position => "nul byte found in provided data at position: " ++ Decimal.text position
  | .other text => text

end EngineFailure

/-- What is wrong with stored rows. -/
inductive Corruption where
  | negative (value : Int)
  | zeroId (entity : Entity)
  /-- The text of a property is not JSON. -/
  | propertyText (key : String)
  /-- A claim, a connector or a section breaks a rule of the model. -/
  | part (error : ModelError)
  /-- The aggregate as a whole breaks a rule of the model. -/
  | aggregate (entity : Entity) (row : Int) (error : ModelError)
  /-- The sections of a service provider do not decode. -/
  | sectionsText (row : Int)
deriving DecidableEq

namespace Corruption

/-- The corruption in words. -/
def message : Corruption → String
  | .negative value => "negative stored value: " ++ Decimal.intText value
  | .zeroId entity => entity.label ++ " id 0"
  | .propertyText key => "property '" ++ key ++ "' holds invalid json"
  | .part error => error.message
  | .aggregate entity row error =>
    "stored " ++ entity.label ++ " " ++ Decimal.intText row ++ " is invalid: " ++ error.message
  | .sectionsText row =>
    Entity.serviceProvider.label ++ " " ++ Decimal.intText row ++ " config is invalid"

end Corruption

/-- A value that a store does not take. -/
inductive Unfit where
  /-- The value does not fit a column. -/
  | beyondColumn (value : Nat)
  | emptyReadPool
  | emptyPath
  | longPath
  | longPathSegment
  | directoryPath
deriving DecidableEq

namespace Unfit

/-- Why the value is not taken. -/
def message : Unfit → String
  | .beyondColumn value => "value " ++ Decimal.text value ++ " exceeds sqlite integer range"
  | .emptyReadPool => "read_pool_size must be greater than zero"
  | .emptyPath => "store path must not be empty"
  | .longPath => "store path exceeds length limit"
  | .longPathSegment => "store path contains an overlong component"
  | .directoryPath => "store path must be a file, not a directory"

end Unfit

/-- Why the directories on the way to a database cannot be made. -/
inductive WayFailure where
  /-- A file is where a directory is to be made. -/
  | fileThere
  /-- A file is where a directory should be to make another one in. -/
  | fileBefore
  /-- The name of a directory has a NUL in it. -/
  | nul
deriving DecidableEq

namespace WayFailure

/-- The failure in words. -/
def message : WayFailure → String
  | .fileThere => "File exists (os error 17)"
  | .fileBefore => "Not a directory (os error 20)"
  | .nul => "file name contained an unexpected NUL byte"

end WayFailure

/-- A failure of a relational store. -/
inductive StoreError where
  | files (failure : WayFailure)
  | engine (failure : EngineFailure)
  | corrupt (corruption : Corruption)
  /-- The schema has another version. -/
  | version (found : Int)
  | unfit (reason : Unfit)
deriving DecidableEq

namespace StoreError

/-- The failure in words. -/
def message : StoreError → String
  | .files failure => "sqlite store io error: " ++ failure.message
  | .engine failure => "sqlite store db error: " ++ failure.message
  | .corrupt corruption => "sqlite store corruption: " ++ corruption.message
  | .version found =>
    "sqlite store version mismatch: unsupported schema version: " ++ Decimal.intText found
  | .unfit reason => "sqlite store invalid data: " ++ reason.message

end StoreError

end FederationRegistry
