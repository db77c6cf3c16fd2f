import FederationRegistry.Settings.Place
import FederationRegistry.Store.Error

/-!
# The files around a registry

What a registry asks of a file system: which paths lead to directories, and what can be read. Making
files and directories gives further files, so what is opened later sees what was opened before.
-/

namespace FederationRegistry

/-- The files around a registry. -/
structure Files where
  isDirectory : String → Bool
  read? : String → Option ByteArray

namespace Files

/-- A file is at a place. -/
def isFile (files : Files) (place : Place) : Bool := (files.read? place.text).isSome

/-- A file can be written at a path: the directory it stands in is there, and it is none
itself. -/
def canWrite (files : Files) (path : String) : Bool :=
  Path.isUsable path && files.isDirectory (Path.parent path) && !files.isDirectory path

/-- Something is at a path. -/
def isThere (files : Files) (path : String) : Bool :=
  files.isDirectory path || (files.read? path).isSome

/-- The files with one at a path, which is empty if it is new. It is found under every path that
ends with its name in its directory. -/
def touch (files : Files) (path : String) : Files :=
  let isAt (p : String) : Bool :=
    files.isDirectory (Path.parent p) && decide (Place.ofPath p = .ofPath path)
  { files with
    read? := fun p =>
      match files.read? p with
      | none => if isAt p then some .empty else none
      | found => found }

/-- The files with all directories that a path passes. A file on the way is in the way. Directories
are made from the far end back to one that is there, so a file is met where a directory is to be
made, unless all before it is there already and a directory behind it is wanted. -/
def makeWay (files : Files) (path : String) : Except WayFailure Files :=
  let way := Place.way path
  let isThere (place : Place) : Bool := way.contains place || files.isDirectory place.text
  if (Place.steps path).dropLast.any (·.contains '\x00') then .error .nul
  else
    match way.span fun place => !files.isFile place with
    | (before, _ :: behind) =>
      if behind.isEmpty || before.any fun place => !files.isDirectory place.text then
        .error .fileThere
      else .error .fileBefore
    | (_, []) =>
      .ok
        { files with
          isDirectory := fun p =>
            files.isDirectory p || (p != "" && (Place.way p ++ [Place.ofPath p]).all isThere) }

end Files

end FederationRegistry
