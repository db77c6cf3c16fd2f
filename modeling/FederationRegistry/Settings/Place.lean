import FederationRegistry.Settings.Path

/-!
# Places

A path says how to go from a start, the root or the directory one is in, to a *place*. Different
paths lead to one place: `a//b`, `./a/b` and `a/c/../b` do. Two dots lead back to where the segment
before them came from, whether that is a directory or not, so a place is known from the text of a
path alone.
-/

namespace FederationRegistry

/-- A place among the files. -/
structure Place where
  /-- The way starts at the root. -/
  isRooted : Bool
  /-- The segments of the way, the last one first. -/
  segments : List (List Char) := []
deriving DecidableEq

namespace Place

/-- The segment that leads back. -/
def back : List Char := ['.', '.']

/-- The last segment of the way. The root has none, nor has a directory above the start. -/
def name? (p : Place) : Option (List Char) := p.segments.head?.filter (· != back)

/-- The place one segment on. Nothing is above the root. -/
def enter (p : Place) (segment : List Char) : Place :=
  if segment = back then
    if p.name?.isSome then { p with segments := p.segments.tail }
    else if p.isRooted then p
    else { p with segments := segment :: p.segments }
  else { p with segments := segment :: p.segments }

/-- The places from which the segments of a way lead on. -/
def passed (p : Place) : List (List Char) → List Place
  | [] => []
  | s :: ss => p :: (p.enter s).passed ss

/-- The places in which the names on a way are looked up. -/
def searched (p : Place) : List (List Char) → List Place
  | [] => []
  | s :: ss => if s = back then (p.enter s).searched ss else p :: (p.enter s).searched ss

/-- The start of a path. -/
def start (path : String) : Place := { isRooted := path.toList.head? == some '/' }

/-- The segments of a path that lead on. -/
def steps (path : String) : List (List Char) := (Path.segments path.toList).filter Path.isStep

/-- The place to which a path leads. -/
def ofPath (path : String) : Place := (steps path).foldl enter (start path)

/-- The places that a path passes before its last segment. -/
def way (path : String) : List Place := (start path).passed (steps path)

/-- The places in which the names on a path are looked up. -/
def searches (path : String) : List Place := (start path).searched (steps path)

/-- The place before the last segment. -/
def parent (p : Place) : Place := { p with segments := p.segments.tail }

/-- The shortest path that leads to the place. -/
def text (p : Place) : String :=
  let relative := String.ofList (List.intercalate ['/'] p.segments.reverse)
  if p.isRooted then "/" ++ relative else if p.segments.isEmpty then "." else relative

end Place

end FederationRegistry
