import FederationRegistry.Text.Blank

/-!
# Paths in settings

A path is a text in which slashes divide segments. It may be so long in all and so long in one
segment, both counted in bytes. Before segments are measured the path is taken apart into
components: the root, if it leads there, and the segments, without empty ones and without single
dots other than a leading one. What is dropped is never too long, so the limits hold for the text
as it stands.
-/

namespace FederationRegistry.Path

/-- The greatest length of a path in bytes. -/
def maxLength : Nat := 4096

/-- The greatest length of a segment in bytes. -/
def maxSegmentLength : Nat := 255

/-- The segments between the slashes of a path, empty ones included. -/
def segments : List Char → List (List Char)
  | [] => [[]]
  | c :: cs =>
    if c = '/' then [] :: segments cs
    else
      match segments cs with
      | [] => [[c]]
      | s :: ss => (c :: s) :: ss

/-- The segment says something about the way. -/
def isStep (segment : List Char) : Bool := segment != [] && segment != ['.']

/-- The components of a path. -/
def components (path : String) : List (List Char) :=
  match path.toList with
  | '/' :: cs => ['/'] :: (segments cs).filter isStep
  | cs =>
    match segments cs with
    | ['.'] :: ss => ['.'] :: ss.filter isStep
    | ss => ss.filter isStep

/-- The path is too long in all. -/
def isLong (path : String) : Bool := decide (maxLength < path.utf8ByteSize)

/-- A component of the path is too long. -/
def hasLongComponent (path : String) : Bool :=
  (components path).any fun c => decide (maxSegmentLength < (String.ofList c).utf8ByteSize)

/-- The directory in which the last segment of a path stands. -/
def parent (path : String) : String :=
  match (path.toList.reverse.dropWhile (· ≠ '/')).reverse with
  | [] => "."
  | directory => String.ofList directory

/-- Something can be looked up under the path: the path is shorter than the greatest length and
without NUL. -/
def isUsable (path : String) : Bool :=
  decide (path.utf8ByteSize < maxLength) && path.toList.all (· != '\x00')

/-- The path leads to a directory wherever one starts: it is made of the root and of dots alone. -/
def isDots (path : String) : Bool :=
  path != "" && isUsable path &&
    (components path).all fun c => c == ['/'] || c == ['.'] || c == ['.', '.']

end FederationRegistry.Path
