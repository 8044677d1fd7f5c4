import Stencil.LoadError
import Stencil.Paths

/-
  Locations of modules. A location is a module path, or local: the path of a directory. Local
  locations are normalized to absolute paths, so that each directory has one location.
-/

namespace Stencil.Location

def isLocalChars (s : List Char) : Bool :=
  match s with
  | '/' :: _ | ['.'] | '.' :: '/' :: _ | ['.', '.'] | '.' :: '.' :: '/' :: _ => true
  | _ => false

/-- `.`, `..`, what begins with `./` or `../`, and absolute paths. -/
def isLocal (location : String) : Bool := isLocalChars location.toList

/-- One step of folding: a dot stays, two dots go up where that is possible. -/
def step (at_ : List (List Char)) (part : List Char) : List (List Char) :=
  if part = [] ∨ part = ['.'] then at_
  else if part = ['.', '.'] then at_.dropLast
  else at_ ++ [part]

/-- The components of the directory reached from another one along a path. -/
def fold (base : List (List Char)) (path : List Char) : List (List Char) :=
  (path.splitOn '/').foldl step base

/-- The absolute path with some components. -/
def write (components : List (List Char)) : String :=
  String.ofList ('/' :: ['/'].intercalate components)

/-- The one location of a directory; module paths stay as they are. -/
def normalize (workingDir : Option String) (location : String) : Except LoadError String :=
  if !isLocal location then .ok location
  else if Paths.isAbsolute location.toList then .ok (write (fold [] location.toList))
  else match workingDir with
    | some dir => .ok (write (fold (fold [] dir.toList) location.toList))
    | none => .error (.unresolvable location .notFound)

end Stencil.Location
