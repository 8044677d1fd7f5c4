import Stencil.Loader
import Stencil.Manifest.Reading

/-
  Manifests held in memory. Each stands for exactly one location, and its file is named by
  `mem:` and the location.
-/

namespace Stencil

/-- Manifest texts by location; the first of a location counts. -/
structure Shelf where
  texts : List (String × String)

namespace Shelf

def find (s : Shelf) (location : String) : Except LoadError (Module × List String) := do
  let file := "mem:" ++ location
  match s.texts.lookup location with
  | none => .error (.notFound location)
  | some text =>
    let m ← (Manifest.read text).mapError (.malformed file)
    .ok (m, [file])

def loader (s : Shelf) : Loader := .ofModules s.find

end Shelf

end Stencil
