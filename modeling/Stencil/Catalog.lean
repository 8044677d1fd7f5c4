import Stencil.FileTree
import Stencil.Loader
import Stencil.Manifest.Reading

/-
  Manifests in a file tree. The manifest of a directory lies in it; that of a module path is
  looked for under every root, and must be one manifest, however often it is found.
-/

namespace Stencil

structure Catalog where
  roots : List String := []
  manifestName : String := "module.xml"

namespace Catalog

/-- Where the manifest of a module path may be, root by root. -/
def candidates (c : Catalog) (location : String) : List String :=
  c.roots.map fun root => Paths.join (Paths.join root location) c.manifestName

/-- The manifests that exist, each once, in order of their first roots. -/
def found (isFile : String → Bool) (paths : List String) : List String :=
  paths.foldl (fun kept path =>
    if isFile path && !kept.any (Paths.same path) then kept ++ [path] else kept) []

/-- The manifest of a location. -/
def locate (c : Catalog) (isFile : String → Bool) (workingDir : Option String)
    (location : String) : Except LoadError String :=
  if Location.isLocal location then do
    let dir ← Location.normalize workingDir location
    let manifest := Paths.join dir c.manifestName
    if isFile manifest then .ok manifest else .error (.notFound location)
  else match found isFile (c.candidates location) with
    | [] => .error (.notFound location)
    | [manifest] => .ok manifest
    | manifests => .error (.ambiguous location manifests)

/-- The module at a location and its manifest. -/
def find (c : Catalog) (tree : FileTree) (location : String) :
    Except LoadError (Module × List String) := do
  let manifest ← c.locate tree.isFile tree.workingDir location
  let text ← (tree.readText manifest).mapError (.unreadable manifest)
  let m ← (Manifest.read text).mapError (.malformed manifest)
  .ok (m, [manifest])

def loader (c : Catalog) (tree : FileTree) : Loader := .ofModules (c.find tree)

end Catalog

end Stencil
