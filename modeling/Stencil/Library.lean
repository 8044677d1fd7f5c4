import Stencil.Cache
import Stencil.Catalog
import Stencil.Chain
import Stencil.Shelf

/-
  The modules within reach: a loader behind a cache, and the types found in them.
-/

namespace Stencil

structure Library where
  loader : Loader
  /-- The working directory, from which local locations are resolved. -/
  workingDir : Option String
  /-- How many steps a chain of defined types may take. -/
  reach : Nat

/-- Work that may load modules and may fail. -/
abbrev LoadM := ExceptT LoadError (StateM Cache)

namespace Library

/-- The manifests of a file tree. Every type within reach is written in one of its files, so
no chain is longer than their content. -/
def ofCatalog (c : Catalog) (tree : FileTree) : Library where
  loader := c.loader tree
  workingDir := tree.workingDir
  reach := tree.entries.rows.foldr (fun (_, entry) n =>
    match entry with
    | .file content => content.size + n
    | _ => n) 2

/-- Manifests in memory. -/
def ofShelf (s : Shelf) (workingDir : Option String) : Library where
  loader := s.loader
  workingDir := workingDir
  reach := s.texts.foldr (fun (_, text) n => text.utf8ByteSize + n) 2

/-- The module at a location, with at least some facets. -/
def load (lib : Library) (location : String) (facets : Facets) : LoadM Loaded :=
  fun cache =>
    match Location.normalize lib.workingDir location with
    | .error e => (.error e, cache)
    | .ok key => cache.request lib.loader key facets

/-- A type of the module at a location. -/
def lookup (lib : Library) (location name : String) (facets : Facets) : LoadM Located := do
  let loaded ← lib.load location (facets.union { types := true })
  ExceptT.mk (pure (loaded.snapshot.locate name))

/-- The end of the chain from a type, across modules. -/
def resolve (lib : Library) (x : Located) : StateM Cache (Located × Stop) :=
  follow (fun owner name => (lib.lookup owner.path name { name := true }).run) lib.reach [] x

/-- The facets a location is kept with. -/
def keptFacets (lib : Library) (cache : Cache) (location : String) : Option Facets :=
  match Location.normalize lib.workingDir location with
  | .error _ => none
  | .ok key => (cache.entries.find? key).map (·.facets)

end Library

end Stencil
