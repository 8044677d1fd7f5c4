import Stencil.Module.Problems
import Stencil.Facets

/-
  Modules as loaded: what was asked for, and nothing of what was not.
-/

namespace Stencil

structure Snapshot where
  /-- The location it was loaded from. -/
  location : String
  facets : Facets
  module : Module
  files : List String
  diagnostics : List Diagnostic

namespace Snapshot

/-- A module cut down to the facets asked for. -/
def project (location : String) (facets : Facets) (m : Module) (files : List String)
    (diagnostics : List Diagnostic) : Snapshot where
  location := location
  facets := facets
  module := { m with
    types := if facets.types then m.types else {}
    imports := if facets.imports then m.imports else []
    root := if facets.root then m.root else none }
  files := if facets.files then files else []
  diagnostics := diagnostics

def path (s : Snapshot) : String := s.module.path

def find? (s : Snapshot) (name : String) : Option Declaration := s.module.types.find? name

/-- The paths under it are local when imports are organized: the root, or the module's own
path without one. -/
def localPrefix (s : Snapshot) : String := s.module.root.getD s.path

end Snapshot

end Stencil
