import Stencil.Module.Types

/-
  Modules as their manifests declare them.
-/

namespace Stencil

/-- An imported module's path and the short name the importer gives it. -/
structure Import where
  path : String
  name : String
  deriving DecidableEq, Repr

structure Module where
  path : String
  name : String
  /-- The path of the enclosing root, which counts as local when imports are organized. -/
  root : Option String := none
  imports : List Import := []
  types : Types := {}

def Module.moduleName (m : Module) : ModuleName := ⟨m.path, m.name⟩

end Stencil
