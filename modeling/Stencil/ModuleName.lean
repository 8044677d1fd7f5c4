import Stencil.Naming

/-
  How a module is named where another declaration refers to it.
-/

namespace Stencil

/-- A module's path with the short name it goes by. -/
structure ModuleName where
  path : String
  short : String
  deriving DecidableEq, Repr

def ModuleName.ofPath (path : String) : ModuleName := ⟨path, defaultShortName path⟩

end Stencil
