import Stencil.Snapshot
import Stencil.LoadError

/-
  Where modules come from. A loader answers calls one after another; it is told how many came
  before, so its answers may change from call to call.
-/

namespace Stencil

/-- The answer to a call, given the number of earlier calls, the location and the facets. -/
abbrev Loader := Nat → String → Facets → Except LoadError Snapshot

/-- A loader whose answers depend on nothing but the module at the location. -/
def Loader.ofModules (find : String → Except LoadError (Module × List String)) : Loader :=
  fun _ location facets => (find location).map fun (m, files) =>
    Snapshot.project location facets m files m.diagnostics

end Stencil
