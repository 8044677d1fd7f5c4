import Stencil.ImportBlock
import Stencil.Library

/-
  One run of generation: the library, the module that the target type lives in, and the block
  of imports that grows as types are written. The target module answers for itself from the
  snapshot the session was opened with.
-/

namespace Stencil

structure Session where
  library : Library
  target : Snapshot

/-- What changes during a session. -/
structure Session.State where
  cache : Cache
  imports : ImportBlock

namespace Session

/-- The state of a session just opened. -/
def start (s : Session) (cache : Cache) : State := ⟨cache, { target := s.target.path }⟩

/-- Work on the cache alone. -/
def onCache {α : Type} (work : StateM Cache α) : StateM State α := fun state =>
  let (a, cache) := work state.cache
  (a, { state with cache })

/-- Work on the import block alone. -/
def onImports {α : Type} (work : ImportBlock → α × ImportBlock) : StateM State α :=
  fun state =>
  let (a, imports) := work state.imports
  (a, { state with imports })

def typeString (t : TypeExpr) : StateM State String := onImports (·.typeString t)

/-- The alias of a module known by location only, under the path it declares. -/
def importModule (s : Session) (location : String) : StateM State (Except LoadError String) :=
  fun state =>
    match state.imports.alias? location with
    | some name => (.ok name, state)
    | none =>
      match s.library.load location { name := true } state.cache with
      | (.error e, cache) => (.error e, { state with cache })
      | (.ok loaded, cache) =>
        let (name, imports) := state.imports.aliasFor loaded.snapshot.module.moduleName
        (.ok name, ⟨cache, imports⟩)

/-- A type by its owner and name. -/
def locate (s : Session) (owner : ModuleName) (name : String) : LoadM Located :=
  if owner.path = s.target.path then ExceptT.mk (pure (s.target.locate name))
  else s.library.lookup owner.path name { name := true }

/-- The end of the chain from a type. -/
def resolve (s : Session) (x : Located) : StateM Cache (Located × Stop) :=
  follow (fun owner name => (s.locate owner name).run) s.library.reach [] x

end Session

end Stencil
