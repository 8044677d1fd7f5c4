import Stencil.Snapshot
import Stencil.Kind
import Stencil.LoadError

/-
  Chains of defined types. A type defined over a plain name stands for the type of that name,
  which may itself be defined; a chain is followed until something stops it.
-/

namespace Stencil

/-- A declared type in its module. -/
structure Located where
  module : Snapshot
  declared : Declaration

/-- What tells a type from others on a chain. -/
def Located.key (x : Located) : String × String := (x.module.path, x.declared.name)

/-- Why a chain ends where it does. -/
inductive Stop where
  /-- At a record or a capability set. -/
  | shape
  /-- The type is defined over something other than a plain name with an owner. -/
  | notNamed
  /-- The next type cannot be had. -/
  | failed (why : LoadError)
  /-- A type of this module and name came before on the chain. -/
  | repeated
  /-- The steps allowed are used up. -/
  | exhausted
  deriving DecidableEq, Repr

/-- Follows a chain for at most `n` steps, where `seen` are the keys of earlier types. -/
def follow {m : Type → Type} [Monad m]
    (locate : ModuleName → String → m (Except LoadError Located)) :
    Nat → List (String × String) → Located → m (Located × Stop)
  | 0, _, x => pure (x, .exhausted)
  | n + 1, seen, x =>
    if x.key ∈ seen then pure (x, .repeated)
    else match x.declared.shape with
      | .defined (.named (some owner) name) => do
        match ← locate owner name with
        | .ok next => follow locate n (x.key :: seen) next
        | .error why => pure (x, .failed why)
      | .defined _ => pure (x, .notNamed)
      | _ => pure (x, .shape)

namespace Snapshot

/-- A type of this module. -/
def locate (s : Snapshot) (name : String) : Except LoadError Located :=
  match s.find? name with
  | some d => .ok ⟨s, d⟩
  | none => .error (.typeNotFound s.path name)

/-- The next type of a chain that stays in the module. -/
def locateWithin (s : Snapshot) (owner : ModuleName) (name : String) :
    Except LoadError Located :=
  if owner.path = s.path then s.locate name else .error (.notFound owner.path)

end Snapshot

namespace Located

/-- The shape at the end of the chain, as far as it stays in the module. Each step but the
first is at a declaration of the module, so the steps suffice. -/
def shape (x : Located) : Shape :=
  let steps := x.module.module.types.list.length + 2
  let (last, _) := Id.run (follow (m := Id) (x.module.locateWithin · ·) steps [] x)
  last.declared.shape

/-- The kind of the type within its module. -/
def kind (x : Located) : Kind := x.shape.kind

end Located

end Stencil
