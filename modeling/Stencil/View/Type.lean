import Stencil.Session
import Stencil.View.Member

/-
  Models of types within a session. A type is a record or a capability set if its chain of
  defined types ends in one; the model keeps the type's own name.
-/

namespace Stencil

/-- The shape at the end of the chain from a type, across modules and then within the last. -/
def Session.shapeOf (s : Session) (x : Located) : StateM Cache Shape := do
  let (last, _) ← s.resolve x
  pure last.shape

namespace View

def recordOf (s : Session) (x : Located) : StateM Cache (Except ModelError Record) := do
  match ← s.shapeOf x with
  | .record fields => pure (.ok (.ofFields x.declared.name fields))
  | other =>
    pure (.error (.kindMismatch x.declared.name Kind.record.display other.kind.display))

def capabilitySetOf (s : Session) (x : Located) :
    StateM Cache (Except ModelError CapabilitySet) := do
  match ← s.shapeOf x with
  | .capabilities methods => pure (.ok (.ofMethods x.declared.name methods))
  | other =>
    pure (.error (.kindMismatch x.declared.name Kind.capabilitySet.display other.kind.display))

/-- A type as written somewhere, and what it is found to be. -/
structure TypeView where
  type : TypeExpr
  kind : Kind
  /-- The declaration, for a name with an owner that can be had. -/
  located : Option Located

/-- Only a plain name is looked up: a marker around a record makes it no record. -/
def ofType (s : Session) (t : TypeExpr) : StateM Cache TypeView :=
  match t with
  | .named (some owner) name => do
    match ← (s.locate owner name).run with
    | .ok x => pure ⟨t, (← s.shapeOf x).kind, some x⟩
    | .error _ => pure ⟨t, .unsupported (.unresolved t), none⟩
  | .named none name => pure ⟨t, .unsupported (.builtin name), none⟩
  | .pointer _ => pure ⟨t, .unsupported (.pointer t), none⟩
  | .slice _ => pure ⟨t, .unsupported (.slice t), none⟩
  | .verbatim text => pure ⟨t, .unsupported (.verbatim text), none⟩

namespace TypeView

def name (v : TypeView) : String := v.type.bareName

def mismatch (v : TypeView) (expected : Kind) : ModelError :=
  .kindMismatch v.type.display expected.display v.kind.display

def record (s : Session) (v : TypeView) : StateM Cache (Except ModelError Record) :=
  match v.kind, v.located with
  | .record, some x => recordOf s x
  | _, _ => pure (.error (v.mismatch .record))

def capabilitySet (s : Session) (v : TypeView) :
    StateM Cache (Except ModelError CapabilitySet) :=
  match v.kind, v.located with
  | .capabilitySet, some x => capabilitySetOf s x
  | _, _ => pure (.error (v.mismatch .capabilitySet))

end TypeView

end View

end Stencil
