import Stencil.Module.Declaration
import Stencil.View.Error

/-
  Records and capability sets as templates see them: members in order of their names, without
  the fields that are marked to be skipped.
-/

namespace Stencil

/-- A field whose tag carries the flag `skip` under the key `gen`. -/
def Field.isSkipped (f : Field) : Bool := f.tag.hasFlag "gen" "skip"

namespace View

/-- Members in order of their names; those of one name keep their order. -/
def sortByName {α : Type} (name : α → String) (members : List α) : List α :=
  members.mergeSort fun a b => name a ≤ name b

structure Record where
  name : String
  fields : List Field

def Record.ofFields (name : String) (fields : List Field) : Record :=
  ⟨name, sortByName Field.name (fields.filter (!·.isSkipped))⟩

/-- A parameter or result; `variadic` marks the parameter that collects all further ones. -/
structure Argument where
  name : String
  type : TypeExpr
  variadic : Bool
  deriving DecidableEq, Repr

structure Method where
  name : String
  variadic : Bool
  args : List Argument
  returns : List Argument
  deriving DecidableEq, Repr

/-- The parameters, of which the last is variadic if the method is. -/
def argumentsOf (variadic : Bool) : List Param → List Argument
  | [] => []
  | [last] => [⟨last.name, last.type, variadic⟩]
  | p :: rest => ⟨p.name, p.type, false⟩ :: argumentsOf variadic rest

def Method.ofDeclared (m : Stencil.Method) : Method where
  name := m.name
  variadic := m.variadic
  args := argumentsOf m.variadic m.params
  returns := m.results.map fun p => ⟨p.name, p.type, false⟩

/-- The result at an index from zero. -/
def Method.result (m : Method) (index : Nat) : Except ModelError Argument :=
  if m.returns.isEmpty then .error (.noResults m.name)
  else match m.returns[index]? with
    | some result => .ok result
    | none => .error (.resultOutOfRange m.name index m.returns.length)

structure CapabilitySet where
  name : String
  methods : List Method

def CapabilitySet.ofMethods (name : String) (methods : List Stencil.Method) : CapabilitySet :=
  ⟨name, sortByName Method.name (methods.map Method.ofDeclared)⟩

end View

end Stencil
