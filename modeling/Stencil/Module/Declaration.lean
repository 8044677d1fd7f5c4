import Stencil.TypeExpr.Basic
import Stencil.Tag.Query

/-
  Declared types: a name bound to the fields of a record, the methods of a capability set,
  or another type.
-/

namespace Stencil

structure Field where
  name : String
  type : TypeExpr
  tag : Tag := ⟨""⟩
  deriving DecidableEq, Repr

/-- A parameter or a result; its name may be empty. -/
structure Param where
  name : String
  type : TypeExpr
  deriving DecidableEq, Repr

structure Method where
  name : String
  variadic : Bool := false
  params : List Param := []
  results : List Param := []
  deriving DecidableEq, Repr

inductive Shape where
  | record (fields : List Field)
  | capabilities (methods : List Method)
  | defined (base : TypeExpr)
  deriving DecidableEq, Repr

def Shape.describe : Shape → String
  | record _ => "record"
  | capabilities _ => "capability set"
  | defined base => "defined type over " ++ base.display

structure Declaration where
  name : String
  shape : Shape
  deriving DecidableEq, Repr

end Stencil
