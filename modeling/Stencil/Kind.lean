import Stencil.Module.Declaration

/-
  What a type is good for: a record, a capability set, or nothing a template can take apart.
-/

namespace Stencil

/-- Why a type has no model. -/
inductive Unsupported where
  | definedOver (type : TypeExpr)
  /-- The module of the name cannot be loaded or does not declare it. -/
  | unresolved (type : TypeExpr)
  | builtin (name : String)
  | pointer (type : TypeExpr)
  | slice (type : TypeExpr)
  | verbatim (text : String)
  deriving DecidableEq, Repr

def Unsupported.message : Unsupported → String
  | definedOver type => (Shape.defined type).describe
  | unresolved type => "unresolved type " ++ type.display
  | builtin name => "builtin type " ++ name
  | pointer type => "pointer " ++ type.display
  | slice type => "slice " ++ type.display
  | verbatim text => "type " ++ text

inductive Kind where
  | record
  | capabilitySet
  | unsupported (why : Unsupported)
  deriving DecidableEq, Repr

namespace Kind

/-- The word templates compare with. -/
def word : Kind → String
  | record => "record"
  | capabilitySet => "capability_set"
  | unsupported _ => "unsupported"

def display : Kind → String
  | record => "record"
  | capabilitySet => "capability set"
  | unsupported why => "unsupported (" ++ why.message ++ ")"

end Kind

/-- The kind of a shape on its own. -/
def Shape.kind : Shape → Kind
  | record _ => .record
  | capabilities _ => .capabilitySet
  | defined base => .unsupported (.definedOver base)

end Stencil
