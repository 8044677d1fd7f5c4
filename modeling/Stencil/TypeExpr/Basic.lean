import Stencil.ModuleName

/-
  Type expressions: pointer and slice markers around one leaf, which is a name, owned by a
  module or not, or a text kept as it was written.
-/

namespace Stencil

inductive TypeExpr where
  | pointer (inner : TypeExpr)
  | slice (inner : TypeExpr)
  /-- A named type; without an owner it is built in. -/
  | named (owner : Option ModuleName) (name : String)
  /-- An expression outside the grammar, as written. -/
  | verbatim (text : String)
  deriving DecidableEq, Repr

/-- The two markers. -/
inductive Marker where
  | pointer
  | slice
  deriving DecidableEq, Repr

def Marker.text : Marker → String
  | .pointer => "*"
  | .slice => "[]"

namespace TypeExpr

def builtin (name : String) : TypeExpr := named none name

def mark : Marker → TypeExpr → TypeExpr
  | .pointer, t => pointer t
  | .slice, t => slice t

/-- The markers, outermost first. -/
def markers : TypeExpr → List Marker
  | pointer t => .pointer :: markers t
  | slice t => .slice :: markers t
  | _ => []

def leaf : TypeExpr → TypeExpr
  | pointer t | slice t => leaf t
  | t => t

/-- Puts `f leaf` in the place of the leaf. -/
def mapLeaf (f : TypeExpr → TypeExpr) : TypeExpr → TypeExpr
  | pointer t => pointer (mapLeaf f t)
  | slice t => slice (mapLeaf f t)
  | t => f t

/-- `markers` around `t`. -/
def wrap (ms : List Marker) (t : TypeExpr) : TypeExpr := ms.foldr mark t

def markerText (t : TypeExpr) : String := String.join (t.markers.map Marker.text)

def isIndirect : TypeExpr → Bool
  | pointer _ | slice _ => true
  | _ => false

/-- The leaf's owner. -/
def owner (t : TypeExpr) : Option ModuleName :=
  match t.leaf with
  | named owner _ => owner
  | _ => none

/-- The leaf's name without its owner, or its text. -/
def bareName (t : TypeExpr) : String :=
  match t.leaf with
  | named _ name => name
  | verbatim text => text
  | _ => ""

/-- The written form, with the owner's path unquoted. -/
def display : TypeExpr → String
  | pointer t => "*" ++ display t
  | slice t => "[]" ++ display t
  | named (some owner) name => owner.path ++ "." ++ name
  | named none name => name
  | verbatim text => text

end TypeExpr

end Stencil
