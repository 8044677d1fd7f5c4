import Stencil.Plain.Tree

/-
  Building expressions so that what operators make of literals is known. It stands on the line
  where its expression starts. What makes no sense is left to fail when it runs.
-/

namespace Stencil.Plain

open Template

namespace Literal

/-- A literal's value where there are no objects. -/
def value (l : Literal) : Value Empty := l.toValue

def isTrue (l : Literal) : Bool := l.value.isTrue

end Literal

namespace Expr

/-- The value of an expression, if it is known. -/
def known? : Expr → Option Literal
  | literal value _ => some value
  | known value _ => some value
  | _ => none

def literal? : Expr → Option Literal
  | literal value _ => some value
  | _ => none

/-- The literals that some expressions are, if all of them are. -/
def literals? (es : List Expr) : Option (List Literal) := es.mapM literal?

/-- A list is known if nothing but literals stand in it. -/
def ofList (start : Nat) (items : List Expr) : Expr :=
  match literals? items with
  | some values => known (.list values) start
  | none => list items

def ofNot (start : Nat) (e : Expr) : Expr :=
  match e.known? with
  | some v => known (.bool !v.isTrue) start
  | none => not e

def ofNegative (start : Nat) (e : Expr) : Expr :=
  match e.known? with
  | some (.number n) =>
    match n.neg? with
    | some m => known (.number m) start
    | none => negative e
  | _ => negative e

/-- A conjunction of literals is false unless both are true. -/
def ofAnd (start : Nat) (left right : Expr) : Expr :=
  match left.known?, right.known? with
  | some a, some b => known (if a.isTrue && b.isTrue then b else .bool false) start
  | _, _ => and left right

def ofOr (start : Nat) (left right : Expr) : Expr :=
  match left.known?, right.known? with
  | some a, some b => known (if a.isTrue then a else b) start
  | _, _ => or left right

def ofConcat (start : Nat) (left right : Expr) : Expr :=
  match left.known?, right.known? with
  | some a, some b => known (.str (a.value.joined b.value)) start
  | _, _ => concat left right

end Expr

/-- Whether all comparisons with literals hold, from a value on. -/
def Links.hold? (first : Literal) : Links → Option Bool
  | .last c e => do c.holds? first.value (← e.known?).value
  | .more c e rest => do
    let next ← e.known?
    let holds ← c.holds? first.value next.value
    return (← rest.hold? next) && holds

def Expr.ofCompare (start : Nat) (first : Expr) (links : Links) : Expr :=
  match first.known?.bind links.hold? with
  | some holds => known (.bool holds) start
  | none => compare first links

end Stencil.Plain
