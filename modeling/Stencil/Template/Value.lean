import Stencil.Template.Number
import Stencil.Text.Quoted

/-
  The values of templates, as they pass between a template and its outside, and how they print.
-/

namespace Stencil.Template

/-- What stands behind an object; `ω` are the things outside of the template. -/
inductive Source (ω : Type) where
  /-- A thing that answers methods. -/
  | thing (t : ω)
  /-- Nothing outside: an object of the engine's own, which it knows by a number. -/
  | own (number : Nat)

/-- Values; `ω` are the things outside of the template that answer methods. -/
inductive Value (ω : Type) where
  | undefined
  | none
  | bool (b : Bool)
  | number (n : Number)
  | str (s : String)
  | list (items : List (Value ω))
  /-- Something with attributes, in order, that prints as its attributes if it has no `text`. -/
  | object (source : Source ω) (text : Option String) (attributes : List (String × Value ω))
  | function (name : String)

namespace Value

variable {ω : Type}

/-- The number a value counts as: a boolean is zero or one. -/
def number? : Value ω → Option Number
  | bool b => some (.natural b.toNat)
  | number n => some n
  | _ => Option.none

/-- The whole number a value counts as. -/
def whole? (v : Value ω) : Option Int := v.number?.bind (·.whole?)

/-! ## Printing -/

mutual

/-- A value inside another one, where texts are quoted. -/
def inner : Value ω → String
  | undefined => "undefined"
  | none => "none"
  | bool b => if b then "true" else "false"
  | number n => n.inner
  | str s => Text.quoted s
  | list items => "[" ++ ", ".intercalate (innerItems items) ++ "]"
  | object _ (some text) _ => text
  | object _ Option.none attributes =>
    "\x7b" ++ ", ".intercalate (innerRows attributes) ++ "\x7d"
  | function name => name

def innerItems : List (Value ω) → List String
  | [] => []
  | v :: rest => v.inner :: innerItems rest

def innerRows : List (String × Value ω) → List String
  | [] => []
  | (key, v) :: rest => (Text.quoted key ++ ": " ++ v.inner) :: innerRows rest

end

/-- A value printed on its own. -/
def text : Value ω → String
  | undefined => ""
  | number n => n.text
  | str s => s
  | v => v.inner

def isDefined : Value ω → Bool
  | undefined => false
  | _ => true

end Value

end Stencil.Template
