import Stencil.Plain.Value

/-
  Plain templates as trees of statements and expressions. Operators between literals are worked
  out already: what they come to is known when the template is read.
-/

namespace Stencil.Plain

open Template

inductive Literal where
  | none
  | bool (b : Bool)
  | number (n : Number)
  | str (s : String)
  | list (items : List Literal)

mutual

def Literal.toValue {ω : Type} : Literal → Value ω
  | .none => .none
  | .bool b => .bool b
  | .number n => .number n
  | .str s => .str s
  | .list items => .list (toValues items)

def Literal.toValues {ω : Type} : List Literal → List (Value ω)
  | [] => []
  | l :: rest => l.toValue :: toValues rest

end

/-- The comparisons between values. -/
inductive Comparison where
  | equal
  | notEqual
  | less
  | lessEqual
  | greater
  | greaterEqual
  | isIn
  | isNotIn
  deriving DecidableEq, Repr

/-- Whether it holds between two values, if it makes sense. -/
def Comparison.holds? {ω : Type} (c : Comparison) (a b : Value ω) : Option Bool :=
  match c with
  | equal => some (a.same b)
  | notEqual => some !a.same b
  | less => some (a.order b = .lt)
  | lessEqual => some (a.order b ≠ .gt)
  | greater => some (a.order b = .gt)
  | greaterEqual => some (a.order b ≠ .lt)
  | isIn => b.contains? a
  | isNotIn => (b.contains? a).map not

mutual

/-- Expressions. Leaves and calls carry their line. -/
inductive Expr where
  | literal (value : Literal) (line : Nat)
  /-- What an expression comes to that starts on the line. -/
  | known (value : Literal) (line : Nat)
  | name (id : String) (line : Nat)
  | list (items : List Expr)
  | attr (of : Expr) (key : String)
  | item (of : Expr) (key : Expr)
  | filter (name : String) (of : Expr) (args : List Expr)
  | test (name : String) (of : Expr) (args : List Expr)
  | negative (e : Expr)
  | not (e : Expr)
  | and (left right : Expr)
  | or (left right : Expr)
  | concat (left right : Expr)
  /-- A value and those it is compared with, each with the one before it. -/
  | compare (first : Expr) (links : Links)
  | call (function : String) (args : List Expr) (line : Nat)
  | callMethod (of : Expr) (method : String) (args : List Expr)
  | callValue (of : Expr) (args : List Expr)

inductive Links where
  | last (comparison : Comparison) (e : Expr)
  | more (comparison : Comparison) (e : Expr) (rest : Links)

end

mutual

/-- The line of an expression's last leaf, which is where an error at its end is reported;
`before` is that of the leaf before it. -/
def Expr.line (before : Nat) : Expr → Nat
  | .literal _ line => line
  | .known _ line => line
  | .name _ line => line
  | .list items => lastLine before items
  | .attr of _ => of.line before
  | .item of key => key.line (of.line before)
  | .filter _ of args => lastLine (of.line before) args
  | .test _ of args => lastLine (of.line before) args
  | .negative e => e.line before
  | .not e => e.line before
  | .and left right => right.line (left.line before)
  | .or left right => right.line (left.line before)
  | .concat left right => right.line (left.line before)
  | .compare first links => links.line (first.line before)
  | .call _ args line => lastLine line args
  | .callMethod of _ args => lastLine (of.line before) args
  | .callValue of args => lastLine (of.line before) args

def Links.line (before : Nat) : Links → Nat
  | .last _ e => e.line before
  | .more _ e rest => rest.line (e.line before)

def lastLine (before : Nat) : List Expr → Nat
  | [] => before
  | e :: rest => lastLine (e.line before) rest

end

inductive Stmt where
  | text (s : String)
  /-- Prints a value. -/
  | emit (e : Expr)
  | cond (test : Expr) (yes no : List Stmt)
  /-- `otherwise` runs if there is nothing to go over. -/
  | loop (name : String) (range : Expr) (body otherwise : List Stmt)
  | set (name : String) (value : Expr)

end Stencil.Plain
