import Stencil.Template.Failure
import Stencil.Template.Value

/-
  The outside of a template. What stands there, the host, answers functions and methods and
  may change a state as it does; that state outlives a failure.
-/

namespace Stencil.Template

/-- A failure and the line of the template it comes from. -/
structure Fault (ε : Type) where
  failure : Failure ε
  line : Nat

/-- Work that may change a state and may fail. -/
abbrev Work (ε σ : Type) := ExceptT ε (StateM σ)

/-- What a template calls: a function of the host, or a method of a thing outside. -/
inductive Callee (ω : Type) where
  | function (name : String)
  | method (thing : ω) (name : String)

/-- The outside of a template: `ω` are its things, `σ` its states, `ε` its causes of failure. -/
structure Host (ω σ ε : Type) where
  /-- The names of the functions. -/
  functions : List String
  answer : Callee ω → List (Value ω) → Work (Failure ε) σ (Value ω)

variable {ω σ ε : Type}

def fail {α : Type} (kind : ErrorKind) : Work (Failure ε) σ α := throw { kind }

/-- Work done for a line. -/
def onLine {α : Type} (line : Nat) (work : Work (Failure ε) σ α) : Work (Fault ε) σ α :=
  ExceptT.adapt (⟨·, line⟩) work

def failOn {α : Type} (line : Nat) (kind : ErrorKind) : Work (Fault ε) σ α :=
  onLine line (fail kind)

/-! ## Arguments -/

/-- The text of a value that must be defined. -/
def textOf (v : Value ω) : Work (Failure ε) σ String :=
  if v.isDefined then pure v.text else fail .undefinedValue

def noMore (args : List (Value ω)) : Work (Failure ε) σ Unit :=
  if args.isEmpty then pure () else fail .tooManyArguments

end Stencil.Template
