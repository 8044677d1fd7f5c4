import Stencil.Template.Host

/-
  Template engines. All that is known of an engine is what passes between a template and its
  outside. The engine is given the template, the names of the functions outside and the root; the
  template then runs, as the engine sees fit: it prints pieces and calls functions and methods, as
  often and in the order it likes, and what it does next may depend on all the answers it has got.

  So this is taken for granted of an engine: the text is the pieces in the order in which they
  were printed; a run ends; and a call that fails ends it, with the failure of the call.
-/

namespace Stencil.Template

/-- What a template does, to the end. -/
inductive Run (ω α : Type) where
  | done (a : α)
  /-- The engine itself complains of a line. -/
  | failed (line : Nat) (kind : ErrorKind)
  | printed (piece : String) (rest : Run ω α)
  | called (line : Nat) (callee : Callee ω) (args : List (Value ω)) (next : Value ω → Run ω α)

namespace Run

variable {ω σ ε α β : Type}

/-- Goes on where a run is done. -/
def bind : Run ω α → (α → Run ω β) → Run ω β
  | done a, f => f a
  | failed line kind, _ => failed line kind
  | printed piece rest, f => printed piece (rest.bind f)
  | called line callee args next, f => called line callee args fun answer => (next answer).bind f

instance : Monad (Run ω) where
  pure := done
  bind := bind

/-- What a run prints where the host answers its calls. -/
def on (host : Host ω σ ε) : Run ω α → Work (Fault ε) σ (List String)
  | done _ => pure []
  | failed line kind => failOn line kind
  | printed piece rest => do return piece :: (← rest.on host)
  | called line callee args next => do
    let answer ← onLine line (host.answer callee args)
    (next answer).on host

end Run

/-- What a template does on a root, given the names of the functions outside. -/
abbrev Program (ω : Type) := (functions : List String) → (root : Value ω) → Run ω Unit

/-- An engine; `ω` are the things outside, which answer methods. -/
structure Engine (ω : Type) where
  /-- What the template of a path and a text does, or what is wrong with the text. -/
  read : (path text : String) → Except ErrorKind (Program ω)

end Stencil.Template
