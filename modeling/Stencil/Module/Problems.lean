import Stencil.Module.Basic
import Stencil.Text.Quoted

/-
  Problems of a module that do not keep it from being used: names declared twice in one
  scope, variadic methods without a slice to collect their arguments, and an empty name.
-/

namespace Stencil

inductive Problem where
  | emptyName
  | duplicateType (name : String)
  | duplicateField (field record : String)
  | duplicateMethod (method set : String)
  | variadicWithoutParams (method set : String)
  | variadicNotSlice (param method set : String)
  | duplicateImport (path : String)
  deriving DecidableEq, Repr

def Problem.message : Problem → String
  | emptyName => "module has an empty name"
  | duplicateType name => "duplicate type '" ++ name ++ "'"
  | duplicateField field record =>
    "duplicate field '" ++ field ++ "' in record '" ++ record ++ "'"
  | duplicateMethod method set =>
    "duplicate method '" ++ method ++ "' in capability set '" ++ set ++ "'"
  | variadicWithoutParams method set =>
    "variadic method '" ++ set ++ "." ++ method ++ "' has no parameters"
  | variadicNotSlice param method set =>
    "variadic parameter '" ++ param ++ "' of '" ++ set ++ "." ++ method ++ "' is not a slice"
  | duplicateImport path => "duplicate import " ++ Text.quoted path

/-- A problem of the module with this path. -/
structure Diagnostic where
  module : String
  problem : Problem
  deriving DecidableEq, Repr

def Diagnostic.display (d : Diagnostic) : String := d.module ++ ": " ++ d.problem.message

/-- Each item with whether its key stands before it in the list; `seen` are earlier keys. -/
def withRepeats {α : Type} (key : α → String) (seen : List String) : List α → List (α × Bool)
  | [] => []
  | a :: rest => (a, seen.contains (key a)) :: withRepeats key (key a :: seen) rest

def TypeExpr.isSlice : TypeExpr → Bool
  | .slice _ => true
  | _ => false

def variadicProblems (set : String) (m : Method) : List Problem :=
  if m.variadic then
    match m.params.getLast? with
    | none => [.variadicWithoutParams m.name set]
    | some last => if last.type.isSlice then [] else [.variadicNotSlice last.name m.name set]
  else []

def Declaration.problems (d : Declaration) : List Problem :=
  match d.shape with
  | .record fields =>
    (withRepeats Field.name [] fields).flatMap fun (f, again) =>
      if again then [.duplicateField f.name d.name] else []
  | .capabilities methods =>
    (withRepeats Method.name [] methods).flatMap fun (m, again) =>
      (if again then [.duplicateMethod m.name d.name] else []) ++ variadicProblems d.name m
  | .defined _ => []

def Module.problems (m : Module) : List Problem :=
  (if m.name.isEmpty then [.emptyName] else []) ++
  ((withRepeats Declaration.name [] m.types.list).flatMap fun (d, again) =>
    (if again then [.duplicateType d.name] else []) ++ d.problems) ++
  (withRepeats Import.path [] m.imports).flatMap fun (i, again) =>
    if again then [.duplicateImport i.path] else []

def Module.diagnostics (m : Module) : List Diagnostic := m.problems.map (⟨m.path, ·⟩)

end Stencil
