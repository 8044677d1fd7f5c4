import Stencil.Plain.Operation
import Stencil.Plain.Reading
import Stencil.Plain.Scope

/-
  The plain engine, for a part of the template language: texts, values, conditions, loops and
  names, with few operators, filters and tests. What else the language has, it refuses. The
  library takes engines as they come; this one is there to run it, and as an engine that what is
  assumed of engines is true of.
-/

namespace Stencil.Plain

open Template

variable {ω : Type}

/-! ## Expressions -/

mutual

def eval (scope : Scope ω) : Expr → Run ω (Value ω)
  | .literal value _ => pure value.toValue
  | .known value _ => pure value.toValue
  | .name id _ => pure ((scope.find? id).getD .undefined)
  | .list items => return .list (← evalAll scope items)
  | .attr of key => do
    let v ← eval scope of
    if v.isDefined then pure (v.attr key) else .failed (of.line 0) .undefinedValue
  | .item of key => do
    let v ← eval scope of
    let key ← eval scope key
    if v.isDefined then pure (v.item key) else .failed (of.line 0) .undefinedValue
  | .filter name of args => do
    let v ← eval scope of
    let args ← evalAll scope args
    orComplain (of.line 0) (applyFilter name v args)
  | .test name of args => do
    let v ← eval scope of
    let args ← evalAll scope args
    orComplain (of.line 0) (applyTest name v args)
  | .negative e => do
    let v ← eval scope e
    orComplain (e.line 0) (negate v)
  | .not e => do
    let v ← eval scope e
    return .bool !(← orComplain (e.line 0) (truth v))
  | .and left right => do
    let v ← eval scope left
    if ← orComplain (left.line 0) (truth v) then eval scope right else pure v
  | .or left right => do
    let v ← eval scope left
    if ← orComplain (left.line 0) (truth v) then pure v else eval scope right
  | .concat left right => do
    let a ← eval scope left
    let b ← eval scope right
    orComplain (right.line (left.line 0)) (concatenate a b)
  | .compare first links => do
    let v ← eval scope first
    return .bool (← evalLinks scope v links)
  | .call function args line => do
    let args' ← evalAll scope args
    callNamed (lastLine line args) function (scope.find? function) args'
  | .callMethod of method args => do
    let v ← eval scope of
    let args' ← evalAll scope args
    callMethod (lastLine (of.line 0) args) v method args'
  | .callValue of args => do
    let v ← eval scope of
    let args' ← evalAll scope args
    callValue (lastLine (of.line 0) args) v args'

/-- Whether all comparisons hold, from a value on; after the first that does not, there are no
more. -/
def evalLinks (scope : Scope ω) (v : Value ω) : Links → Run ω Bool
  | .last c e => do
    let next ← eval scope e
    orComplain (e.line 0) (comparing c v next)
  | .more c e rest => do
    let next ← eval scope e
    if ← orComplain (e.line 0) (comparing c v next) then evalLinks scope next rest
    else pure false

def evalAll (scope : Scope ω) : List Expr → Run ω (List (Value ω))
  | [] => pure []
  | e :: rest => do
    let v ← eval scope e
    return v :: (← evalAll scope rest)

end

/-! ## Statements -/

/-- Runs the body of a loop for each of its passes. -/
def runPasses (name : String) (body : Scope ω → Run ω (Scope ω)) :
    List (Pass ω) → Scope ω → Run ω Unit
  | [], _ => pure ()
  | p :: rest, scope => do runPasses name body rest (← body (scope.pass name p))

mutual

/-- Runs a statement, up to the names it leaves behind. -/
def exec (scope : Scope ω) : Stmt → Run ω (Scope ω)
  | .text s => .printed s (pure scope)
  | .emit e => do
    let v ← eval scope e
    .printed (← orComplain (e.line 0) (shown v)) (pure scope)
  | .cond test yes no => do
    let v ← eval scope test
    if ← orComplain (test.line 0) (truth v) then execAll scope yes else execAll scope no
  | .loop name range body otherwise => do
    let v ← eval scope range
    let parts ← orComplain (range.line 0) (parts v)
    if parts.isEmpty then execAll scope otherwise
    else
      runPasses name (fun s => execAll s body) (passes parts) scope.enter
      return scope
  | .set name value => do
    let v ← eval scope value
    return scope.put name v

def execAll (scope : Scope ω) : List Stmt → Run ω (Scope ω)
  | [] => pure scope
  | s :: rest => do execAll (← exec scope s) rest

end

/-- What statements do as a template. -/
def program (body : List Stmt) : Program ω := fun functions root => do
  let _ ← execAll { root, functions } body
  return ()

def engine : Engine ω where
  read _ text := (Plain.read text).map program

end Stencil.Plain
