import Stencil.Template.Engine
import Stencil.Plain.Tree
import Stencil.Text.Case

/-
  Filters, tests, operators and calls on values. Undefined values may be tested, joined and
  replaced by a default; all else needs a value.
-/

namespace Stencil.Plain

open Template

variable {ω α : Type}

/-! ## Demands on values -/

/-- The text of a value that must be defined. -/
def shown (v : Value ω) : Except ErrorKind String :=
  if v.isDefined then .ok v.text else .error .undefinedValue

def truth (v : Value ω) : Except ErrorKind Bool :=
  if v.isDefined then .ok v.isTrue else .error .undefinedValue

/-- What a loop over the value goes over. -/
def parts (v : Value ω) : Except ErrorKind (List (Value ω)) :=
  if v.isDefined then
    match v.parts? with
    | some parts => .ok parts
    | none => .error .invalidOperation
  else .error .undefinedValue

def noOthers (args : List (Value ω)) : Except ErrorKind Unit :=
  if args.isEmpty then .ok () else .error .tooManyArguments

/-! ## Filters and tests -/

/-- Whether a false value gives way to the default as well. -/
def isLax : List (Value ω) → Except ErrorKind Bool
  | [] => .ok false
  | v :: rest => do
    noOthers rest
    truth v

/-- Texts one after the other; `between` stands before each that has something before it. -/
def joinTexts (between : String) (texts : List String) : String :=
  texts.foldl (fun out s => if out.isEmpty then s else out ++ between ++ s) ""

/-- What stands between the texts that are joined. -/
def separator : List (Value ω) → String
  | [] | .none :: _ => ""
  | v :: _ => v.text

/-- The texts of a value's parts in one. What is not there has no parts. -/
def join (v : Value ω) (args : List (Value ω)) : Except ErrorKind (Value ω) :=
  match if v.isDefined then v.parts? else some [] with
  | some parts => .ok (.str (joinTexts (separator args) (parts.map Value.text)))
  | none => .error .invalidOperation

def applyFilter (name : String) (v : Value ω) (args : List (Value ω)) :
    Except ErrorKind (Value ω) := do
  if name = "length" ∨ name = "count" then
    noOthers args
    match v.length? with
    | some n => return .number (.natural n)
    | none => throw .invalidOperation
  else if name = "upper" then
    let s ← shown v
    noOthers args
    return .str (Text.upper s)
  else if name = "lower" then
    let s ← shown v
    noOthers args
    return .str (Text.lower s)
  else if name = "join" then
    noOthers (args.drop 1)
    join v args
  else if name = "default" ∨ name = "d" then
    let other := args.head?.getD (.str "")
    let lax ← isLax (args.drop 1)
    return if v.isDefined && !(lax && !v.isTrue) then v else other
  else throw .unknownFilter

def applyTest (name : String) (v : Value ω) (args : List (Value ω)) :
    Except ErrorKind (Value ω) := do
  if name = "defined" then
    noOthers args
    return .bool v.isDefined
  else if name = "undefined" then
    noOthers args
    return .bool !v.isDefined
  else throw .unknownTest

/-! ## Operators -/

def comparing (c : Comparison) (a b : Value ω) : Except ErrorKind Bool :=
  if a.isDefined && b.isDefined then
    match c.holds? a b with
    | some holds => .ok holds
    | none => .error .invalidOperation
  else .error .undefinedValue

def concatenate (a b : Value ω) : Except ErrorKind (Value ω) :=
  if a.isDefined && b.isDefined then .ok (.str (a.joined b)) else .error .undefinedValue

def negate (v : Value ω) : Except ErrorKind (Value ω) :=
  if v.isDefined then
    match v.neg? with
    | some v => .ok v
    | none => .error .invalidOperation
  else .error .undefinedValue

/-! ## Calls -/

/-- Goes on with an answer, or complains of a line. -/
def orComplain (line : Nat) : Except ErrorKind α → Run ω α
  | .ok a => .done a
  | .error kind => .failed line kind

/-- Calls a value, which only a function allows. A loop is no function by another name. -/
def callValue (line : Nat) (callee : Value ω) (args : List (Value ω)) : Run ω (Value ω) :=
  match callee with
  | .function name => .called line (.function name) args .done
  | .object (.own _) _ _ => .failed line .unknownFunction
  | _ => .failed line .invalidOperation

/-- Calls what a name stands for. No loop can be run again from inside, and there is nothing
above a template. -/
def callNamed (line : Nat) (name : String) (callee : Option (Value ω)) (args : List (Value ω)) :
    Run ω (Value ω) :=
  if name = "super" then .failed line .invalidOperation
  else match callee with
    | none => .failed line .unknownFunction
    | some callee =>
      if name = "loop" then .failed line .invalidOperation else callValue line callee args

def callMethod (line : Nat) (v : Value ω) (method : String) (args : List (Value ω)) :
    Run ω (Value ω) :=
  match v with
  | .object (.thing t) _ _ => .called line (.method t method) args .done
  | _ => .failed line .unknownMethod

end Stencil.Plain
