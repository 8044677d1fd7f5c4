import Stencil.Render.Model
import Stencil.Template.Host

/-
  The methods of models. An unknown method is refused before its arguments are looked at.
-/

namespace Stencil.Render

open Template (Failure Work fail noMore)

/-- Causes of failure that the template is to blame for. -/
inductive Cause where
  | model (why : ModelError)
  /-- A method was given arguments and takes none. -/
  | takesNone (method : String)
  deriving DecidableEq, Repr

def Cause.message : Cause → String
  | model why => why.message
  | takesNone method => method ++ "() takes no arguments"

/-- What changes while a template runs. -/
structure State where
  session : Session.State
  /-- Whether the template has asked for the import block. -/
  importsCalled : Bool := false

abbrev Step (α : Type) := Work (Failure Cause) State α

def onSession {α : Type} (work : StateM Session.State α) : Step α := fun state =>
  let (a, session) := work state.session
  (.ok a, { state with session })

def onCache {α : Type} (work : StateM Cache α) : Step α := onSession (Session.onCache work)

def blame {α : Type} (why : ModelError) : Step α := throw ⟨.invalidOperation, some (.model why)⟩

/-- The model, unless there is a reason against it. -/
def orBlame {α : Type} : Except ModelError α → Step α
  | .ok a => pure a
  | .error why => blame why

/-! ## Arguments of methods -/

def takesNone (method : String) (args : List Value) : Step Unit :=
  if args.isEmpty then pure () else throw ⟨.tooManyArguments, some (.takesNone method)⟩

/-- The first argument, which must be a text, and the others. -/
def takeText : List Value → Step (String × List Value)
  | [] => fail .missingArgument
  | .str s :: rest => pure (s, rest)
  | _ => fail .invalidOperation

def oneText (args : List Value) : Step String := do
  let (s, rest) ← takeText args
  noMore rest
  pure s

def twoTexts (args : List Value) : Step (String × String) := do
  let (a, rest) ← takeText args
  let (b, rest) ← takeText rest
  noMore rest
  pure (a, b)

/-- Indices have at most 64 bits. -/
def indexBound : Nat := 18446744073709551616

/-- The only argument, which must be a whole number that can be an index. -/
def oneIndex : List Value → Step Nat
  | [] => fail .missingArgument
  | v :: rest =>
    match v.whole? with
    | some n => do
      if 0 ≤ n ∧ n.toNat < indexBound then
        noMore rest
        pure n.toNat
      else fail .invalidOperation
    | none => fail .invalidOperation

/-! ## Methods -/

/-- The methods of what has a type. -/
def typeMethod (s : Session) (type : TypeExpr) (method : String) (args : List Value) :
    Step Value := do
  if method = "type_string" then
    takesNone method args
    return .str (← onSession (Session.typeString type))
  else if method = "type_canonical" then
    takesNone method args
    return .str type.canonical
  else if method = "type" then
    takesNone method args
    return .ofType (← onCache (View.ofType s type))
  else fail .unknownMethod

def viewMethod (s : Session) (v : View.TypeView) (method : String) (args : List Value) :
    Step Value := do
  if method = "record" then
    takesNone method args
    return .ofRecord (← orBlame (← onCache (v.record s)))
  else if method = "capability_set" then
    takesNone method args
    return .ofCapabilitySet (← orBlame (← onCache (v.capabilitySet s)))
  else fail .unknownMethod

def methodMethod (m : View.Method) (method : String) (args : List Value) : Step Value := do
  if method = "args" then
    takesNone method args
    return .ofSignature m.args
  else if method = "returns" then
    if args.isEmpty then return .ofSignature m.returns
    else
      let index ← oneIndex args
      return .ofArgument (← orBlame (m.result index))
  else fail .unknownMethod

def tagMethod (t : Tag) (method : String) (args : List Value) : Step Value := do
  if method = "has" then return .bool (t.has (← oneText args))
  else if method = "get" then return .str (t.get (← oneText args))
  else if method = "values" then return .list ((t.values (← oneText args)).map .str)
  else if method = "has_flag" then
    let (key, flag) ← twoTexts args
    return .bool (t.hasFlag key flag)
  else fail .unknownMethod

def argumentsMethod (a : Arguments) (method : String) (args : List Value) : Step Value := do
  if method = "has" then return .bool (a.has (← oneText args))
  else if method = "get" then return .str (a.get (← oneText args))
  else if method = "get_or_default" then
    let (key, other) ← twoTexts args
    return .str (a.getOr key other)
  else fail .unknownMethod

def Model.call (s : Session) (m : Model) (method : String) (args : List Value) : Step Value :=
  match m with
  | .record r => do
    if method = "fields" then
      takesNone method args
      return .ofFields r
    else fail .unknownMethod
  | .capabilitySet c => do
    if method = "methods" then
      takesNone method args
      return .ofMethods c
    else fail .unknownMethod
  | .field f => typeMethod s f.type method args
  | .argument a => typeMethod s a.type method args
  | .method m => methodMethod m method args
  | .type v => viewMethod s v method args
  | .tag t => tagMethod t method args
  | .arguments a => argumentsMethod a method args

end Stencil.Render
