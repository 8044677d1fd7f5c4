import Stencil.Render.Method
import Stencil.Template.Engine
import Stencil.Text.Capital

/-
  Rendering a template in a session, by whatever engine. The import block is known only when
  the template has run, so where the template asks for it a token stands, which gives way to the
  block at the end. The template may ask once.
-/

namespace Stencil

/-- A template's text and the path it came from. -/
structure Render.Source where
  path : String
  text : String

inductive RenderError where
  | malformed (path : String) (kind : Template.ErrorKind)
  | failed (path : String) (fault : Template.Fault Render.Cause)

/-- What went wrong, with the cause behind it. -/
def Template.Failure.message (f : Failure Render.Cause) : String :=
  match f.cause with
  | some cause => f.kind.message ++ ": " ++ cause.message
  | none => f.kind.message

/-- What went wrong with the template from some path, wherever in it. -/
def RenderError.failureText (path : String) (f : Template.Failure Render.Cause) : String :=
  "error executing template '" ++ path ++ "': " ++ f.message

def RenderError.message : RenderError → String
  | malformed path kind => "template error: " ++ kind.message ++ " (in " ++ path ++ ")"
  | failed path fault =>
    failureText path fault.failure ++ " (in " ++ path ++ ":" ++ toString fault.line ++ ")"

namespace Render

open Template (Failure Work fail noMore)

/-- The engines of this library's templates. -/
abbrev Engine := Template.Engine Model

/-! ## Tokens -/

/-- What is drawn anew for every rendering: 26 digits and capitals. -/
structure Ticket where
  text : String
  length_eq : text.toList.length = 26
  plain : text.toList.all fun c => c.isDigit || c.isUpper

/-- What tokens begin with. -/
def tokenStart : String := "__shapegen_imports_"

/-- What tokens end with. -/
def tokenEnd : String := "__"

def Ticket.token (t : Ticket) : String := tokenStart ++ t.text ++ tokenEnd

/-! ## Functions -/

/-- The token, at the first call. -/
def imports (token : String) (args : List Value) : Step Value := do
  noMore args
  if (← get).importsCalled then blame .importsAlreadyCalled
  else
    modify ({ · with importsCalled := true })
    return .str token

/-- Capitals at the word starts of any value's text. -/
def capitalized (args : List Value) : Step Value := do
  match args with
  | [] => fail .missingArgument
  | v :: rest =>
    let text ← Template.textOf v
    noMore rest
    return .str (Text.capitalize text)

/-- A function that takes no arguments and always answers the same. -/
def always (v : Value) (args : List Value) : Step Value := do
  noMore args
  return v

def functionNames : List String := ["imports", "export", "args", "template_path"]

def function (token : String) (source : Source) (args : Arguments) (name : String)
    (values : List Value) : Step Value :=
  if name = "imports" then imports token values
  else if name = "export" then capitalized values
  else if name = "args" then always (.ofArguments args) values
  else if name = "template_path" then always (.str source.path) values
  else fail .unknownFunction

def host (s : Session) (token : String) (source : Source) (args : Arguments) :
    Template.Host Model State Cause where
  functions := functionNames
  answer
    | .function name, values => function token source args name values
    | .method model name, values => model.call s name values

end Render

/-! ## Rendering -/

/-- `text` with the first occurrence of `mark` replaced. -/
def Text.replaceFirst (mark block text : String) : String :=
  match cutAt mark.toList text.toList with
  | some (before, after) => String.ofList (before ++ block.toList ++ after)
  | none => text

/-- What a template has printed, with the import block as it stands at the end in place of the
token, if the template has asked for it. -/
def Render.finish (token : String) (state : Render.State) (text : String) : String :=
  if state.importsCalled then Text.replaceFirst token state.session.imports.emit text else text

/-- The text of a template; `token` holds the place of the import block meanwhile. -/
def Session.render (s : Session) (engine : Render.Engine) (token : String)
    (source : Render.Source) (args : Arguments) (root : Render.Value) :
    Template.Work RenderError Session.State String :=
  match engine.read source.path source.text with
  | .error kind => throw (.malformed source.path kind)
  | .ok program => fun state =>
    let host := Render.host s token source args
    match (program host.functions root).on host { session := state } with
    | (.error fault, after) => (.error (.failed source.path fault), after.session)
    | (.ok pieces, after) => (.ok (Render.finish token after (String.join pieces)), after.session)

end Stencil
