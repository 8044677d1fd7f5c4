import Stencil.Format.Basic
import Stencil.Render.Basic
import Stencil.Selector

/-
  Generation: the module of the output's directory is loaded, then the module of the target
  type, whose model the template is rendered on; the text is then formatted. The diagnostics
  of both modules come with the result, those of one module once.
-/

namespace Stencil

inductive GenerateError where
  | load (why : LoadError)
  | unsupported (name : String) (kind : Kind)
  | badSelector (selector : String) (why : Selector.Fault)
  | badArgument (why : Arguments.Malformed)
  | render (why : RenderError)
  | model (why : ModelError)
  | unreadable (path : String) (why : IoError)

namespace GenerateError

/-- The complaint about a selector. -/
def selectorText (selector why : String) : String :=
  "invalid target selector " ++ Text.quoted selector ++ ": " ++ why

def message : GenerateError → String
  | load why => "load error: " ++ why.message
  | unsupported name kind => "unsupported kind for type '" ++ name ++ "': " ++ kind.display
  | badSelector selector why => selectorText selector why.message
  | badArgument why => "malformed key=value pair " ++ Text.quoted why.segment
  | render why => why.message
  | model why => "model error: " ++ why.message
  | unreadable path why => "IO error on " ++ path ++ ": " ++ why.message

/-- The model's complaint behind an error, if there is one. -/
def modelError? : GenerateError → Option ModelError
  | model why => some why
  | render (.failed _ fault) =>
    match fault.failure.cause with
    | some (.model why) => some why
    | _ => none
  | _ => none

end GenerateError

/-- The location of the directory an output lies in. It is always a local one. -/
def destination (output : String) : String :=
  match Paths.parent output.toList with
  | none | some [] => "."
  | some dir =>
    if Location.isLocalChars dir then String.ofList dir else String.ofList ('.' :: '/' :: dir)

structure Generated where
  source : String
  warnings : List Formatter.Warning
  diagnostics : List Diagnostic

/-- Work that may load modules and may fail as a generation fails. -/
abbrev GenerateM := ExceptT GenerateError (StateM Cache)

/-- The model of a type that is to be generated for. -/
def Session.root (s : Session) (name : String) (x : Located) : GenerateM Render.Value := do
  match (← s.shapeOf x).kind with
  | .record => return .ofRecord (← (ExceptT.mk (View.recordOf s x)).adapt .model)
  | .capabilitySet =>
    return .ofCapabilitySet (← (ExceptT.mk (View.capabilitySetOf s x)).adapt .model)
  | kind => throw (.unsupported name kind)

/-- The text of a template in a session that begins now. -/
def Session.write (s : Session) (engine : Render.Engine) (token : String)
    (source : Render.Source) (args : Arguments) (root : Render.Value) : GenerateM String :=
  fun cache =>
    let (result, state) := s.render engine token source args root (s.start cache)
    (result.mapError .render, state.cache)

/-- What a generation comes to before formatting. -/
structure Draft where
  text : String
  /-- The paths under it count as local when imports are organized. -/
  localPrefix : String
  diagnostics : List Diagnostic

namespace Library

/-- What a selector, a template, an output and arguments give before formatting; `token` occurs
in none of them. -/
def draft (lib : Library) (engine : Render.Engine) (token : String) (selector : Selector)
    (source : Render.Source) (output : String) (args : Arguments) : GenerateM Draft := do
  let here := destination output
  let around ← (lib.load here .all).adapt .load
  let target ← (lib.load (selector.module.getD here) .target).adapt .load
  let located ← (ExceptT.mk (pure (target.snapshot.locate selector.name))).adapt .load
  let session : Session := ⟨lib, target.snapshot⟩
  let root ← session.root selector.name located
  let text ← session.write engine token source args root
  let further := if around.serial = target.serial then [] else target.snapshot.diagnostics
  return ⟨text, target.snapshot.localPrefix, around.snapshot.diagnostics ++ further⟩

/-- The same with formatting, whose stages may be work of any kind. -/
def generateWith {m : Type → Type} [Monad m] (lib : Library) (engine : Render.Engine)
    (stages : Formatter.Stages m) (token : String) (selector : Selector)
    (source : Render.Source) (output : String) (args : Arguments) (cache : Cache) :
    m (Except GenerateError Generated × Cache) :=
  match lib.draft engine token selector source output args cache with
  | (.error e, cache) => pure (.error e, cache)
  | (.ok draft, cache) => do
    let (text, warnings) ← stages.apply draft.text draft.localPrefix
    return (.ok ⟨text, warnings, draft.diagnostics⟩, cache)

/-- The same with the stages of a formatter. -/
def generate (lib : Library) (engine : Render.Engine) (formatter : Formatter) (token : String)
    (selector : Selector) (source : Render.Source) (output : String) (args : Arguments) :
    GenerateM Generated :=
  lib.generateWith engine formatter.stages token selector source output args

/-- Formatting is the last step of a generation. -/
theorem generate_eq_draft (lib : Library) (engine : Render.Engine) (formatter : Formatter)
    (token : String) (selector : Selector) (source : Render.Source) (output : String)
    (args : Arguments) :
    lib.generate engine formatter token selector source output args = do
      let draft ← lib.draft engine token selector source output args
      let (text, warnings) := formatter.apply draft.text draft.localPrefix
      return ⟨text, warnings, draft.diagnostics⟩ := by
  funext cache
  unfold generate generateWith
  generalize lib.draft engine token selector source output args = work
  simp only [bind, ExceptT.bind, ExceptT.mk, StateT.bind]
  rcases work cache with ⟨answer, after⟩
  cases answer with
  | error e => rfl
  | ok draft => rfl

end Library

end Stencil
