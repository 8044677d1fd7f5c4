import Stencil.Format.Program
import Stencil.Text.Split
import Stencil.Text.Utf8

/-
  Formatting of generated text: the layout first, then the order of imports. A stage that
  fails leaves the text as it is, and a warning.
-/

namespace Stencil

inductive FormatError where
  /-- The program cannot be started or does not take its input. -/
  | notRun (command : String) (why : IoError)
  | failed (command status stderr : String)
  | invalidUtf8 (command : String) (fault : Text.Utf8Fault)
  deriving DecidableEq, Repr

def FormatError.message : FormatError → String
  | notRun command why => "failed to run `" ++ command ++ "`: " ++ why.message
  | failed command status stderr =>
    "`" ++ command ++ "` exited with " ++ status ++ ": " ++ stderr
  | invalidUtf8 command fault =>
    "`" ++ command ++ "` produced invalid UTF-8: " ++ fault.message

structure Formatter where
  layout : String → Except FormatError String
  /-- Paths under `localPrefix` count as local. -/
  organize : (source localPrefix : String) → Except FormatError String

namespace Formatter

def unchanged : Formatter := ⟨.ok, fun source _ => .ok source⟩

inductive Stage where
  | layout
  | organize
  deriving DecidableEq, Repr

def Stage.display : Stage → String
  | layout => "format"
  | organize => "organize imports"

structure Warning where
  stage : Stage
  why : FormatError
  deriving DecidableEq, Repr

def Warning.message (w : Warning) : String := w.why.message

def Warning.display (w : Warning) : String := w.stage.display ++ " failed: " ++ w.message

/-- The text of a stage, or its input with a warning. -/
def settle (stage : Stage) (source : String) :
    Except FormatError String → String × List Warning
  | .ok text => (text, [])
  | .error why => (source, [⟨stage, why⟩])

/-- The stages as work of some kind, which may take notes of its calls. -/
structure Stages (m : Type → Type) where
  layout : String → m (Except FormatError String)
  organize : (source localPrefix : String) → m (Except FormatError String)

/-- Both stages. -/
def Stages.apply {m : Type → Type} [Monad m] (stages : Stages m) (source localPrefix : String) :
    m (String × List Warning) := do
  let (laidOut, early) := settle .layout source (← stages.layout source)
  let (text, late) := settle .organize laidOut (← stages.organize laidOut localPrefix)
  return (text, early ++ late)

/-- Stages that do nothing but answer. -/
def stages (f : Formatter) : Stages Id := ⟨f.layout, f.organize⟩

def apply (f : Formatter) (source localPrefix : String) : String × List Warning :=
  (f.stages.apply source localPrefix).run

/-! ## Formatters that run commands -/

/-- What a command answers to an input; the empty command changes nothing. -/
def runCommand (programs : Programs) (command : List String) (input : String) :
    Except FormatError String :=
  match command with
  | [] => .ok input
  | program :: args =>
    let line := " ".intercalate command
    match programs program args input.toUTF8 with
    | .error why => .error (.notRun line why)
    | .ok outcome =>
      if outcome.status ≠ .exited 0 then
        let err := Text.trim (Text.ofUtf8Lossy outcome.err.data.toList)
        .error (.failed line outcome.status.display (String.ofList err))
      else if pipeCapacity < outcome.unread then .error (.notRun line .brokenPipe)
      else match String.fromUTF8? outcome.out with
        | some text => .ok text
        | none => .error (.invalidUtf8 line (Text.utf8Fault outcome.out.data.toList))

/-- A pair of commands, each a program with its arguments. -/
structure Commands where
  layout : List String
  organize : List String
  deriving DecidableEq, Repr

/-- The second command is told the local paths by two more arguments. -/
def ofCommands (programs : Programs) (c : Commands) : Formatter where
  layout := runCommand programs c.layout
  organize source localPrefix :=
    runCommand programs (c.organize ++ ["-local", localPrefix]) source

/-- The commands for Go, with a version of the second. -/
def Commands.go (version : String) : Commands where
  layout := ["gofmt", "-s"]
  organize := ["go", "run", "golang.org/x/tools/cmd/goimports@" ++ version]

def defaultVersion : String := "v0.1.9"

end Formatter

end Stencil
