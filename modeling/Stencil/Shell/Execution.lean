import Stencil.Shell.Builtin
import Stencil.Shell.Expansion
import Stencil.Shell.Script

/-
  Running commands: redirections, programs, pipelines and scripts. A script ends at its last
  command, at `exit`, or when it kills itself.
-/

namespace Stencil.Shell

namespace Run

/-- Leads a stream to a new channel that will be written to a file, and begins as `content`. -/
def openFile (r : Run) (stream : Nat) (path : String) (content : ByteArray) : Run :=
  { r with
    channels := r.channels.push content
    streams := (stream, r.channels.size) :: r.streams.filter (·.1 ≠ stream)
    outlets := (path, r.channels.size) :: r.outlets }

/-- Whether a file can be written, or why not. -/
def refusal? (reach : Reach) (r : Run) (path : String) : Option String :=
  match reach.read path with
  | .ok _ => none
  | .error .isDirectory => some "Is a directory"
  | .error _ =>
    if (r.files.lookup path).isSome then none
    else match reach.read (String.ofList ((Paths.parent path.toList).getD [])) with
      | .error .isDirectory => none
      | _ => some "Directory nonexistent"

/-- Leads a stream somewhere, or complains. -/
def redirect (reach : Reach) (r : Run) (redirect : Redirect) : Except Run Run := do
  let stream := redirect.stream
  let (r, target) := r.textOf reach redirect.target
  let closed := { r with streams := r.streams.filter (·.1 ≠ stream) }
  let toChannel := fun (source : Nat) => match r.streams.lookup source with
    | some channel => { closed with streams := (stream, channel) :: closed.streams }
    | none => closed
  let path := r.absolute target
  match redirect.direction with
  | .fromText => pure { r with input := target.toUTF8 }
  | .fromFile =>
    match r.readFile reach target with
    | .ok content => pure (if stream = 0 then { r with input := content } else r)
    | .error .isDirectory => pure { r with input := .empty }
    | .error .permissionDenied =>
      .error (r.complain 2 ("cannot open " ++ target ++ ": Permission denied"))
    | .error _ => .error (r.complain 2 ("cannot open " ++ target ++ ": No such file"))
  | .toFile | .toEnd =>
    if path = "/dev/null" then pure closed
    else if path = "/dev/stdout" then pure (toChannel 1)
    else if path = "/dev/stderr" then pure (toChannel 2)
    else match r.refusal? reach path with
      | some why => .error (r.complain 2 ("cannot create " ++ target ++ ": " ++ why))
      | none =>
        let content :=
          if redirect.direction = .toEnd then ((r.readFile reach target).toOption).getD .empty
          else .empty
        pure (r.openFile stream path content)
  | .same =>
    if target = "-" then
      pure (if stream = 0 then { r with input := .empty } else closed)
    else
      match target.toNat? with
      | none => .error (r.fail "Syntax error: Bad fd number")
      | some 0 => pure (if stream = 0 then r else closed)
      | some source =>
        if 2 < source ∧ (r.streams.lookup source).isNone then
          .error (r.complain 2 (target ++ ": Bad file descriptor"))
        else pure (toChannel source)

def redirectAll (reach : Reach) (r : Run) : List Redirect → Except Run Run
  | [] => .ok r
  | first :: rest => do
    let r ← r.redirect reach first
    r.redirectAll reach rest

/-! ## Programs -/

/-- Takes the answer of a tool. -/
def take (r : Run) (answer : Answer) : Run :=
  let r := if answer.reads then { r with input := .empty } else r
  { (r.write 1 answer.out).write 2 answer.err with status := answer.status }

/-- Runs a tool or one of the programs; complaints begin with `origin`. A tool that takes the
place of the script, where `origin` is not empty, is a program of its own. -/
def start (reach : Reach) (r : Run) (origin name : String) (args : List String) : Run :=
  if name = "" then r.complain 127 (origin ++ name ++ ": Permission denied") else
  match runTool (r.readFile reach) (if origin = "" then r.origin else "") name args r.input with
  | some answer => r.take answer
  | none =>
    match reach.programs name args r.input with
    | .ok outcome =>
      let status := match outcome.status with
        | .exited n => n
        | .killed n => 128 + n
      let input := r.input.extract (r.input.size - outcome.unread) r.input.size
      { ((r.write 1 outcome.out).write 2 outcome.err) with status, input }
    | .error .permissionDenied =>
      let status := if name.contains '/' then 126 else 127
      r.complain status (origin ++ name ++ ": Permission denied")
    | .error _ => r.complain 127 (origin ++ name ++ ": not found")

/-- Calls a function, which has arguments and local variables of its own. -/
def callFunction (reach : Reach) (r : Run) (body : Command) (args : List String) : Run :=
  let after := reach.command body { r with args, saved := [], loops := 0 }
  let after := after.saved.foldl (fun after (name, value) => after.restore name value) after
  { after with
    args := r.args
    saved := r.saved
    loops := r.loops
    stop := if after.stop = some .returned then none else after.stop }

/-- Runs a command by name. -/
def call (reach : Reach) (r : Run) (name : String) (args : List String) : Run :=
  let plain := fun (name : String) (args : List String) =>
    match r.builtin reach name args with
    | some r => r
    | none => r.start reach "" name args
  if name = "eval" then
    reach.script (" ".intercalate args).toList { r with status := 0 }
  else if name = "exec" then
    match args with
    | [] => { r with status := 0 }
    | program :: args =>
      let r := r.start reach "exec: " program args
      { r with stop := some (.ended (.exited r.status)), traps := [] }
  else match if name ∈ special then none else r.functions.lookup name with
    | some body => r.callFunction reach body args
    | none =>
      match name, args with
      | "command", name :: args => plain name args
      | _, _ => plain name args

def simple (reach : Reach) (r : Run) (sets : List (String × Word)) (words : List Word) : Run :=
  let (r, fields) := { r with substituted := 0 }.fieldsOf reach words
  if r.stop.isSome then r
  else match fields with
    | [] =>
      let r := r.assignAll reach sets
      { r with status := if r.stop.isSome then r.status else r.substituted }
    | name :: args =>
      let before := r.assignAll reach sets
      if before.stop.isSome then before
      else
        let after := before.call reach name args
        if name ∈ special then after
        else sets.foldl (fun after (name, _) => after.restore name (r.values.lookup name)) after

/-- What a body leaves behind as a round of a loop, and whether the loop goes on. -/
def round (body : Run → Run) (r : Run) : Run × Bool :=
  let after := body { r with loops := r.loops + 1 }
  let after := { after with loops := r.loops }
  match after.stop with
  | none => (after, true)
  | some (.left 1 goesOn) => ({ after with stop := none }, goesOn)
  | some (.left (n + 1) goesOn) => ({ after with stop := some (.left n goesOn) }, false)
  | some _ => (after, false)

/-- Runs a body for each value of a variable. -/
def each (name : String) (body : Run → Run) (r : Run) : List String → Run
  | [] => r
  | value :: rest =>
    match (r.assign name value).round body with
    | (r, true) => r.each name body rest
    | (r, false) => r

/-- How often a loop may run its body. -/
def loopBound : Nat := 65536

/-- Runs a body as long as a test succeeds, or until it does; `status` is that of the body. -/
def loop (untilSuccess : Bool) (test body : Run → Run) : Nat → (status : Nat) → Run → Run
  | 0, _, r => r
  | n + 1, status, r =>
    match r.round (tested test) with
    | (r, false) => r
    | (r, true) =>
      if (r.status = 0) = untilSuccess then { r with status }
      else match r.round body with
        | (r, false) => r
        | (r, true) => loop untilSuccess test body n r.status r

/-- Runs the commands of a pipe, where the second reads what the first writes. -/
def pipe (reach : Reach) (first second : Run → Run) (r : Run) : Run :=
  let (a, written) := r.capture (apart reach first)
  let b := apart reach second { a with input := written, stop := none }
  { b with input := a.input, stop := b.stop.or a.stop }

/-- Writes the files that channels were opened for since some state. -/
def closeFiles (r : Run) (before : Run) : Run :=
  let opened := r.outlets.take (r.outlets.length - before.outlets.length)
  let written := opened.reverse.map fun (path, channel) =>
    (path, (r.channels[channel]?).getD .empty)
  { r with
    files := written.reverse ++ r.files
    outlets := before.outlets
    channels := r.channels.take before.channels.size }

/-- Runs a command with its streams redirected. -/
def redirected (reach : Reach) (redirects : List Redirect) (command : Run → Run) (r : Run) :
    Run :=
  match r.redirectAll reach redirects with
  | .error after => { after with streams := r.streams, input := r.input }
  | .ok inner =>
    let after := (command inner).closeFiles r
    let reads := redirects.all (·.stream ≠ 0)
    { after with
      streams := r.streams
      input := if reads then after.input else r.input }

end Run

/-! ## Scripts -/

mutual

def Command.run (reach : Reach) : Command → Run → Run
  | .simple line sets words, r => { r with line }.simple reach sets words
  | .group body, r => body.run reach r
  | .apart body, r => r.apart reach (body.run reach)
  | .aside body, r =>
    { Run.apart reach (body.run reach) { r with input := .empty } with
      input := r.input, status := 0 }
  | .branch test body other, r =>
    let r := r.tested (test.run reach)
    if r.stop.isSome then r
    else if r.status = 0 then body.run reach r
    else if other.isDone then { r with status := 0 }
    else other.run reach r
  | .loop untilSuccess test body, r =>
    r.loop untilSuccess (test.run reach) (body.run reach) Run.loopBound 0
  | .each line name words body, r =>
    let (r, values) := { r with line }.fieldsOf reach words
    { r with status := 0 }.each name (body.run reach) values
  | .select line subject arms, r =>
    let (r, subject) := { r with line }.textOf reach subject
    arms.run reach subject.toList { r with status := 0 }
  | .redirected line command redirects, r =>
    { r with line }.redirected reach redirects (command.run reach)
  | .rewire line redirects, r =>
    match { r with line, status := 0 }.redirectAll reach redirects with
    | .ok r => r
    | .error r => { r with stop := some (.ended (.exited 2)) }
  | .define name body, r =>
    { r with functions := (name, body) :: r.functions.filter (·.1 ≠ name), status := 0 }

def Arms.run (reach : Reach) (subject : List Char) : Arms → Run → Run
  | .done, r => r
  | .arm patterns body rest, r =>
    let (r, chosen) := patterns.foldl (fun (r, chosen) pattern =>
      let (r, parts) := Word.expand reach r pattern
      (r, chosen || (Pattern.ofLetters (parts.filterMap Part.letter?)).accepts subject))
      (r, false)
    if chosen then body.run reach r else rest.run reach subject r

def Pipeline.run (reach : Reach) : Pipeline → Run → Run
  | .last command, r => command.run reach r
  | .into command rest, r => r.pipe reach (command.run reach) (rest.run reach)

def Script.run (reach : Reach) : Script → Run → Run
  | .done, r => r
  | .step joint negated pipeline rest, r =>
    let runs := match joint with
      | .always => true
      | .onSuccess => r.status = 0
      | .onFailure => r.status ≠ 0
    let isTested := negated || rest.isJoined
    let next :=
      if !runs then r
      else
        let r := if isTested then r.tested (pipeline.run reach) else pipeline.run reach r
        let r := if negated then { r with status := if r.status = 0 then 1 else 0 } else r
        if r.failsFast ∧ !(isTested || r.isTested) ∧ r.status ≠ 0 ∧ r.stop.isNone then
          { r with stop := some (.ended (.exited r.status)) }
        else r
    if next.stop.isSome then next else rest.run reach next

end

/-- Runs the lines of a script; `n` bounds their number. -/
def runLines (reach : Reach) : (n : Nat) → List Lexeme → Run → Run
  | 0, _, r => r
  | n + 1, lexemes, r =>
    if r.stop.isSome then r
    else match (Script.line (4 * lexemes.length + 4)).run lexemes with
      | .error (why, line) => { r with line }.fail why.message
      | .ok (none, _) => r
      | .ok (some script, rest) => runLines reach n rest (script.run reach r)

/-- Runs the text of a script. -/
def runText (reach : Reach) (script : List Char) (r : Run) : Run :=
  let n := script.length + 1
  runLines reach n (tokens n r.line script) r

/-- Runs a script to its end; `here` is the working directory, if it can be found. -/
def runScript (reach : Reach) (here : Option String) (script : String) (r : Run) : Outcome :=
  let r := match here with
    | some path => r.assign "PWD" path
    | none => r.write 2 (bytesOf "sh: 0: getcwd() failed: No such file or directory\n")
  let r := (runText reach script.toList r).atEnd reach
  let status := match r.stop with
    | some (.ended status) => status
    | _ => .exited r.status
  ⟨status, (r.channels[0]?).getD .empty, (r.channels[1]?).getD .empty, r.input.size⟩

end Stencil.Shell
