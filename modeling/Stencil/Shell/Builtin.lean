import Stencil.Location
import Stencil.Shell.Pattern
import Stencil.Shell.Run

/-
  Commands that act on the script itself: they end it, or change its variables and its
  arguments.
-/

namespace Stencil.Shell

namespace Run

/-- The number of a signal, as an option names it. -/
def signalOf (option : String) : Option Nat :=
  let name := (option.toList.dropWhile (· = '-'))
  let name := (Text.stripHead "SIG".toList name).getD name
  match (String.ofList name).toNat? with
  | some n => some n
  | none => (ExitStatus.signals.find? (·.2.toList = name)).map (·.1)

def finish (r : Run) (args : List String) : Run :=
  match args with
  | [] => { r with stop := some (.ended (.exited r.status)) }
  | code :: _ =>
    match code.toNat? with
    | some n => { r with stop := some (.ended (.exited (n % 256))), status := n % 256 }
    | none => r.fail ("exit: Illegal number: " ++ code)

/-- Comes to a signal: runs what is to run then, or ends. -/
def signal (reach : Reach) (r : Run) (n : Nat) : Run :=
  match if n = 9 then none else r.traps.lookup n with
  | some "" => { r with status := 0 }
  | some action =>
    let after := reach.script action.toList { r with status := 0 }
    { after with status := 0 }
  | none =>
    if n ∈ ExitStatus.harmless then { r with status := 0 }
    else { r with stop := some (.ended (.killed n)), status := 0 }

/-- Sends a signal, which no process but the script's own gets. -/
def kill (reach : Reach) (r : Run) (args : List String) : Run :=
  let send := fun (name : String) =>
    match signalOf name with
    | some n =>
      if args.getLast? ≠ some ownProcess then r.complain 1 "kill: No such process"
      else r.signal reach n
    | none => r.complain 2 ("kill: Illegal option " ++ String.ofList (name.toList.take 2))
  match args with
  | [] => r.complain 2 ("kill: Usage: kill [-s sigspec | -signum | -sigspec] " ++
      "[pid | job]... or\nkill -l [exitstatus]")
  | [_] => send "TERM"
  | ["-s", name, _] => send name
  | name :: _ => send name

/-- Says what is to run when a signal comes. -/
def trap (r : Run) (args : List String) : Run :=
  let number := fun (s : String) => if s = "EXIT" then some 0 else signalOf s
  let set := fun (r : Run) (action : Option String) (names : List String) =>
    names.foldl (fun r name =>
      match number name with
      | none =>
        { r.write 2 (bytesOf ("trap: " ++ name ++ ": bad trap\n")) with status := 1 }
      | some n =>
        let others := r.traps.filter (·.1 ≠ n)
        { r with traps := (action.map (n, ·)).toList ++ others }) { r with status := 0 }
  match args with
  | [] => { r with status := 0 }
  | [name] => set r none [name]
  | "-" :: names => set r none names
  | "--" :: action :: names | action :: names => set r (some action) names

/-- The line at the front of an input as letters, where a backslash quotes the next character
unless the line is read as it is; then whether the line has an end, and the rest of the
input. `n` bounds the number of lines that are joined. -/
def takeLine (asItIs : Bool) : Nat → ByteArray → List Letter × Bool × ByteArray
  | 0, input => ([], false, input)
  | n + 1, input =>
    let size := (input.findIdx? (· = 10)).getD input.size
    let ended := decide (size < input.size)
    let text := ((String.fromUTF8? (input.extract 0 size)).getD "").toList
    let rest := input.extract (size + 1) input.size
    if asItIs then (text.map (·, false), ended, rest)
    else
      let (letters, goesOn) := unquote text
      if goesOn ∧ ended then
        let (more, ended, rest) := takeLine asItIs n rest
        (letters ++ more, ended, rest)
      else (letters, ended, rest)
where
  /-- A text without its backslashes, and whether one is left at its end. -/
  unquote : List Char → List Letter × Bool
    | [] => ([], false)
    | ['\\'] => ([], true)
    | '\\' :: c :: rest => let (s, goesOn) := unquote rest; ((c, true) :: s, goesOn)
    | c :: rest => let (s, goesOn) := unquote rest; ((c, false) :: s, goesOn)

/-- The letters up to the first separator, and what follows it with the blanks around it. -/
def takeField (separators : List Char) (s : List Letter) : List Char × List Letter :=
  let separates := fun ((c, quoted) : Letter) => c ∈ separators && !quoted
  let isBlank := fun (l : Letter) => separates l && l.1 ∈ [' ', '\t', '\n']
  let rest := (s.dropWhile fun l => !separates l).dropWhile isBlank
  let ended := (s.dropWhile fun l => !separates l).head?.any isBlank
  let rest := match rest with
    | l :: after => if separates l ∧ !isBlank l then after.dropWhile isBlank else rest
    | [] => if ended then [] else rest
  ((s.takeWhile fun l => !separates l).map (·.1), rest)

/-- Gives each name a field of a line, and the last one the rest of the line. -/
def shareOut (r : Run) (s : List Letter) : List String → Run
  | [] => r
  | [name] =>
    let isBlank := fun ((c, quoted) : Letter) =>
      c ∈ r.separators && !quoted && c ∈ [' ', '\t', '\n']
    r.assign name (String.ofList (((s.reverse.dropWhile isBlank).reverse).map (·.1)))
  | name :: rest =>
    let (field, after) := takeField r.separators s
    (r.assign name (String.ofList field)).shareOut after rest

/-- Reads a line into variables. -/
def readInto (r : Run) (args : List String) : Run :=
  let (asItIs, names) := match args with
    | "-r" :: names => (true, names)
    | _ => (false, args)
  if names = [] then r.complain 2 "read: arg count"
  else
    let (s, ended, rest) := takeLine asItIs (r.input.size + 1) r.input
    let isBlank := fun ((c, quoted) : Letter) =>
      c ∈ r.separators && !quoted && c ∈ [' ', '\t', '\n']
    let r := { r with input := rest, status := if ended then 0 else 1 }
    r.shareOut (s.dropWhile isBlank) names

/-- Gives values to the variables named in texts with equals signs. -/
def declare (r : Run) (args : List String) : Run :=
  args.foldl (fun r arg =>
    match Text.cut '=' arg.toList with
    | some (name, value) => r.assign (String.ofList name) (String.ofList value)
    | none => r) { r with status := 0 }

def shift (r : Run) (args : List String) : Run :=
  let count := (args.head?.bind String.toNat?).getD 1
  if count ≤ r.args.length then { r with args := r.args.drop count, status := 0 }
  else r.fail "shift: can't shift that many"

/-- Leaves as many loops as are named, of those that the command stands in. -/
def leave (r : Run) (name : String) (args : List String) : Run :=
  let r := { r with status := 0 }
  match (args.head?.map String.toNat?).getD (some 1) with
  | none | some 0 => r.fail (name ++ ": Illegal number: " ++ args.headD "")
  | some count =>
    if r.loops = 0 then r
    else { r with stop := some (.left (min count r.loops) (name = "continue")) }

/-- Leaves a function, or the script, with a status. -/
def leaveFunction (r : Run) (args : List String) : Run :=
  match args with
  | [] => { r with stop := some .returned }
  | code :: _ =>
    match code.toNat? with
    | some n => { r with stop := some .returned, status := n % 256 }
    | none => r.fail ("return: Illegal number: " ++ code)

/-- Makes variables a function's own, with the values that are given. -/
def makeLocal (r : Run) (args : List String) : Run :=
  args.foldl (fun r arg =>
    let name := String.ofList (arg.toList.takeWhile (· ≠ '='))
    let r := { r with saved := (name, r.value? name) :: r.saved }
    match Text.cut '=' arg.toList with
    | some (_, value) => r.assign name (String.ofList value)
    | none => r) { r with status := 0 }

/-- Changes the options of the script, and its arguments if there are any. -/
def set (r : Run) (args : List String) : Run :=
  match args with
  | [] => { r with status := 0 }
  | "--" :: args => { r with args, status := 0 }
  | "-o" :: "errexit" :: rest => { r with failsFast := true }.set rest
  | "-o" :: "nounset" :: rest => { r with isStrict := true }.set rest
  | "-o" :: _ :: rest => r.set rest
  | first :: rest =>
    match first.toList with
    | sign :: letters =>
      let on := sign = '-'
      if (on ∨ sign = '+') ∧ letters ≠ [] then
        match letters.find? (· ∉ "efmnsuvxCab".toList) with
        | some c => r.fail ("set: Illegal option " ++ sign.toString ++ c.toString)
        | none =>
          { r with
            failsFast := if 'e' ∈ letters then on else r.failsFast
            isStrict := if 'u' ∈ letters then on else r.isStrict }.set rest
      else { r with args, status := 0 }
    | [] => { r with args, status := 0 }

/-- Changes the working directory. -/
def changeDirectory (reach : Reach) (r : Run) (args : List String) : Run :=
  let here := (r.value? "PWD").getD ""
  let target := match args with
    | [] => (r.value? "HOME").getD ""
    | "-" :: _ => (r.value? "OLDPWD").getD here
    | path :: _ => path
  if target = "" then { r with status := 0 }
  else
    let path := Location.write (Location.fold [] (r.absolute target).toList)
    match reach.read path with
    | .error .isDirectory =>
      let moved := { (r.assign "OLDPWD" here).assign "PWD" path with status := 0 }
      if args = ["-"] then moved.write 1 (bytesOf (path ++ "\n")) else moved
    | _ => r.complain 2 ("cd: can't cd to " ++ target)

/-- Runs a file in the script's own state. -/
def runFile (reach : Reach) (r : Run) (args : List String) : Run :=
  match args with
  | [] => { r with status := 0 }
  | file :: _ =>
    if !file.contains '/' then r.fail (".: " ++ file ++ ": not found")
    else match r.readFile reach file with
      | .ok content =>
        let script := ((String.fromUTF8? content).getD "").toList
        let after := reach.script script { r with line := 1, status := 0 }
        let stop := if after.stop = some .returned then none else after.stop
        { after with stop, line := r.line }
      | .error _ => r.fail (".: cannot open " ++ file ++ ": No such file")

/-- The state after a command with a name that acts on the script, if there is one. -/
def builtin (reach : Reach) (r : Run) (name : String) (args : List String) : Option Run :=
  if name = "exit" then some (r.finish args)
  else if name = "return" then some (r.leaveFunction args)
  else if name = "kill" then some (r.kill reach args)
  else if name = "trap" then some (r.trap args)
  else if name = "." then some (r.runFile reach args)
  else if name = ":" ∨ name = "wait" then some { r with status := 0 }
  else if name = "cd" then some (r.changeDirectory reach args)
  else if name = "pwd" then
    some { r.write 1 (bytesOf ((r.value? "PWD").getD "" ++ "\n")) with status := 0 }
  else if name = "break" ∨ name = "continue" then some (r.leave name args)
  else if name = "read" then some (r.readInto args)
  else if name = "export" ∨ name = "readonly" then some (r.declare args)
  else if name = "local" then some (r.makeLocal args)
  else if name = "unset" then some (args.foldl unassign { r with status := 0 })
  else if name = "shift" then some (r.shift args)
  else if name = "set" then some (r.set args)
  else none

/-- The names of commands that no function replaces, and that keep the values given in front of
them. -/
def special : List String := [":", ".", "break", "continue", "eval", "exec", "exit", "export",
  "readonly", "return", "set", "shift", "trap", "unset"]

end Run

end Stencil.Shell
