import Stencil.Paths
import Stencil.Shell.Script
import Stencil.Shell.Tool

/-
  The state of a running script. What streams write is kept by channel: the output and the
  errors of the script come first, and each stream leads to a channel or nowhere.
-/

namespace Stencil.Shell

/-- Why the commands that follow do not run. -/
inductive Stop where
  | ended (status : ExitStatus)
  /-- Leaves some loops, or all but the last of them, which goes on with its next round. -/
  | left (loops : Nat) (goesOn : Bool)
  /-- Leaves a function. -/
  | returned
  deriving DecidableEq, Repr

structure Run where
  name : String
  args : List String
  /-- The values of the variables. -/
  values : List (String × String) := [("IFS", " \t\n"), ("OPTIND", "1")]
  functions : List (String × Command) := []
  /-- What variables were before the function made them its own. -/
  saved : List (String × Option String) := []
  /-- What to run when a signal comes, by its number, or at the end, by zero. -/
  traps : List (Nat × String) := []
  /-- Whether a failure ends the script. -/
  failsFast : Bool := false
  /-- Whether a variable without a value ends the script. -/
  isStrict : Bool := false
  /-- Whether a failure is asked about, and so ends nothing. -/
  isTested : Bool := false
  /-- The status of the last command. -/
  status : Nat := 0
  /-- The status of the last script whose output stood in for text in this command. -/
  substituted : Nat := 0
  line : Nat := 1
  input : ByteArray
  channels : Array ByteArray := #[.empty, .empty]
  streams : List (Nat × Nat) := [(1, 0), (2, 1)]
  /-- The files that have been written, by path, and those that channels will be written to. -/
  files : List (String × ByteArray) := []
  outlets : List (String × Nat) := []
  /-- How many loops the command stands in. -/
  loops : Nat := 0
  stop : Option Stop := none

/-- What a script has within reach. -/
structure Reach where
  programs : Programs
  read : String → Except IoError ByteArray
  /-- Runs a script in the state of another. -/
  script : List Char → Run → Run
  /-- Runs the body of a function. -/
  command : Command → Run → Run

namespace Run

/-- The number that stands for the script's own process. -/
def ownProcess : String := "100"

def write (r : Run) (stream : Nat) (bytes : ByteArray) : Run :=
  match r.streams.lookup stream with
  | some channel => { r with channels := r.channels.modify channel (· ++ bytes) }
  | none => r

/-- How the complaints of a script begin. -/
def origin (r : Run) : String := r.name ++ ": " ++ toString r.line ++ ": "

/-- Complains about a command. -/
def complain (r : Run) (status : Nat) (text : String) : Run :=
  { r.write 2 (bytesOf (r.origin ++ text ++ "\n")) with status }

/-- Complains, and ends. -/
def fail (r : Run) (text : String) : Run :=
  { r.complain 2 text with stop := some (.ended (.exited 2)) }

/-! ## Variables and parameters -/

def assign (r : Run) (name value : String) : Run :=
  { r with values := (name, value) :: r.values.filter (·.1 ≠ name) }

def unassign (r : Run) (name : String) : Run :=
  { r with values := r.values.filter (·.1 ≠ name) }

/-- Gives a variable its value back. -/
def restore (r : Run) (name : String) : Option String → Run
  | some value => r.assign name value
  | none => r.unassign name

/-- The value of a parameter, if it is set. -/
def value? (r : Run) (name : String) : Option String :=
  if name = "@" ∨ name = "*" then
    if r.args = [] then none else some (" ".intercalate r.args)
  else if name = "#" then some (toString r.args.length)
  else if name = "?" then some (toString r.status)
  else if name = "$" then some ownProcess
  else if name = "-" then
    some ((if r.failsFast then "e" else "") ++ (if r.isStrict then "u" else ""))
  else match name.toNat? with
    | some 0 => some r.name
    | some (n + 1) => r.args[n]?
    | none => r.values.lookup name

/-- The characters at which values fall into fields. -/
def separators (r : Run) : List Char := ((r.value? "IFS").getD " \t\n").toList

/-! ## Files -/

/-- The absolute form of a path, if the working directory has one. -/
def absolute (r : Run) (path : String) : String :=
  match r.values.lookup "PWD" with
  | some here => if path = "" then path else Paths.join here path
  | none => path

/-- Reads a file that the script has written, or another one. -/
def readFile (reach : Reach) (r : Run) (path : String) : Except IoError ByteArray :=
  let path := r.absolute path
  if path = "/dev/stdin" then .ok r.input
  else match r.files.lookup path with
    | some content => .ok content
    | none => reach.read path

/-! ## Parts of a script -/

/-- Runs the trap for the end, if there is one, and the script has not been killed. -/
def atEnd (reach : Reach) (r : Run) : Run :=
  let status := match r.stop with
    | some (.ended (.exited n)) => n
    | _ => r.status
  match r.traps.lookup 0, r.stop with
  | _, some (.ended (.killed _)) => r
  | none, _ => { r with status }
  | some action, _ =>
    let after := reach.script action.toList { r with
      status, stop := none, traps := r.traps.filter (·.1 ≠ 0), loops := 0 }
    match after.stop with
    | some (.ended _) => after
    | _ => { after with status, stop := some (.ended (.exited status)) }

/-- Runs a part in a process of its own, from which only what it read and wrote comes back, and
its status; it can still kill the script. -/
def apart (reach : Reach) (part : Run → Run) (r : Run) : Run :=
  let ignored := r.traps.filter (·.2 = "")
  let after := (part { r with loops := 0, traps := ignored }).atEnd reach
  { r with
    input := after.input
    channels := after.channels
    files := after.files
    status := match after.stop with
      | some (.ended (.exited n)) => n
      | _ => after.status
    stop := match after.stop with
      | some (.ended (.killed n)) => some (.ended (.killed n))
      | _ => none }

/-- Runs a part, and takes what it writes to its output. -/
def capture (part : Run → Run) (r : Run) : Run × ByteArray :=
  let n := r.channels.size
  let after := part { r with
    channels := r.channels.push .empty
    streams := (1, n) :: r.streams.filter (·.1 ≠ 1) }
  ({ after with channels := after.channels.take n, streams := r.streams },
    (after.channels[n]?).getD .empty)

/-- Runs a part whose failures end nothing. -/
def tested (part : Run → Run) (r : Run) : Run :=
  { part { r with isTested := true } with isTested := r.isTested }

end Run

end Stencil.Shell
