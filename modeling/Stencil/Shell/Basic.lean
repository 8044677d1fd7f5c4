import Stencil.FileTree
import Stencil.Shell.Execution

/-
  The programs that can be started in a file tree: the tools, and `sh`, which runs scripts.

  They stand for those of a system where formatters are to be run without one. The library takes
  programs as they come (`Programs`): nothing outside of `Shell` uses them, and nothing that is
  proved is about them.
-/

namespace Stencil.Shell

def readFile (tree : FileTree) (path : String) : Except IoError ByteArray := do
  match ← tree.find path with
  | .directory => .error .isDirectory
  | .device => .ok .empty
  | .file content => .ok content

/-- Why a program cannot be run: no file of the tree is one. A name without slashes is looked for
in some directories, all of which have the entries `.` and `..`. -/
def refusal (tree : FileTree) (program : String) : IoError :=
  if program.contains '/' then
    match tree.find program with
    | .ok _ => .permissionDenied
    | .error why => why
  else if program = "." ∨ program = ".." then .permissionDenied
  else if FileTree.nameBound < program.utf8ByteSize then .nameTooLong
  else .notFound

/-- The directories of the tools. -/
def toolDirectories : List (List (List Char)) := [["bin".toList], ["usr".toList, "bin".toList]]

/-- The name of a tool, by its name or the path of its file. -/
def toolName (tree : FileTree) (program : String) : String :=
  if program.contains '/' ∧ tree.isFile program then
    let start := if Paths.isAbsolute program.toList then [] else tree.here
    let components := Location.fold start program.toList
    if components.dropLast ∈ toolDirectories then
      String.ofList (components.getLast?.getD [])
    else program
  else program

/-! ## The program `sh` -/

/-- How a script is asked for. -/
structure Request where
  /-- Whether the first argument is the script. -/
  isGiven : Bool := false
  /-- Whether the script is only read. -/
  isRead : Bool := false
  /-- Whether the script is the input although there are arguments. -/
  isInput : Bool := false
  failsFast : Bool := false
  isStrict : Bool := false
  args : List String := []

/-- The letters that are options of `sh`. -/
def optionLetters : List Char := "abCcefIilmnsuVvxE".toList

/-- The letters of an option that takes a name, and the names. -/
def optionNames : List (String × Char) :=
  [("errexit", 'e'), ("noglob", 'f'), ("ignoreeof", 'I'), ("interactive", 'i'), ("monitor", 'm'),
   ("noexec", 'n'), ("stdin", 's'), ("xtrace", 'x'), ("verbose", 'v'), ("vi", 'V'), ("emacs", 'E'),
   ("noclobber", 'C'), ("allexport", 'a'), ("notify", 'b'), ("nounset", 'u')]

def Request.turn (r : Request) (on : Bool) (c : Char) : Request :=
  match c with
  | 'c' => { r with isGiven := true }
  | 'n' => { r with isRead := on }
  | 's' => { r with isInput := on }
  | 'e' => { r with failsFast := on }
  | 'u' => { r with isStrict := on }
  | _ => r

/-- The request that some arguments make, or the option that is none. -/
def Request.ofArgs (r : Request) : List String → Except String Request
  | [] => .ok r
  | first :: rest =>
    let sign := first.toList.headD ' '
    let letters := first.toList.drop 1
    if first = "-" ∨ first = "--" then .ok { r with args := rest }
    else if (sign = '-' ∨ sign = '+') ∧ letters ≠ [] then
      let isNamed := fun (c : Char) => c = 'o'
      match letters.find? (fun c => !isNamed c && c ∉ optionLetters), letters.any isNamed, rest with
      | _, true, name :: rest =>
        match optionNames.lookup name with
        | some c => (letters.foldl (turn · (sign = '-')) (r.turn (sign = '-') c)).ofArgs rest
        | none => .error ("Illegal option " ++ sign.toString ++ "o " ++ name)
      | some c, _, _ => .error ("Illegal option " ++ sign.toString ++ c.toString)
      | none, _, rest => (letters.foldl (turn · (sign = '-')) r).ofArgs rest
    else .ok { r with args := first :: rest }

/-- What `sh` does with some arguments and an input. -/
def runShell (reach : Reach) (here : Option String) (args : List String) (input : ByteArray) :
    Outcome :=
  let refuse := fun (text : String) =>
    (⟨.exited 2, .empty, bytesOf ("sh: 0: " ++ text ++ "\n"), input.size⟩ : Outcome)
  let run := fun (request : Request) (script name : String) (args : List String)
      (input : ByteArray) =>
    let script := if request.isRead then "" else script
    runScript reach here script
      { name, args, input, failsFast := request.failsFast, isStrict := request.isStrict }
  let textOf := fun (bytes : ByteArray) => (String.fromUTF8? bytes).getD ""
  match Request.ofArgs {} args with
  | .error text => refuse text
  | .ok request =>
    if request.isGiven then
      match request.args with
      | [] => refuse "-c requires an argument"
      | script :: more => run request script (more.headD "sh") (more.drop 1) input
    else
      match request.args, request.isInput with
      | file :: args, false =>
        match reach.read file with
        | .ok content => run request (textOf content) file args input
        | .error .isDirectory => run request "" file args input
        | .error _ => refuse ("cannot open " ++ file ++ ": No such file")
      | args, _ => run request (textOf input) "sh" args .empty

/-! ## All programs -/

/-- What is within reach of a script nested at most `depth` deep in others. -/
def reachOf (tree : FileTree) : (depth : Nat) → Reach
  | 0 =>
    { programs := fun _ _ _ => .error .notFound
      read := readFile tree
      script := fun _ r => r
      command := fun _ r => r }
  | depth + 1 =>
    let inner := reachOf tree depth
    { programs := programsWith tree inner
      read := readFile tree
      script := runText inner
      command := fun command r => command.run inner r }
where
  /-- The programs, where scripts have `inner` within reach. -/
  programsWith (tree : FileTree) (inner : Reach) : Programs := fun program args input =>
    if (program :: args).any (·.contains '\x00') then .error .nulInWord
    else
      let name := toolName tree program
      if name = "sh" then .ok (runShell inner tree.workingDir args input)
      else match runTool (readFile tree) "" name args input with
        | some answer =>
          .ok ⟨.exited answer.status, answer.out, answer.err,
            if answer.reads then 0 else input.size⟩
        | none => .error (refusal tree program)

def programs (tree : FileTree) : Programs := (reachOf tree 32).programs

end Stencil.Shell
