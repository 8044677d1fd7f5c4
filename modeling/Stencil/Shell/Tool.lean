import Stencil.Format.Program
import Stencil.Shell.ByteSet

/-
  Small programs that formatters are put together from: `cat`, `wc`, `tr`, `echo`, `printf`,
  `test`, `sleep`, `true` and `false`.
-/

namespace Stencil.Shell

/-- What a tool answers: its status and output, and whether it reads its input. -/
structure Answer where
  status : Nat := 0
  out : ByteArray := .empty
  err : ByteArray := .empty
  reads : Bool := false

def bytesOf (s : String) : ByteArray := s.toUTF8

/-- The options among some arguments without their signs, and the other arguments; a double dash
ends the options. -/
def splitOptions : List String → List (List Char) × List String
  | [] => ([], [])
  | "--" :: rest => ([], rest)
  | arg :: rest =>
    let (options, others) := splitOptions rest
    if arg.startsWith "-" ∧ arg ≠ "-" then (arg.toList.drop 1 :: options, others)
    else (options, arg :: others)

/-- What is wrong with a file, as tools say it. -/
def faultText (why : IoError) : String := (why.message.splitOn " (os error").headD ""

/-- The short form of the options of a tool, of which some have long names; the first that is
none comes instead, with what says so. -/
def shortOptions (tool letters : String) (names : List (String × Char)) (args : List String) :
    Except Answer (List Char × List String) :=
  let (options, others) := splitOptions args
  let refuse := fun (text : String) =>
    ({ status := 1
       err := bytesOf (tool ++ ": " ++ text ++ "\nTry '" ++ tool ++
         " --help' for more information.\n") } : Answer)
  let step : List Char → Except Answer (List Char)
    | '-' :: name =>
      match names.lookup (String.ofList name) with
      | some c => .ok [c]
      | none => .error (refuse ("unrecognized option '--" ++ String.ofList name ++ "'"))
    | option =>
      match option.find? (· ∉ letters.toList) with
      | some c => .error (refuse ("invalid option -- '" ++ c.toString ++ "'"))
      | none => .ok option
  (options.mapM step).map fun found => (found.flatten, others)

/-! ## Joining files -/

/-- The lines of a text, the last of which may have no end. -/
def linesOf (text : ByteArray) : List (List UInt8) :=
  let (done, begun) := text.data.foldl (fun (done, begun) b =>
    if b = 10 then ((b :: begun).reverse :: done, []) else (done, b :: begun))
    (([] : List (List UInt8)), ([] : List UInt8))
  (if begun = [] then done else begun.reverse :: done).reverse

/-- A byte where what does not print is shown; tabs and line ends stay. -/
def showByte (b : UInt8) : List UInt8 :=
  let low := fun (b : UInt8) =>
    if b = 127 then [94, 63] else if b < 32 then [94, b + 64] else [b]
  if b = 9 ∨ b = 10 then [b]
  else if 128 ≤ b then [77, 45] ++ low (b - 128)
  else low b

/-- A number in front of a line. -/
def lineNumber (n : Nat) : List UInt8 :=
  let digits := toString n
  ("".pushn ' ' (6 - digits.length) ++ digits ++ "\t").toUTF8.data.toList

/-- Shows lines as options say: with numbers, with line ends, tabs and what does not print made
visible, and with no more than one empty line in a row. -/
def decorate (options : List Char) (text : ByteArray) : ByteArray :=
  let has := fun (cs : List Char) => options.any (· ∈ cs)
  let visible := fun (line : List UInt8) =>
    line.flatMap fun b =>
      if b = 10 then (if has ['E', 'A', 'e'] then [36, 10] else [10])
      else if b = 9 then (if has ['T', 'A', 't'] then [94, 73] else [9])
      else if has ['v', 'A', 'e', 't'] then showByte b
      else [b]
  let (out, _, _) := (linesOf text).foldl (fun (out, n, wasEmpty) line =>
    let isEmpty := line = [10]
    if isEmpty ∧ wasEmpty ∧ has ['s'] then (out, n, wasEmpty)
    else
      let isNumbered := if has ['b'] then !isEmpty else has ['n']
      let line := (if isNumbered then lineNumber n else []) ++ visible line
      (line.foldl ByteArray.push out, if isNumbered then n + 1 else n, isEmpty))
    (ByteArray.empty, 1, false)
  out

def cat (read : String → Except IoError ByteArray) (args : List String) (input : ByteArray) :
    Answer :=
  let names := [("number", 'n'), ("number-nonblank", 'b'), ("squeeze-blank", 's'),
    ("show-ends", 'E'), ("show-tabs", 'T'), ("show-nonprinting", 'v'), ("show-all", 'A')]
  match shortOptions "cat" "benstuvAET" names args with
  | .error answer => answer
  | .ok (options, files) =>
    let add := fun (a : Answer) (file : String) =>
      if file = "-" then
        { a with out := if a.reads then a.out else a.out ++ input, reads := true }
      else match read file with
        | .ok content => { a with out := a.out ++ content }
        | .error why =>
          { a with
            status := 1
            err := a.err ++ bytesOf ("cat: " ++ file ++ ": " ++ faultText why ++ "\n") }
    let a := (if files = [] then ["-"] else files).foldl add {}
    if options.all (· = 'u') then a else { a with out := decorate options a.out }

/-! ## Counting -/

/-- What is counted of a text: lines, words, characters, bytes, and the longest line. -/
def counts (options : List Char) (text : ByteArray) : List Nat :=
  let isBlank := fun (b : UInt8) => b = 32 || (9 ≤ b && b ≤ 13)
  let lines := text.data.foldl (fun n b => if b = 10 then n + 1 else n) 0
  let (words, _) := text.data.foldl (fun (n, inside) b =>
    if isBlank b then (n, false) else (if inside then n else n + 1, true)) (0, false)
  let chars := text.data.foldl (fun n b => if b &&& 0xc0 = 0x80 then n else n + 1) 0
  let longest := fun (_ : Unit) => (linesOf text).foldl (fun n line =>
    max n (line.countP (· ≠ 10))) 0
  (if options = [] ∨ 'l' ∈ options then [lines] else []) ++
  (if options = [] ∨ 'w' ∈ options then [words] else []) ++
  (if 'm' ∈ options then [chars] else []) ++
  (if options = [] ∨ 'c' ∈ options then [text.size] else []) ++
  (if 'L' ∈ options then [longest ()] else [])

def wc (read : String → Except IoError ByteArray) (args : List String) (input : ByteArray) :
    Answer :=
  let names := [("lines", 'l'), ("words", 'w'), ("chars", 'm'), ("bytes", 'c'),
    ("max-line-length", 'L')]
  match shortOptions "wc" "clLmw" names args with
  | .error answer => answer
  | .ok (options, files) =>
    let content := fun (file : String) => if file = "-" then .ok input else read file
    let size := files.foldl (fun size file =>
      match content file with
      | .ok content => size + content.size
      | .error _ => size) 0
    let columns := (counts options .empty).length
    let width :=
      if columns = 1 ∧ files.length ≤ 1 then 1
      else if files = [] ∨ files.any (· = "-") then 7
      else (toString size).length
    let row := fun (numbers : List Nat) (label : String) =>
      bytesOf (" ".intercalate (numbers.map fun n =>
        "".pushn ' ' (width - (toString n).length) ++ toString n) ++ label ++ "\n")
    let reads := files = [] || files.any (· = "-")
    if files = [] then { out := row (counts options input) "", reads }
    else
      let add := fun ((total, a) : List Nat × Answer) (file : String) =>
        match content file with
        | .ok content =>
          let numbers := counts options content
          (List.zipWith (· + ·) total numbers,
            { a with out := a.out ++ row numbers (" " ++ file) })
        | .error why =>
          let shown := if why = .isDirectory
            then row (List.replicate columns 0) (" " ++ file) else .empty
          (total, { a with
            status := 1
            out := a.out ++ shown
            err := a.err ++ bytesOf ("wc: " ++ file ++ ": " ++ faultText why ++ "\n") })
      let (total, a) := files.foldl add (List.replicate columns 0, { reads })
      if files.length = 1 then a else { a with out := a.out ++ row total " total" }

/-! ## Writing arguments -/

def echo (args : List String) : Answer :=
  let (args, ending) : List String × ByteArray := match args with
    | "-n" :: rest => (rest, .empty)
    | _ => (args, bytesOf "\n")
  let (out, whole) := Printing.unescape (" ".intercalate args)
  { out := if whole then out ++ ending else out }

/-- Writes arguments as they are, for `echo` as a program: escapes are read if an option asks. -/
def echoPlain (args : List String) : Answer :=
  let isOption := fun (arg : String) =>
    match arg.toList with
    | '-' :: letters => letters ≠ [] ∧ letters.all (· ∈ ['n', 'e', 'E'])
    | _ => false
  let letters := (args.takeWhile isOption).flatMap fun arg => arg.toList.drop 1
  let text := " ".intercalate (args.dropWhile isOption)
  let ending := if 'n' ∈ letters then .empty else bytesOf "\n"
  if letters.reverse.find? (· ≠ 'n') = some 'e' then
    let (out, whole) := Printing.unescape text
    { out := if whole then out ++ ending else out }
  else { out := bytesOf text ++ ending }

/-- Waits, which takes no time here. -/
def sleep (args : List String) : Answer :=
  let wrong := fun (text : String) =>
    ({ status := 1
       err := bytesOf ("sleep: " ++ text ++ "\nTry 'sleep --help' for more information.\n") } :
      Answer)
  let isTime := fun (arg : String) =>
    let digits := arg.toList.takeWhile fun c => c.isDigit || c = '.'
    let hasUnit := match arg.toList.drop digits.length with
      | [] | ['s'] | ['m'] | ['h'] | ['d'] => true
      | _ => false
    hasUnit && digits.any Char.isDigit && (digits.filter (· = '.')).length ≤ 1
  match args, args.find? fun arg => !isTime arg with
  | [], _ => wrong "missing operand"
  | _, some arg => wrong ("invalid time interval '" ++ arg ++ "'")
  | _, none => {}

/-- Prints arguments by a format; complaints begin with `origin`. -/
def printf (origin : String) (args : List String) : Answer :=
  let wrong := fun (text : String) => origin ++ "printf: " ++ text ++ "\n"
  let args := match args with
    | "--" :: rest => rest
    | _ => args
  match args with
  | [] =>
    if origin = "" then
      { status := 1
        err := bytesOf
          "printf: missing operand\nTry 'printf --help' for more information.\n" }
    else { status := 2, err := bytesOf (wrong "usage: printf format [arg ...]") }
  | format :: args =>
    if format.startsWith "-" then
      let letter := String.ofList ((format.toList.drop 1).take 1)
      { status := 2, err := bytesOf (wrong ("Illegal option -" ++ letter)) }
    else
      let r := Printing.printAll format.toList args
      { status := r.status
        out := r.out
        err := bytesOf (String.join (r.faults.reverse.map wrong)) }

/-- Replaces the bytes of a set, takes them out, or leaves one of several in a row. -/
def tr (args : List String) (input : ByteArray) : Answer :=
  let isOption := fun (arg : String) => arg.startsWith "-" && arg ≠ "-" && arg ≠ "--"
  let names := [("complement", 'c'), ("delete", 'd'), ("squeeze-repeats", 's'),
    ("truncate-set1", 't')]
  let operands := args.dropWhile isOption
  let operands := if operands.head? = some "--" then operands.drop 1 else operands
  let wrong := fun (lines : List String) =>
    { status := 1
      err := bytesOf ("tr: " ++ "\n".intercalate lines ++
        "\nTry 'tr --help' for more information.\n") : Answer }
  match shortOptions "tr" "cCdst" names (args.takeWhile isOption) with
  | .error answer => answer
  | .ok (options, _) =>
    let deletes := options.contains 'd'
    let squeezes := options.contains 's'
    let set := fun (s : String) => setOf s.length s.toList
    let chosen := fun (s : String) =>
      if options.any (· ∈ ['c', 'C']) then (byteRange 0 255).filter (· ∉ set s) else set s
    let without := fun (s : String) =>
      let gone := chosen s
      ⟨input.data.filter (· ∉ gone)⟩
    match (operands.take 2).findSome? fun s => reversedRange (setBytes s.length s.toList) with
    | some ends =>
      { status := 1
        err := bytesOf ("tr: range-endpoints of '" ++ ends ++
          "' are in reverse collating sequence order\n") }
    | none =>
      match operands with
      | [] => wrong ["missing operand"]
      | [first] =>
        if deletes ∧ squeezes then
          wrong ["missing operand after '" ++ first ++ "'",
            "Two strings must be given when both deleting and squeezing repeats."]
        else if deletes then { out := without first, reads := true }
        else if squeezes then { out := squeeze (chosen first) input, reads := true }
        else
          wrong ["missing operand after '" ++ first ++ "'",
            "Two strings must be given when translating."]
      | [first, second] =>
        if deletes ∧ squeezes then
          { out := squeeze (set second) (without first), reads := true }
        else if deletes then
          wrong ["extra operand '" ++ second ++ "'",
            "Only one string may be given when deleting without squeezing repeats."]
        else if second = "" ∧ !options.contains 't' then
          { status := 1
            err := bytesOf
              "tr: when not truncating set1, string2 must be non-empty\n" }
        else
          let partners := set second
          let chosen := chosen first
          let chosen := if options.contains 't' then chosen.take partners.length else chosen
          let out : ByteArray := ⟨input.data.map (replace chosen partners)⟩
          { out := if squeezes then squeeze partners out else out, reads := true }
      | _ :: _ :: extra :: _ => wrong ["extra operand '" ++ extra ++ "'"]

/-! ## Comparing -/

/-- What a test says of its operands; it says nothing of those that are no test. -/
def testOf (read : String → Except IoError ByteArray) (args : List String) :
    Except String (Option Bool) :=
  let number := fun (s : String) => match (Text.trim s.toList) with
    | '-' :: digits => (numberOf s digits).map fun n => -(n : Int)
    | '+' :: digits => (numberOf s digits).map fun n => (n : Int)
    | digits => (numberOf s digits).map fun n => (n : Int)
  let compare := fun (holds : Int → Int → Bool) (a b : String) => do
    let m ← number a
    let n ← number b
    pure (some (holds m n))
  match args with
  | [] => pure (some false)
  | [s] => pure (some (s ≠ ""))
  | [operator, s] =>
    pure (match operator with
      | "!" => some (s = "")
      | "-n" => some (s ≠ "")
      | "-z" => some (s = "")
      | "-e" | "-r" | "-w" => some (isThere s)
      | "-f" => some (read s).toBool
      | "-s" => some (match read s with
        | .ok content => content.size ≠ 0
        | .error _ => false)
      | "-d" | "-x" => some (match read s with
        | .error .isDirectory => true
        | _ => false)
      | "-t" | "-h" | "-L" | "-p" | "-S" => some false
      | _ => none)
  | [a, operator, b] =>
    match operator with
    | "=" => pure (some (a = b))
    | "!=" => pure (some (a ≠ b))
    | "-eq" => compare (· = ·) a b
    | "-ne" => compare (· ≠ ·) a b
    | "-lt" => compare (· < ·) a b
    | "-le" => compare (· ≤ ·) a b
    | "-gt" => compare (· > ·) a b
    | "-ge" => compare (· ≥ ·) a b
    | "-a" => pure (some (a ≠ "" && b ≠ ""))
    | "-o" => pure (some (a ≠ "" || b ≠ ""))
    | _ => pure none
  | _ => pure none
where
  isThere (path : String) : Bool :=
    match read path with
    | .ok _ | .error .isDirectory => true
    | .error _ => false
  numberOf (s : String) (digits : List Char) : Except String Nat :=
    match digits, Text.ofDigits 10 digits with
    | _ :: _, some n => pure n
    | _, _ => .error ("Illegal number: " ++ s)

/-- The operands before and behind the first of some word. -/
def splitAtWord (word : String) : List String → Option (List String × List String)
  | [] => none
  | first :: rest =>
    if first = word then some ([], rest)
    else (splitAtWord word rest).map fun (before, after) => (first :: before, after)

/-- Whether operands pass a test: tests may be joined, turned round and put in brackets. `n`
bounds the number of steps. -/
def passes (read : String → Except IoError ByteArray) :
    Nat → List String → Except String Bool
  | 0, _ => .error "argument expected"
  | n + 1, args => do
    match ← testOf read args with
    | some answer => pure answer
    | none =>
      match splitAtWord "-o" args, splitAtWord "-a" args, args with
      | some (a, b), _, _ => return (← passes read n a) || (← passes read n b)
      | none, some (a, b), _ => return (← passes read n a) && (← passes read n b)
      | none, none, "!" :: rest => return !(← passes read n rest)
      | none, none, "(" :: rest =>
        if rest.getLast? = some ")" then passes read n rest.dropLast
        else .error "closing paren expected"
      | _, _, _ => .error (args.headD "" ++ ": unexpected operator")

def test (read : String → Except IoError ByteArray) (origin name : String)
    (args : List String) : Answer :=
  if name = "[" ∧ args.getLast? ≠ some "]" then
    { status := 2, err := bytesOf (origin ++ "[: missing ]\n") }
  else
    let operands := if name = "[" then args.dropLast else args
    match passes read (operands.length + 1) operands with
    | .ok answer => { status := if answer then 0 else 1 }
    | .error why => { status := 2, err := bytesOf (origin ++ name ++ ": " ++ why ++ "\n") }

/-! ## All tools -/

/-- The answer of the tool with a name, if there is one. Where a tool belongs to the script that
calls it, its complaints begin with `origin`, which is empty for a program of its own. -/
def runTool (read : String → Except IoError ByteArray) (origin name : String)
    (args : List String) (input : ByteArray) : Option Answer :=
  if name = "cat" then some (cat read args input)
  else if name = "wc" then some (wc read args input)
  else if name = "tr" then some (tr args input)
  else if name = "echo" then some (if origin = "" then echoPlain args else echo args)
  else if name = "printf" then some (printf origin args)
  else if name = "test" ∨ name = "[" then some (test read origin name args)
  else if name = "sleep" then some (sleep args)
  else if name = "true" then some {}
  else if name = "false" then some { status := 1 }
  else none

end Stencil.Shell
