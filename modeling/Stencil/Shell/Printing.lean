import Stencil.Text.Digits
import Stencil.Text.Utf8

/-
  Texts with escapes, and formats: a percent sign begins a directive, which prints the next
  argument, and a format is used again until no arguments are left.
-/

namespace Stencil.Shell.Printing

/-! ## Escapes -/

/-- What a backslash and `c` stand for. -/
def escapeByte (c : Char) : Option UInt8 :=
  match c with
  | 'a' => some 7
  | 'b' => some 8
  | 'e' => some 27
  | 'f' => some 12
  | 'n' => some 10
  | 'r' => some 13
  | 't' => some 9
  | 'v' => some 11
  | '\\' => some 92
  | _ => none

/-- The byte of the octal digits at the front, of which at most `n` count, and the rest. -/
def takeOctal (n : Nat) (s : List Char) : Option (UInt8 × List Char) :=
  let digits := (s.take n).takeWhile fun c => (Text.digitOf 8 c).isSome
  if digits = [] then none
  else (Text.ofDigits 8 digits).map fun value => (value.toUInt8, s.drop digits.length)

def pushChar (out : ByteArray) (c : Char) : ByteArray := (Text.utf8 [c]).foldl ByteArray.push out

/-- Adds a text to an output with its escapes resolved, up to an escape that ends all output,
and says whether there is none; `n` bounds the number of steps. -/
def unescapeTo : Nat → ByteArray → List Char → ByteArray × Bool
  | 0, out, _ => (out, true)
  | _, out, [] => (out, true)
  | n + 1, out, '\\' :: '0' :: rest =>
    match takeOctal 3 rest with
    | some (b, after) => unescapeTo n (out.push b) after
    | none => unescapeTo n (out.push 0) rest
  | n + 1, out, '\\' :: c :: rest =>
    if c = 'c' then (out, false)
    else match takeOctal 3 (c :: rest) with
      | some (b, after) => unescapeTo n (out.push b) after
      | none =>
        match escapeByte c with
        | some b => unescapeTo n (out.push b) rest
        | none => unescapeTo n (pushChar (out.push 92) c) rest
  | n + 1, out, c :: rest => unescapeTo n (pushChar out c) rest

def unescape (s : String) : ByteArray × Bool := unescapeTo s.length .empty s.toList

/-! ## Directives -/

/-- How a directive prints an argument. -/
structure Directive where
  flags : List Char
  width : Nat
  precision : Option Nat
  kind : Char

def Directive.pad (d : Directive) (text : ByteArray) : ByteArray :=
  let blanks : ByteArray := ⟨Array.replicate (d.width - text.size) 32⟩
  if '-' ∈ d.flags then text ++ blanks else blanks ++ text

/-- A number with its sign and as many digits as are wanted. -/
def Directive.number (d : Directive) (n : Int) : ByteArray :=
  let base := if d.kind = 'o' then 8 else if d.kind = 'x' ∨ d.kind = 'X' then 16 else 10
  let signed := d.kind = 'd' ∨ d.kind = 'i'
  let n := if signed then n else n % 18446744073709551616
  let digits := String.ofList (Nat.toDigits base n.natAbs)
  let digits := if d.kind = 'X' then digits.toUpper else digits
  let sign :=
    if n < 0 then "-"
    else if signed ∧ '+' ∈ d.flags then "+"
    else if signed ∧ ' ' ∈ d.flags then " "
    else if '#' ∈ d.flags ∧ base = 16 ∧ n ≠ 0 then "0" ++ d.kind.toString
    else if '#' ∈ d.flags ∧ base = 8 ∧ n ≠ 0 then "0"
    else ""
  let wanted := match d.precision with
    | some p => p
    | none => if '0' ∈ d.flags ∧ '-' ∉ d.flags then d.width - sign.length else 1
  d.pad (sign ++ "".pushn '0' (wanted - digits.length) ++ digits).toUTF8

/-- The number at the front of a text, and what is left of the text. -/
def takeNumber (s : List Char) : Int × List Char :=
  let s := s.dropWhile Char.isWhitespace
  let (negative, s) := match s with
    | '-' :: rest => (true, rest)
    | '+' :: rest => (false, rest)
    | _ => (false, s)
  let (base, s) := match s with
    | '0' :: 'x' :: rest => (16, rest)
    | '0' :: _ => (8, s)
    | _ => (10, s)
  let digits := s.takeWhile fun c => (Text.digitOf base c).isSome
  let n : Int := (Text.ofDigits base digits).getD 0
  (if negative then -n else n, s.drop digits.length)

/-- The number that an argument is, and what is wrong with it. -/
def numberOf (arg : String) : Int × Option String :=
  match arg.toList with
  | [] => (0, none)
  | quote :: c :: _ =>
    if quote = '\'' ∨ quote = '"' then (c.toNat, none) else checked (takeNumber arg.toList)
  | _ => checked (takeNumber arg.toList)
where
  checked : Int × List Char → Int × Option String
    | (n, rest) =>
      if rest.length = arg.length then (n, some (arg ++ ": expected numeric value"))
      else if rest ≠ [] then (n, some (arg ++ ": not completely converted"))
      else (n, none)

/-! ## Formats -/

/-- A printing under way. -/
structure State where
  args : List String
  out : ByteArray := .empty
  status : Nat := 0
  /-- What is wrong, the latest first. -/
  faults : List String := []
  /-- Whether the printing goes on. -/
  goesOn : Bool := true

def State.fault (r : State) (status : Nat) (text : String) (goesOn : Bool) : State :=
  { r with status, faults := text :: r.faults, goesOn }

/-- The flags, the width and the precision at the front of a directive; a star stands for an
argument. -/
def takeDirective (r : State) (s : List Char) : Directive × List Char × State :=
  let flags := s.takeWhile (· ∈ ['-', '+', ' ', '0', '#'])
  let (width, rest, r) := takeSize r (s.drop flags.length)
  match rest with
  | '.' :: rest =>
    let (precision, rest, r) := takeSize r rest
    (⟨flags, width, some precision, rest.headD ' '⟩, rest.drop 1, r)
  | _ => (⟨flags, width, none, rest.headD ' '⟩, rest.drop 1, r)
where
  takeSize (r : State) (s : List Char) : Nat × List Char × State :=
    match s with
    | '*' :: rest => ((numberOf (r.args.headD "")).1.toNat, rest, { r with args := r.args.drop 1 })
    | _ =>
      let digits := s.takeWhile Char.isDigit
      ((Text.ofDigits 10 digits).getD 0, s.drop digits.length, r)

/-- Prints an argument by a directive. -/
def State.direct (r : State) (d : Directive) : State :=
  let arg := r.args.headD ""
  let used := { r with args := r.args.drop 1 }
  let cut := fun (text : ByteArray) => match d.precision with
    | some p => text.extract 0 p
    | none => text
  if d.kind = 's' then { used with out := r.out ++ d.pad (cut arg.toUTF8) }
  else if d.kind = 'b' then
    let (text, whole) := unescape arg
    { used with out := r.out ++ d.pad (cut text), goesOn := whole }
  else if d.kind = 'c' then
    { used with out := r.out ++ d.pad ((arg.toUTF8.extract 0 1).append
        (if arg = "" then ⟨#[0]⟩ else .empty)) }
  else if d.kind ∈ ['d', 'i', 'o', 'u', 'x', 'X'] then
    let (n, fault) := numberOf arg
    let r := { used with out := r.out ++ d.number n }
    match fault with
    | some text => r.fault 1 text true
    | none => r
  else r.fault 2 ("%" ++ d.kind.toString ++ ": invalid directive") false

/-- One pass over a format; `n` bounds the number of steps. -/
def printOnce : Nat → List Char → State → State
  | 0, _, r => r
  | _, [], r => r
  | n + 1, '\\' :: c :: rest, r =>
    match takeOctal 3 (c :: rest) with
    | some (b, after) => printOnce n after { r with out := r.out.push b }
    | none =>
      match escapeByte c with
      | some b => printOnce n rest { r with out := r.out.push b }
      | none => printOnce n rest { r with out := pushChar (r.out.push 92) c }
  | n + 1, '%' :: '%' :: rest, r => printOnce n rest { r with out := r.out.push 37 }
  | _, ['%'], r => r.fault 2 "missing format character" false
  | n + 1, '%' :: rest, r =>
    let (d, after, r) := takeDirective r rest
    let r := r.direct d
    if r.goesOn then printOnce n after r else r
  | n + 1, c :: rest, r => printOnce n rest { r with out := pushChar r.out c }

/-- Passes over a format until all arguments are used up, or a pass uses none; `n` bounds the
number of passes. -/
def passes (format : List Char) : Nat → State → State
  | 0, r => r
  | n + 1, r =>
    let after := printOnce format.length format r
    if after.args = [] ∨ after.args.length = r.args.length ∨ !after.goesOn then after
    else passes format n after

def printAll (format : List Char) (args : List String) : State :=
  passes format (args.length + 1) { args }

end Stencil.Shell.Printing
