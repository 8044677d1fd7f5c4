import Stencil.Shell.Run
import Stencil.Shell.Word
import Stencil.Text.Digits

/-
  Arithmetic in scripts: expressions of whole numbers of 64 bits, which may give values to
  variables. A variable without a value counts as zero.
-/

namespace Stencil.Shell

inductive Arithmetic where
  | number (n : Int)
  | named (name : String)
  | unary (operator : Char) (e : Arithmetic)
  | binary (operator : String) (a b : Arithmetic)
  | choice (test yes no : Arithmetic)
  /-- Gives a variable the value of an expression, joined with its own if there is an operator. -/
  | assign (name operator : String) (e : Arithmetic)

namespace Arithmetic

/-! ## Tokens -/

inductive Token where
  | number (n : Int)
  | name (s : String)
  | sign (s : String)
  deriving DecidableEq

/-- The number at the front, in base ten, eight or sixteen, and what follows it. -/
def takeNumber (s : List Char) : Int × List Char :=
  let (base, digits) := match s with
    | '0' :: 'x' :: rest | '0' :: 'X' :: rest => (16, rest)
    | '0' :: _ => (8, s)
    | _ => (10, s)
  let taken := digits.takeWhile fun c => (Text.digitOf base c).isSome
  let n := (Text.ofDigits base taken).getD 0
  ((min n 9223372036854775807 : Nat), digits.drop taken.length)

/-- The signs, the longer ones first. -/
def signs : List String :=
  ["<<=", ">>=", "<<", ">>", "<=", ">=", "==", "!=", "&&", "||", "+=", "-=", "*=", "/=", "%=",
   "&=", "|=", "^=", "+", "-", "*", "/", "%", "&", "|", "^", "!", "~", "<", ">", "=", "?", ":",
   "(", ")"]

/-- The tokens of an expression; a character that begins none is a sign of its own. `n` bounds
their number. -/
def tokens : Nat → List Char → List Token
  | 0, _ => []
  | _, [] => []
  | n + 1, c :: rest =>
    let s := c :: rest
    if c = ' ' ∨ c = '\t' ∨ c = '\n' then tokens n rest
    else if c.isDigit then
      let (value, after) := takeNumber s
      .number value :: tokens n after
    else if isName c then
      .name (String.ofList (s.takeWhile isName)) :: tokens n (s.dropWhile isName)
    else
      let found := signs.findSome? fun (sign : String) =>
        (Text.stripHead sign.toList s).map (sign, ·)
      match found with
      | some (sign, after) => .sign sign :: tokens n after
      | none => .sign c.toString :: tokens n rest

/-! ## Reading -/

/-- How strongly an operator binds. -/
def strength (operator : String) : Option Nat :=
  [("||", 1), ("&&", 2), ("|", 3), ("^", 4), ("&", 5), ("==", 6), ("!=", 6), ("<", 7), ("<=", 7),
   (">", 7), (">=", 7), ("<<", 8), (">>", 8), ("+", 9), ("-", 9), ("*", 10), ("/", 10),
   ("%", 10)].lookup operator

/-- The operator in front of the equals sign of an assignment. -/
def assigned? (sign : String) : Option String :=
  if sign = "=" then some ""
  else if sign ∈ ["+=", "-=", "*=", "/=", "%=", "<<=", ">>=", "&=", "|=", "^="] then
    some (String.ofList sign.toList.dropLast)
  else none

abbrev Reading := Except String (Arithmetic × List Token)

mutual

/-- An expression; `n` bounds the number of steps, here and below. -/
def expression : Nat → List Token → Reading
  | 0, _ => .error "expecting primary"
  | n + 1, toks => do
    match toks with
    | .name x :: .sign s :: rest =>
      match assigned? s with
      | some operator => do
        let (e, rest) ← expression n rest
        pure (.assign x operator e, rest)
      | none => condition n toks
    | _ => condition n toks

def condition : Nat → List Token → Reading
  | 0, _ => .error "expecting primary"
  | n + 1, toks => do
    let (test, rest) ← operators n 1 toks
    match rest with
    | .sign "?" :: rest => do
      let (yes, rest) ← expression n rest
      match rest with
      | .sign ":" :: rest => do
        let (no, rest) ← condition n rest
        pure (.choice test yes no, rest)
      | _ => .error "expecting ':'"
    | _ => pure (test, rest)

/-- Operands with operators of some strength or more between them. -/
def operators : Nat → (least : Nat) → List Token → Reading
  | 0, _, _ => .error "expecting primary"
  | n + 1, least, toks => do
    let (first, rest) ← operand n toks
    more n least first rest

/-- Operators and operands behind an operand. -/
def more : Nat → (least : Nat) → Arithmetic → List Token → Reading
  | 0, _, e, toks => pure (e, toks)
  | n + 1, least, e, toks => do
    match toks with
    | .sign s :: rest =>
      match strength s with
      | some k =>
        if k < least then pure (e, toks)
        else do
          let (next, rest) ← operators n (k + 1) rest
          more n least (.binary s e next) rest
      | none => pure (e, toks)
    | _ => pure (e, toks)

def operand : Nat → List Token → Reading
  | 0, _ => .error "expecting primary"
  | n + 1, toks => do
    match toks with
    | .number k :: rest => pure (.number k, rest)
    | .name x :: rest => pure (.named x, rest)
    | .sign "(" :: rest => do
      let (e, rest) ← expression n rest
      match rest with
      | .sign ")" :: rest => pure (e, rest)
      | _ => .error "expecting ')'"
    | .sign s :: rest =>
      if s ∈ ["!", "~", "+", "-"] then do
        let (e, rest) ← operand n rest
        pure (.unary (s.toList.headD ' ') e, rest)
      else .error "expecting primary"
    | [] => .error "expecting primary"

end

/-- The expression that a text is. -/
def read (s : List Char) : Except String Arithmetic := do
  let toks := tokens s.length s
  let (e, rest) ← expression (4 * toks.length + 4) toks
  if rest = [] then pure e else .error "expecting EOF"

/-! ## Values -/

/-- A number cut to 64 bits with sign. -/
def cut (n : Int) : Int := n.bmod 18446744073709551616

/-- The bits of a number. -/
def bits (n : Int) : Nat := (n % 18446744073709551616).toNat

def ofBool (b : Bool) : Int := if b then 1 else 0

/-- What an operator makes of two numbers; there is no quotient by zero. -/
def apply (operator : String) (a b : Int) : Option Int :=
  match operator with
  | "" => some b
  | "+" => some (cut (a + b))
  | "-" => some (cut (a - b))
  | "*" => some (cut (a * b))
  | "/" => if b = 0 then none else some (cut (a.tdiv b))
  | "%" => if b = 0 then none else some (a.tmod b)
  | "<<" => some (cut (a * (1 <<< bits b % 64 : Nat)))
  | ">>" => some (a.fdiv (1 <<< bits b % 64 : Nat))
  | "&" => some (cut (bits a &&& bits b : Nat))
  | "|" => some (cut (bits a ||| bits b : Nat))
  | "^" => some (cut (bits a ^^^ bits b : Nat))
  | "==" => some (ofBool (a = b))
  | "!=" => some (ofBool (a ≠ b))
  | "<" => some (ofBool (a < b))
  | "<=" => some (ofBool (a ≤ b))
  | ">" => some (ofBool (b < a))
  | ">=" => some (ofBool (b ≤ a))
  | _ => none

/-- The number that a variable has as its value. -/
def numberOf (value : String) : Option Int :=
  let (negative, digits) := match value.toList with
    | '-' :: rest => (true, rest)
    | '+' :: rest => (false, rest)
    | s => (false, s)
  let (n, rest) := takeNumber digits
  if value = "" then some 0
  else if digits.head?.any Char.isDigit ∧ rest = [] then some (if negative then -n else n)
  else none

/-- What is wrong with an expression of some text. -/
def complaint (text why : String) : String :=
  "arithmetic expression: " ++ why ++ ": \"" ++ text ++ "\""

/-- The number that a variable stands for. -/
def lookUp (r : Run) (name : String) : Except String Int :=
  match r.value? name with
  | none => pure 0
  | some value =>
    match numberOf value with
    | some n => pure n
    | none => .error ("Illegal number: " ++ value)

/-- The value of an expression of some text, and the state after it. -/
def eval (text : String) (r : Run) : Arithmetic → Except String (Run × Int)
  | number n => pure (r, n)
  | named name => do pure (r, ← lookUp r name)
  | unary operator e => do
    let (r, n) ← eval text r e
    pure (r, match operator with
      | '-' => cut (-n)
      | '~' => -n - 1
      | '!' => ofBool (n = 0)
      | _ => n)
  | binary operator a b => do
    let (r, m) ← eval text r a
    if operator = "&&" ∧ m = 0 then pure (r, 0)
    else if operator = "||" ∧ m ≠ 0 then pure (r, 1)
    else do
      let (r, n) ← eval text r b
      if operator = "&&" ∨ operator = "||" then pure (r, ofBool (n ≠ 0))
      else match apply operator m n with
        | some value => pure (r, value)
        | none => .error (complaint text "division by zero")
  | choice test yes no => do
    let (r, n) ← eval text r test
    if n ≠ 0 then eval text r yes else eval text r no
  | assign name operator e => do
    let (r, n) ← eval text r e
    let m ← if operator = "" then pure 0 else lookUp r name
    match apply operator m n with
    | some value => pure (r.assign name (toString value), value)
    | none => .error (complaint text "division by zero")

end Arithmetic

/-- The value of an expression as a text; there is a complaint if it has none. -/
def Run.calculate (r : Run) (s : List Char) : Run × String :=
  let text := String.ofList s
  match Arithmetic.read s with
  | .error why => (r.fail (Arithmetic.complaint text why), "")
  | .ok e =>
    match e.eval text r with
    | .ok (r, n) => (r, toString n)
    | .error message => (r.fail message, "")

end Stencil.Shell
