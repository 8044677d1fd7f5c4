import Stencil.Plain.Constant
import Stencil.Plain.Token

/-
  Reading plain templates: from tokens to statements. From weak to strong, operators bind as `or`,
  `and`, `not`, comparisons, `~`, a minus sign, and what follows a value: attributes, items,
  calls, filters and tests. Expressions and statements may be nested only so deep.
-/

namespace Stencil.Plain

open Template

/-- Where the reading stands: the line of the token before, and the tokens to come. -/
structure Cursor where
  lineBefore : Nat := 0
  tokens : Tokens

/-- Reads the front of some tokens. -/
abbrev Reader := StateT Cursor (Except ErrorKind)

namespace Reader

def failed {α : Type} : Reader α := throw .badTemplate

def peek : Reader (Option Token) := do
  match (← get).tokens with
  | [] => pure none
  | (.malformed kind, _) :: _ => throw kind
  | (t, _) :: _ => pure (some t)

/-- The line of the token before. -/
def lineBefore : Reader Nat := do pure (← get).lineBefore

/-- The line of the next token. -/
def line : Reader Nat := do
  let cursor ← get
  pure ((cursor.tokens.head?.map (·.2)).getD cursor.lineBefore)

def next : Reader Token := do
  match ← peek with
  | none => failed
  | some t =>
    set (Cursor.mk (← line) ((← get).tokens.drop 1))
    pure t

def expect (t : Token) : Reader Unit := do
  if (← next) = t then pure () else failed

/-- Passes over the token if it comes next. -/
def skip (t : Token) : Reader Bool := do
  if (← peek) = some t then do let _ ← next; pure true else pure false

def word : Reader String := do
  match ← next with
  | .word s => pure s
  | _ => failed

/-- Whether there is no further token because what comes next is none. -/
def isAtMalformed : Reader Bool := do
  match (← get).tokens with
  | (.malformed _, _) :: _ => pure true
  | _ => pure false

/-- How many tokens are left. -/
def left : Reader Nat := do pure (← get).tokens.length

end Reader

open Reader

/-! ## Expressions -/

/-- Builds an expression that starts on a line from two others. -/
abbrev Join := (start : Nat) → (left right : Expr) → Expr

/-- Operands joined by one operator, from the left; `n` bounds their number. -/
def joined (operator : Token) (join : Join) (operand : Reader Expr) (start : Nat) :
    Nat → Expr → Reader Expr
  | 0, e => pure e
  | n + 1, e => do
    if ← skip operator then joined operator join operand start n (join start e (← operand))
    else pure e

/-- A reader of operands joined by one operator. -/
def level (operator : Token) (join : Join) (operand : Reader Expr) : Reader Expr := do
  let start ← line
  let first ← operand
  joined operator join operand start (← left) first

/-- An operand behind any number of marks. -/
def marked (mark : Token) (wrap : Nat → Expr → Expr) (operand : Reader Expr) :
    Nat → Reader Expr
  | 0 => operand
  | n + 1 => do
    let start ← line
    if ← skip mark then return wrap start (← marked mark wrap operand n) else operand

/-- Expressions between brackets, up to the closing one; a comma may follow the last. -/
def items (closing : Token) (expression : Reader Expr) : Nat → Reader (List Expr)
  | 0 => failed
  | n + 1 => do
    if ← skip closing then pure []
    else do
      let e ← expression
      if ← skip closing then pure [e]
      else do
        expect (.sign ",")
        return e :: (← items closing expression n)

/-- The greatest number of arguments. -/
def argumentBound : Nat := 2000

def arguments (expression : Reader Expr) : Reader (List Expr) := do
  expect (.sign "(")
  let args ← items (.sign ")") expression (← left)
  if argumentBound < args.length then failed else pure args

/-- The arguments, if there are any. -/
def optionalArguments (expression : Reader Expr) : Reader (List Expr) := do
  if (← peek) = some (.sign "(") then arguments expression else pure []

def constant? (s : String) : Option Literal :=
  if s = "true" ∨ s = "True" then some (.bool true)
  else if s = "false" ∨ s = "False" then some (.bool false)
  else if s = "none" ∨ s = "None" then some .none
  else none

/-- Quoted texts that follow each other are one; `n` bounds their number. What is no token
behind a quoted text counts as the end of the template, whatever is wrong with it. -/
def quotedTexts : Nat → String → Reader String
  | 0, s => pure s
  | n + 1, s => do
    if ← isAtMalformed then failed
    match ← peek with
    | some (.str t) => do
      let _ ← next
      quotedTexts n (s ++ t)
    | _ => pure s

/-- What stands in round brackets: an expression, or a list if a comma follows the first. -/
def bracketed (expression : Reader Expr) (start : Nat) : Reader Expr := do
  if ← skip (.sign ")") then pure (.ofList start [])
  else do
    let e ← expression
    if ← skip (.sign ")") then pure e
    else do
      expect (.sign ",")
      return .ofList start (e :: (← items (.sign ")") expression (← left)))

/-- A value on its own. -/
def primary (expression : Reader Expr) : Reader Expr := do
  let start ← line
  match ← next with
  | .word s => pure (match constant? s with
    | some value => .literal value start
    | none => .name s start)
  | .str s => return .literal (.str (← quotedTexts (← left) s)) start
  | .number n => pure (.literal (.number n) start)
  | .sign "(" => bracketed expression start
  | .sign "[" => return .ofList start (← items (.sign "]") expression (← left))
  | _ => failed

/-- A call of what an expression gives; `start` is the line it begins on. -/
def callOf (start : Nat) (callee : Expr) (args : List Expr) : Expr :=
  match callee with
  | .name id _ => .call id args start
  | .attr of key => .callMethod of key args
  | e => .callValue e args

/-- The attribute behind a dot, or the item if it is a number. -/
def behindDot (e : Expr) : Reader Expr := do
  let start ← line
  match ← next with
  | .word s => pure (.attr e s)
  | .number (.natural n) => pure (.item e (.literal (.number (.natural n)) start))
  | _ => failed

/-- Attributes, items and calls behind a value; `n` bounds their number. -/
def accesses (expression : Reader Expr) (start : Nat) : Nat → Expr → Reader Expr
  | 0, e => pure e
  | n + 1, e => do
    match ← peek with
    | some (.sign ".") => do
      let _ ← next
      accesses expression start n (← behindDot e)
    | some (.sign "[") => do
      let _ ← next
      let key ← expression
      expect (.sign "]")
      accesses expression start n (.item e key)
    | some (.sign "(") => do
      accesses expression start n (callOf start e (← arguments expression))
    | _ => pure e

/-- A value with its signs and accesses. -/
def accessed (inArguments inBrackets : Reader Expr) : Reader Expr := do
  let start ← line
  let e ← marked (.sign "-") .ofNegative (primary inBrackets) (← left)
  accesses inArguments start (← left) e

/-- Whether an argument of a test begins here that stands without brackets. -/
def startsArgument : Option Token → Bool
  | some (.word s) => s ∉ ["and", "or", "else", "is"]
  | some (.str _) | some (.number _) => true
  | some (.sign s) => s ∈ ["+", "-", "[", "\x7b"]
  | _ => false

/-- The arguments of a test: some in brackets, or one without. -/
def testArguments (inArguments inBrackets : Reader Expr) : Reader (List Expr) := do
  if (← peek) = some (.sign "(") then arguments inArguments
  else if startsArgument (← peek) then return [← accessed inArguments inBrackets]
  else pure []

/-- Filters and tests behind a value; `n` bounds their number. -/
def filters (inArguments inBrackets : Reader Expr) : Nat → Expr → Reader Expr
  | 0, e => pure e
  | n + 1, e => do
    if ← skip (.sign "|") then do
      let name ← word
      filters inArguments inBrackets n (.filter name e (← optionalArguments inArguments))
    else if ← skip (.word "is") then do
      let negated ← skip (.word "not")
      let name ← word
      let tested := Expr.test name e (← testArguments inArguments inBrackets)
      filters inArguments inBrackets n (if negated then .not tested else tested)
    else pure e

/-- A value with all that belongs to it. -/
def operand (inArguments inBrackets : Reader Expr) : Reader Expr := do
  let e ← accessed inArguments inBrackets
  filters inArguments inBrackets (← left) e

/-- The comparison that comes next. -/
def comparison? : Reader (Option Comparison) := do
  let found := fun (c : Comparison) => do
    let _ ← next
    pure (some c)
  match ← peek with
  | some (.sign "==") => found .equal
  | some (.sign "!=") => found .notEqual
  | some (.sign "<") => found .less
  | some (.sign "<=") => found .lessEqual
  | some (.sign ">") => found .greater
  | some (.sign ">=") => found .greaterEqual
  | some (.word "in") => found .isIn
  | some (.word "not") => do
    let _ ← next
    expect (.word "in")
    pure (some .isNotIn)
  | _ => pure none

/-- The comparisons with what follows; `n` bounds their number. -/
def links (operand : Reader Expr) : Nat → Reader (Option Links)
  | 0 => pure none
  | n + 1 => do
    match ← comparison? with
    | none => pure none
    | some c => do
      let e ← operand
      match ← links operand n with
      | none => pure (some (.last c e))
      | some rest => pure (some (.more c e rest))

/-- Values compared with each other; they start where the token before stands. -/
def compared (operand : Reader Expr) : Reader Expr := do
  let start ← lineBefore
  let first ← operand
  match ← links operand (← left) with
  | none => pure first
  | some links => pure (.ofCompare start first links)

/-- All operators, given what reads arguments and what reads the inside of brackets. -/
def operators (inArguments inBrackets : Reader Expr) : Reader Expr :=
  let concat := level (.sign "~") .ofConcat (operand inArguments inBrackets)
  let negation : Reader Expr := do marked (.word "not") .ofNot (compared concat) (← left)
  level (.word "or") .ofOr (level (.word "and") .ofAnd negation)

/-- A condition, which may nest as far as there is `room`. A value needs room for one, its
arguments for one more and what it has in brackets for two more. -/
def condition : (room : Nat) → Reader Expr
  | 0 => failed
  | 1 => operators failed failed
  | room + 2 => operators (condition (room + 1)) (condition room)

/-- Any other expression needs room for one more. -/
def expression (room : Nat) : Reader Expr := condition (room - 1)

/-! ## Statements -/

def reserved : List String :=
  ["true", "True", "false", "False", "none", "None", "loop", "self"]

/-- A name that may be given a value. -/
def newName : Reader String := do
  let s ← word
  if s ∈ reserved then failed else pure s

/-- The words that end the statements inside a block. -/
def enders : List String := ["elif", "else", "endif", "endfor"]

/-- The word of the tag that ends a block. -/
def ender : Reader String := do
  expect .blockStart
  word

/-- The last tag of a block. -/
def close (name : String) : Reader Unit := do
  if (← ender) = name then expect .blockEnd else failed

mutual

/-- Statements up to the end, or the tag that ends the block around them; `n` bounds their
number and nesting. -/
def statements (room : Nat) : Nat → Reader (List Stmt)
  | 0 => failed
  | n + 1 => do
    let before ← get
    match ← peek with
    | none => pure []
    | some (.text s) => do
      let _ ← next
      return .text s :: (← statements room n)
    | some .valueStart => do
      let _ ← next
      let e ← expression room
      expect .valueEnd
      return .emit e :: (← statements room n)
    | some .blockStart => do
      let _ ← next
      match ← peek with
      | some (.word keyword) =>
        if keyword ∈ enders then do
          set before
          pure []
        else do
          let _ ← next
          let s ← statement room keyword n
          return s :: (← statements room n)
      | _ => failed
    | some _ => failed

/-- A statement behind its keyword, which may nest as far as there is `room`. -/
def statement (room : Nat) (keyword : String) : Nat → Reader Stmt
  | 0 => failed
  | n + 1 => do
    let room' := room - 1
    if keyword = "if" ∨ keyword = "elif" then do
      let test ← condition room'
      expect .blockEnd
      let yes ← statements room' n
      let word ← ender
      if word = "endif" then do
        expect .blockEnd
        pure (.cond test yes [])
      else if word = "else" then do
        expect .blockEnd
        let no ← statements room' n
        close "endif"
        pure (.cond test yes no)
      else if word = "elif" then do
        let no ← statement room "elif" n
        pure (.cond test yes [no])
      else failed
    else if keyword = "for" then do
      let name ← newName
      expect (.word "in")
      let range ← condition room'
      expect .blockEnd
      let body ← statements room' n
      let word ← ender
      if word = "endfor" then do
        expect .blockEnd
        pure (.loop name range body [])
      else if word = "else" then do
        expect .blockEnd
        let otherwise ← statements room' n
        close "endfor"
        pure (.loop name range body otherwise)
      else failed
    else if keyword = "set" then do
      let name ← newName
      expect (.sign "=")
      let value ← expression room'
      expect .blockEnd
      pure (.set name value)
    else failed

end

/-- How far a template may nest. -/
def depthBound : Nat := 150

/-- The statements of a template. -/
def read (source : String) : Except ErrorKind (List Stmt) := do
  let toks := tokens source
  let (body, after) ← (statements depthBound (2 * toks.length + 2)).run { tokens := toks }
  if after.tokens = [] then .ok body else .error .badTemplate

end Stencil.Plain
