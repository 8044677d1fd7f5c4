import Stencil.Template.Failure
import Stencil.Template.Number
import Stencil.Text.Split

/-
  Plain templates as tokens: the text between tags, and what stands inside the tags. A minus sign
  at the inner side of a tag's bracket takes away the blanks of the text it faces. Every token
  knows its line.
-/

namespace Stencil.Plain

open Template Text

inductive Token where
  | text (s : String)
  /-- Opens a tag that prints a value. -/
  | valueStart
  | valueEnd
  /-- Opens a tag that holds a statement. -/
  | blockStart
  | blockEnd
  | word (s : String)
  | str (s : String)
  | number (n : Number)
  | sign (s : String)
  /-- What is no token. It ends the tokens, and whoever comes to it fails. -/
  | malformed (kind : ErrorKind)
  deriving DecidableEq, Repr

abbrev Tokens := List (Token × Nat)

/-! ## Words and texts -/

def isWordStart (c : Char) : Bool := c.isAlpha || c = '_'

def isWordPart (c : Char) : Bool := c.isAlphanum || c = '_'

/-- The inside of a quoted text, still escaped, and what follows the closing quote. -/
def takeQuoted (quote : Char) : Bool → List Char → Option (List Char × List Char)
  | _, [] => none
  | true, c :: rest => (takeQuoted quote false rest).map fun (s, after) => (c :: s, after)
  | false, c :: rest =>
    if c = quote then some ([], rest)
    else (takeQuoted quote (c = '\\') rest).map fun (s, after) => (c :: s, after)

/-- The character that a backslash and `c` stand for. -/
def namedEscape (c : Char) : Option Char :=
  match c with
  | '"' | '\\' | '/' | '\'' => some c
  | 'b' => some '\x08'
  | 'f' => some '\x0c'
  | 'n' => some '\n'
  | 'r' => some '\r'
  | 't' => some '\t'
  | _ => none

/-- The number that hex digits write, in which a plus sign may stand first. -/
def ofHex (digits : List Char) : Option Nat :=
  match digits with
  | '+' :: rest => ofDigits 16 rest
  | _ => ofDigits 16 digits

def isSurrogate (n : Nat) : Bool := 0xd800 ≤ n && n < 0xe000

/-- The character of two surrogates, of which the first must be a high and the second a low one. -/
def ofSurrogates (high low : Nat) : Option Char :=
  if high < 0xdc00 ∧ 0xdc00 ≤ low then
    charOf (0x10000 + (high - 0xd800) * 0x400 + (low - 0xdc00))
  else none

/-- Resolves escapes; those that have no meaning stay as they are. A surrogate that is `pending`
must be followed by the escape of its partner; `n` bounds the number of steps. -/
def unescape : Nat → (pending : Option Nat) → List Char → Option (List Char)
  | 0, _, _ => none
  | _ + 1, none, [] => some []
  | _ + 1, some _, [] => none
  | n + 1, pending, '\\' :: 'u' :: rest => do
    if rest.length < 4 then none
    let unit ← ofHex (rest.take 4)
    let after := rest.drop 4
    match pending, isSurrogate unit with
    | none, false => return (← charOf unit) :: (← unescape n none after)
    | none, true => unescape n (some unit) after
    | some high, true => return (← ofSurrogates high unit) :: (← unescape n none after)
    | some _, false => none
  | _ + 1, some _, _ => none
  | n + 1, none, '\\' :: 'x' :: rest => do
    if rest.length < 2 then none
    let c ← charOf (← ofHex (rest.take 2))
    return c :: (← unescape n none (rest.drop 2))
  | n + 1, none, '\\' :: c :: rest =>
    let (digits, after) := takeDigits 8 3 (c :: rest)
    if digits = [] then
      match namedEscape c with
      | some x => (unescape n none rest).map (x :: ·)
      | none => (unescape n none rest).map fun s => '\\' :: c :: s
    else do
      let code ← ofDigits 8 digits
      if 255 < code then none
      return (← charOf code) :: (← unescape n none after)
  | n + 1, none, c :: rest => (unescape n none rest).map (c :: ·)

/-! ## Numbers -/

/-- The places of a character in a number. -/
inductive NumberPart where
  /-- The digits of a number with a base in front. -/
  | based
  | whole
  | fraction
  /-- The mark of the power of ten. -/
  | mark
  | power
  deriving DecidableEq

/-- The place of a character in a number, given the place of the one before it; `after` is what
follows. A dot does not belong to a number if a word follows. -/
def NumberPart.next (base : Nat) (part : NumberPart) (c : Char) (after : List Char) :
    Option NumberPart :=
  if c = '_' then some part
  else if c.isDigit then some (if part = .mark then .power else part)
  else match part with
    | .based => if base = 16 ∧ (digitOf 16 c).isSome then some .based else none
    | .whole =>
      if c = '.' then (if after.head?.any isWordStart then none else some .fraction)
      else if c = 'e' ∨ c = 'E' then some .mark
      else none
    | .fraction => if c = 'e' ∨ c = 'E' then some .mark else none
    | .mark => if c = '+' ∨ c = '-' then some .power else none
    | .power => none

/-- The characters of a number, what follows it, and the place of its last character. -/
def takeNumberChars (base : Nat) (part : NumberPart) :
    List Char → List Char × List Char × NumberPart
  | [] => ([], [], part)
  | c :: rest =>
    match part.next base c rest with
    | some next =>
      let (taken, after, last) := takeNumberChars base next rest
      (c :: taken, after, last)
    | none => ([], c :: rest, part)

/-- Whole numbers have at most 128 bits. -/
def readInt (base : Nat) (digits : List Char) : Option Number :=
  if digits = [] then none
  else (ofDigits base digits).bind fun n =>
    if n < Number.pair then some (.natural n) else none

/-- The power of ten that some characters write. -/
def readPower (s : List Char) : Option Int :=
  let (negative, digits) := match s with
    | '-' :: rest => (true, rest)
    | '+' :: rest => (false, rest)
    | _ => (false, s)
  if digits = [] then none
  else (ofDigits 10 digits).map fun n => if negative then -(n : Int) else n

/-- A number with a fraction or a power of ten. -/
def readDouble (s : List Char) : Option Number := do
  let isMark := fun (c : Char) => c = 'e' || c = 'E'
  let power ← match s.dropWhile (!isMark ·) with
    | [] => some 0
    | _ :: power => readPower power
  let mantissa := s.takeWhile (!isMark ·)
  let whole := mantissa.takeWhile (· ≠ '.')
  let fraction := (mantissa.dropWhile (· ≠ '.')).drop 1
  let digits ← ofDigits 10 (whole ++ fraction)
  return .double (.ofDecimal digits (power - fraction.length))

/-- The base in front of a number, and what follows it. -/
def takeBase (s : List Char) : Nat × List Char :=
  match s with
  | '0' :: c :: rest =>
    if c = 'b' ∨ c = 'B' then (2, rest)
    else if c = 'o' ∨ c = 'O' then (8, rest)
    else if c = 'x' ∨ c = 'X' then (16, rest)
    else (10, s)
  | _ => (10, s)

/-- The number at the front, and what follows it. Underscores may stand between its
characters. -/
def takeNumber (s : List Char) : Option (Number × List Char) :=
  let (base, s) := takeBase s
  let (taken, after, last) := takeNumberChars base (if base = 10 then .whole else .based) s
  let digits := taken.filter (· ≠ '_')
  if taken.getLast? = some '_' then none
  else if last = .whole ∨ last = .based then (readInt base digits).map ((·, after))
  else (readDouble digits).map ((·, after))

/-! ## Tokens of tags -/

/-- The signs of two characters. -/
def isDoubleSign : List Char → Bool
  | ['=', '='] | ['!', '='] | ['<', '='] | ['>', '='] | ['/', '/'] | ['*', '*'] => true
  | _ => false

def singleSigns : List Char :=
  ['+', '-', '*', '/', '%', '.', ',', ':', '~', '|', '=', '>', '<', '(', ')', '[', ']',
   '\x7b', '\x7d']

/-- The token that a text without blanks before it begins with, and what follows. -/
def takeToken (s : List Char) : Except ErrorKind (Token × List Char) :=
  match s with
  | [] => .error .badTemplate
  | c :: rest =>
    if c = '"' ∨ c = '\'' then
      match takeQuoted c false rest with
      | none => .error .badTemplate
      | some (raw, after) =>
        match unescape (raw.length + 1) none raw with
        | some value => .ok (.str (String.ofList value), after)
        | none => .error .badEscape
    else if c.isDigit then
      match takeNumber s with
      | some (n, after) => .ok (.number n, after)
      | none => .error .badTemplate
    else if isWordStart c then
      .ok (.word (String.ofList (s.takeWhile isWordPart)), s.dropWhile isWordPart)
    else if isDoubleSign (s.take 2) then .ok (.sign (String.ofList (s.take 2)), s.drop 2)
    else if c ∈ singleSigns then .ok (.sign c.toString, rest)
    else .error .badTemplate

/-! ## Text and tags -/

def countLines (s : List Char) : Nat := s.count '\n'

/-- Where the reading stands. -/
inductive Mode where
  /-- In text; `trim` tells that the tag before takes away blanks. -/
  | text (trim : Bool)
  /-- In a tag that ends with some bracket. -/
  | tag (closing : List Char)
  deriving DecidableEq

/-- The text before the next tag, and the tag with what follows it. -/
def takeText : List Char → List Char × List Char
  | [] => ([], [])
  | c :: rest =>
    match c, rest with
    | '\x7b', d :: _ =>
      if d = '\x7b' ∨ d = '%' ∨ d = '#' then ([], c :: rest)
      else let (s, after) := takeText rest; (c :: s, after)
    | _, _ => let (s, after) := takeText rest; (c :: s, after)

/-- Whether a tag takes away the blanks before it, and its inside without the mark. -/
def takeMark (s : List Char) : Bool × List Char :=
  match s with
  | '-' :: rest => (true, rest)
  | '+' :: rest => (false, rest)
  | _ => (false, s)

/-- What follows a tag's end, with whether the tag takes away the blanks behind it. -/
def takeEnd (closing s : List Char) : Option (Bool × List Char) :=
  match stripHead ('-' :: closing) s with
  | some rest => some (true, rest)
  | none =>
    match stripHead ('+' :: closing) s with
    | some rest => some (false, rest)
    | none => (stripHead closing s).map ((false, ·))

/-- The blanks between the tokens of a tag. -/
def isTagBlank (c : Char) : Bool := c ∈ [' ', '\t', '\n', '\r', '\x0c']

/-- The tokens from some place on; every step takes at least one character, so `n` bounds
the number of steps. -/
def tokensFrom : Nat → Mode → Nat → List Char → Tokens
  | 0, _, _, _ => []
  | n + 1, .text trim, line, s =>
    let (raw, rest) := takeText s
    let next := line + countLines raw
    let shown := fun (before : Bool) =>
      let t := if trim then trimStart raw else raw
      let t := if before then trimEnd t else t
      if t = [] then [] else [(Token.text (String.ofList t), line)]
    match rest with
    | _ :: '#' :: inside =>
      let (before, inside) := takeMark inside
      shown before ++ match cutAt ['#', '\x7d'] inside with
        | none => [(.malformed .badTemplate, next)]
        | some (comment, after) =>
          tokensFrom n (.text (comment.getLast? = some '-')) (next + countLines comment) after
    | _ :: '%' :: inside =>
      let (before, inside) := takeMark inside
      shown before ++ (.blockStart, next) ::
        tokensFrom n (.tag ['%', '\x7d']) next inside
    | _ :: _ :: inside =>
      let (before, inside) := takeMark inside
      shown before ++ (.valueStart, next) ::
        tokensFrom n (.tag ['\x7d', '\x7d']) next inside
    | _ => shown false
  | n + 1, .tag closing, line, s =>
    match s with
    | [] => []
    | c :: rest =>
      if isTagBlank c then
        tokensFrom n (.tag closing) (if c = '\n' then line + 1 else line) rest
      else match takeEnd closing s with
        | some (trim, after) =>
          let token := if closing.head? = some '%' then Token.blockEnd else Token.valueEnd
          (token, line) :: tokensFrom n (.text trim) line after
        | none =>
          match takeToken s with
          | .error kind => [(.malformed kind, line)]
          | .ok (token, after) =>
            let taken := s.take (s.length - after.length)
            (token, line) :: tokensFrom n (.tag closing) (line + countLines taken) after

def tokens (source : String) : Tokens :=
  tokensFrom (source.length + 1) (.text false) 1 source.toList

end Stencil.Plain
