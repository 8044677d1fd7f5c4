import Stencil.Markup.Event
import Stencil.Text.Split
import Stencil.Text.Digits

/-
  The attributes of a tag and the values they stand for. Reading is forgiving: an attribute
  without a quoted value, or whose key came before in the tag, is kept as malformed and
  reading goes on behind it.
-/

namespace Stencil.Markup

open Text

def isSpace (c : Char) : Bool := c = ' ' || c = '\t' || c = '\r' || c = '\n'

/-- One step of the reading: the attribute, the key it uses up, and where to read on. -/
structure Attribute.Step where
  item : Attribute
  key : Option (List Char) := none
  rest : List Char

/-- The value behind a key's equals sign. -/
def readValue (key : List Char) (s : List Char) : Attribute.Step :=
  match s.dropWhile isSpace with
  | [] => ⟨.malformed, some key, []⟩
  | c :: rest =>
    if c = '"' ∨ c = '\'' then
      match cut c rest with
      | some (value, rest) => ⟨.pair key value, some key, rest⟩
      | none => ⟨.malformed, some key, []⟩
    else ⟨.malformed, some key, rest.dropWhile (!isSpace ·)⟩

/-- The first attribute of a text that begins with no space, where `seen` are earlier keys. -/
def readAttribute (seen : List (List Char)) (first : Char) (rest : List Char) :
    Attribute.Step :=
  let inKey := fun c => c ≠ '=' && !isSpace c
  let key := first :: rest.takeWhile inKey
  match (rest.dropWhile inKey).dropWhile isSpace with
  | '=' :: after =>
    if key ∈ seen then ⟨.malformed, none, after.dropWhile (!isSpace ·)⟩
    else readValue key after
  | after => ⟨.malformed, none, after⟩

/-- The attributes in what follows a tag's name; `n` bounds their number. -/
def readAttributes : Nat → List (List Char) → List Char → List Attribute
  | 0, _, _ => []
  | n + 1, seen, s =>
    match s.dropWhile isSpace with
    | [] => []
    | first :: rest =>
      let step := readAttribute seen first rest
      step.item :: readAttributes n (step.key.toList ++ seen) step.rest

def attributesOf (s : List Char) : List Attribute := readAttributes s.length [] s

/-! ## Values -/

def predefined (name : List Char) : Option Char :=
  if name = ['a', 'm', 'p'] then some '&'
  else if name = ['l', 't'] then some '<'
  else if name = ['g', 't'] then some '>'
  else if name = ['a', 'p', 'o', 's'] then some '\''
  else if name = ['q', 'u', 'o', 't'] then some '"'
  else none

/-- Numbers of characters have at most 32 bits. -/
def numberBound : Nat := 4294967296

/-- The number some digits write, below 2^32; the first digit at fault decides. -/
def readNumber (base : Nat) (digits : List Char) : Except BadNumber Nat :=
  match digits with
  | [] => .error .noDigits
  | first :: _ =>
    if first = '+' ∨ first = '-' then .error .sign
    else digits.foldlM (fun n c =>
      match digitOf base c with
      | none => .error .badDigit
      | some d => if n * base + d < numberBound then .ok (n * base + d) else .error .tooLarge) 0

/-- The character of a reference, given what stands behind its number sign. -/
def readCharacter (body : List Char) : Except BadNumber Char := do
  let code ← match body with
    | 'x' :: digits => readNumber 16 digits
    | digits => readNumber 10 digits
  if code = 0 then .error .nul
  else match charOf code with
    | some c => .ok c
    | none => .error (.notCharacter code)

/-- What a reference stands for, given its name and the byte position of the name. -/
def readReference (position : Nat) (name : List Char) : Except BadReference Char :=
  match name with
  | '#' :: body => (readCharacter body).mapError .number
  | _ => match predefined name with
    | some c => .ok c
    | none => .error (.unknownEntity position (position + byteLength name) (String.ofList name))

/-- Decodes a raw value; `reference` holds the name read so far, latest first, inside a
reference that began at byte `start`. -/
def decodeFrom (position start : Nat) (reference : Option (List Char)) :
    List Char → Except BadReference (List Char)
  | [] => match reference with
    | none => .ok []
    | some _ => .error (.unterminated start position)
  | c :: rest =>
    match reference with
    | none =>
      if c = '&' then decodeFrom (position + 1) position (some []) rest
      else (decodeFrom (position + c.utf8Size) 0 none rest).map (c :: ·)
    | some name =>
      if c = ';' then do
        let value ← readReference (start + 1) name.reverse
        (decodeFrom (position + 1) 0 none rest).map (value :: ·)
      else if c = '&' then
        .error (.unterminated start (position + byteLength (c :: rest)))
      else decodeFrom (position + c.utf8Size) start (some (c :: name)) rest

def decodeValue (raw : List Char) : Except BadReference (List Char) := decodeFrom 0 0 none raw

/-- The well-formed attributes with their values decoded, in order. -/
def decodeAttributes : List Attribute → Except BadReference (List (String × String))
  | [] => .ok []
  | .malformed :: rest => decodeAttributes rest
  | .pair key raw :: rest => do
    let value ← decodeValue raw
    let others ← decodeAttributes rest
    .ok ((String.ofList key, String.ofList value) :: others)

end Stencil.Markup
