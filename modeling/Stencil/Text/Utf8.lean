/-
  Texts as bytes: the UTF-8 form, reading it back, and a forgiving reading that puts the
  replacement character where bytes are no text.
-/

namespace Stencil.Text

def utf8 (s : List Char) : List UInt8 := s.flatMap String.utf8EncodeChar

/-- The text whose UTF-8 form the bytes are. -/
def ofUtf8 (bytes : List UInt8) : Option (List Char) :=
  bytes.toByteArray.utf8Decode?.map Array.toList

/-- Whether `next` may be the second byte of a sequence that `first` starts. -/
def mayFollow (first next : UInt8) : Bool :=
  if first = 0xe0 then 0xa0 ≤ next && next ≤ 0xbf
  else if first = 0xed then 0x80 ≤ next && next ≤ 0x9f
  else if first = 0xf0 then 0x90 ≤ next && next ≤ 0xbf
  else if first = 0xf4 then 0x80 ≤ next && next ≤ 0x8f
  else 0x80 ≤ next && next ≤ 0xbf

/-- How many bytes follow `first` in a sequence; none if it starts no longer sequence. -/
def followers (first : UInt8) : Nat :=
  if 0xc2 ≤ first && first ≤ 0xdf then 1
  else if 0xe0 ≤ first && first ≤ 0xef then 2
  else if 0xf0 ≤ first && first ≤ 0xf4 then 3
  else 0

/-- The length of the longest beginning of a sequence at `first :: rest`. -/
def sequenceLength (first : UInt8) (rest : List UInt8) : Nat :=
  match followers first, rest with
  | 0, _ => 1
  | _, [] => 1
  | n + 1, next :: more =>
    if mayFollow first next then
      2 + ((more.take n).takeWhile fun b => 0x80 ≤ b && b ≤ 0xbf).length
    else 1

/-- Each longest beginning of a sequence that is no text becomes one replacement character;
`n` bounds the number of steps. -/
def ofUtf8LossyIn : Nat → List UInt8 → List Char
  | 0, _ => []
  | _, [] => []
  | n + 1, first :: rest =>
    let length := sequenceLength first rest
    let chunk := (ofUtf8 ((first :: rest).take length)).getD ['\ufffd']
    chunk ++ ofUtf8LossyIn n ((first :: rest).drop length)

def ofUtf8Lossy (bytes : List UInt8) : List Char := ofUtf8LossyIn bytes.length bytes

/-! ## Where bytes are no text -/

/-- The first sequence that is no text. -/
structure Utf8Fault where
  /-- The number of bytes before it. -/
  index : Nat
  /-- Its length, unless the bytes end before it is complete. -/
  length : Option Nat
  deriving DecidableEq, Repr

def Utf8Fault.message (f : Utf8Fault) : String :=
  match f.length with
  | some n =>
    "invalid utf-8 sequence of " ++ toString n ++ " bytes from index " ++ toString f.index
  | none => "incomplete utf-8 byte sequence from index " ++ toString f.index

/-- The first fault behind `index` good bytes; `n` bounds the number of steps. -/
def utf8FaultFrom : Nat → Nat → List UInt8 → Utf8Fault
  | 0, index, _ => ⟨index, none⟩
  | _, index, [] => ⟨index, none⟩
  | n + 1, index, first :: rest =>
    let length := sequenceLength first rest
    if (ofUtf8 ((first :: rest).take length)).isSome then
      utf8FaultFrom n (index + length) ((first :: rest).drop length)
    else if length = rest.length + 1 ∧ followers first ≠ 0 then ⟨index, none⟩
    else ⟨index, some length⟩

/-- The first fault of bytes that are no text as a whole. -/
def utf8Fault (bytes : List UInt8) : Utf8Fault := utf8FaultFrom bytes.length 0 bytes

end Stencil.Text
