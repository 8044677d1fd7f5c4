import Stencil.Text.Digits
import Stencil.Text.Utf8

/-
  Decoding the value of a tag's pair. An escape stands for a byte or a character, and what
  the bytes make together must be text; a value with a bad escape or a raw newline has no
  decoded form.
-/

namespace Stencil.Tag

open Text

/-- The byte that a backslash and `c` stand for. -/
def namedEscape (c : Char) : Option UInt8 :=
  match c with
  | 'a' => some 0x07
  | 'b' => some 0x08
  | 'f' => some 0x0c
  | 'n' => some 0x0a
  | 'r' => some 0x0d
  | 't' => some 0x09
  | 'v' => some 0x0b
  | '\\' => some 0x5c
  | '"' => some 0x22
  | _ => none

/-- The byte some digits write, if it is one. -/
def byteOf (base : Nat) (digits : List Char) : Option (List UInt8) :=
  match ofDigits base digits with
  | some n => if n < 256 then some [n.toUInt8] else none
  | none => none

/-- The bytes of the character whose code point some hex digits write. -/
def charBytesOf (digits : List Char) : Option (List UInt8) :=
  ((ofDigits 16 digits).bind charOf).map String.utf8EncodeChar

/-- `head` before `tail`, where there are both. -/
def joinBytes (head tail : Option (List UInt8)) : Option (List UInt8) :=
  head.bind fun h => tail.map (h ++ ·)

def decodeBytes : List Char → Option (List UInt8)
  | [] => some []
  | ['\\'] => none
  | '\\' :: 'x' :: a :: b :: rest => joinBytes (byteOf 16 [a, b]) (decodeBytes rest)
  | '\\' :: 'u' :: a :: b :: c :: d :: rest =>
    joinBytes (charBytesOf [a, b, c, d]) (decodeBytes rest)
  | '\\' :: 'U' :: a :: b :: c :: d :: e :: f :: g :: h :: rest =>
    joinBytes (charBytesOf [a, b, c, d, e, f, g, h]) (decodeBytes rest)
  | '\\' :: a :: rest =>
    match namedEscape a with
    | some byte => joinBytes (some [byte]) (decodeBytes rest)
    | none => match rest with
      | b :: c :: more => joinBytes (byteOf 8 [a, b, c]) (decodeBytes more)
      | _ => none
  | c :: rest =>
    if c = '"' ∨ c = '\n' then none
    else joinBytes (some (String.utf8EncodeChar c)) (decodeBytes rest)

/-- The text between the quotes, decoded. -/
def decode (value : List Char) : Option (List Char) :=
  (decodeBytes value).bind ofUtf8

end Stencil.Tag
