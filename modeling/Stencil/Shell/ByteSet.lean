import Stencil.Shell.Printing
import Stencil.Text.Split

/-
  Sets of bytes as texts name them, with ranges and classes, and what they are used for:
  replacing bytes, and taking repeated ones out.
-/

namespace Stencil.Shell

/-- The bytes between two ends. -/
def byteRange (first last : UInt8) : List UInt8 :=
  (List.range (last.toNat + 1 - first.toNat)).map fun i => (first.toNat + i).toUInt8

/-- The bytes of a class of characters. -/
def classOf (name : String) : List UInt8 :=
  let upper := byteRange 65 90
  let lower := byteRange 97 122
  let digits := byteRange 48 57
  match name with
  | "alpha" => upper ++ lower
  | "upper" => upper
  | "lower" => lower
  | "digit" => digits
  | "alnum" => digits ++ upper ++ lower
  | "xdigit" => digits ++ byteRange 65 70 ++ byteRange 97 102
  | "blank" => [9, 32]
  | "space" => byteRange 9 13 ++ [32]
  | "cntrl" => byteRange 0 31 ++ [127]
  | "print" => byteRange 32 126
  | "graph" => byteRange 33 126
  | "punct" => byteRange 33 47 ++ byteRange 58 64 ++ byteRange 91 96 ++ byteRange 123 126
  | _ => []

/-- The characters of a set as bytes, each with whether it was escaped; `n` bounds the number of
steps. -/
def setBytes : Nat → List Char → List (UInt8 × Bool)
  | 0, _ => []
  | _, [] => []
  | n + 1, '\\' :: c :: rest =>
    match Printing.takeOctal 3 (c :: rest) with
    | some (b, after) => (b, true) :: setBytes n after
    | none =>
      match Printing.escapeByte c with
      | some b => (b, true) :: setBytes n rest
      | none => (Text.utf8 [c]).map (·, true) ++ setBytes n rest
  | n + 1, c :: rest => (Text.utf8 [c]).map (·, false) ++ setBytes n rest

/-- The bytes of a set, with its ranges written out. -/
def expandSet : List (UInt8 × Bool) → List UInt8
  | (a, _) :: (45, false) :: (b, _) :: rest => byteRange a b ++ expandSet rest
  | (a, _) :: rest => a :: expandSet rest
  | [] => []

/-- The bytes of a set, in which a name between colons in brackets stands for a class; `n` bounds
the number of classes. -/
def setOf (n : Nat) (s : List Char) : List UInt8 :=
  let plain := fun (s : List Char) => expandSet (setBytes s.length s)
  match n, Text.cutAt "[:".toList s with
  | n + 1, some (before, rest) =>
    match Text.cutAt ":]".toList rest with
    | some (name, after) => plain before ++ classOf (String.ofList name) ++ setOf n after
    | none => plain s
  | _, _ => plain s

/-- The ends of a range in a set that go down. -/
def reversedRange : List (UInt8 × Bool) → Option String
  | (a, _) :: (45, false) :: (b, _) :: rest =>
    if b < a then some (String.ofList [Char.ofNat a.toNat, '-', Char.ofNat b.toNat])
    else reversedRange rest
  | _ :: rest => reversedRange rest
  | [] => none

/-- Maps each byte of the first set to its partner; the last byte of the second set is the
partner of all further ones. -/
def replace (first second : List UInt8) (b : UInt8) : UInt8 :=
  match first.idxOf? b with
  | some i => (second[i]?).getD (second.getLast?.getD b)
  | none => b

/-- A text in which each byte of a set stands once where it was repeated. -/
def squeeze (set : List UInt8) (text : ByteArray) : ByteArray :=
  (text.data.foldl (fun (done, last) b =>
    if last = some b ∧ b ∈ set then (done, last) else (done.push b, some b))
    (ByteArray.empty, none)).1

end Stencil.Shell
