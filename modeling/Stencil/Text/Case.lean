import Stencil.Text.CaseTables

/-
  Upper and lower case of characters and texts, by the full mappings: a mapping may give
  several characters, and a capital sigma at the end of a word becomes a final sigma.
-/

namespace Stencil.Text

/-- The mapped code point, where some run holds `n`. -/
def mapRuns : List CaseRun → Nat → Option Nat
  | [], _ => none
  | run :: rest, n =>
    if n < run.first then none
    else if n ≤ run.last ∧ (n - run.first) % run.step = 0 then some (n + run.offset).toNat
    else mapRuns rest n

def upperChar (c : Char) : List Char :=
  match upperExpansions.lookup c.toNat with
  | some codes => codes.map Char.ofNat
  | none => match mapRuns upperRuns c.toNat with
    | some n => [Char.ofNat n]
    | none => [c]

/-- Lower case of one character on its own; `İ` keeps its dot as a combining mark. -/
def lowerChar (c : Char) : List Char :=
  if c = 'İ' then ['i', '\u0307']
  else match mapRuns lowerRuns c.toNat with
    | some n => [Char.ofNat n]
    | none => [c]

/-- Whether a cased letter comes first once case-ignorable characters are passed over. -/
def meetsCased (cs : List Char) : Bool :=
  match cs.dropWhile (fun c => caseIgnorable.has c.toNat) with
  | [] => false
  | c :: _ => cased.has c.toNat

/-- Lower case of a text whose characters before it are `before`, the nearest first. -/
def lowerAfter (before : List Char) : List Char → List Char
  | [] => []
  | c :: rest =>
    let mapped :=
      if c = 'Σ' then [if meetsCased before && !meetsCased rest then 'ς' else 'σ']
      else lowerChar c
    mapped ++ lowerAfter (c :: before) rest

def lower (s : String) : String := String.ofList (lowerAfter [] s.toList)

def upper (s : String) : String := String.ofList (s.toList.flatMap upperChar)

end Stencil.Text
