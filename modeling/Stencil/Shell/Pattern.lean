/-
  Patterns: in a pattern a star stands for any text, a question mark for any character, and
  brackets for one of some characters. Quoted characters stand for themselves.
-/

namespace Stencil.Shell

/-- A character of a text, and whether it is quoted. -/
abbrev Letter := Char × Bool

inductive Pattern where
  | nil
  | any (rest : Pattern)
  | one (set : Char → Bool) (rest : Pattern)

namespace Pattern

/-- The letters up to the closing bracket, and what follows it. -/
def takeBrackets : List Letter → Option (List Letter × List Letter)
  | [] => none
  | (c, quoted) :: rest =>
    if c = ']' ∧ !quoted then some ([], rest)
    else (takeBrackets rest).map fun (letters, after) => ((c, quoted) :: letters, after)

/-- Whether a character is among some letters, or in a range among them. -/
def among (c : Char) : List Letter → Bool
  | (a, _) :: ('-', false) :: (b, _) :: rest => (a ≤ c && c ≤ b) || among c rest
  | (a, _) :: rest => c = a || among c rest
  | [] => false

/-- The set at the front, behind the opening bracket, and what follows it. A closing bracket
that comes first is a member. -/
def takeSet (s : List Letter) : Option ((Char → Bool) × List Letter) :=
  let inverse := s.head? = some ('!', false)
  match if inverse then s.drop 1 else s with
  | [] => none
  | first :: rest =>
    (takeBrackets rest).map fun (letters, after) =>
      (fun c => among c (first :: letters) != inverse, after)

/-- The pattern that a text is; `n` bounds its length. -/
def read : Nat → List Letter → Pattern
  | 0, _ => nil
  | _, [] => nil
  | n + 1, (c, quoted) :: rest =>
    let plain := one (· = c) (read n rest)
    if quoted then plain
    else if c = '*' then any (read n rest)
    else if c = '?' then one (fun _ => true) (read n rest)
    else if c = '[' then
      match takeSet rest with
      | some (set, after) => one set (read n after)
      | none => plain
    else plain

def ofLetters (s : List Letter) : Pattern := read s.length s

/-- Whether a pattern stands for a whole text. -/
def accepts : Pattern → List Char → Bool
  | nil, s => s.isEmpty
  | any rest, s => (List.range (s.length + 1)).any fun k => rest.accepts (s.drop k)
  | one set rest, c :: s => set c && rest.accepts s
  | one _ _, [] => false

/-- A text without a part at one of its ends that the pattern stands for: the shortest such
part, or the longest. -/
def trim (p : Pattern) (atEnd longest : Bool) (s : List Char) : List Char :=
  let sizes := List.range (s.length + 1)
  let fits := fun (k : Nat) =>
    p.accepts (if atEnd then s.drop (s.length - k) else s.take k)
  match (if longest then sizes.reverse else sizes).find? fits with
  | some k => if atEnd then s.take (s.length - k) else s.drop k
  | none => s

end Pattern

end Stencil.Shell
