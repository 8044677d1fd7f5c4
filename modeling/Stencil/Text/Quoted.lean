import Stencil.Text.Unprintable

/-
  Quoted display of a text: between double quotes, with a backslash before a quote or a
  backslash, short escapes for tab, newline, carriage return and NUL, and the code point in
  braces for every other character that does not show.
-/

namespace Stencil.Text

def escapeChar (c : Char) : List Char :=
  if c = '"' ∨ c = '\\' then ['\\', c]
  else if c = '\t' then ['\\', 't']
  else if c = '\n' then ['\\', 'n']
  else if c = '\r' then ['\\', 'r']
  else if c = '\x00' then ['\\', '0']
  else if isUnprintable c then
    ['\\', 'u', '\x7b'] ++ Nat.toDigits 16 c.toNat ++ ['\x7d']
  else [c]

/-- The characters between the quotes. -/
def escaped (s : List Char) : List Char := s.flatMap escapeChar

def quoted (s : String) : String :=
  String.ofList ('"' :: escaped s.toList ++ ['"'])

end Stencil.Text
