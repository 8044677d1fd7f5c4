import Stencil.Text.Case
import Stencil.Text.Letters

/-
  Capitals at word starts. Letters, digits and underscores continue a word; every other
  character ends it.
-/

namespace Stencil.Text

/-- Upper case for the first character of every word; `start` tells whether a word may begin
here. -/
def capitalizeFrom : (start : Bool) → List Char → List Char
  | _, [] => []
  | true, c :: rest => upperChar c ++ capitalizeFrom (!isWordChar c) rest
  | false, c :: rest => c :: capitalizeFrom (!isWordChar c) rest

def capitalize (s : String) : String := String.ofList (capitalizeFrom true s.toList)

end Stencil.Text
