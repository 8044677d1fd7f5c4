import Stencil.TypeExpr.Basic

/-
  Reading type expressions. Blanks may surround every marker and the leaf; a leaf is a
  quoted path with a name, an identifier, a plain path with a name, or kept verbatim.
-/

namespace Stencil.TypeExpr

open Text

/-- The markers a text begins with, outermost first, and what follows them. -/
def takeMarkers : List Char → List Marker × List Char
  | [] => ([], [])
  | '*' :: rest => let (ms, leaf) := takeMarkers rest; (.pointer :: ms, leaf)
  | '[' :: ']' :: rest => let (ms, leaf) := takeMarkers rest; (.slice :: ms, leaf)
  | c :: rest => if isBlank c then takeMarkers rest else ([], c :: rest)

/-- `path".name`, what follows the opening quote of a quoted path. -/
def readQuotedPath (s : List Char) : Option TypeExpr :=
  match cut '"' s with
  | some (path, '.' :: name) =>
    if path ≠ [] ∧ isIdentifier name then
      some (named (some (ModuleName.ofPath (String.ofList path))) (String.ofList name))
    else none
  | _ => none

/-- `path.name` with a plain path; the last dot divides them. -/
def readPlainPath (s : List Char) : Option TypeExpr :=
  match cutLast '.' s with
  | some (path, name) =>
    if isIdentifier name && isModulePath path then
      some (named (some (ModuleName.ofPath (String.ofList path))) (String.ofList name))
    else none
  | none => none

/-- A leaf without blanks around it. -/
def readLeaf (s : List Char) : TypeExpr :=
  match s with
  | '"' :: rest => (readQuotedPath rest).getD (verbatim (String.ofList s))
  | _ =>
    if isIdentifier s then builtin (String.ofList s)
    else (readPlainPath s).getD (verbatim (String.ofList s))

/-- The expression a text writes; none if the leaf is empty. -/
def readChars (s : List Char) : Option TypeExpr :=
  match takeMarkers (trimEnd s) with
  | (_, []) => none
  | (ms, leaf) => some (wrap ms (readLeaf leaf))

def read (s : String) : Option TypeExpr := readChars s.toList

end Stencil.TypeExpr
