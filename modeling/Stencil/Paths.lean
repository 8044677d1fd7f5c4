import Stencil.Text.Split

/-
  Paths as texts: joining, comparing, and the directory part. A path is absolute if it begins
  with a slash. Doubled slashes and single dots inside a path name nothing.
-/

namespace Stencil.Paths

def isAbsolute (path : List Char) : Bool := path.head? = some '/'

/-- `part` under `base`; an absolute part stands alone. -/
def join (base part : String) : String :=
  if isAbsolute part.toList then part
  else if base.isEmpty || base.toList.getLast? = some '/' then base ++ part
  else base ++ "/" ++ part

/-- What a path names, part by part: a slash for the root, and a single dot only where it
begins the path. -/
def components (path : List Char) : List (List Char) :=
  let parts := path.splitOn '/'
  let named := parts.filter fun part => part ≠ [] ∧ part ≠ ['.']
  if isAbsolute path then ['/'] :: named
  else if parts.head? = some ['.'] then ['.'] :: named
  else named

/-- Whether two paths are equal component by component. -/
def same (a b : String) : Bool := components a.toList = components b.toList

/-- Drops the parts at the end of a path that name nothing; the parts come last first, and
`first` tells whether a part is the first of the path. -/
def dropIdle : List (List Char) → List (List Char)
  | [] => []
  | part :: before =>
    if before ≠ [] ∧ (part = [] ∨ part = ['.']) then dropIdle before else part :: before

/-- The path without its last component, as written; none for the root and the empty path. -/
def parent (path : List Char) : Option (List Char) :=
  let write := fun parts => ['/'].intercalate (List.reverse parts)
  match dropIdle (path.splitOn '/').reverse with
  | [] => none
  | [only] => if only = [] then none else some []
  | _ :: before =>
    match dropIdle before with
    | [[]] => some ['/']
    | parts => some (write parts)

end Stencil.Paths
