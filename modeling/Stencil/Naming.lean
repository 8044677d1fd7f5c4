import Stencil.Text.Split

/-
  Identifiers, module paths, and the short name a module goes by when none is declared: the
  last segment of its path without version markers, made into one word.
-/

namespace Stencil

open Text

/-- A letter or underscore, then letters, digits and underscores. -/
def isIdentifier : List Char → Bool
  | [] => false
  | c :: rest => (isAlphabetic c || c = '_') && rest.all isWordChar

def isPathChar (c : Char) : Bool :=
  isAlphanumeric c || c = '.' || c = '_' || c = '-' || c = '/' || c = '~'

/-- A path that may stand unquoted before a type name. -/
def isModulePath (s : List Char) : Bool :=
  s ≠ [] && s.head? ≠ some '/' && s.getLast? ≠ some '/' && s.all isPathChar

/-- A major version such as `v2`. -/
def isMajorVersion : List Char → Bool
  | 'v' :: digits => digits ≠ [] && digits.all Char.isDigit
  | _ => false

/-- The non-empty segments of a path, in order. -/
def segments (path : List Char) : List (List Char) :=
  (path.splitOn '/').filter (· ≠ [])

/-- The last segment, or the one before it if the last is a major version; a path without
segments names itself. -/
def namingSegment (path : List Char) : List Char :=
  match (segments path).reverse with
  | [] => path
  | [last] => last
  | last :: before :: _ => if isMajorVersion last then before else last

/-- Drops a suffix such as `.v3`, unless nothing would be left. -/
def dropVersionSuffix (s : List Char) : List Char :=
  match cutLast '.' s with
  | some (base, version) => if isMajorVersion version && base ≠ [] then base else s
  | none => s

/-- One word: other characters become underscores, and an underscore comes first where
nothing or an ASCII digit would. -/
def toWord (s : List Char) : List Char :=
  match s.map fun c => if isWordChar c then c else '_' with
  | [] => ['_']
  | c :: rest => if c.isDigit then '_' :: c :: rest else c :: rest

def defaultShortName (path : String) : String :=
  String.ofList (toWord (dropVersionSuffix (namingSegment path.toList)))

end Stencil
