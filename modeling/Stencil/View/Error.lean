/-
  Why a template cannot have what it asks a model for.
-/

namespace Stencil

inductive ModelError where
  | noResults (method : String)
  | resultOutOfRange (method : String) (index count : Nat)
  | importsAlreadyCalled
  /-- `found` is the display of what the type is instead. -/
  | kindMismatch (name expected found : String)
  deriving DecidableEq, Repr

def ModelError.message : ModelError → String
  | noResults method => "no returns for method '" ++ method ++ "'"
  | resultOutOfRange method index count =>
    "method '" ++ method ++ "' has " ++ toString count ++ " results, index " ++
      toString index ++ " is out of range"
  | importsAlreadyCalled => "imports() already called"
  | kindMismatch name expected found =>
    "'" ++ name ++ "' is not a " ++ expected ++ " (kind " ++ found ++ ")"

end Stencil
