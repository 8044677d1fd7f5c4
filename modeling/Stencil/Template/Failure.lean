/-
  What can go wrong in a template.
-/

namespace Stencil.Template

inductive ErrorKind where
  | badTemplate
  | badEscape
  | undefinedValue
  | unknownMethod
  | unknownFunction
  | unknownFilter
  | unknownTest
  | tooManyArguments
  | missingArgument
  | invalidOperation
  deriving DecidableEq, Repr

def ErrorKind.message : ErrorKind → String
  | badTemplate => "syntax error"
  | badEscape => "bad string escape"
  | undefinedValue => "undefined value"
  | unknownMethod => "unknown method"
  | unknownFunction => "unknown function"
  | unknownFilter => "unknown filter"
  | unknownTest => "unknown test"
  | tooManyArguments => "too many arguments"
  | missingArgument => "missing argument"
  | invalidOperation => "invalid operation"

/-- An error, and its cause where the objects of the template give one. -/
structure Failure (ε : Type) where
  kind : ErrorKind
  cause : Option ε := none

end Stencil.Template
