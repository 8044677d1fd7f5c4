import Stencil.IoError
import Stencil.Manifest.Fault
import Stencil.Text.Quoted

/-
  Why a module or a type cannot be had.
-/

namespace Stencil

inductive LoadError where
  | notFound (location : String)
  | ambiguous (location : String) (manifests : List String)
  | unreadable (manifest : String) (why : IoError)
  | malformed (manifest : String) (why : Manifest.Fault)
  /-- A relative directory while there is no working directory. -/
  | unresolvable (location : String) (why : IoError)
  | typeNotFound (module name : String)
  deriving DecidableEq, Repr

def LoadError.message : LoadError → String
  | notFound location => "no module found for " ++ Text.quoted location
  | ambiguous location manifests =>
    "too many modules for " ++ Text.quoted location ++ ": " ++ ", ".intercalate manifests
  | unreadable manifest why => "failed to read manifest " ++ manifest ++ ": " ++ why.message
  | malformed manifest why => "failed to parse manifest " ++ manifest ++ ": " ++ why.message
  | unresolvable location why =>
    "cannot resolve local location " ++ Text.quoted location ++ ": " ++ why.message
  | typeNotFound module name =>
    "type '" ++ name ++ "' not found in module " ++ Text.quoted module

end Stencil
