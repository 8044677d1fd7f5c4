import Stencil.Markup.Fault

/-
  Why a text is no manifest.
-/

namespace Stencil.Manifest

inductive Fault where
  | markup (fault : Markup.Fault)
  | reference (why : Markup.BadReference)
  | missingAttribute (element name : String)
  | invalidAttribute (element name value : String)
  | secondModule
  | outsideModule (element : String)
  | noModule
  deriving DecidableEq, Repr

def Fault.message : Fault → String
  | markup fault => "XML parsing error: " ++ fault.display
  | reference why => "XML escape error: " ++ why.message
  | missingAttribute element name =>
    "missing required attribute '" ++ name ++ "' on element '" ++ element ++ "'"
  | invalidAttribute element name value =>
    "invalid value '" ++ value ++ "' for attribute '" ++ name ++ "' on element '" ++
      element ++ "'"
  | secondModule => "invalid manifest structure: more than one <module> element"
  | outsideModule element =>
    "invalid manifest structure: <" ++ element ++ "> outside of <module>"
  | noModule => "invalid manifest structure: No module element found"

end Stencil.Manifest
