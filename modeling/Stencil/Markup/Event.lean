import Stencil.Markup.Fault

/-
  Markup as a sequence of events: tags, and everything else, which carries no meaning here. A
  reader goes on until the end of the text or the first fault. Elements that are still open at
  the end are no fault.
-/

namespace Stencil.Markup

inductive Attribute where
  /-- A key and the text between the quotes, as written. -/
  | pair (key raw : List Char)
  | malformed
  deriving DecidableEq, Repr

inductive Event where
  | opened (name : String) (attributes : List Attribute)
  /-- An element closed by its own tag. -/
  | empty (name : String) (attributes : List Attribute)
  | closed (name : String)
  /-- Text, a comment, a character section, an instruction or a declaration. -/
  | inert
  deriving DecidableEq, Repr

/-- The events before the end of the text or the fault. -/
structure Reading where
  events : List Event
  fault : Option Fault
  deriving Repr

/-- What gives the events of texts. -/
abbrev Reader := (text : String) → Reading

end Stencil.Markup
