import Stencil.Markup.Event

/-
  Markup as a forest of elements. The forest of a sequence of events is built from its end,
  so that a tag finds the elements behind it already grouped: an end tag starts a new level,
  a start tag takes the current level as its content. What is still open at the end closes
  there.
-/

namespace Stencil.Markup

inductive Node where
  | element (name : String) (attributes : List Attribute) (children : List Node)
  deriving Repr

namespace Node

def name : Node → String
  | element name _ _ => name

def attributes : Node → List Attribute
  | element _ attributes _ => attributes

def children : Node → List Node
  | element _ _ children => children

/-- The elements of the current level and, innermost first, of the levels around it. -/
structure Levels where
  here : List Node := []
  outer : List (List Node) := []

/-- Puts an event in front of the levels behind it. -/
def Levels.push (event : Event) (levels : Levels) : Levels :=
  match event, levels with
  | .inert, levels => levels
  | .empty name attributes, ⟨here, outer⟩ => ⟨element name attributes [] :: here, outer⟩
  | .closed _, ⟨here, outer⟩ => ⟨[], here :: outer⟩
  | .opened name attributes, ⟨here, []⟩ => ⟨[element name attributes here], []⟩
  | .opened name attributes, ⟨here, after :: outer⟩ =>
    ⟨element name attributes here :: after, outer⟩

def levelsOf (events : List Event) : Levels := events.foldr Levels.push {}

/-- The forest of a sequence of events. -/
def ofEvents (events : List Event) : List Node :=
  let levels := levelsOf events
  levels.here ++ levels.outer.flatten

end Node

end Stencil.Markup
