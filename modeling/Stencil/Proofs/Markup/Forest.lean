import Stencil.Markup.Node

/-
  Forests and their events. Every forest has events that write it, and it is the forest of
  those events; and end tags behind the last event change nothing, since what is still open
  there closes in any case.
-/

namespace Stencil.Markup.Node

/-! ## The events of a forest -/

mutual

/-- The events of an element; one without content closes itself. -/
def events : Node → List Event
  | element name attributes children =>
    match children with
    | [] => [.empty name attributes]
    | child :: rest =>
      .opened name attributes :: (child.events ++ allEvents rest ++ [.closed name])

/-- The events of a forest. -/
def allEvents : List Node → List Event
  | [] => []
  | node :: rest => node.events ++ allEvents rest

end

mutual

/-- Pushed in front of some levels, an element's events put the element there. -/
theorem push_events (node : Node) (levels : Levels) :
    node.events.foldr Levels.push levels = ⟨node :: levels.here, levels.outer⟩ := by
  match node with
  | element name attributes [] => rfl
  | element name attributes (child :: rest) =>
    simp only [events, List.foldr_cons, List.foldr_append, List.foldr_nil]
    rw [push_allEvents rest, push_events child]
    simp [Levels.push]

theorem push_allEvents (nodes : List Node) (levels : Levels) :
    (allEvents nodes).foldr Levels.push levels = ⟨nodes ++ levels.here, levels.outer⟩ := by
  match nodes with
  | [] => rfl
  | node :: rest =>
    rw [allEvents, List.foldr_append, push_allEvents rest, push_events node, List.cons_append]

end

theorem ofEvents_allEvents (nodes : List Node) : ofEvents (allEvents nodes) = nodes := by
  unfold ofEvents levelsOf
  rw [push_allEvents]
  simp

theorem ofEvents_events (node : Node) : ofEvents node.events = [node] := by
  have alone := ofEvents_allEvents [node]
  rwa [allEvents, allEvents, List.append_nil] at alone

/-! ## End tags behind the last event -/

/-- The same levels, but for empty ones around them. -/
def Levels.Padded (a b : Levels) : Prop :=
  a.here = b.here ∧ ∃ n, b.outer = a.outer ++ List.replicate n []

theorem Levels.Padded.push {a b : Levels} (h : a.Padded b) (event : Event) :
    (a.push event).Padded (b.push event) := by
  obtain ⟨here, outer⟩ := a
  obtain ⟨here', outer'⟩ := b
  obtain ⟨rfl, n, rfl⟩ := h
  cases event with
  | inert => exact ⟨rfl, n, rfl⟩
  | empty name attributes => exact ⟨rfl, n, rfl⟩
  | closed name => exact ⟨rfl, n, rfl⟩
  | opened name attributes =>
    cases outer with
    | cons after outer => exact ⟨rfl, n, rfl⟩
    | nil =>
      cases n with
      | zero => exact ⟨rfl, 0, rfl⟩
      | succ n => exact ⟨rfl, n, rfl⟩

theorem padded_closed (names : List String) :
    Levels.Padded {} ((names.map .closed).foldr Levels.push {}) := by
  induction names with
  | nil => exact ⟨rfl, 0, rfl⟩
  | cons name names ih =>
    obtain ⟨here, n, outer⟩ := ih
    refine ⟨rfl, n + 1, ?_⟩
    rw [List.map_cons, List.foldr_cons]
    simp only [Levels.push, ← here, outer]
    rfl

/-- End tags behind the last event leave the forest as it is. -/
theorem ofEvents_append_closed (events : List Event) (names : List String) :
    ofEvents (events ++ names.map .closed) = ofEvents events := by
  have padded : (levelsOf events).Padded (levelsOf (events ++ names.map .closed)) := by
    unfold levelsOf
    rw [List.foldr_append]
    induction events with
    | nil => exact padded_closed names
    | cons event events ih => exact ih.push event
  obtain ⟨here, n, outer⟩ := padded
  simp only [ofEvents, ← here, outer, List.flatten_append, List.flatten_replicate_nil,
    List.append_nil]

end Stencil.Markup.Node
