import Mathlib.Algebra.GroupWithZero.Nat
import Stencil.Proofs.Manifest.Steps
import Stencil.Proofs.Markup.Append

/-
  How much a text can declare. Every event takes a character, every element that counts takes an
  event, and an element declares at most one type.

  Proved: `length_types_le`, a manifest declares no more types than it has bytes.
-/

namespace Stencil.Markup

/-! ## Events and elements -/

theorem length_readEvents_le (n : Nat) (names : List String) (s : List Char) :
    (readEvents n names s).events.length ≤ n := by
  induction n generalizing names s with
  | zero => simp [readEvents]
  | succ n ih =>
    cases s with
    | nil => simp [readEvents]
    | cons c s =>
      rw [readEvents]
      cases readEvent names c s with
      | error fault => simp
      | ok step => exact Nat.succ_le_succ (ih step.openNames step.rest)

theorem length_unmarked_le (s : List Char) : (unmarked s).length ≤ s.length := by
  unfold unmarked
  split
  · exact Nat.le_succ _
  · exact Nat.le_refl _

theorem length_le_utf8ByteSize (s : List Char) : s.length ≤ (String.ofList s).utf8ByteSize := by
  induction s with
  | nil => exact Nat.zero_le _
  | cons c s ih =>
    have positive := c.utf8Size_pos
    rw [List.length_cons, String.ofList_cons, String.utf8ByteSize_append,
      String.utf8ByteSize_singleton]
    omega

theorem length_events_le (text : String) :
    (read text).events.length ≤ text.utf8ByteSize := by
  calc (read text).events.length
      ≤ (unmarked text.toList).length := by
        rw [read_eq]
        exact length_readEvents_le _ _ _
    _ ≤ text.toList.length := length_unmarked_le _
    _ ≤ (String.ofList text.toList).utf8ByteSize := length_le_utf8ByteSize _
    _ = text.utf8ByteSize := by rw [String.ofList_toList]

namespace Node

/-- The elements of a forest and those directly in them. -/
def countTwo (nodes : List Node) : Nat := (nodes.map fun node => node.children.length + 1).sum

theorem length_le_countTwo (nodes : List Node) : nodes.length ≤ countTwo nodes := by
  induction nodes with
  | nil => exact Nat.le_refl 0
  | cons node nodes ih =>
    simp only [countTwo, List.map_cons, List.sum_cons, List.length_cons] at ih ⊢
    omega

theorem countTwo_append (nodes others : List Node) :
    countTwo (nodes ++ others) = countTwo nodes + countTwo others := by
  simp [countTwo]

/-- The count for levels, all of them side by side. -/
def Levels.countTwo (levels : Levels) : Nat :=
  Node.countTwo levels.here + (levels.outer.map Node.countTwo).sum

theorem countTwo_push (event : Event) (levels : Levels) :
    (levels.push event).countTwo ≤ levels.countTwo + 1 := by
  obtain ⟨here, outer⟩ := levels
  have few := length_le_countTwo here
  cases event with
  | inert => exact Nat.le_succ _
  | empty name attributes =>
    simp [Levels.push, Levels.countTwo, Node.countTwo, children]
    omega
  | closed name => simp [Levels.push, Levels.countTwo, Node.countTwo]
  | opened name attributes =>
    cases outer with
    | nil =>
      simp only [Levels.push, Levels.countTwo, Node.countTwo, List.map_cons, List.map_nil,
        List.sum_cons, List.sum_nil, children] at few ⊢
      omega
    | cons after outer =>
      simp only [Levels.push, Levels.countTwo, Node.countTwo, List.map_cons, List.sum_cons,
        children] at few ⊢
      omega

theorem countTwo_levelsOf (events : List Event) :
    (levelsOf events).countTwo ≤ events.length := by
  induction events with
  | nil => exact Nat.le_refl 0
  | cons event events ih =>
    have step := countTwo_push event (levelsOf events)
    rw [List.length_cons]
    exact Nat.le_trans step (Nat.succ_le_succ ih)

theorem countTwo_ofEvents (events : List Event) : countTwo (ofEvents events) ≤ events.length := by
  have flat (levels : List (List Node)) :
      countTwo levels.flatten = (levels.map countTwo).sum := by
    induction levels with
    | nil => rfl
    | cons level levels ih => rw [List.flatten_cons, countTwo_append, ih, List.map_cons,
        List.sum_cons]
  have all := countTwo_levelsOf events
  unfold Levels.countTwo at all
  rwa [ofEvents, countTwo_append, flat]

end Node

end Stencil.Markup

namespace Stencil.Manifest

open Markup

/-! ## Declarations -/

theorem length_members_le (forest : List Node) :
    (members forest).length ≤ Node.countTwo forest := by
  induction forest with
  | nil => exact Nat.le_refl 0
  | cons node forest ih =>
    rw [members, List.flatMap_cons, List.length_append]
    simp only [members, Node.countTwo, List.map_cons, List.sum_cons] at ih ⊢
    split
    · rw [List.length_cons]
      omega
    · rw [List.length_singleton]
      omega

/-- How many types are declared so far. -/
def declaredSoFar : Option Module → Nat
  | none => 0
  | some m => m.types.list.length

theorem declaredSoFar_readElement {found found' : Option Module} {node : Node}
    (read : readElement found node = .ok found') :
    declaredSoFar found' ≤ declaredSoFar found + 1 := by
  unfold readElement at read
  cases found with
  | none =>
    dsimp only at read
    split at read
    · obtain ⟨m, header, rfl⟩ := ok_of_map read
      obtain ⟨path, name, root, rfl⟩ := bare_of_readHeader header
      exact Nat.zero_le _
    · cases read
  | some m =>
    dsimp only at read
    split at read
    · cases read
    · obtain ⟨m', member, rfl⟩ := ok_of_map read
      cases adds_of_readMember member with
      | imports _ _ => exact Nat.le_succ _
      | declares _ => simp [declaredSoFar, Types.add]
      | nothing => exact Nat.le_succ _

theorem declaredSoFar_foldlM {found found' : Option Module} {nodes : List Node}
    (read : nodes.foldlM readElement found = .ok found') :
    declaredSoFar found' ≤ declaredSoFar found + nodes.length := by
  induction nodes generalizing found with
  | nil =>
    cases read
    exact Nat.le_refl _
  | cons node nodes ih =>
    rw [List.foldlM_cons] at read
    obtain ⟨next, first, rest⟩ := ok_of_bind read
    have one := declaredSoFar_readElement first
    have more := ih rest
    rw [List.length_cons]
    omega

/-- A manifest declares no more types than it has bytes. -/
theorem length_types_le {text : String} {m : Module} (h : read text = .ok m) :
    m.types.list.length ≤ text.utf8ByteSize := by
  unfold read readBy ofEvents at h
  obtain ⟨found, folded, h⟩ := ok_of_bind h
  have declared := declaredSoFar_foldlM folded
  have elements := length_members_le (Node.ofEvents (Markup.read text).events)
  have counted := Node.countTwo_ofEvents (Markup.read text).events
  have bytes := length_events_le text
  cases fault : (Markup.read text).fault with
  | some why =>
    rw [fault] at h
    cases h
  | none =>
    rw [fault] at h
    cases found with
    | none => cases h
    | some unowned =>
      cases h
      have same : unowned.qualify.types.list.length = unowned.types.list.length :=
        List.length_map _
      simp only [declaredSoFar] at declared
      omega

end Stencil.Manifest
