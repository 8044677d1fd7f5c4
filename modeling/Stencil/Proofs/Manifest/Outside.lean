import Stencil.Proofs.Manifest.Index
import Stencil.Proofs.Markup.Forest

/-
  Elements outside the module. What stands before the module is a fault. What stands behind it
  is not: reading only asks whether a module has begun, and goes on as if it had not ended.

  Proved: `outside_module`. A manifest with elements behind its module reads as the manifest
  that has them inside, so what is declared there is declared.
-/

namespace Stencil.Manifest

open Markup

variable {m m' : Module} {node : Node} {nodes before children after : List Node}
  {attributes : List Attribute} {events : List Event} {fault : Option Markup.Fault}

/-! ## What is declared -/

/-- What a module declares, every import and every type, comes from some elements. -/
structure From (nodes : List Node) (m : Module) : Prop where
  imports : ∀ i ∈ m.imports, ∃ node ∈ nodes, node.name = "import" ∧ readImport node = .ok i
  types : ∀ d ∈ m.types.list, ∃ node ∈ nodes,
    node.name ∈ ["record", "capabilities", "type"] ∧ required node "name" = .ok d.name

theorem Declares.element {d : Declaration} (h : Declares node d) :
    node.name ∈ ["record", "capabilities", "type"] := by
  cases h <;> simp_all

theorem From.step (mem : node ∈ nodes) (h : From nodes m) (adds : Adds node m m') :
    From nodes m' := by
  cases adds with
  | nothing => exact h
  | imports element read =>
    refine ⟨fun i added => ?_, h.types⟩
    rcases List.mem_append.mp added with old | new
    · exact h.imports i old
    · rw [List.mem_singleton.mp new]
      exact ⟨node, mem, element, read⟩
  | declares declares =>
    refine ⟨h.imports, fun d added => ?_⟩
    rcases List.mem_append.mp added with old | new
    · exact h.types d old
    · rw [List.mem_singleton.mp new]
      exact ⟨node, mem, declares.element, declares.named⟩

/-- The element of the module itself declares nothing. -/
theorem From.content (h : From (.element "module" attributes children :: nodes) m) :
    From nodes m where
  imports i mem := by
    obtain ⟨node, among, element, read⟩ := h.imports i mem
    rcases List.mem_cons.mp among with rfl | among
    · simp [Node.name] at element
    · exact ⟨node, among, element, read⟩
  types d mem := by
    obtain ⟨node, among, element, named⟩ := h.types d mem
    rcases List.mem_cons.mp among with rfl | among
    · simp [Node.name] at element
    · exact ⟨node, among, element, named⟩

theorem From.qualify (h : From nodes m) : From nodes m.qualify where
  imports := h.imports
  types d mem := by
    obtain ⟨unowned, declared, rfl⟩ := List.mem_map.mp mem
    exact h.types unowned declared

/-- The module of an element that stands alone declares what its content declares. -/
theorem from_of_ofEvents
    (read : ofEvents (Node.element "module" attributes children).events fault = .ok m) :
    From children m := by
  have nodes : members (Node.ofEvents (Node.element "module" attributes children).events) =
      .element "module" attributes children :: children := by
    rw [Node.ofEvents_events]
    simp [members, Node.name, Node.children]
  obtain ⟨unowned, declared, rfl⟩ := ofEvents_keeps
    (P := From (.element "module" attributes children :: children))
    (fun path name root => ⟨by simp, by simp⟩)
    (fun node mem _ _ => From.step (nodes ▸ mem)) read
  exact declared.content.qualify

/-! ## Manifests -/

/-- What stands before the module is a fault. What stands behind it is read as if it stood
inside: the manifest is accepted exactly if it would be then, and what it declares comes from
the content of the module or from what stands behind. -/
theorem outside_module
    (forest : Node.ofEvents events = before ++ .element "module" attributes children :: after)
    (first : ∀ node ∈ before, node.name ≠ "module") :
    (∀ node, before.head? = some node →
      ofEvents events fault = .error (.outsideModule node.name)) ∧
    (before = [] → ofEvents events fault =
      ofEvents (Node.element "module" attributes (children ++ after)).events fault) ∧
    ∀ m, ofEvents events fault = .ok m → before = [] ∧ From (children ++ after) m := by
  have ahead : ∀ node, before.head? = some node →
      ofEvents events fault = .error (.outsideModule node.name) := by
    intro node head
    obtain ⟨rest, rfl⟩ := List.head?_eq_some_iff.mp head
    have other : node.name ≠ "module" := first node List.mem_cons_self
    rw [ofEvents, forest, List.cons_append, members, List.flatMap_cons, if_neg other,
      List.singleton_append, List.foldlM_cons, readElement, if_neg other]
    rfl
  have behind : before = [] → ofEvents events fault =
      ofEvents (Node.element "module" attributes (children ++ after)).events fault := by
    rintro rfl
    have moved := foldlM_module attributes (children ++ after) []
    rw [List.append_nil, ← foldlM_module attributes children after] at moved
    rw [ofEvents, ofEvents, forest, Node.ofEvents_events, moved, List.nil_append]
  refine ⟨ahead, behind, fun m read => ?_⟩
  cases before with
  | nil => exact ⟨rfl, from_of_ofEvents ((behind rfl).symm.trans read)⟩
  | cons node before =>
    rw [ahead node rfl] at read
    cases read

/-- A module that closes itself, and a record behind it. -/
def recordBehind : String := "<module path=\"m\"/><record name=\"R\"/>"

/-- The record behind the module is one of its types. -/
theorem outside_module_behind :
    Node.ofEvents (Markup.read recordBehind).events =
      [] ++ .element "module" [.pair "path".toList "m".toList] [] ::
        [.element "record" [.pair "name".toList "R".toList] []] ∧
    From [.element "record" [.pair "name".toList "R".toList] []]
      ⟨"m", "m", none, [], .ofList [⟨"R", .record []⟩]⟩ ∧
    read recordBehind = .ok ⟨"m", "m", none, [], .ofList [⟨"R", .record []⟩]⟩ := by
  have events : (Markup.read recordBehind).events =
      [.empty "module" [.pair "path".toList "m".toList],
        .empty "record" [.pair "name".toList "R".toList]] := by decide +kernel
  have sound : (Markup.read recordBehind).fault = none := by decide +kernel
  have forest : Node.ofEvents (Markup.read recordBehind).events =
      [] ++ .element "module" [.pair "path".toList "m".toList] [] ::
        [.element "record" [.pair "name".toList "R".toList] []] := by
    rw [events]
    rfl
  have accepted : read recordBehind = .ok ⟨"m", "m", none, [], .ofList [⟨"R", .record []⟩]⟩ := by
    rw [read, readBy, events, sound]
    rfl
  obtain ⟨_, _, declared⟩ := outside_module forest (by simp)
  exact ⟨forest, (declared _ accepted).2, accepted⟩

end Stencil.Manifest
