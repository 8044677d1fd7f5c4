import Stencil.Proofs.Manifest.Steps
import Stencil.Proofs.Module.Mentions

/-
  What reading gives. Names and import paths are required and not empty, and every type
  expression was read from some text.

  Proved: `unowned_of_ofEvents`, for every module that is read.
-/

namespace Stencil.Manifest

open Markup

variable {m m' : Module} {node : Node} {t : TypeExpr} {d : Declaration} {key value : String}

/-! ## Attributes -/

/-- Some text is read as the expression. -/
def IsRead (t : TypeExpr) : Prop := ∃ s, TypeExpr.read s = some t

theorem ne_empty_of_required (h : required node key = .ok value) : value ≠ "" := by
  unfold required at h
  obtain ⟨found, _, h⟩ := ok_of_bind h
  cases found with
  | none => cases h
  | some value =>
    dsimp only at h
    split at h
    · cases h
    · rename_i some_left
      cases h
      simpa using some_left

theorem isRead_of_requiredType (h : requiredType node key = .ok t) : IsRead t := by
  unfold requiredType at h
  obtain ⟨value, _, h⟩ := ok_of_bind h
  split at h
  · rename_i read
    cases h
    exact ⟨value, read⟩
  · cases h

theorem isRead_of_readParam {p : Param} (h : readParam node = .ok p) : IsRead p.type := by
  unfold readParam at h
  obtain ⟨name, _, h⟩ := ok_of_bind h
  obtain ⟨type, read, h⟩ := ok_of_bind h
  cases h
  exact isRead_of_requiredType read

theorem sound_of_readField {f : Field} (h : readField node = .ok f) :
    f.name ≠ "" ∧ IsRead f.type := by
  unfold readField at h
  obtain ⟨name, named, h⟩ := ok_of_bind h
  obtain ⟨type, read, h⟩ := ok_of_bind h
  obtain ⟨tag, _, h⟩ := ok_of_bind h
  cases h
  exact ⟨ne_empty_of_required named, isRead_of_requiredType read⟩

theorem exprs_of_readSignaturePart {method method' : Method} (h : ∀ t ∈ method.exprs, IsRead t)
    (read : readSignaturePart method node = .ok method') :
    method'.name = method.name ∧ ∀ t ∈ method'.exprs, IsRead t := by
  unfold readSignaturePart at read
  split at read
  · obtain ⟨p, param, read⟩ := ok_of_bind read
    cases read
    refine ⟨rfl, fun t mem => ?_⟩
    have known := isRead_of_readParam param
    simp only [Method.exprs, List.map_append, List.mem_append, List.map_singleton,
      List.mem_singleton] at mem h
    rcases mem with (mem | rfl) | mem
    · exact h t (.inl mem)
    · exact known
    · exact h t (.inr mem)
  split at read
  · obtain ⟨p, param, read⟩ := ok_of_bind read
    cases read
    refine ⟨rfl, fun t mem => ?_⟩
    have known := isRead_of_readParam param
    simp only [Method.exprs, List.map_append, List.mem_append, List.map_singleton,
      List.mem_singleton] at mem h
    rcases mem with mem | mem | rfl
    · exact h t (.inl mem)
    · exact h t (.inr mem)
    · exact known
  · cases read
    exact ⟨rfl, h⟩

theorem sound_of_readMethod {method : Method} (h : readMethod node = .ok method) :
    method.name ≠ "" ∧ ∀ t ∈ method.exprs, IsRead t := by
  unfold readMethod at h
  obtain ⟨name, named, h⟩ := ok_of_bind h
  obtain ⟨variadic, _, h⟩ := ok_of_bind h
  have kept := foldlM_keeps (P := fun method => method.name = name ∧ ∀ t ∈ method.exprs, IsRead t)
    (fun part _ before after ⟨same, each⟩ read => by
      obtain ⟨same', each'⟩ := exprs_of_readSignaturePart each read
      exact ⟨same'.trans same, each'⟩) ⟨rfl, by simp [Method.exprs]⟩ h
  exact ⟨kept.1 ▸ ne_empty_of_required named, kept.2⟩

theorem Declares.sound (h : Declares node d) : d.Sound IsRead := by
  have named := ne_empty_of_required h.named
  cases h with
  | record _ _ read =>
    have each := mapM_all (P := fun f : Field => f.name ≠ "" ∧ IsRead f.type)
      (fun _ _ => sound_of_readField) read
    refine ⟨named, fun name mem => ?_, fun t mem => ?_⟩
    · obtain ⟨f, among, rfl⟩ := List.mem_map.mp mem
      exact (each f among).1
    · obtain ⟨f, among, rfl⟩ := List.mem_map.mp mem
      exact (each f among).2
  | capabilities _ _ read =>
    have each := mapM_all (P := fun m : Method => m.name ≠ "" ∧ ∀ t ∈ m.exprs, IsRead t)
      (fun _ _ => sound_of_readMethod) read
    refine ⟨named, fun name mem => ?_, fun t mem => ?_⟩
    · obtain ⟨method, among, rfl⟩ := List.mem_map.mp mem
      exact (each method among).1
    · obtain ⟨method, among, mem⟩ := List.mem_flatMap.mp mem
      exact (each method among).2 t mem
  | defined _ _ read =>
    refine ⟨named, fun name mem => ?_, fun t mem => ?_⟩
    · cases mem
    · rw [List.mem_singleton.mp mem]
      exact isRead_of_requiredType read

/-- A module as it is read, before its types get their owners. -/
structure Unowned (m : Module) : Prop where
  imports : ∀ i ∈ m.imports, i.path ≠ ""
  types : ∀ d ∈ m.types.list, d.Sound IsRead

theorem Unowned.step (h : Unowned m) (adds : Adds node m m') : Unowned m' := by
  cases adds with
  | nothing => exact h
  | @imports i _ read =>
    refine ⟨fun other mem => ?_, h.types⟩
    rcases List.mem_append.mp mem with old | new
    · exact h.imports other old
    · rw [List.mem_singleton.mp new]
      unfold readImport at read
      obtain ⟨path, required, read⟩ := ok_of_bind read
      obtain ⟨name, _, read⟩ := ok_of_bind read
      cases read
      exact ne_empty_of_required required
  | declares declares =>
    refine ⟨h.imports, fun other mem => ?_⟩
    rcases List.mem_append.mp mem with old | new
    · exact h.types other old
    · rw [List.mem_singleton.mp new]
      exact declares.sound

theorem unowned_of_written {events : List Event}
    (folded : written events = .ok (some m)) : Unowned m :=
  written_keeps (fun _ _ _ => ⟨by simp, by simp⟩) (fun _ _ _ _ => Unowned.step) folded

theorem unowned_of_ofEvents {events : List Event} {fault : Option Markup.Fault}
    (read : ofEvents events fault = .ok m) : ∃ unowned, Unowned unowned ∧ m = unowned.qualify := by
  obtain ⟨unowned, folded, same⟩ := written_of_ofEvents read
  exact ⟨unowned, unowned_of_written folded, same⟩

end Stencil.Manifest
