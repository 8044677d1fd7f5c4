import Stencil.Catalog
import Stencil.Proofs.Manifest.Steps
import Stencil.Proofs.Module.Index
import Stencil.Shelf

/-
  Modules that are read. Declarations are added one by one and get their owners at the end,
  which leaves their names alone; so the index of a module that comes from a manifest is in step
  with its types (`inStep_read`), whether the manifest is a file or is held in memory.
-/

namespace Stencil

/-! ## Owners -/

namespace Types

theorem ofList_map {g : Declaration → Declaration} (named : ∀ d, (g d).name = d.name)
    (ds : List Declaration) : ofList (ds.map g) = ⟨ds.map g, (ofList ds).index⟩ := by
  induction ds using List.reverseRecOn with
  | nil => rfl
  | append_singleton ds d ih =>
    rw [List.map_append, List.map_singleton, ofList_concat, ofList_concat, ih]
    simp only [add, named, list_ofList, List.length_map]

theorem InStep.mapTypes {t : Types} (h : t.InStep) (f : TypeExpr → TypeExpr) :
    (t.mapTypes f).InStep := by
  unfold InStep rebuild at h ⊢
  have same : ofList (t.mapTypes f).list = ⟨(t.mapTypes f).list, (ofList t.list).index⟩ :=
    ofList_map (g := (·.mapTypes f)) (fun _ => rfl) t.list
  rw [same, h]
  rfl

end Types

/-! ## Reading -/

namespace Manifest

theorem Adds.inStep {node : Markup.Node} {m m' : Module} (h : m.types.InStep)
    (adds : Adds node m m') : m'.types.InStep := by
  cases adds with
  | imports => exact h
  | declares => exact h.add _
  | nothing => exact h

theorem inStep_ofEvents {events : List Markup.Event} {fault : Option Markup.Fault} {m : Module}
    (read : ofEvents events fault = .ok m) : m.types.InStep := by
  obtain ⟨unowned, inStep, rfl⟩ := ofEvents_keeps (P := fun m => m.types.InStep)
    (fun _ _ _ => Types.inStep_ofList []) (fun _ _ _ _ => Adds.inStep) read
  exact inStep.mapTypes _

theorem inStep_read {reader : Markup.Reader} {text : String} {m : Module}
    (read : readBy reader text = .ok m) : m.types.InStep :=
  inStep_ofEvents read

end Manifest

/-! ## Places of manifests -/

theorem Shelf.inStep_find {shelf : Shelf} {location : String} {m : Module} {files : List String}
    (found : shelf.find location = .ok (m, files)) : m.types.InStep := by
  unfold find at found
  dsimp only at found
  split at found
  · cases found
  · rename_i text _
    obtain ⟨read, parsed, found⟩ := ok_of_bind found
    cases found
    exact Manifest.inStep_read (ok_of_mapError parsed)

theorem Catalog.inStep_find {catalog : Catalog} {tree : FileTree} {location : String} {m : Module}
    {files : List String} (found : catalog.find tree location = .ok (m, files)) :
    m.types.InStep := by
  unfold find at found
  obtain ⟨manifest, _, found⟩ := ok_of_bind found
  obtain ⟨text, _, found⟩ := ok_of_bind found
  obtain ⟨read, parsed, found⟩ := ok_of_bind found
  cases found
  exact Manifest.inStep_read (ok_of_mapError parsed)

end Stencil
