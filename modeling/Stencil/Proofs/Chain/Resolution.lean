import Stencil.Proofs.Chain.Endpoint
import Stencil.Proofs.Chain.Halting
import Stencil.Proofs.Chain.Reach

/-
  Resolution comes to an end. The types that a library gives are declared by its modules, and
  those that a session gives by them or by its target; where modules are at finitely many
  locations, these are finitely many.

  Proved: `Library.resolution_settles`. Whatever the library has been used for, a chain halts for
  a reason after at most one look-up more than types are declared, and more steps allowed change
  nothing. Libraries of manifests are ample (`Library.ample_ofShelf`, `Library.ample_ofCatalog`),
  so `Ample.resolve_settles` and `Session.resolve_settles`: with the steps that they allow they
  resolve to the end, and so do sessions opened on a module of theirs.
-/

namespace Stencil

variable {modules : String → Except LoadError Module} {c : Cache}

/-! ## Allowing more steps -/

/-- Allowed enough steps, following halts, and then further steps change nothing. -/
theorem exists_settles {σ : Type}
    {locate : ModuleName → String → StateM σ (Except LoadError Located)} {P : σ → Prop}
    {keys : Set (String × String)} {state : σ} (within : Within locate P keys)
    (finite : keys.Finite) (kind : P state) (x : Located) :
    ∃ count r, Settles locate state x count r ∧ count ≤ keys.ncard + 1 ∧
      ∀ n ≥ keys.ncard + 2, lookups locate n x state = count ∧ follow locate n [] x state = r := by
  obtain ⟨settles, few⟩ := settles_of_within within finite kind x (Nat.le_refl _)
  refine ⟨_, _, settles, few, fun n enough => ?_⟩
  have stopped : (follow locate (keys.ncard + 2) [] x state).1.2 ≠ .exhausted := settles.stopped
  have counted := follow_counting locate (keys.ncard + 2) [] x 0 state
  have stopped' :
      (follow (counting locate) (keys.ncard + 2) [] x (0, state)).1.2 ≠ .exhausted := by
    rw [← counted] at stopped
    exact stopped
  constructor
  · unfold lookups
    rw [follow_of_le enough stopped']
  · exact follow_of_le enough stopped

/-! ## Types that are given -/

theorem Loader.ofModules_consistent (find : String → Except LoadError (Module × List String)) :
    (ofModules find).Consistent (modulesOf find) := by
  convert (ofModules_steady find).consistent with key
  unfold modulesOf
  cases find key with
  | error e => rfl
  | ok found => rfl

theorem Shop.place_of_contents {location : String} {m : Module}
    (held : (contents location).map Content.module = .ok m) :
    location = "/shop" ∨ location = "stock" := by
  unfold contents find at held
  by_cases shop : location = "/shop"
  · exact .inl shop
  · by_cases stock : location = "stock"
    · exact .inr stock
    · rw [if_neg shop, if_neg stock] at held
      cases held

theorem Snapshot.key_mem_of_locate {s : Snapshot} {name : String} {y : Located}
    (found : s.locate name = .ok y) : y.key ∈ s.module.keys := by
  unfold locate at found
  cases here : s.find? name with
  | none =>
    rw [here] at found
    cases found
  | some d =>
    rw [here] at found
    cases found
    obtain ⟨i, _, listed⟩ := Option.bind_eq_some_iff.mp here
    exact List.mem_map.mpr ⟨d, List.mem_of_getElem? listed, rfl⟩

theorem Located.key_mem_of_held {x : Located} (h : Library.Held modules x) :
    x.key ∈ declaredKeys modules := by
  obtain ⟨key, m, name, there, found, module⟩ := h
  have located : m.bare.locate name = .ok ⟨m.bare, x.declared⟩ := by
    unfold Snapshot.locate
    rw [show m.bare.find? name = some x.declared from found]
  refine ⟨key, m, there, ?_⟩
  rw [show x = ⟨m.bare, x.declared⟩ from module ▸ rfl]
  exact Snapshot.key_mem_of_locate located

namespace Library

variable {lib : Library}

/-- The look-ups by which a library resolves. -/
def onward (lib : Library) (owner : ModuleName) (name : String) :
    StateM Cache (Except LoadError Located) :=
  (lib.lookup owner.path name { name := true }).run

theorem within_onward (consistent : lib.loader.Consistent modules) :
    Within lib.onward lib.Reached (declaredKeys modules) := by
  intro owner name c reached
  refine ⟨(lookup_answers consistent owner.path name _ c reached).2, fun y found => ?_⟩
  have held := held_of_declared (declared_of_lookup consistent reached found)
  simpa using Located.key_mem_of_held held

/-- A module that is loaded declares what the modules declare. -/
theorem keys_of_load (consistent : lib.loader.Consistent modules) (reached : lib.Reached c)
    {location : String} {facets : Facets} {loaded : Loaded}
    (load : (lib.load location facets c).1 = .ok loaded) :
    ∀ key ∈ loaded.snapshot.module.keys, key ∈ declaredKeys modules := by
  have shown := load_shown consistent reached location facets
  rw [load] at shown
  change Shown facets _ (.ok loaded.snapshot) at shown
  generalize loaded.snapshot = s at shown ⊢
  generalize there : lib.moduleAt modules location = answer at shown
  cases shown with
  | @module m s shows =>
    obtain ⟨place, wide, files, diagnostics, _, rfl⟩ := shows
    obtain ⟨key, _, held⟩ := ok_of_bind there
    intro typeKey mem
    refine ⟨key, m, held, ?_⟩
    cases types : wide.types with
    | true => simpa [Snapshot.project, Module.keys, types] using mem
    | false => simp [Snapshot.project, Module.keys, types] at mem

end Library

namespace Session

variable {s : Session}

/-- The look-ups by which a session resolves. -/
def onward (s : Session) (owner : ModuleName) (name : String) :
    StateM Cache (Except LoadError Located) :=
  (s.locate owner name).run

/-- The keys of the types that the modules or the target declare. -/
def keys (s : Session) (modules : String → Except LoadError Module) : Set (String × String) :=
  declaredKeys modules ∪ {key | key ∈ s.target.module.keys}

theorem within_onward (consistent : s.library.loader.Consistent modules) :
    Within s.onward s.library.Reached (s.keys modules) := by
  intro owner name c reached
  by_cases own : owner.path = s.target.path
  · have here : s.onward owner name c = (s.target.locate name, c) := by
      unfold onward locate
      rw [if_pos own]
      rfl
    rw [here]
    exact ⟨reached, fun y found => .inr (Snapshot.key_mem_of_locate found)⟩
  · have there : s.onward owner name c = s.library.onward owner name c := by
      unfold onward locate
      rw [if_neg own]
      rfl
    rw [there]
    obtain ⟨reached', given⟩ := Library.within_onward consistent owner name c reached
    exact ⟨reached', fun y found => .inl (given y found)⟩

/-- A session opened on a module of the library knows no further types. -/
theorem keys_of_load (consistent : s.library.loader.Consistent modules)
    (reached : s.library.Reached c) {location : String} {facets : Facets} {loaded : Loaded}
    (load : (s.library.load location facets c).1 = .ok loaded)
    (target : s.target = loaded.snapshot) : s.keys modules = declaredKeys modules := by
  refine Set.union_eq_self_of_subset_right fun key mem => ?_
  have known := Library.keys_of_load consistent reached load
  rw [← target] at known
  exact known key mem

end Session

/-! ## Resolution -/

namespace Library

variable {lib : Library}

/-- Resolution halts for a reason, in a library and in a session, after at most one look-up more
than types are declared. -/
theorem resolution_settles (consistent : lib.loader.Consistent modules)
    (finite : {location | ∃ m, modules location = .ok m}.Finite) (reached : lib.Reached c) :
    (∀ x, ∃ count r, Settles lib.onward c x count r ∧
      count ≤ (declaredKeys modules).ncard + 1 ∧
      ∀ reach ≥ (declaredKeys modules).ncard + 2,
        lookups lib.onward reach x c = count ∧ { lib with reach }.resolve x c = r) ∧
    ∀ target x, let s : Session := ⟨lib, target⟩
      ∃ count r, Settles s.onward c x count r ∧ count ≤ (s.keys modules).ncard + 1 ∧
        ∀ reach ≥ (s.keys modules).ncard + 2,
          lookups s.onward reach x c = count ∧
            Session.resolve ⟨{ lib with reach }, target⟩ x c = r := by
  have declared := finite_declaredKeys finite
  constructor
  · intro x
    exact exists_settles (within_onward consistent) declared reached x
  · intro target x s
    have known : (s.keys modules).Finite := declared.union (List.finite_toSet _)
    exact exists_settles (Session.within_onward (s := s) consistent) known reached x

/-- An order is resolved in the shop, and in a session on its stock. -/
theorem resolution_settles_shop : ∃ modules, Shop.library.loader.Consistent modules ∧
    {location | ∃ m, modules location = .ok m}.Finite ∧ Shop.library.Reached {} ∧
    ∃ x loaded, x.declared.name = "Order" ∧
      (Shop.library.load "stock" .target {}).1 = .ok loaded ∧
      (∃ count r, Settles Shop.library.onward {} x count r ∧
        ∀ reach ≥ (declaredKeys modules).ncard + 2,
          { Shop.library with reach }.resolve x {} = r) ∧
      ∃ count r, Settles (Session.onward ⟨Shop.library, loaded.snapshot⟩) {} x count r ∧
        count ≤ (Session.keys ⟨Shop.library, loaded.snapshot⟩ modules).ncard + 1 := by
  have consistent := Shop.steady.consistent
  have finite : {location | ∃ m, (Shop.contents location).map Content.module = .ok m}.Finite := by
    refine (Set.toFinite {"/shop", "stock"}).subset ?_
    rintro location ⟨m, held⟩
    exact Shop.place_of_contents held
  obtain ⟨x, found⟩ : ∃ x, ((Shop.library.lookup "/shop" "Order" {}).run {}).1 = .ok x := ⟨_, rfl⟩
  obtain ⟨loaded, load⟩ : ∃ loaded, (Shop.library.load "stock" .target {}).1 = .ok loaded :=
    ⟨_, rfl⟩
  obtain ⟨inLibrary, inSession⟩ := resolution_settles consistent finite .fresh
  obtain ⟨count, r, settles, _, all⟩ := inLibrary x
  obtain ⟨count', r', settles', few, _⟩ := inSession loaded.snapshot x
  cases found
  exact ⟨_, consistent, finite, .fresh, _, loaded, rfl, load,
    ⟨count, r, settles, fun reach large => (all reach large).2⟩, count', r', settles', few⟩

/-! ## Libraries of manifests -/

/-- The library allows more steps than its modules can need. -/
structure Ample (lib : Library) (modules : String → Except LoadError Module) : Prop where
  consistent : lib.loader.Consistent modules
  finite : (declaredKeys modules).Finite
  enough : (declaredKeys modules).ncard + 2 ≤ lib.reach

theorem ample_ofShelf (shelf : Shelf) (workingDir : Option String) :
    (ofShelf shelf workingDir).Ample (modulesOf shelf.find) where
  consistent := Loader.ofModules_consistent shelf.find
  finite := (List.finite_toSet _).subset shelf.keys_listed
  enough := reach_ofShelf shelf workingDir

theorem ample_ofCatalog (catalog : Catalog) (tree : FileTree) :
    (ofCatalog catalog tree).Ample (modulesOf (catalog.find tree)) where
  consistent := Loader.ofModules_consistent (catalog.find tree)
  finite := (List.finite_toSet _).subset (catalog.keys_listed tree)
  enough := reach_ofCatalog catalog tree

theorem Ample.resolve_settles (ample : lib.Ample modules) (reached : lib.Reached c)
    (x : Located) : ∃ count, Settles lib.onward c x count (lib.resolve x c) ∧
      count ≤ (declaredKeys modules).ncard + 1 :=
  ⟨_, settles_of_within (within_onward ample.consistent) ample.finite reached x ample.enough⟩

end Library

/-- So it does in a session opened on a module of the library. -/
theorem Session.resolve_settles {s : Session} (ample : s.library.Ample modules)
    (reached : s.library.Reached c) {c' : Cache} (reached' : s.library.Reached c')
    {location : String} {facets : Facets} {loaded : Loaded}
    (load : (s.library.load location facets c').1 = .ok loaded)
    (target : s.target = loaded.snapshot) (x : Located) :
    ∃ count, Settles s.onward c x count (s.resolve x c) ∧
      count ≤ (declaredKeys modules).ncard + 1 := by
  have within := within_onward (s := s) ample.consistent
  rw [keys_of_load ample.consistent reached' load target] at within
  exact ⟨_, settles_of_within within ample.finite reached x ample.enough⟩

end Stencil
