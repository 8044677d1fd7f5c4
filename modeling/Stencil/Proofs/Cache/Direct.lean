import Stencil.Proofs.Chain.Answers
import Stencil.Proofs.Module.Index

/-
  Loads through the cache against loads without one. The loader is steady: for each location it
  has one error, or one module with its files and diagnostics, of which it gives what it is asked
  for.

  Proved: `load_as_asked`. Whatever was loaded, looked up, resolved and cleared before, a load
  comes to what the loader itself comes to, with the same in every facet asked for; and a name is
  not found exactly if the module does not declare it.
-/

namespace Stencil

/-! ## Steady loaders -/

/-- What a location holds. -/
structure Content where
  module : Module
  files : List String
  diagnostics : List Diagnostic

def Content.project (content : Content) (place : String) (facets : Facets) : Snapshot :=
  .project place facets content.module content.files content.diagnostics

/-- For each location there is one error or one content, cut down to what is asked for. -/
def Loader.Steady (loader : Loader) (contents : String → Except LoadError Content) : Prop :=
  ∀ serial key facets, ∃ place,
    loader serial key facets = (contents key).map (·.project place facets)

/-- Files that do not change make a steady loader. -/
theorem Loader.ofModules_steady (find : String → Except LoadError (Module × List String)) :
    (Loader.ofModules find).Steady fun key =>
      (find key).map fun (m, files) => ⟨m, files, m.diagnostics⟩ := by
  intro serial key facets
  refine ⟨key, ?_⟩
  dsimp only [ofModules]
  cases find key with
  | error e => rfl
  | ok found => rfl

theorem Loader.Steady.consistent {loader : Loader}
    {contents : String → Except LoadError Content} (h : loader.Steady contents) :
    loader.Consistent fun key => (contents key).map Content.module := by
  intro serial key facets
  obtain ⟨place, answer⟩ := h serial key facets
  dsimp only
  cases there : contents key with
  | error e =>
    rw [there] at answer
    exact answer
  | ok content =>
    rw [there] at answer
    exact ⟨_, answer, place, facets, content.files, content.diagnostics, facets.covers_self, rfl⟩

/-! ## Two modules in memory -/

namespace Shop

/-- An order of the one is an item of the other, and an item is a crate. -/
def find (key : String) : Except LoadError (Module × List String) :=
  if key = "/shop" then
    .ok ({ path := "/shop", name := "shop"
           types := .ofList [⟨"Order", .defined (.named (some ⟨"stock", "stock"⟩) "Item")⟩] },
      ["/shop/module.xml"])
  else if key = "stock" then
    .ok ({ path := "stock", name := "stock"
           types := .ofList [⟨"Item", .defined (.named (some ⟨"stock", "stock"⟩) "Crate")⟩,
             ⟨"Crate", .record [⟨"Weight", .named none "int", ⟨""⟩⟩]⟩] },
      ["stock/module.xml"])
  else .error (.notFound key)

def contents (key : String) : Except LoadError Content :=
  (find key).map fun (m, files) => ⟨m, files, m.diagnostics⟩

def library : Library := ⟨.ofModules find, none, 8⟩

theorem steady : library.loader.Steady contents := Loader.ofModules_steady find

end Shop

/-! ## Agreement -/

/-- The same module, as far as some facets tell. -/
structure Snapshot.Agrees (facets : Facets) (s t : Snapshot) : Prop where
  path : s.path = t.path
  name : s.module.name = t.module.name
  diagnostics : s.diagnostics = t.diagnostics
  types : facets.types = true →
    s.module.types.list = t.module.types.list ∧ ∀ name, s.find? name = t.find? name
  imports : facets.imports = true → s.module.imports = t.module.imports
  root : facets.root = true → s.module.root = t.module.root
  files : facets.files = true → s.files = t.files

/-- More facets do not change those asked for. -/
theorem Content.project_agrees (content : Content) (place place' : String)
    {wide wide' facets : Facets} (covers : wide.covers facets = true)
    (covers' : wide'.covers facets = true) :
    (content.project place wide).Agrees facets (content.project place' wide') := by
  obtain ⟨_, files, imports, types, root⟩ := Facets.covers_iff_imp.mp covers
  obtain ⟨_, files', imports', types', root'⟩ := Facets.covers_iff_imp.mp covers'
  refine ⟨rfl, rfl, rfl, fun asked => ?_, fun asked => ?_, fun asked => ?_, fun asked => ?_⟩
  · have same : (content.project place wide).module.types =
        (content.project place' wide').module.types := by
      simp only [project, Snapshot.project, types asked, types' asked]
    refine ⟨congrArg Types.list same, fun name => ?_⟩
    unfold Snapshot.find?
    rw [same]
  · simp only [project, Snapshot.project, imports asked, imports' asked]
  · simp only [project, Snapshot.project, root asked, root' asked]
  · simp only [project, Snapshot.project, files asked, files' asked]

/-- A session's target is the whole module. -/
theorem Content.module_project (content : Content) (place : String) {wide : Facets}
    (covers : wide.covers .target = true) :
    (content.project place wide).module = content.module := by
  obtain ⟨_, _, imports, types, root⟩ := Facets.covers_iff_imp.mp covers
  simp only [project, Snapshot.project, imports rfl, types rfl, root rfl, if_true]

theorem Content.locate_project (content : Content) (place name : String) {facets : Facets}
    (types : facets.types = true) :
    (content.project place facets).locate name =
      match content.module.types.find? name with
      | some d => .ok ⟨content.project place facets, d⟩
      | none => .error (.typeNotFound content.module.path name) := by
  have same : (content.project place facets).find? name = content.module.types.find? name := by
    simp only [project, Snapshot.project, Snapshot.find?, types, if_true]
  unfold Snapshot.locate
  rw [same]
  rfl

/-! ## Anything done before -/

/-- Work that keeps a property of the state at each step of a chain keeps it along the chain. -/
theorem follow_keeps {σ : Type} {P : σ → Prop}
    {locate : ModuleName → String → StateM σ (Except LoadError Located)}
    (h : ∀ owner name state, P state → P (locate owner name state).2) (n : Nat)
    (seen : List (String × String)) (x : Located) {state : σ} (before : P state) :
    P (follow locate n seen x state).2 := by
  induction n generalizing seen x state with
  | zero => exact before
  | succ n ih =>
    by_cases old : x.key ∈ seen
    · rw [follow_of_mem old]
      exact before
    · cases onto : x.declared.shape.over? with
      | none =>
        rw [follow_of_over?_none old onto]
        exact before
      | some next =>
        obtain ⟨owner, name⟩ := next
        rw [follow_of_over?_some old onto, stateM_bind_apply]
        have after := h owner name state before
        rcases came : locate owner name state with ⟨answer, state'⟩
        rw [came] at after
        cases answer with
        | error why => exact after
        | ok next => exact ih _ next after

namespace Library

inductive Action where
  | load (location : String) (facets : Facets)
  | lookup (location name : String) (facets : Facets)
  | resolve (x : Located)
  | clear

/-- The cache after something is done with it. -/
def act (lib : Library) (c : Cache) : Action → Cache
  | .load location facets => (lib.load location facets c).2
  | .lookup location name facets => ((lib.lookup location name facets).run c).2
  | .resolve x => (lib.resolve x c).2
  | .clear => c.clear

/-- The cache after some actions, the first of them on an empty cache. -/
def after (lib : Library) (actions : List Action) : Cache := actions.foldl lib.act {}

variable {lib : Library} {c : Cache}

theorem Reached.lookup (h : lib.Reached c) (location name : String) (facets : Facets) :
    lib.Reached ((lib.lookup location name facets).run c).2 := by
  rw [lookup_apply]
  exact h.loaded location _

theorem Reached.act (h : lib.Reached c) (action : Action) : lib.Reached (lib.act c action) := by
  cases action with
  | load location facets => exact h.loaded location facets
  | lookup location name facets => exact h.lookup location name facets
  | resolve x => exact follow_keeps (fun owner name _ h => h.lookup owner.path name _) _ _ x h
  | clear => exact h.cleared

theorem reached_after (lib : Library) (actions : List Action) :
    lib.Reached (lib.after actions) := by
  have from_any : ∀ c, lib.Reached c → lib.Reached (actions.foldl lib.act c) := by
    induction actions with
    | nil => exact fun _ h => h
    | cons action actions ih => exact fun c h => ih _ (h.act action)
  exact from_any _ .fresh

/-! ## Loads -/

/-- What the loader itself gives for a location, as its call of some number. -/
def ask (lib : Library) (serial : Nat) (location : String) (facets : Facets) :
    Except LoadError Snapshot :=
  (Location.normalize lib.workingDir location).bind fun key => lib.loader serial key facets

/-- What a location holds, or why there is nothing. -/
def contentAt (lib : Library) (contents : String → Except LoadError Content)
    (location : String) : Except LoadError Content :=
  (Location.normalize lib.workingDir location).bind contents

variable {contents : String → Except LoadError Content} {location : String}

theorem ask_steady (steady : lib.loader.Steady contents) (serial : Nat) (location : String)
    (facets : Facets) :
    ∃ place, lib.ask serial location facets =
      (lib.contentAt contents location).map (·.project place facets) := by
  unfold ask contentAt
  cases Location.normalize lib.workingDir location with
  | error e => exact ⟨location, rfl⟩
  | ok key => exact steady serial key facets

theorem Reached.load_steady (h : lib.Reached c) (steady : lib.loader.Steady contents)
    (location : String) (facets : Facets) :
    ∃ place wide, wide.covers facets = true ∧
      (lib.load location facets c).1.map Loaded.snapshot =
        (lib.contentAt contents location).map (·.project place wide) := by
  unfold contentAt
  cases normal : Location.normalize lib.workingDir location with
  | error e =>
    rw [load_of_error normal]
    exact ⟨location, facets, facets.covers_self, rfl⟩
  | ok key =>
    obtain ⟨serial, wide, covers, asked⟩ := h.load_asked normal facets
    obtain ⟨place, answer⟩ := steady serial key wide
    exact ⟨place, wide, covers, asked.trans answer⟩

/-- A load that is refused, or one that is granted. -/
theorem Reached.load_cases (h : lib.Reached c) (steady : lib.loader.Steady contents)
    (location : String) (facets : Facets) :
    (∃ e, lib.contentAt contents location = .error e ∧
      (lib.load location facets c).1 = .error e) ∨
    ∃ content loaded place wide, lib.contentAt contents location = .ok content ∧
      (lib.load location facets c).1 = .ok loaded ∧
      loaded.snapshot = content.project place wide ∧ wide.covers facets = true := by
  obtain ⟨place, wide, covers, came⟩ := h.load_steady steady location facets
  generalize (lib.load location facets c).1 = answer at came ⊢
  generalize lib.contentAt contents location = there at came ⊢
  cases there with
  | error e =>
    cases answer with
    | error e' =>
      cases came
      exact .inl ⟨e, rfl, rfl⟩
    | ok _ => cases came
  | ok content =>
    cases answer with
    | error e' => cases came
    | ok loaded => exact .inr ⟨content, loaded, place, wide, rfl, rfl, Except.ok.inj came, covers⟩

theorem Reached.lookup_steady (h : lib.Reached c) (steady : lib.loader.Steady contents)
    (location name : String) (facets : Facets) :
    ∃ place wide, wide.covers (facets.union { types := true }) = true ∧
      ((lib.lookup location name facets).run c).1 =
        (lib.contentAt contents location).bind fun content =>
          match content.module.types.find? name with
          | some d => .ok ⟨content.project place wide, d⟩
          | none => .error (.typeNotFound content.module.path name) := by
  obtain ⟨place, wide, covers, same⟩ :=
    h.load_steady steady location (facets.union { types := true })
  have types : wide.types = true :=
    (Facets.covers_iff_imp.mp covers).2.2.2.1 (by simp [Facets.union])
  refine ⟨place, wide, covers, ?_⟩
  rw [lookup_apply]
  dsimp only
  rw [same]
  cases lib.contentAt contents location with
  | error e => rfl
  | ok content => exact content.locate_project place name types

/-- Both are refused for one reason, or both succeed with one module as far as some facets
tell. -/
inductive AsAsked (facets : Facets) : Except LoadError Loaded → Except LoadError Snapshot → Prop
  | refused (e : LoadError) : AsAsked facets (.error e) (.error e)
  | granted {loaded : Loaded} {s : Snapshot} (agrees : loaded.snapshot.Agrees facets s) :
      AsAsked facets (.ok loaded) (.ok s)

theorem Reached.load_asAsked (h : lib.Reached c) (steady : lib.loader.Steady contents)
    (location : String) (facets : Facets) (serial : Nat) :
    AsAsked facets (lib.load location facets c).1 (lib.ask serial location facets) := by
  obtain ⟨place, asked⟩ := ask_steady steady serial location facets
  rcases h.load_cases steady location facets with ⟨e, there, refused⟩ |
    ⟨content, loaded, place', wide, there, granted, given, covers⟩
  · rw [asked, refused, there]
    exact .refused e
  · rw [asked, granted, there]
    refine .granted ?_
    rw [given]
    exact content.project_agrees place' place covers facets.covers_self

theorem contentAt_of_ask_error (steady : lib.loader.Steady contents) {serial : Nat}
    {facets : Facets} {e : LoadError} (refused : lib.ask serial location facets = .error e) :
    lib.contentAt contents location = .error e := by
  obtain ⟨place, asked⟩ := ask_steady steady serial location facets
  rw [asked] at refused
  cases there : lib.contentAt contents location with
  | error e' =>
    rw [there] at refused
    cases refused
    rfl
  | ok content =>
    rw [there] at refused
    cases refused

/-- A look-up where there is a module. -/
theorem Reached.lookup_content (h : lib.Reached c) (steady : lib.loader.Steady contents)
    {content : Content} (there : lib.contentAt contents location = .ok content) (name : String)
    (facets : Facets) :
    (content.module.types.find? name = none ∧ ((lib.lookup location name facets).run c).1 =
      .error (.typeNotFound content.module.path name)) ∨
    ∃ x, content.module.types.find? name = some x.declared ∧
      ((lib.lookup location name facets).run c).1 = .ok x ∧
      ∀ serial s, lib.ask serial location (facets.union { types := true }) = .ok s →
        x.module.Agrees (facets.union { types := true }) s := by
  obtain ⟨place, wide, covers, looked⟩ := h.lookup_steady steady location name facets
  rw [looked, there]
  cases found : content.module.types.find? name with
  | none => exact .inl ⟨rfl, by simp only [Except.bind, found]⟩
  | some d =>
    refine .inr ⟨⟨content.project place wide, d⟩, rfl, by simp only [Except.bind, found], ?_⟩
    intro serial s asked
    obtain ⟨place', same⟩ := ask_steady steady serial location (facets.union { types := true })
    rw [asked, there] at same
    cases same
    exact content.project_agrees place place' covers (Facets.covers_self _)

/-- Loads and look-ups come to what the loader itself has, whatever was done before. -/
theorem load_as_asked (steady : lib.loader.Steady contents) (actions : List Action) :
    let c := lib.after actions
    (∀ location facets serial,
      AsAsked facets (lib.load location facets c).1 (lib.ask serial location facets)) ∧
    -- a look-up fails where the loader does
    (∀ location name facets serial e, lib.ask serial location facets = .error e →
      ((lib.lookup location name facets).run c).1 = .error e) ∧
    -- where there is a module, it fails exactly if the module does not declare the name
    ∀ location name facets content, lib.contentAt contents location = .ok content →
      (((lib.lookup location name facets).run c).1 =
          .error (.typeNotFound content.module.path name) ↔
        content.module.types.find? name = none) ∧
      (content.module.types.InStep → (content.module.types.find? name = none ↔
        ∀ d ∈ content.module.types.list, d.name ≠ name)) ∧
      -- and else finds the declaration, in the module as the loader gives it
      ∀ d, content.module.types.find? name = some d →
        ∃ x, ((lib.lookup location name facets).run c).1 = .ok x ∧ x.declared = d ∧
          ∀ serial s, lib.ask serial location (facets.union { types := true }) = .ok s →
            x.module.Agrees (facets.union { types := true }) s := by
  intro c
  have reached : lib.Reached c := reached_after lib actions
  refine ⟨fun location facets => reached.load_asAsked steady location facets, ?_, ?_⟩
  · intro location name facets serial e refused
    obtain ⟨place, wide, _, looked⟩ := reached.lookup_steady steady location name facets
    rw [looked, contentAt_of_ask_error steady refused]
    rfl
  · intro location name facets content there
    refine ⟨?_, fun inStep => inStep.find?_eq_none_iff, ?_⟩
    · rcases reached.lookup_content steady there name facets with ⟨none, looked⟩ |
        ⟨x, found, looked, _⟩
      · exact ⟨fun _ => none, fun _ => looked⟩
      · constructor
        · intro failed
          rw [looked] at failed
          cases failed
        · intro none
          rw [found] at none
          cases none
    · intro d found
      rcases reached.lookup_content steady there name facets with ⟨none, _⟩ |
        ⟨x, found', looked, agrees⟩
      · rw [found] at none
        cases none
      · rw [found] at found'
        exact ⟨x, looked, (Option.some.inj found').symm, agrees⟩

/-- A load of the name alone does not hide the types. -/
theorem load_as_asked_narrow : Shop.library.loader.Steady Shop.contents ∧
    let c := Shop.library.after [.load "/shop" {}, .clear, .load "/shop" { name := true }]
    (∃ x, ((Shop.library.lookup "/shop" "Order" {}).run c).1 = .ok x ∧
      x.declared.name = "Order") ∧
    ((Shop.library.lookup "/shop" "Item" {}).run c).1 = .error (.typeNotFound "/shop" "Item") := by
  obtain ⟨_, _, lookups⟩ := load_as_asked Shop.steady
    [.load "/shop" {}, .clear, .load "/shop" { name := true }]
  obtain ⟨_, _, found⟩ := lookups "/shop" "Order" {} _ rfl
  obtain ⟨missing, _, _⟩ := lookups "/shop" "Item" {} _ rfl
  refine ⟨Shop.steady, ?_, missing.mpr (by decide +kernel)⟩
  obtain ⟨x, looked, same, _⟩ := found _ (by rfl)
  exact ⟨x, looked, by rw [same]⟩

end Library

end Stencil
