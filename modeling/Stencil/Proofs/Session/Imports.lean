import Stencil.Proofs.Cache.Reached
import Stencil.Proofs.ImportBlock.History
import Stencil.Proofs.Outcome
import Stencil.Session

/-
  Imports of a session. A module comes into the block in three ways: a type of it is written, it
  is imported by its path, or it is imported by its directory and loaded to learn its path.

  Proved: `one_alias_each`. If modules go by module paths, then whatever way was taken and in
  whatever order, a module has one alias, the one that its types are written with; the block
  lists no directory; and an import that fails leaves the block as it was.
-/

namespace Stencil

/-- Modules go by module paths: where a module is loaded by one it declares that one, and none
declares a directory. -/
structure Loader.Addressed (loader : Loader) : Prop where
  own : ∀ {serial key facets snapshot}, loader serial key facets = .ok snapshot →
    Location.isLocal key = false → snapshot.path = key
  modulePath : ∀ {serial key facets snapshot}, loader serial key facets = .ok snapshot →
    Location.isLocal snapshot.path = false

namespace Session

/-! ## Calls -/

inductive Op where
  | importModule (location : String)
  | typeString (t : TypeExpr)
  | canonical (t : TypeExpr)
  | emit

/-- What a call answers, and the state it leaves. -/
def act (s : Session) (state : State) : Op → Except LoadError String × State
  | .importModule location => s.importModule location state
  | .typeString t => (.ok (typeString t state).1, (typeString t state).2)
  | .canonical t => (.ok t.canonical, state)
  | .emit => (.ok state.imports.emit, state)

/-- The state after some calls, the first of them in a session just opened. -/
def after (s : Session) (c : Cache) (ops : List Op) : State :=
  ops.foldl (fun state op => (s.act state op).2) (s.start c)

/-- The call is one of some calls, and this is the state in which it is made. -/
def Calls (s : Session) (c : Cache) (ops : List Op) (state : State) (op : Op) : Prop :=
  ∃ before later, ops = before ++ op :: later ∧ state = s.after c before

/-- The path of the module at a location: the one it declares, or the location itself if that
is a module path and nothing is loaded. -/
inductive Names (lib : Library) (c : Cache) (location : String) : String → Prop
  | loaded {loaded : Loaded} {path : String}
      (load : (lib.load location { name := true } c).1 = .ok loaded)
      (declared : loaded.snapshot.path = path) : Names lib c location path
  | modulePath (own : Location.isLocal location = false) : Names lib c location location

/-! ## Names of modules -/

section

variable {lib : Library} {c : Cache} {location path path' : String} {loaded : Loaded}

theorem answer_of_load (reached : lib.Reached c) {facets : Facets}
    (load : (lib.load location facets c).1 = .ok loaded) :
    ∃ serial key wide, Location.normalize lib.workingDir location = .ok key ∧
      lib.loader serial key wide = .ok loaded.snapshot := by
  cases normal : Location.normalize lib.workingDir location with
  | error e =>
    rw [Library.load_of_error normal] at load
    cases load
  | ok key =>
    obtain ⟨serial, wide, _, asked⟩ := reached.load_asked normal facets
    rw [load] at asked
    exact ⟨serial, key, wide, rfl, asked.symm⟩

/-- A module loaded by a module path declares it. -/
theorem path_of_load (addressed : lib.loader.Addressed) (reached : lib.Reached c)
    (load : (lib.load location { name := true } c).1 = .ok loaded)
    (own : Location.isLocal location = false) : loaded.snapshot.path = location := by
  obtain ⟨serial, key, wide, normal, answer⟩ := answer_of_load reached load
  have same : Location.normalize lib.workingDir location = .ok location := by
    unfold Location.normalize
    rw [own]
    rfl
  rw [same] at normal
  cases normal
  exact addressed.own answer own

theorem Names.unique (addressed : lib.loader.Addressed) (reached : lib.Reached c)
    (h : Names lib c location path) (h' : Names lib c location path') : path = path' := by
  cases h with
  | loaded load declared =>
    subst declared
    cases h' with
    | loaded load' declared' =>
      rw [load] at load'
      cases load'
      exact declared'
    | modulePath own => exact path_of_load addressed reached load own
  | modulePath own =>
    cases h' with
    | loaded load' declared' =>
      exact (path_of_load addressed reached load' own).symm.trans declared'
    | modulePath _ => rfl

end

/-! ## One call -/

variable {s : Session} {c : Cache} {state : State} {op : Op} {ops : List Op}
  {location path name : String}

/-- An import answers from the block, fails over the module, or brings the module in. -/
inductive Imported (s : Session) (location : String) (state : State) :
    Except LoadError String × State → Prop
  | known {name : String} (held : state.imports.alias? location = some name) :
      Imported s location state (.ok name, state)
  | failed {why : LoadError} {c : Cache}
      (load : s.library.load location { name := true } state.cache = (.error why, c)) :
      Imported s location state (.error why, { state with cache := c })
  | loaded {loaded : Loaded} {c : Cache}
      (load : s.library.load location { name := true } state.cache = (.ok loaded, c)) :
      Imported s location state
        (.ok (state.imports.aliasFor loaded.snapshot.module.moduleName).1,
          ⟨c, (state.imports.aliasFor loaded.snapshot.module.moduleName).2⟩)

theorem imported (s : Session) (location : String) (state : State) :
    Imported s location state (s.importModule location state) := by
  unfold importModule
  cases held : state.imports.alias? location with
  | some name => exact .known held
  | none =>
    rcases load : s.library.load location { name := true } state.cache with ⟨answer, c⟩
    cases answer with
    | error why => exact .failed load
    | ok loaded => exact .loaded load

/-- What holds in a session: the block is sound and lists module paths only, and the cache is
one that the library comes to. -/
structure Kept (s : Session) (state : State) : Prop where
  sound : state.imports.Sound
  target : state.imports.target = s.target.path
  modulePaths : ∀ path, (state.imports.alias? path).isSome → Location.isLocal path = false
  reached : s.library.Reached state.cache

theorem kept_start (reached : s.library.Reached c) : Kept s (s.start c) where
  sound := ImportBlock.sound_fresh _
  target := rfl
  modulePaths _ held := by cases held
  reached := reached

/-- Every call does to the block what one operation of the block does, if anything. -/
theorem imports_act (s : Session) (state : State) (op : Op) :
    ∃ blockOp, (s.act state op).2.imports = (state.imports.act blockOp).2 := by
  cases op with
  | importModule location =>
    have outcome := imported s location state
    change ∃ blockOp, (s.importModule location state).2.imports = _
    generalize s.importModule location state = r at outcome ⊢
    cases outcome with
    | known _ => exact ⟨.emit, rfl⟩
    | failed _ => exact ⟨.emit, rfl⟩
    | @loaded loaded _ _ => exact ⟨.aliasFor loaded.snapshot.module.moduleName, rfl⟩
  | typeString t => exact ⟨.typeString t, rfl⟩
  | canonical t => exact ⟨.emit, rfl⟩
  | emit => exact ⟨.emit, rfl⟩

theorem reached_load (reached : s.library.Reached state.cache) {facets : Facets}
    {answer : Except LoadError Loaded} {c : Cache}
    (load : s.library.load location facets state.cache = (answer, c)) : s.library.Reached c := by
  have after := reached.loaded location facets
  rwa [load] at after

theorem Kept.importModule (addressed : s.library.loader.Addressed) (h : Kept s state)
    (location : String) : Kept s (s.importModule location state).2 := by
  have outcome := imported s location state
  generalize s.importModule location state = r at outcome ⊢
  cases outcome with
  | known _ => exact h
  | failed load => exact ⟨h.sound, h.target, h.modulePaths, reached_load h.reached load⟩
  | @loaded loaded c load =>
    refine ⟨ImportBlock.sound_aliasFor h.sound _,
      (ImportBlock.target_aliasFor _ _).trans h.target, fun path held => ?_,
      reached_load h.reached load⟩
    rcases (ImportBlock.isSome_alias?_aliasFor _ _ path).mp held with before | same
    · exact h.modulePaths path before
    · obtain ⟨_, _, _, _, answer⟩ := answer_of_load h.reached (congrArg Prod.fst load)
      rw [← same]
      exact addressed.modulePath answer

theorem Kept.typeString (h : Kept s state) {t : TypeExpr}
    (leaf : ∀ owner name, t.leaf = .named (some owner) name →
      Location.isLocal owner.path = false) : Kept s (typeString t state).2 where
  sound := ImportBlock.sound_typeString h.sound t
  target := (ImportBlock.target_typeString _ t).trans h.target
  modulePaths path held := by
    rcases (ImportBlock.isSome_alias?_typeString _ t path).mp held with before | new
    · exact h.modulePaths path before
    · obtain ⟨owner, name, foreign, rfl⟩ := new
      exact leaf owner name (TypeExpr.foreign?_eq_some_iff.mp foreign).1
  reached := h.reached

/-- The owners of types written by a call are module paths. -/
def Op.Addressed : Op → Prop
  | .typeString t => ∀ owner name, t.leaf = .named (some owner) name →
      Location.isLocal owner.path = false
  | _ => True

theorem Kept.act (addressed : s.library.loader.Addressed) (h : Kept s state)
    (leaf : op.Addressed) : Kept s (s.act state op).2 := by
  cases op with
  | importModule location => exact h.importModule addressed location
  | typeString t => exact h.typeString leaf
  | canonical t => exact h
  | emit => exact h

/-- The alias that an import answers is that of the module at the location. -/
theorem alias_of_import (h : Kept s state)
    (answer : (s.importModule location state).1 = .ok name) :
    ∃ path, Names s.library state.cache location path ∧
      (s.importModule location state).2.imports.alias? path = some name := by
  have outcome := imported s location state
  generalize s.importModule location state = r at outcome answer ⊢
  cases outcome with
  | known held =>
    cases answer
    exact ⟨location, .modulePath (h.modulePaths location (by simp [held])), held⟩
  | failed _ => cases answer
  | @loaded loaded c load =>
    cases answer
    exact ⟨_, .loaded (congrArg Prod.fst load) rfl, ImportBlock.alias?_aliasFor_self _ _⟩

/-- The alias in a type as written is that of its owner. -/
theorem alias_of_typeString {t : TypeExpr} {owner : ModuleName} {name : String}
    (h : Kept s state) (leaf : t.leaf = .named (some owner) name)
    (foreign : owner.path ≠ s.target.path) :
    ∃ shown, (Session.typeString t state).1 = t.markerText ++ shown ++ "." ++ name ∧
      (Session.typeString t state).2.imports.alias? owner.path = some shown := by
  have found : t.foreign? state.imports.target = some (owner, name) :=
    TypeExpr.foreign?_eq_some_iff.mpr ⟨leaf, h.target ▸ foreign⟩
  have written := ImportBlock.typeString_of_some found
  refine ⟨(state.imports.aliasFor owner).1, congrArg Prod.fst written, ?_⟩
  change (state.imports.typeString t).2.alias? owner.path = _
  rw [written]
  exact ImportBlock.alias?_aliasFor_self _ owner

/-! ## Any number of calls -/

theorem after_append (s : Session) (c : Cache) (before later : List Op) :
    s.after c (before ++ later) =
      later.foldl (fun state op => (s.act state op).2) (s.after c before) := by
  rw [after, List.foldl_append]
  rfl

theorem kept_foldl (addressed : s.library.loader.Addressed) (h : Kept s state)
    (leaves : ∀ op ∈ ops, op.Addressed) :
    Kept s (ops.foldl (fun state op => (s.act state op).2) state) := by
  induction ops generalizing state with
  | nil => exact h
  | cons op ops ih =>
    have first := h.act addressed (leaves op List.mem_cons_self)
    exact ih first fun other mem => leaves other (List.mem_cons_of_mem op mem)

theorem kept_after (addressed : s.library.loader.Addressed) (reached : s.library.Reached c)
    (leaves : ∀ op ∈ ops, op.Addressed) : Kept s (s.after c ops) :=
  kept_foldl addressed (kept_start reached) leaves

theorem imports_foldl (s : Session) (state : State) (ops : List Op) :
    ∃ blockOps, (ops.foldl (fun state op => (s.act state op).2) state).imports =
      ImportBlock.run state.imports blockOps := by
  induction ops generalizing state with
  | nil => exact ⟨[], rfl⟩
  | cons op ops ih =>
    obtain ⟨blockOp, first⟩ := imports_act s state op
    obtain ⟨blockOps, rest⟩ := ih (s.act state op).2
    refine ⟨blockOp :: blockOps, ?_⟩
    rw [List.foldl_cons, rest, first]
    rfl

/-- What a call leaves in the block is there after all calls. -/
theorem alias_after_of_calls (call : s.Calls c ops state op)
    (held : (s.act state op).2.imports.alias? path = some name) :
    (s.after c ops).imports.alias? path = some name := by
  obtain ⟨before, later, rfl, rfl⟩ := call
  rw [after_append, List.foldl_cons]
  obtain ⟨blockOps, rest⟩ := imports_foldl s (s.act (s.after c before) op).2 later
  rw [rest]
  exact ImportBlock.alias?_run_of_some held blockOps

theorem Calls.kept (addressed : s.library.loader.Addressed) (reached : s.library.Reached c)
    (leaves : ∀ op ∈ ops, op.Addressed) (call : s.Calls c ops state op) : Kept s state := by
  obtain ⟨before, later, rfl, rfl⟩ := call
  exact kept_after addressed reached fun other mem => leaves other (List.mem_append_left _ mem)

/-- At the end the alias that an import answered is that of its module. -/
theorem Calls.alias_of_import (addressed : s.library.loader.Addressed)
    (reached : s.library.Reached c) (leaves : ∀ op ∈ ops, op.Addressed)
    (call : s.Calls c ops state (.importModule location))
    (answer : (s.act state (.importModule location)).1 = .ok name)
    (names : Names s.library state.cache location path) :
    (s.after c ops).imports.alias? path = some name := by
  have kept := call.kept addressed reached leaves
  obtain ⟨other, names', held⟩ := Session.alias_of_import kept answer
  rw [names.unique addressed kept.reached names']
  exact alias_after_of_calls call held

/-- A module has one alias in a session, however it is imported, and its types are written
with it; the block lists no directory; and an import that fails leaves the block as it was. -/
theorem one_alias_each (addressed : s.library.loader.Addressed) (reached : s.library.Reached c)
    (leaves : ∀ op ∈ ops, op.Addressed) :
    -- two imports answer one alias exactly if their modules declare one path
    (∀ state location name path state' location' name' path',
      s.Calls c ops state (.importModule location) →
      (s.act state (.importModule location)).1 = .ok name →
      Names s.library state.cache location path →
      s.Calls c ops state' (.importModule location') →
      (s.act state' (.importModule location')).1 = .ok name' →
      Names s.library state'.cache location' path' → (name = name' ↔ path = path')) ∧
    -- each that succeeds has such a module, and types of it are written with the alias
    (∀ state location name, s.Calls c ops state (.importModule location) →
      (s.act state (.importModule location)).1 = .ok name →
      ∃ path, Names s.library state.cache location path ∧
        ∀ state' t owner leaf, s.Calls c ops state' (.typeString t) →
          t.leaf = .named (some owner) leaf → owner.path = path → path ≠ s.target.path →
          (s.act state' (.typeString t)).1 = .ok (t.markerText ++ name ++ "." ++ leaf)) ∧
    -- the block at any time
    (∀ before, before <+: ops → ∃ rows : List (String × String),
      (s.after c before).imports.emit =
        "import (\n" ++ String.join (rows.map ImportBlock.line) ++ ")" ∧
      ∀ row ∈ rows, Location.isLocal row.1 = false) ∧
    -- imports that fail
    ∀ state location why, s.Calls c ops state (.importModule location) →
      (s.act state (.importModule location)).1 = .error why →
      (s.act state (.importModule location)).2.imports = state.imports := by
  have sound := (kept_after addressed reached leaves).sound
  refine ⟨?_, ?_, ?_, ?_⟩
  · intro state location name path state' location' name' path' call answer names call' answer'
      names'
    have held := call.alias_of_import addressed reached leaves answer names
    have held' := call'.alias_of_import addressed reached leaves answer' names'
    constructor
    · rintro rfl
      exact sound.apart held held'
    · rintro rfl
      exact Option.some.inj (held.symm.trans held')
  · intro state location name call answer
    obtain ⟨path, names, _⟩ := alias_of_import (call.kept addressed reached leaves) answer
    refine ⟨path, names, fun state' t owner leaf call' written same foreign => ?_⟩
    subst same
    have held := call.alias_of_import addressed reached leaves answer names
    obtain ⟨shown, text, held'⟩ :=
      alias_of_typeString (call'.kept addressed reached leaves) written foreign
    have same := held.symm.trans (alias_after_of_calls call' held')
    rw [Option.some.inj same]
    exact congrArg Except.ok text
  · rintro before ⟨later, rfl⟩
    have kept : Kept s (s.after c before) :=
      kept_after addressed reached fun op mem => leaves op (List.mem_append_left _ mem)
    refine ⟨_, rfl, fun row mem => kept.modulePaths row.1 ?_⟩
    have held : (s.after c before).imports.alias? row.1 = some row.2 :=
      (Table.mem_rows _ row.1 row.2).mp mem
    simp [held]
  · intro state location why _ answer
    have outcome := imported s location state
    change (s.importModule location state).1 = _ at answer
    change (s.importModule location state).2.imports = _
    generalize s.importModule location state = r at outcome answer ⊢
    cases outcome with
    | known _ => cases answer
    | failed _ => rfl
    | loaded _ => cases answer

/-! ## A module in two places -/

namespace Depot

/-- One module, by its path and by its directory. -/
def find (key : String) : Except LoadError (Module × List String) :=
  if key = "/depot" ∨ key = "example.com/depot" then
    .ok ({ path := "example.com/depot", name := "depot" }, ["/depot/module.xml"])
  else .error (.notFound key)

def session : Session where
  library := ⟨.ofModules find, some "/", 2⟩
  target := .project "shop" .target { path := "example.com/shop", name := "shop" } [] []

theorem addressed : session.library.loader.Addressed := by
  have answers : ∀ {serial key facets snapshot},
      session.library.loader serial key facets = .ok snapshot →
        snapshot.path = "example.com/depot" ∧ (key = "/depot" ∨ key = "example.com/depot") := by
    intro serial key facets snapshot answer
    obtain ⟨found, here, rfl⟩ := ok_of_map answer
    unfold find at here
    split at here
    · rename_i place
      cases here
      exact ⟨rfl, place⟩
    · cases here
  constructor
  · intro serial key facets snapshot answer own
    obtain ⟨path, place⟩ := answers answer
    rcases place with rfl | rfl
    · exact absurd own (by decide)
    · exact path
  · intro serial key facets snapshot answer
    rw [(answers answer).1]
    decide

end Depot

/-- A type is written, then its module is imported by two spellings of its directory. -/
theorem one_alias_each_depot :
    let crate : TypeExpr := .pointer (.named (some ⟨"example.com/depot", "depot"⟩) "Crate")
    let ops := [.typeString crate, .importModule "./depot", .importModule "/a/../depot/"]
    let s := Depot.session
    s.library.loader.Addressed ∧ s.library.Reached {} ∧ (∀ op ∈ ops, op.Addressed) ∧
    ∃ name, (s.act (s.after {} (ops.take 1)) (.importModule "./depot")).1 = .ok name ∧
      (s.act (s.after {} (ops.take 2)) (.importModule "/a/../depot/")).1 = .ok name ∧
      (s.act (s.after {} []) (.typeString crate)).1 = .ok ("*" ++ name ++ "." ++ "Crate") := by
  intro crate ops s
  have leaves : ∀ op ∈ ops, op.Addressed := by
    intro op mem
    simp only [ops, List.mem_cons, List.not_mem_nil, or_false] at mem
    rcases mem with rfl | rfl | rfl
    · rintro owner name ⟨⟩
      decide
    · trivial
    · trivial
  obtain ⟨same, written, _⟩ := one_alias_each Depot.addressed .fresh leaves
  have first : s.Calls {} ops (s.after {} []) (.typeString crate) := ⟨[], _, rfl, rfl⟩
  have second : s.Calls {} ops (s.after {} (ops.take 1)) (.importModule "./depot") :=
    ⟨_, _, rfl, rfl⟩
  have third : s.Calls {} ops (s.after {} (ops.take 2)) (.importModule "/a/../depot/") :=
    ⟨_, _, rfl, rfl⟩
  have names : Names s.library (s.after {} (ops.take 1)).cache "./depot" "example.com/depot" :=
    .loaded (by rfl) rfl
  have names' : Names s.library (s.after {} (ops.take 2)).cache "/a/../depot/"
      "example.com/depot" :=
    .loaded (by rfl) rfl
  obtain ⟨name, answer⟩ :
      ∃ name, (s.act (s.after {} (ops.take 1)) (.importModule "./depot")).1 = .ok name := ⟨_, rfl⟩
  obtain ⟨name', answer'⟩ :
      ∃ name, (s.act (s.after {} (ops.take 2)) (.importModule "/a/../depot/")).1 = .ok name :=
    ⟨_, rfl⟩
  obtain rfl : name = name' :=
    (same _ _ _ _ _ _ _ _ second answer names third answer' names').mpr rfl
  obtain ⟨path, other, typed⟩ := written _ _ _ second answer
  have kept := second.kept Depot.addressed .fresh leaves
  obtain rfl := names.unique Depot.addressed kept.reached other
  exact ⟨Depot.addressed, .fresh, leaves, name, answer, answer',
    typed _ _ _ _ first rfl rfl (by decide)⟩

end Session

end Stencil
