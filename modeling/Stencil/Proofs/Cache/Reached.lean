import Stencil.Proofs.Cache.History

/-
  The caches that a library can come to have. Whatever is done with a library changes its cache
  by loads and clearings only.

  Proved: each module kept is what the loader answered to a call of its own (`Reached.backed`),
  so a load gives what the loader answers to a call with at least the facets asked for
  (`Reached.load_asked`). Two loads in a row give one object exactly if they are of one location
  (`Reached.serial_eq_iff`).
-/

namespace Stencil

/-! ## What is kept was answered -/

theorem getElem?_of_prefix {α : Type} {early late : List α} (h : early <+: late) {i : Nat}
    {a : α} (found : early[i]? = some a) : late[i]? = some a := by
  obtain ⟨rest, rfl⟩ := h
  have bound := (List.getElem?_eq_some_iff.mp found).1
  rw [List.getElem?_append_left bound]
  exact found

namespace Cache

variable {c : Cache} {loader : Loader} {key : String} {facets : Facets}

/-- Each module kept is what the loader answered to the call that its number names. -/
structure Backed (c : Cache) (loader : Loader) : Prop where
  called : ∀ key entry, c.entries.find? key = some entry →
    c.calls[entry.loaded.serial]? = some ⟨key, entry.facets⟩
  answered : ∀ key entry, c.entries.find? key = some entry →
    loader entry.loaded.serial key entry.facets = .ok entry.loaded.snapshot

theorem backed_empty (loader : Loader) (calls : List Call) :
    Backed ⟨.empty, calls⟩ loader where
  called _ _ found := by cases found
  answered _ _ found := by cases found

theorem calls_prefix_request (c : Cache) (loader : Loader) (key : String) (facets : Facets) :
    c.calls <+: (c.request loader key facets).2.calls := by
  have outcome := c.requested loader key facets
  rcases came : c.request loader key facets with ⟨answer, c'⟩
  rw [came] at outcome
  cases outcome with
  | kept _ _ => exact List.prefix_rfl
  | failed _ _ => exact List.prefix_append ..
  | loaded _ _ => exact List.prefix_append ..

theorem Backed.calling (h : c.Backed loader) : (c.calling key facets).Backed loader where
  called other entry found :=
    getElem?_of_prefix (List.prefix_append ..) (h.called other entry found)
  answered := h.answered

theorem Backed.keeping {snapshot : Snapshot} (h : c.Backed loader)
    (answer : loader c.calls.length key (c.wanted key facets) = .ok snapshot) :
    (c.keeping key facets snapshot).Backed loader where
  called other entry found := by
    rw [Cache.keeping, Table.find?_put] at found
    split at found
    · rename_i same
      cases found
      rw [same]
      exact List.getElem?_concat_length
    · exact h.calling.called other entry found
  answered other entry found := by
    rw [Cache.keeping, Table.find?_put] at found
    split at found
    · rename_i same
      cases found
      rw [same]
      exact answer
    · exact h.answered other entry found

theorem Backed.request (h : c.Backed loader) (key : String) (facets : Facets) :
    (c.request loader key facets).2.Backed loader := by
  have outcome := c.requested loader key facets
  rcases came : c.request loader key facets with ⟨answer, c'⟩
  rw [came] at outcome
  cases outcome with
  | kept _ _ => exact h
  | failed _ _ => exact h.calling
  | loaded _ answer => exact h.keeping answer

/-- What a request is served with: a module that is kept from now on, or an error of the
loader; in both cases with at least the facets asked for. -/
inductive Served (loader : Loader) (key : String) (facets : Facets) :
    Except LoadError Loaded × Cache → Prop
  | granted {c : Cache} {entry : Entry} (found : c.entries.find? key = some entry)
      (covers : entry.facets.covers facets = true) :
      Served loader key facets (.ok entry.loaded, c)
  | refused {c : Cache} {e : LoadError} {serial : Nat} {wide : Facets}
      (covers : wide.covers facets = true) (answer : loader serial key wide = .error e) :
      Served loader key facets (.error e, c)

theorem served (c : Cache) (loader : Loader) (key : String) (facets : Facets) :
    Served loader key facets (c.request loader key facets) := by
  have outcome := c.requested loader key facets
  have covers : (c.wanted key facets).covers facets = true := Facets.union_covers_right _ _
  rcases came : c.request loader key facets with ⟨answer, c'⟩
  rw [came] at outcome
  cases outcome with
  | kept found covers => exact .granted found covers
  | failed _ answer => exact .refused covers answer
  | @loaded snapshot _ _ =>
    have kept : (c.keeping key facets snapshot).entries.find? key =
        some ⟨c.wanted key facets, ⟨c.calls.length, snapshot⟩⟩ := by
      rw [Cache.keeping, Table.find?_put, if_pos rfl]
    exact .granted kept covers

theorem request_of_kept {entry : Entry} (loader : Loader)
    (found : c.entries.find? key = some entry) (covers : entry.facets.covers facets = true) :
    c.request loader key facets = (.ok entry.loaded, c) := by
  unfold request
  simp only [found, covers, if_true]

end Cache

/-! ## Caches reached -/

namespace Library

variable {lib : Library} {c : Cache} {location key : String} {facets : Facets}

/-- The caches that loads and clearings lead to. -/
inductive Reached (lib : Library) : Cache → Prop
  | fresh : Reached lib {}
  | loaded {c : Cache} (location : String) (facets : Facets) (before : Reached lib c) :
      Reached lib (lib.load location facets c).2
  | cleared {c : Cache} (before : Reached lib c) : Reached lib c.clear

theorem load_served (normal : Location.normalize lib.workingDir location = .ok key)
    (facets : Facets) (c : Cache) :
    Cache.Served lib.loader key facets (lib.load location facets c) := by
  rw [load_of_ok normal]
  exact c.served lib.loader key facets

theorem calls_prefix_load (lib : Library) (location : String) (facets : Facets) (c : Cache) :
    c.calls <+: (lib.load location facets c).2.calls := by
  cases normal : Location.normalize lib.workingDir location with
  | error e =>
    simpa only [load_of_error normal] using List.prefix_rfl
  | ok key =>
    rw [load_of_ok normal]
    exact c.calls_prefix_request lib.loader key facets

theorem Reached.backed (h : lib.Reached c) : c.Backed lib.loader := by
  induction h with
  | fresh => exact Cache.backed_empty _ _
  | @loaded c location facets _ ih =>
    cases normal : Location.normalize lib.workingDir location with
    | error e =>
      rw [load_of_error normal]
      exact ih
    | ok key =>
      rw [load_of_ok normal]
      exact ih.request key facets
  | cleared _ _ => exact Cache.backed_empty _ _

/-- What a load gives is the answer of the loader to a call with at least the facets asked
for. -/
theorem Reached.load_asked (h : lib.Reached c)
    (normal : Location.normalize lib.workingDir location = .ok key) (facets : Facets) :
    ∃ serial wide, wide.covers facets = true ∧
      (lib.load location facets c).1.map Loaded.snapshot = lib.loader serial key wide := by
  have backed := (h.loaded location facets).backed
  have outcome := load_served normal facets c
  rcases came : lib.load location facets c with ⟨answer, c'⟩
  rw [came] at outcome backed
  cases outcome with
  | @granted _ entry found covers =>
    exact ⟨_, _, covers, (backed.answered key entry found).symm⟩
  | refused covers answer => exact ⟨_, _, covers, answer.symm⟩

/-- A granted load leaves the module with its location and with the call that loaded it. -/
theorem Reached.load_kept (h : lib.Reached c)
    (normal : Location.normalize lib.workingDir location = .ok key) {loaded : Loaded}
    (granted : (lib.load location facets c).1 = .ok loaded) :
    ∃ entry, (lib.load location facets c).2.entries.find? key = some entry ∧
      entry.loaded = loaded ∧ entry.facets.covers facets = true ∧
      (lib.load location facets c).2.calls[loaded.serial]? = some ⟨key, entry.facets⟩ := by
  have backed := (h.loaded location facets).backed
  have outcome := load_served normal facets c
  rcases came : lib.load location facets c with ⟨answer, c'⟩
  rw [came] at outcome granted backed
  cases outcome with
  | @granted _ entry found covers =>
    cases granted
    exact ⟨entry, found, rfl, covers, backed.called key entry found⟩
  | refused _ _ => cases granted

/-- Of two loads in a row, the first with facets that cover those of the second, both give one
object exactly if their locations are one. -/
theorem Reached.serial_eq_iff (h : lib.Reached c) {other key' : String} {fewer : Facets}
    (covers : facets.covers fewer = true)
    (normal : Location.normalize lib.workingDir location = .ok key)
    (normal' : Location.normalize lib.workingDir other = .ok key') {first second : Loaded}
    (granted : (lib.load location facets c).1 = .ok first)
    (granted' : (lib.load other fewer (lib.load location facets c).2).1 = .ok second) :
    first.serial = second.serial ↔ key = key' := by
  obtain ⟨entry, found, rfl, wide, called⟩ := h.load_kept normal granted
  constructor
  · intro same
    obtain ⟨entry', _, rfl, _, called'⟩ := (h.loaded location facets).load_kept normal' granted'
    have still := getElem?_of_prefix (calls_prefix_load lib other fewer _) called
    rw [same, called'] at still
    exact (congrArg Call.location (Option.some.inj still)).symm
  · rintro rfl
    rw [load_of_ok normal', Cache.request_of_kept _ found (Facets.covers_trans wide covers)]
      at granted'
    cases granted'
    rfl

end Library

end Stencil
