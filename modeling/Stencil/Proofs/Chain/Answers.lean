import Stencil.Proofs.Cache.Reached
import Stencil.View.Type

/-
  What a library answers, whatever has been done with it before. The loader is consistent: for
  each location it has one error, or one module to show. Then a type that is looked up, the end
  of its chain and the shape there are the same from every cache, up to facets that the chain
  does not depend on; each is given by a function that has no cache (`lookup_answers`,
  `locate_answers`, `shapeOf_answers`).
-/

namespace Stencil

/-! ## Consistent loaders -/

/-- A module with at least some of its facets. -/
def Snapshot.Shows (s : Snapshot) (m : Module) (facets : Facets) : Prop :=
  ∃ place wide files diagnostics, wide.covers facets = true ∧
    s = .project place wide m files diagnostics

/-- For each location there is one error or one module, which is shown with what is asked for. -/
def Loader.Consistent (loader : Loader) (modules : String → Except LoadError Module) : Prop :=
  ∀ serial key facets, match modules key with
    | .error e => loader serial key facets = .error e
    | .ok m => ∃ snapshot, loader serial key facets = .ok snapshot ∧ snapshot.Shows m facets

theorem Snapshot.Shows.of_covers {s : Snapshot} {m : Module} {wide facets : Facets}
    (h : s.Shows m wide) (covers : wide.covers facets = true) : s.Shows m facets := by
  obtain ⟨place, wider, files, diagnostics, covers', rfl⟩ := h
  exact ⟨place, wider, files, diagnostics, Facets.covers_trans covers' covers, rfl⟩

/-! ## What chains depend on -/

/-- A module's path and types, without all else. -/
def Module.bare (m : Module) : Snapshot where
  location := ""
  facets := {}
  module := { path := m.path, name := "", types := m.types }
  files := []
  diagnostics := []

def Snapshot.bare (s : Snapshot) : Snapshot := s.module.bare

def Located.bare (x : Located) : Located := ⟨x.module.bare, x.declared⟩

namespace Located

@[simp] theorem declared_bare (x : Located) : x.bare.declared = x.declared := rfl

@[simp] theorem path_bare (x : Located) : x.bare.module.path = x.module.path := rfl

@[simp] theorem key_bare (x : Located) : x.bare.key = x.key := rfl

theorem path_eq_of_bare_eq {x y : Located} (h : x.bare = y.bare) :
    x.module.path = y.module.path := by
  rw [← path_bare x, h, path_bare]

theorem declared_eq_of_bare_eq {x y : Located} (h : x.bare = y.bare) :
    x.declared = y.declared := by
  rw [← declared_bare x, h, declared_bare]

end Located

theorem Snapshot.Shows.bare_eq {s : Snapshot} {m : Module} {facets : Facets}
    (h : s.Shows m facets) (types : facets.types = true) : s.bare = m.bare := by
  obtain ⟨place, wide, files, diagnostics, covers, rfl⟩ := h
  have wide_types : wide.types = true := (Facets.covers_iff_imp.mp covers).2.2.2.1 types
  simp only [Snapshot.bare, Snapshot.project, Module.bare, wide_types, if_true]

theorem Snapshot.locate_bare (s : Snapshot) (name : String) :
    s.bare.locate name = (s.locate name).map Located.bare := by
  have found : s.bare.find? name = s.find? name := rfl
  unfold Snapshot.locate
  rw [found]
  cases s.find? name with
  | some d => rfl
  | none => rfl

/-! ## One step of a chain -/

theorem stateM_bind_apply {σ α β : Type} (w : StateM σ α) (f : α → StateM σ β) (state : σ) :
    (w >>= f) state = f (w state).1 (w state).2 := rfl

/-- The plain name with an owner that a type is defined over. -/
def Shape.over? : Shape → Option (ModuleName × String)
  | .defined (.named (some owner) name) => some (owner, name)
  | _ => none

theorem Shape.eq_of_over?_some {s : Shape} {owner : ModuleName} {name : String}
    (h : s.over? = some (owner, name)) : s = .defined (.named (some owner) name) := by
  unfold over? at h
  split at h
  · cases h
    rfl
  · cases h

/-- Why a chain ends at a shape that names no next type. -/
def Shape.stop : Shape → Stop
  | .defined _ => .notNamed
  | _ => .shape

section

variable {m : Type → Type} [Monad m]
  {locate : ModuleName → String → m (Except LoadError Located)} {n : Nat}
  {seen : List (String × String)} {x : Located}

theorem follow_of_mem (h : x.key ∈ seen) :
    follow locate (n + 1) seen x = pure (x, .repeated) := by
  rw [follow, if_pos h]

theorem follow_of_over?_none (fresh : x.key ∉ seen) (h : x.declared.shape.over? = none) :
    follow locate (n + 1) seen x = pure (x, x.declared.shape.stop) := by
  rw [follow, if_neg fresh]
  split
  · rename_i owner name shape
    rw [shape] at h
    cases h
  · rename_i shape
    rw [shape]
    rfl
  · rename_i not_defined
    cases shape : x.declared.shape with
    | record fields => rfl
    | capabilities methods => rfl
    | defined base => exact absurd shape (not_defined base)

theorem follow_of_over?_some (fresh : x.key ∉ seen) {owner : ModuleName} {name : String}
    (h : x.declared.shape.over? = some (owner, name)) :
    follow locate (n + 1) seen x = (do
      match ← locate owner name with
      | .ok next => follow locate n (x.key :: seen) next
      | .error why => pure (x, .failed why)) := by
  obtain ⟨module, own, shape⟩ := x
  obtain rfl : shape = .defined (.named (some owner) name) := Shape.eq_of_over?_some h
  exact if_neg fresh

end

/-- What of the end of a chain does not depend on the cache. -/
def bareEnd (r : Located × Stop) : Located × Stop := (r.1.bare, r.2)

/-- Following a chain without what it does not depend on. -/
theorem follow_bare {m : Type → Type} [Monad m] [LawfulMonad m]
    (locate : ModuleName → String → m (Except LoadError Located)) (n : Nat)
    (seen : List (String × String)) (x : Located) :
    bareEnd <$> follow locate n seen x =
      follow (fun owner name => Except.map Located.bare <$> locate owner name) n seen x.bare := by
  induction n generalizing seen x with
  | zero => simp [follow, bareEnd]
  | succ n ih =>
    by_cases old : x.key ∈ seen
    · rw [follow_of_mem old, follow_of_mem (by simpa using old)]
      simp [bareEnd]
    · have old' : x.bare.key ∉ seen := by simpa using old
      cases onto : x.declared.shape.over? with
      | none =>
        rw [follow_of_over?_none old onto, follow_of_over?_none old' (by simpa using onto)]
        simp [bareEnd]
      | some next =>
        obtain ⟨owner, name⟩ := next
        rw [follow_of_over?_some old onto, follow_of_over?_some old' (by simpa using onto),
          map_bind, bind_map_left]
        congr 1
        funext answer
        cases answer with
        | error why => simp [bareEnd, Except.map]
        | ok next => simp [Except.map, ih]

theorem Snapshot.locateWithin_bare (s : Snapshot) (owner : ModuleName) (name : String) :
    s.bare.locateWithin owner name = (s.locateWithin owner name).map Located.bare := by
  have path : s.bare.path = s.path := rfl
  unfold Snapshot.locateWithin
  rw [path]
  by_cases own : owner.path = s.path
  · rw [if_pos own, if_pos own, s.locate_bare]
  · rw [if_neg own, if_neg own]
    rfl

theorem Located.shape_bare (x : Located) : x.bare.shape = x.shape := by
  have within : (fun owner name => x.bare.module.locateWithin owner name) =
      fun owner name => (x.module.locateWithin owner name).map Located.bare := by
    funext owner name
    exact x.module.locateWithin_bare owner name
  have same := follow_bare (m := Id) (fun owner name => x.module.locateWithin owner name)
    (x.module.module.types.list.length + 2) [] x
  have ends := congrArg (fun r : Located × Stop => r.1.declared.shape) same
  unfold Located.shape
  rw [within]
  exact ends.symm

/-! ## Work that answers the same from every cache -/

namespace Library

variable {lib : Library} {modules : String → Except LoadError Module} {α β γ δ : Type}

/-- Whatever the library has been used for, the work gives `b` as far as `view` tells. -/
def Answers (lib : Library) (view : α → β) (w : StateM Cache α) (b : β) : Prop :=
  ∀ c, lib.Reached c → view (w c).1 = b ∧ lib.Reached (w c).2

theorem answers_pure (view : α → β) (a : α) : lib.Answers view (pure a) (view a) :=
  fun _ reached => ⟨rfl, reached⟩

theorem Answers.bind {view : α → β} {view' : γ → δ} {w : StateM Cache α} {b : β}
    {f : α → StateM Cache γ} {d : δ} (h : lib.Answers view w b)
    (next : ∀ a, view a = b → lib.Answers view' (f a) d) : lib.Answers view' (w >>= f) d := by
  intro c reached
  obtain ⟨same, reached'⟩ := h c reached
  exact next _ same _ reached'

theorem Answers.map {w : StateM Cache α} {a : α} (h : lib.Answers id w a) (f : α → β) :
    lib.Answers id (f <$> w) (f a) :=
  fun c reached => ⟨congrArg f (h c reached).1, (h c reached).2⟩

/-! ## Loading and looking up -/

/-- The module of a location, or why there is none. -/
def moduleAt (lib : Library) (modules : String → Except LoadError Module) (location : String) :
    Except LoadError Module :=
  (Location.normalize lib.workingDir location).bind modules

/-- The type of a name in the module of a location, or why there is none. -/
def declared (lib : Library) (modules : String → Except LoadError Module)
    (location name : String) : Except LoadError Located :=
  (lib.moduleAt modules location).bind fun m => m.bare.locate name

/-- What a load may answer where there is a module, or none. -/
inductive Shown (facets : Facets) : Except LoadError Module → Except LoadError Snapshot → Prop
  | module {m : Module} {s : Snapshot} (shows : s.Shows m facets) : Shown facets (.ok m) (.ok s)
  | error (e : LoadError) : Shown facets (.error e) (.error e)

theorem load_shown (consistent : lib.loader.Consistent modules) {c : Cache}
    (reached : lib.Reached c) (location : String) (facets : Facets) :
    Shown facets (lib.moduleAt modules location)
      ((lib.load location facets c).1.map Loaded.snapshot) := by
  unfold moduleAt
  cases normal : Location.normalize lib.workingDir location with
  | error e =>
    rw [load_of_error normal]
    exact .error e
  | ok key =>
    obtain ⟨serial, wide, covers, asked⟩ := reached.load_asked normal facets
    have shown := consistent serial key wide
    rw [asked]
    change Shown facets (modules key) _
    cases held : modules key with
    | error e =>
      rw [held] at shown
      dsimp only at shown
      rw [shown]
      exact .error e
    | ok m =>
      rw [held] at shown
      obtain ⟨snapshot, given, shows⟩ := shown
      rw [given]
      exact .module (shows.of_covers covers)

theorem lookup_apply (lib : Library) (location name : String) (facets : Facets) (c : Cache) :
    (lib.lookup location name facets).run c =
      (((lib.load location (facets.union { types := true }) c).1.map Loaded.snapshot).bind
          (·.locate name),
        (lib.load location (facets.union { types := true }) c).2) := by
  have bound : (lib.lookup location name facets).run c =
      (fun r : Except LoadError Loaded × Cache => ExceptT.bindCont (m := StateM Cache)
        (fun loaded => ExceptT.mk (pure (loaded.snapshot.locate name))) r.1 r.2)
        (lib.load location (facets.union { types := true }) c) := rfl
  rw [bound]
  rcases lib.load location (facets.union { types := true }) c with ⟨answer, c'⟩
  cases answer with
  | ok loaded => rfl
  | error e => rfl

theorem lookup_answers (consistent : lib.loader.Consistent modules) (location name : String)
    (facets : Facets) :
    lib.Answers (Except.map Located.bare) (lib.lookup location name facets).run
      (lib.declared modules location name) := by
  intro c reached
  have shown := load_shown consistent reached location (facets.union { types := true })
  rw [lookup_apply]
  refine ⟨?_, reached.loaded location _⟩
  unfold declared
  dsimp only
  generalize lib.moduleAt modules location = m at shown ⊢
  generalize (lib.load location (facets.union { types := true }) c).1.map Loaded.snapshot =
    answer at shown ⊢
  cases shown with
  | error e => rfl
  | @module m s shows =>
    have types : (facets.union { types := true }).types = true := by simp [Facets.union]
    change (s.locate name).map Located.bare = m.bare.locate name
    rw [← Snapshot.locate_bare, shows.bare_eq types]

/-! ## Following -/

/-- Where each step of a chain answers the same from every cache, so does the chain. -/
theorem follow_answers {locate : ModuleName → String → StateM Cache (Except LoadError Located)}
    {found : ModuleName → String → Except LoadError Located}
    (h : ∀ owner name, lib.Answers (Except.map Located.bare) (locate owner name)
      (found owner name))
    (n : Nat) (seen : List (String × String)) (x : Located) :
    lib.Answers bareEnd (follow locate n seen x) (follow (m := Id) found n seen x.bare) := by
  induction n generalizing seen x with
  | zero => exact answers_pure bareEnd (x, Stop.exhausted)
  | succ n ih =>
    by_cases old : x.key ∈ seen
    · rw [follow_of_mem old, follow_of_mem (by simpa using old)]
      exact answers_pure bareEnd (x, Stop.repeated)
    · have old' : x.bare.key ∉ seen := by simpa using old
      cases onto : x.declared.shape.over? with
      | none =>
        rw [follow_of_over?_none old onto, follow_of_over?_none old' (by simpa using onto)]
        exact answers_pure bareEnd (x, x.declared.shape.stop)
      | some next =>
        obtain ⟨owner, name⟩ := next
        rw [follow_of_over?_some old onto, follow_of_over?_some old' (by simpa using onto)]
        refine (h owner name).bind fun answer same => ?_
        rw [← same]
        cases answer with
        | error why => exact answers_pure bareEnd (x, Stop.failed why)
        | ok next => exact ih (x.key :: seen) next

end Library

/-! ## Sessions -/

namespace Session

variable {s : Session} {modules : String → Except LoadError Module}

/-- The type of a name in the module of an owner, or why there is none. -/
def declared (s : Session) (modules : String → Except LoadError Module) (owner : ModuleName)
    (name : String) : Except LoadError Located :=
  if owner.path = s.target.path then s.target.bare.locate name
  else s.library.declared modules owner.path name

/-- The shape at the end of a chain, without any cache. -/
def endShape (s : Session) (modules : String → Except LoadError Module) (x : Located) : Shape :=
  (follow (m := Id) (s.declared modules) s.library.reach [] x).1.shape

theorem locate_answers (consistent : s.library.loader.Consistent modules) (owner : ModuleName)
    (name : String) :
    s.library.Answers (Except.map Located.bare) (s.locate owner name).run
      (s.declared modules owner name) := by
  unfold locate declared
  by_cases own : owner.path = s.target.path
  · rw [if_pos own, if_pos own, Snapshot.locate_bare]
    exact Library.answers_pure (Except.map Located.bare) (s.target.locate name)
  · rw [if_neg own, if_neg own]
    exact Library.lookup_answers consistent owner.path name _

theorem shapeOf_answers (consistent : s.library.loader.Consistent modules) (x : Located) :
    s.library.Answers id (s.shapeOf x) (s.endShape modules x.bare) := by
  have resolved : s.library.Answers bareEnd (s.resolve x) _ :=
    Library.follow_answers (locate_answers consistent) s.library.reach [] x
  refine resolved.bind fun (last, why) same => ?_
  have shape : last.shape = s.endShape modules x.bare := by
    rw [← last.shape_bare]
    exact congrArg (fun r : Located × Stop => r.1.shape) same
  rw [← shape]
  exact Library.answers_pure id last.shape

end Session

end Stencil
