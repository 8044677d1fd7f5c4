import Stencil.Proofs.Cache.Direct
import Stencil.Proofs.Chain.Orbit

/-
  The end of a chain. A library allows a number of steps, its reach; the end of a chain is what
  following comes to however many more are allowed (`Library.Ends`).

  Proved: `one_end`. Where every module declares its location as its path and has its index in
  step, as modules do that are read, a type and the one it is defined over have models or not
  together, and then one and the same; a chain has a model at its end exactly if finitely many
  steps lead to one; and the end of a chain is its own end, also where the chain runs into a
  cycle or is cut off.
-/

namespace Stencil

open Function (periodicPts)
open Relation (ReflTransGen)

/-! ## More steps -/

/-- Once a chain has stopped for a reason, more steps change nothing. -/
theorem follow_of_le {σ : Type}
    {locate : ModuleName → String → StateM σ (Except LoadError Located)} {n m : Nat} (h : n ≤ m)
    {seen : List (String × String)} {x : Located} {state : σ}
    (stopped : (follow locate n seen x state).1.2 ≠ .exhausted) :
    follow locate m seen x state = follow locate n seen x state := by
  induction n generalizing m seen x state with
  | zero => exact absurd rfl stopped
  | succ n ih =>
    obtain ⟨m, rfl⟩ := Nat.exists_eq_add_of_le' (Nat.le_trans (Nat.le_add_left 1 n) h)
    by_cases old : x.key ∈ seen
    · rw [follow_of_mem old, follow_of_mem old]
    · cases onto : x.declared.shape.over? with
      | none => rw [follow_of_over?_none old onto, follow_of_over?_none old onto]
      | some next =>
        obtain ⟨owner, name⟩ := next
        rw [follow_of_over?_some old onto, stateM_bind_apply] at stopped ⊢
        rw [follow_of_over?_some old onto, stateM_bind_apply]
        rcases looked : locate owner name state with ⟨answer, state'⟩
        rw [looked] at stopped
        cases answer with
        | error why => rfl
        | ok next => exact ih (Nat.le_of_succ_le_succ h) stopped

namespace Library

variable {lib : Library} {modules : String → Except LoadError Module} {c c' : Cache}
  {x y z w : Located}

/-- The end of a chain: what following it comes to, however many steps more are allowed. -/
def Ends (lib : Library) (c : Cache) (x z : Located) : Prop :=
  ∃ enough why, why ≠ Stop.exhausted ∧
    ∀ reach ≥ enough, ({ lib with reach }.resolve x c).1 = (z, why)

theorem Ends.unique (h : lib.Ends c x z) (h' : lib.Ends c x w) : z = w := by
  obtain ⟨enough, why, _, all⟩ := h
  obtain ⟨enough', why', _, all'⟩ := h'
  have here := all (max enough enough') (Nat.le_max_left ..)
  rw [all' (max enough enough') (Nat.le_max_right ..)] at here
  exact (congrArg Prod.fst here).symm

theorem ends_of_stopped {n : Nat}
    (stopped : ({ lib with reach := n }.resolve x c).1.2 ≠ .exhausted) :
    lib.Ends c x ({ lib with reach := n }.resolve x c).1.1 := by
  refine ⟨n, _, stopped, fun reach large => ?_⟩
  have same : { lib with reach }.resolve x c = { lib with reach := n }.resolve x c :=
    follow_of_le large stopped
  rw [same]

/-! ## Ends as cycles -/

/-- Looking up a name with an owner, without any cache. -/
def direct (lib : Library) (modules : String → Except LoadError Module) (owner : ModuleName)
    (name : String) : Except LoadError Located :=
  lib.declared modules owner.path name

theorem resolve_bare (consistent : lib.loader.Consistent modules) (reached : lib.Reached c)
    (n : Nat) (x : Located) :
    bareEnd ({ lib with reach := n }.resolve x c).1 =
      follow (m := Id) (lib.direct modules) n [] x.bare :=
  (follow_answers (fun owner name => lookup_answers consistent owner.path name _) n [] x
    c reached).1

theorem Ends.enters (consistent : lib.loader.Consistent modules) (reached : lib.Reached c)
    (apart : Apart (lib.direct modules) x.bare) (h : lib.Ends c x z) :
    Enters (advance (lib.direct modules)) x.bare z.bare := by
  obtain ⟨enough, why, stopped, all⟩ := h
  have same := resolve_bare consistent reached enough x
  rw [all enough (Nat.le_refl _)] at same
  have entry := enters_of_follow (n := enough) apart (by rw [← same]; exact stopped)
  rwa [← same] at entry

theorem ends_of_enters (consistent : lib.loader.Consistent modules) (reached : lib.Reached c)
    (apart : Apart (lib.direct modules) x.bare)
    (entry : Enters (advance (lib.direct modules)) x.bare w) :
    ∃ z, lib.Ends c x z ∧ z.bare = w := by
  obtain ⟨enough, stops⟩ := exists_enough apart entry
  have stopped := stops enough (Nat.le_refl _)
  have same := resolve_bare consistent reached enough x
  have entry' := enters_of_follow apart stopped
  rw [← same] at stopped entry'
  exact ⟨_, ends_of_stopped stopped, entry'.unique entry⟩

/-! ## Types that are found -/

/-- A type that a look-up gives, whatever was done before. -/
def Finds (lib : Library) (x : Located) : Prop :=
  ∃ c location name facets, lib.Reached c ∧ ((lib.lookup location name facets).run c).1 = .ok x

/-- `y` is the type that the name which `x` is defined over looks up to. -/
def Under (lib : Library) (x y : Located) : Prop :=
  ∃ owner name c facets, x.declared.shape = .defined (.named (some owner) name) ∧
    lib.Reached c ∧ ((lib.lookup owner.path name facets).run c).1 = .ok y

theorem Under.finds (h : lib.Under x y) : lib.Finds y := by
  obtain ⟨owner, name, c, facets, _, reached, found⟩ := h
  exact ⟨c, owner.path, name, facets, reached, found⟩

theorem declared_of_lookup (consistent : lib.loader.Consistent modules)
    (reached : lib.Reached c) {location name : String} {facets : Facets}
    (found : ((lib.lookup location name facets).run c).1 = .ok x) :
    lib.declared modules location name = .ok x.bare := by
  have same := (lookup_answers consistent location name facets c reached).1
  rw [found] at same
  exact same.symm

theorem lookup_of_declared (consistent : lib.loader.Consistent modules)
    (reached : lib.Reached c) {location name : String}
    (h : lib.declared modules location name = .ok w) (facets : Facets) :
    ∃ x, ((lib.lookup location name facets).run c).1 = .ok x ∧ x.bare = w := by
  have same := (lookup_answers consistent location name facets c reached).1
  rw [h] at same
  cases found : ((lib.lookup location name facets).run c).1 with
  | error e =>
    rw [found] at same
    cases same
  | ok x =>
    rw [found] at same
    exact ⟨x, rfl, Except.ok.inj same⟩

theorem Under.advance_eq (consistent : lib.loader.Consistent modules) (h : lib.Under x y) :
    advance (lib.direct modules) x.bare = y.bare := by
  obtain ⟨owner, name, c, facets, shape, reached, found⟩ := h
  have onto : x.bare.declared.shape.over? = some (owner, name) := by
    rw [Located.declared_bare, shape]
    rfl
  exact advance_of_ok onto (declared_of_lookup consistent reached found)

/-- The type is what some name finds in a module. -/
def Held (modules : String → Except LoadError Module) (x : Located) : Prop :=
  ∃ key m name, modules key = .ok m ∧ m.types.find? name = some x.declared ∧ x.module = m.bare

theorem held_of_declared {location name : String}
    (h : lib.declared modules location name = .ok w) : Held modules w := by
  unfold declared moduleAt at h
  cases normal : Location.normalize lib.workingDir location with
  | error e =>
    rw [normal] at h
    cases h
  | ok key =>
    cases there : modules key with
    | error e =>
      rw [normal] at h
      simp only [Except.bind, there] at h
      cases h
    | ok m =>
      rw [normal] at h
      simp only [Except.bind, there] at h
      have same : m.bare.find? name = m.types.find? name := rfl
      unfold Snapshot.locate at h
      rw [same] at h
      cases found : m.types.find? name with
      | none =>
        rw [found] at h
        cases h
      | some d =>
        rw [found] at h
        cases h
        exact ⟨key, m, name, there, found, rfl⟩

theorem Held.advance (h : Held modules w) : Held modules (advance (lib.direct modules) w) := by
  unfold Stencil.advance
  split
  · rename_i owner name _
    cases answer : lib.direct modules owner name with
    | error e => exact h
    | ok next => exact held_of_declared answer
  · exact h

theorem Held.iterate (h : Held modules w) (n : Nat) :
    Held modules ((Stencil.advance (lib.direct modules))^[n] w) := by
  induction n with
  | zero => exact h
  | succ n ih =>
    rw [Function.iterate_succ_apply']
    exact ih.advance

/-- A path tells the module and a name the declaration, so a key tells the type. -/
theorem Held.eq_of_key (own : ∀ key m, modules key = .ok m → m.path = key)
    (inStep : ∀ key m, modules key = .ok m → m.types.InStep) (h : Held modules z)
    (h' : Held modules w) (same : z.key = w.key) : z = w := by
  obtain ⟨key, m, name, there, found, module⟩ := h
  obtain ⟨key', m', name', there', found', module'⟩ := h'
  obtain ⟨snapshot, d⟩ := z
  obtain ⟨snapshot', d'⟩ := w
  dsimp only at module module' found found'
  subst module module'
  have paths : m.path = m'.path := congrArg Prod.fst same
  have names : d.name = d'.name := congrArg Prod.snd same
  rw [own key m there, own key' m' there'] at paths
  subst paths
  rw [there] at there'
  cases there'
  rw [(inStep key m there).name_of_find? found, (inStep key m there).name_of_find? found']
    at names
  subst names
  rw [found] at found'
  cases found'
  rfl

theorem Finds.held (consistent : lib.loader.Consistent modules) (h : lib.Finds x) :
    Held modules x.bare := by
  obtain ⟨c, location, name, facets, reached, found⟩ := h
  exact held_of_declared (declared_of_lookup consistent reached found)

theorem Held.apart (own : ∀ key m, modules key = .ok m → m.path = key)
    (inStep : ∀ key m, modules key = .ok m → m.types.InStep) (h : Held modules w) :
    Apart (lib.direct modules) w :=
  fun i j same => Held.eq_of_key own inStep (h.iterate i) (h.iterate j) same

/-! ## Steps between types -/

theorem iterate_of_under (consistent : lib.loader.Consistent modules)
    (h : ReflTransGen lib.Under x z) :
    ∃ n, (Stencil.advance (lib.direct modules))^[n] x.bare = z.bare := by
  induction h with
  | refl => exact ⟨0, rfl⟩
  | tail _ step ih =>
    obtain ⟨n, there⟩ := ih
    exact ⟨n + 1, by rw [Function.iterate_succ_apply', there, step.advance_eq consistent]⟩

/-- The next type of a chain is one that a look-up finds. -/
theorem exists_under (consistent : lib.loader.Consistent modules) (x : Located) :
    ∃ y, ReflTransGen lib.Under x y ∧ y.bare = Stencil.advance (lib.direct modules) x.bare := by
  cases onto : x.declared.shape.over? with
  | none => exact ⟨x, .refl, (advance_of_none (x := x.bare) onto).symm⟩
  | some next =>
    obtain ⟨owner, name⟩ := next
    cases answer : lib.direct modules owner name with
    | error e => exact ⟨x, .refl, (advance_of_error (x := x.bare) onto answer).symm⟩
    | ok w =>
      obtain ⟨y, found, same⟩ := lookup_of_declared consistent .fresh answer {}
      have shape : x.declared.shape = .defined (.named (some owner) name) :=
        Shape.eq_of_over?_some onto
      refine ⟨y, .single ⟨owner, name, {}, {}, shape, .fresh, found⟩, ?_⟩
      rw [same, advance_of_ok (x := x.bare) onto answer]

theorem exists_under_iterate (consistent : lib.loader.Consistent modules) (x : Located)
    (n : Nat) :
    ∃ y, ReflTransGen lib.Under x y ∧
      y.bare = (Stencil.advance (lib.direct modules))^[n] x.bare := by
  induction n with
  | zero => exact ⟨x, .refl, rfl⟩
  | succ n ih =>
    obtain ⟨y, steps, there⟩ := ih
    obtain ⟨z, step, next⟩ := exists_under consistent y
    exact ⟨z, steps.trans step, by rw [next, there, Function.iterate_succ_apply']⟩

end Library

/-! ## One end -/

/-- The type is declared as a record or as a capability set. -/
def Located.HasModel (x : Located) : Prop :=
  (∃ fields, x.declared.shape = .record fields) ∨
    ∃ methods, x.declared.shape = .capabilities methods

/-- The same declaration of the same module. -/
def Located.Same (x y : Located) : Prop :=
  x.module.path = y.module.path ∧ x.declared = y.declared

theorem Located.same_of_bare_eq {x y : Located} (h : x.bare = y.bare) : x.Same y :=
  ⟨path_eq_of_bare_eq h, declared_eq_of_bare_eq h⟩

theorem Located.HasModel.of_bare_eq {x y : Located} (h : x.HasModel) (same : x.bare = y.bare) :
    y.HasModel := by
  unfold HasModel at h ⊢
  rwa [← declared_eq_of_bare_eq same]

/-- There is nothing under a record or a capability set. -/
theorem Located.HasModel.advance_eq {x : Located} (h : x.HasModel)
    (locate : ModuleName → String → Except LoadError Located) : advance locate x = x := by
  refine advance_of_none ?_
  rcases h with ⟨fields, shape⟩ | ⟨methods, shape⟩
  · rw [shape]
    rfl
  · rw [shape]
    rfl

namespace Library

variable {lib : Library} {modules : String → Except LoadError Module}

theorem Under.not_hasModel {x y : Located} (h : lib.Under x y) : ¬ x.HasModel := by
  obtain ⟨owner, name, _, _, shape, _, _⟩ := h
  rintro (⟨fields, shape'⟩ | ⟨methods, shape'⟩)
  · rw [shape] at shape'
    cases shape'
  · rw [shape] at shape'
    cases shape'

/-- A cycle has no model if a type on it is defined over another. -/
theorem Under.off_cycle {x y w : Located} (h : lib.Under x y) (model : w.HasModel) {n : Nat}
    (there : (Stencil.advance (lib.direct modules))^[n] x.bare = w) :
    x.bare ∉ periodicPts (Stencil.advance (lib.direct modules)) := by
  intro periodic
  have same : x.bare = w := eq_of_iterate_fixed periodic (model.advance_eq _) there
  subst same
  exact h.not_hasModel (model.of_bare_eq rfl)

/-- A chain leads to a model from a type exactly if it does from the one it is defined over. -/
theorem Under.enters_iff (consistent : lib.loader.Consistent modules) {x y w : Located}
    (h : lib.Under x y) (model : w.HasModel) :
    Enters (Stencil.advance (lib.direct modules)) y.bare w ↔
      Enters (Stencil.advance (lib.direct modules)) x.bare w := by
  rw [← h.advance_eq consistent]
  constructor
  · intro entry
    obtain ⟨n, there, _⟩ := id entry
    exact (enters_next_iff (h.off_cycle (n := n + 1) model there)).mp entry
  · intro entry
    obtain ⟨n, there, _⟩ := id entry
    exact (enters_next_iff (h.off_cycle model there)).mpr entry

/-- The end of a chain is a model exactly if the chain leads to one. -/
theorem exists_ends_iff (consistent : lib.loader.Consistent modules) {c : Cache}
    (reached : lib.Reached c) {x : Located} (apart : Apart (lib.direct modules) x.bare) :
    (∃ z, lib.Ends c x z ∧ z.HasModel) ↔
      ∃ w, Enters (Stencil.advance (lib.direct modules)) x.bare w ∧ w.HasModel := by
  constructor
  · rintro ⟨z, ends, model⟩
    exact ⟨z.bare, ends.enters consistent reached apart, model.of_bare_eq rfl⟩
  · rintro ⟨w, entry, model⟩
    obtain ⟨z, ends, rfl⟩ := ends_of_enters consistent reached apart entry
    exact ⟨z, ends, model.of_bare_eq rfl⟩

/-- Leading to a model is coming to one by finitely many steps. -/
theorem exists_enters_iff (consistent : lib.loader.Consistent modules) (x : Located) :
    (∃ w, Enters (Stencil.advance (lib.direct modules)) x.bare w ∧ w.HasModel) ↔
      ∃ z, ReflTransGen lib.Under x z ∧ z.HasModel := by
  constructor
  · rintro ⟨w, ⟨n, there, _⟩, model⟩
    obtain ⟨z, steps, same⟩ := exists_under_iterate consistent x n
    rw [← there, ← same] at model
    exact ⟨z, steps, model.of_bare_eq rfl⟩
  · rintro ⟨z, steps, model⟩
    obtain ⟨n, there⟩ := iterate_of_under consistent steps
    have bare : z.bare.HasModel := model.of_bare_eq rfl
    exact ⟨z.bare, enters_of_fixed (bare.advance_eq _) there, bare⟩

/-- Chains have one end, whatever the library has been used for. -/
theorem one_end (consistent : lib.loader.Consistent modules)
    (own : ∀ key m, modules key = .ok m → m.path = key)
    (inStep : ∀ key m, modules key = .ok m → m.types.InStep) {x : Located}
    (found : lib.Finds x) :
    -- what the library stops at within its reach is the end
    (∀ c z why, (lib.resolve x c).1 = (z, why) → why ≠ .exhausted → lib.Ends c x z) ∧
    -- a type and the one it is defined over end in the same model, or both in none
    (∀ y, lib.Under x y → ∀ c c', lib.Reached c → lib.Reached c' →
      ((∃ z, lib.Ends c x z ∧ z.HasModel) ↔ ∃ z, lib.Ends c' y z ∧ z.HasModel) ∧
      ∀ z z', lib.Ends c x z → lib.Ends c' y z' → z.HasModel → z.Same z') ∧
    -- a chain ends in a model exactly if finitely many steps lead to one
    (∀ c, lib.Reached c → ((∃ z, lib.Ends c x z ∧ z.HasModel) ↔
      ∃ z, ReflTransGen lib.Under x z ∧ z.HasModel)) ∧
    -- the end of a chain is its own end
    ∀ c c' z, lib.Reached c → lib.Reached c' → lib.Ends c x z →
      (∃ z', lib.Ends c' z z') ∧ ∀ z', lib.Ends c' z z' → z'.Same z := by
  have held : Held modules x.bare := found.held consistent
  have apart : Apart (lib.direct modules) x.bare := held.apart own inStep
  refine ⟨?_, ?_, ?_, ?_⟩
  · intro c z why came stopped
    have ends : (lib.resolve x c).1.2 ≠ .exhausted → lib.Ends c x (lib.resolve x c).1.1 :=
      ends_of_stopped (n := lib.reach)
    rw [came] at ends
    exact ends stopped
  · intro y under c c' reached reached'
    have apart' : Apart (lib.direct modules) y.bare :=
      (under.finds.held consistent).apart own inStep
    constructor
    · rw [exists_ends_iff consistent reached apart, exists_ends_iff consistent reached' apart']
      exact exists_congr fun w => and_congr_left fun model =>
        (under.enters_iff consistent model).symm
    · intro z z' ends ends' model
      have entry := ends.enters consistent reached apart
      have entry' := ends'.enters consistent reached' apart'
      have bare : z.bare.HasModel := model.of_bare_eq rfl
      have onward := (under.enters_iff consistent bare).mpr entry
      exact Located.same_of_bare_eq (onward.unique entry')
  · intro c reached
    rw [exists_ends_iff consistent reached apart]
    exact exists_enters_iff consistent x
  · intro c c' z reached reached' ends
    have entry := ends.enters consistent reached apart
    obtain ⟨n, there, periodic, _⟩ := entry
    have apart' : Apart (lib.direct modules) z.bare :=
      there ▸ (held.iterate n).apart own inStep
    constructor
    · obtain ⟨w, ends', _⟩ := ends_of_enters consistent reached' apart' (enters_self periodic)
      exact ⟨w, ends'⟩
    · intro z' ends'
      have entry' := ends'.enters consistent reached' apart'
      exact Located.same_of_bare_eq (entry'.eq_self periodic)

end Library

theorem Shop.kept {key : String} {m : Module} (held : (contents key).map Content.module = .ok m) :
    m.path = key ∧ m.types.InStep := by
  unfold contents find at held
  by_cases shop : key = "/shop"
  · subst shop
    cases held
    exact ⟨rfl, Types.inStep_ofList _⟩
  · by_cases stock : key = "stock"
    · subst stock
      cases held
      exact ⟨rfl, Types.inStep_ofList _⟩
    · rw [if_neg shop, if_neg stock] at held
      cases held

namespace Library

/-- An order is in the end a crate. -/
theorem one_end_order : ∃ modules, Shop.library.loader.Consistent modules ∧
    (∀ key m, modules key = .ok m → m.path = key) ∧
    (∀ key m, modules key = .ok m → m.types.InStep) ∧
    ∃ x z, Shop.library.Finds x ∧ x.declared.name = "Order" ∧ Shop.library.Ends {} x z ∧
      z.declared.name = "Crate" ∧ ∃ z', Shop.library.Ends {} z z' ∧ z'.Same z := by
  have consistent := Shop.steady.consistent
  have own : ∀ key m, (Shop.contents key).map Content.module = .ok m → m.path = key :=
    fun _ _ held => (Shop.kept held).1
  have inStep : ∀ key m, (Shop.contents key).map Content.module = .ok m → m.types.InStep :=
    fun _ _ held => (Shop.kept held).2
  obtain ⟨x, found⟩ : ∃ x, ((Shop.library.lookup "/shop" "Order" {}).run {}).1 = .ok x := ⟨_, rfl⟩
  have finds : Shop.library.Finds x := ⟨{}, "/shop", "Order", {}, .fresh, found⟩
  obtain ⟨stops, _, _, again⟩ := one_end consistent own inStep finds
  cases found
  have ends := stops {} _ _ rfl (by decide +kernel)
  obtain ⟨⟨z', ends'⟩, same⟩ := again {} {} _ .fresh .fresh ends
  exact ⟨_, consistent, own, inStep, _, _, finds, rfl, ends, by decide +kernel, z', ends',
    same z' ends'⟩

end Library

end Stencil
