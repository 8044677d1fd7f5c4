import Stencil.Proofs.Chain.Resolution

/-
  Chains inside one module. What a type stands for within its module is found by names alone
  (`Snapshot.Next`): the chain goes on to the type of a name of this module, as long as no name
  comes again. Across modules it is found by paths and names, with look-ups that may load.

  Proved: `Session.resolve_within`. Where a chain stays in the target of a session, both ways
  come to the same type, and no look-up loads: also where the chain is a cycle or enters one,
  where a name is not declared, and where several types have one name.
-/

namespace Stencil

open Relation (ReflTransGen)

/-! ## By names alone -/

namespace Snapshot

variable {s : Snapshot} {d e e' : Declaration} {passed : List String}

/-- One step of a chain inside a module, with the names that are passed. -/
inductive Next (s : Snapshot) : List String × Declaration → List String × Declaration → Prop
  | step {passed : List String} {d next : Declaration} {owner : ModuleName} {name : String}
      (fresh : d.name ∉ passed) (onto : d.shape.over? = some (owner, name))
      (own : owner.path = s.path) (found : s.find? name = some next) :
      Next s (passed, d) (d.name :: passed, next)

/-- The chain inside the module goes on to the second type, and no further. -/
def EndsAt (s : Snapshot) (d e : Declaration) : Prop :=
  ∃ passed, ReflTransGen s.Next ([], d) (passed, e) ∧ ∀ there, ¬ s.Next (passed, e) there

/-- Every plain name with an owner that the chain goes on to is one of this module. -/
def Stays (s : Snapshot) (here : List String × Declaration) : Prop :=
  ∀ passed e owner name, ReflTransGen s.Next here (passed, e) → e.name ∉ passed →
    e.shape.over? = some (owner, name) → owner.path = s.path

theorem next_rightUnique (s : Snapshot) : Relator.RightUnique s.Next := by
  rintro here there there' ⟨_, onto, _, found⟩ ⟨_, onto', _, found'⟩
  rw [onto] at onto'
  cases onto'
  rw [found] at found'
  cases found'
  rfl

theorem EndsAt.unique (h : s.EndsAt d e) (h' : s.EndsAt d e') : e = e' := by
  obtain ⟨passed, comes, rests⟩ := h
  obtain ⟨passed', comes', rests'⟩ := h'
  rcases ReflTransGen.total_of_right_unique s.next_rightUnique comes comes' with on | on
  · rcases on.cases_head with same | ⟨there, step, _⟩
    · exact congrArg Prod.snd same
    · exact absurd step (rests there)
  · rcases on.cases_head with same | ⟨there, step, _⟩
    · exact congrArg Prod.snd same.symm
    · exact absurd step (rests' there)

theorem not_next_of_mem (old : d.name ∈ passed) (there : List String × Declaration) :
    ¬ s.Next (passed, d) there := by
  rintro ⟨fresh, _, _, _⟩
  exact fresh old

theorem not_next_of_over?_none (onto : d.shape.over? = none)
    (there : List String × Declaration) : ¬ s.Next (passed, d) there := by
  rintro ⟨_, onto', _, _⟩
  rw [onto] at onto'
  cases onto'

/-- There is no next type if its look-up fails. -/
theorem not_next_of_locateWithin {owner : ModuleName} {name : String} {why : LoadError}
    (onto : d.shape.over? = some (owner, name)) (failed : s.locateWithin owner name = .error why)
    (there : List String × Declaration) : ¬ s.Next (passed, d) there := by
  rintro ⟨_, onto', own, found⟩
  rw [onto] at onto'
  cases onto'
  unfold locateWithin locate at failed
  rw [if_pos own, found] at failed
  cases failed

theorem found_of_locateWithin {owner : ModuleName} {name : String} {y : Located}
    (found : s.locateWithin owner name = .ok y) :
    owner.path = s.path ∧ ∃ next, s.find? name = some next ∧ y = ⟨s, next⟩ := by
  unfold locateWithin at found
  by_cases own : owner.path = s.path
  · rw [if_pos own] at found
    unfold locate at found
    cases here : s.find? name with
    | none =>
      rw [here] at found
      cases found
    | some next =>
      rw [here] at found
      cases found
      exact ⟨own, next, rfl, rfl⟩
  · rw [if_neg own] at found
    cases found

/-- What is found is a type of this module, and the next of the chain. -/
theorem next_of_locateWithin {owner : ModuleName} {name : String} {y : Located}
    (fresh : d.name ∉ passed) (onto : d.shape.over? = some (owner, name))
    (found : s.locateWithin owner name = .ok y) :
    ∃ next, y = ⟨s, next⟩ ∧ s.Next (passed, d) (d.name :: passed, next) := by
  obtain ⟨own, next, here, rfl⟩ := found_of_locateWithin found
  exact ⟨next, rfl, .step fresh onto own here⟩

end Snapshot

/-! ## Following inside a module -/

namespace Snapshot

variable {s : Snapshot} {m : Type → Type} [Monad m] [LawfulMonad m]

/-- The keys of the types passed. -/
def keysOf (s : Snapshot) (passed : List String) : List (String × String) :=
  passed.map fun name => (s.path, name)

theorem key_mem_keysOf {d : Declaration} {passed : List String} :
    Located.key ⟨s, d⟩ ∈ s.keysOf passed ↔ d.name ∈ passed := by
  simp [keysOf, Located.key]

/-- Following by paths and names goes on by names alone. -/
theorem follow_within (s : Snapshot) (n : Nat) (passed : List String) (d : Declaration) :
    ∃ passed' e why, follow (m := Id) s.locateWithin n (s.keysOf passed) ⟨s, d⟩ = (⟨s, e⟩, why) ∧
      ReflTransGen s.Next (passed, d) (passed', e) ∧
      (why ≠ .exhausted → ∀ there, ¬ s.Next (passed', e) there) := by
  -- on the steps allowed; what is seen are at each step the keys of the names passed
  induction n generalizing passed d with
  | zero => exact ⟨passed, d, .exhausted, rfl, .refl, fun stopped => absurd rfl stopped⟩
  | succ n ih =>
    by_cases old : d.name ∈ passed
    · rw [follow_of_mem (key_mem_keysOf.mpr old)]
      exact ⟨passed, d, .repeated, rfl, .refl, fun _ => not_next_of_mem old⟩
    · have old' : Located.key ⟨s, d⟩ ∉ s.keysOf passed := mt key_mem_keysOf.mp old
      cases onto : d.shape.over? with
      | none =>
        rw [follow_of_over?_none old' onto]
        exact ⟨passed, d, _, rfl, .refl, fun _ => not_next_of_over?_none onto⟩
      | some next =>
        obtain ⟨owner, name⟩ := next
        rw [follow_of_over?_some old' onto]
        cases answer : s.locateWithin owner name with
        | error why =>
          exact ⟨passed, d, .failed why, rfl, .refl, fun _ => not_next_of_locateWithin onto answer⟩
        | ok y =>
          obtain ⟨next, rfl, step⟩ := next_of_locateWithin old onto answer
          obtain ⟨passed', e, why, followed, comes, rests⟩ := ih (d.name :: passed) next
          exact ⟨passed', e, why, followed, .head step comes, rests⟩

/-- Where the chain stays in the module, only the answers to its own names count. -/
theorem follow_of_stays {locate : ModuleName → String → m (Except LoadError Located)}
    (own : ∀ owner name, owner.path = s.path → locate owner name = pure (s.locate name)) (n : Nat)
    {passed : List String} {d : Declaration} (stays : s.Stays (passed, d)) :
    follow locate n (s.keysOf passed) ⟨s, d⟩ =
      pure (follow (m := Id) s.locateWithin n (s.keysOf passed) ⟨s, d⟩) := by
  induction n generalizing passed d with
  | zero => rfl
  | succ n ih =>
    by_cases old : d.name ∈ passed
    · rw [follow_of_mem (key_mem_keysOf.mpr old), follow_of_mem (key_mem_keysOf.mpr old)]
      rfl
    · have old' : Located.key ⟨s, d⟩ ∉ s.keysOf passed := mt key_mem_keysOf.mp old
      cases onto : d.shape.over? with
      | none =>
        rw [follow_of_over?_none old' onto, follow_of_over?_none old' onto]
        rfl
      | some next =>
        obtain ⟨owner, name⟩ := next
        have here : owner.path = s.path := stays passed d owner name .refl old onto
        have within : s.locateWithin owner name = s.locate name := if_pos here
        rw [follow_of_over?_some old' onto, follow_of_over?_some old' onto, own owner name here,
          pure_bind, within]
        cases answer : s.locate name with
        | error why => rfl
        | ok y =>
          obtain ⟨next, rfl, step⟩ := next_of_locateWithin old onto (within.trans answer)
          exact ih fun passed' e owner name comes => stays passed' e owner name (.head step comes)

/-- Following by look-ups that touch no state touches none. -/
theorem follow_pure (found : ModuleName → String → Except LoadError Located) (n : Nat)
    (seen : List (String × String)) (x : Located) :
    follow (fun owner name => (pure (found owner name) : m _)) n seen x =
      pure (follow (m := Id) found n seen x) := by
  induction n generalizing seen x with
  | zero => rfl
  | succ n ih =>
    by_cases old : x.key ∈ seen
    · rw [follow_of_mem old, follow_of_mem old]
      rfl
    · cases onto : x.declared.shape.over? with
      | none =>
        rw [follow_of_over?_none old onto, follow_of_over?_none old onto]
        rfl
      | some next =>
        obtain ⟨owner, name⟩ := next
        rw [follow_of_over?_some old onto, follow_of_over?_some old onto, pure_bind]
        cases answer : found owner name with
        | error why => rfl
        | ok y => exact ih (x.key :: seen) y

theorem within_locateWithin (s : Snapshot) :
    Within (fun owner name => (pure (s.locateWithin owner name) : StateM Unit _))
      (fun _ => True) {key | key ∈ s.module.keys} := by
  intro owner name _ _
  refine ⟨trivial, fun y found => ?_⟩
  change s.locateWithin owner name = .ok y at found
  have own : owner.path = s.path := (found_of_locateWithin found).1
  have within : s.locateWithin owner name = s.locate name := if_pos own
  exact key_mem_of_locate (within.symm.trans found)

/-- Allowed two steps more than there are keys, following comes to where the chain ends. -/
theorem exists_endsAt (s : Snapshot) (d : Declaration) :
    ∃ e why, s.EndsAt d e ∧ why ≠ .exhausted ∧
      ∀ n ≥ {key | key ∈ s.module.keys}.ncard + 2,
        follow (m := Id) s.locateWithin n [] ⟨s, d⟩ = (⟨s, e⟩, why) := by
  obtain ⟨_, r, settles, _, all⟩ :=
    @exists_settles Unit _ _ _ () s.within_locateWithin (List.finite_toSet _) trivial ⟨s, d⟩
  have stopped := settles.stopped
  have same (n : Nat) (enough : n ≥ {key | key ∈ s.module.keys}.ncard + 2) :
      follow (m := Id) s.locateWithin n [] ⟨s, d⟩ = r.1 := by
    rw [← (all n enough).2, follow_pure]
    rfl
  obtain ⟨passed, e, why, followed, comes, rests⟩ :=
    s.follow_within ({key | key ∈ s.module.keys}.ncard + 2) [] d
  replace followed : r.1 = (⟨s, e⟩, why) := (same _ (Nat.le_refl _)).symm.trans followed
  rw [followed] at stopped
  exact ⟨e, why, ⟨passed, comes, rests stopped⟩, stopped, fun n enough =>
    (same n enough).trans followed⟩

theorem ncard_keys_le (s : Snapshot) :
    {key | key ∈ s.module.keys}.ncard ≤ s.module.types.list.length := by
  calc {key | key ∈ s.module.keys}.ncard
      ≤ s.module.keys.length := ncard_le_length fun _ mem => mem
    _ = s.module.types.list.length := List.length_map _

/-- What a type stands for within its module is where the chain inside the module ends. -/
theorem EndsAt.shape_eq {d e : Declaration} (h : s.EndsAt d e) :
    Located.shape ⟨s, d⟩ = e.shape := by
  obtain ⟨e', why, ends, _, all⟩ := s.exists_endsAt d
  obtain rfl := h.unique ends
  have followed := all (s.module.types.list.length + 2) (Nat.add_le_add_right s.ncard_keys_le 2)
  exact congrArg (fun r : Located × Stop => r.1.declared.shape) followed

/-- In a module whose types are defined over no other module's, every chain stays. -/
theorem stays_of_own {d : Declaration} (mem : d ∈ s.module.types.list)
    (own : ∀ d ∈ s.module.types.list, d.shape.over?.all (·.1.path = s.path) = true) :
    s.Stays ([], d) := by
  intro passed e owner name comes _ onto
  have listed : e ∈ s.module.types.list := by
    rcases comes.cases_tail with same | ⟨_, _, ⟨_, _, _, found⟩⟩
    · cases same
      exact mem
    · obtain ⟨i, _, there⟩ := Option.bind_eq_some_iff.mp found
      exact List.mem_of_getElem? there
  simpa [onto] using own e listed

end Snapshot

/-! ## A wheel -/

namespace Wheel

/-- A type of the wheel over another. -/
def spoke (name next : String) : Declaration :=
  ⟨name, .defined (.named (some ⟨"wheel", "wheel"⟩) next)⟩

/-- From the entry the chain comes to the left, behind which left and right are a cycle. The
left is declared twice, and nowhere is not declared. -/
def target : Snapshot :=
  .project "wheel" .target
    { path := "wheel", name := "wheel"
      types := .ofList [spoke "Entry" "Left", ⟨"Left", .record []⟩, spoke "Left" "Right",
        spoke "Right" "Left", spoke "Lost" "Nowhere"] }
    [] []

end Wheel

/-! ## Following from a session -/

namespace Session

variable {target : Snapshot} {d : Declaration}

/-- Resolving a chain that stays in the target changes nothing in the cache. -/
theorem resolve_of_stays (stays : target.Stays ([], d)) (lib : Library) (c : Cache) :
    Session.resolve ⟨lib, target⟩ ⟨target, d⟩ c =
      (follow (m := Id) target.locateWithin lib.reach [] ⟨target, d⟩, c) := by
  have own (owner : ModuleName) (name : String) (here : owner.path = target.path) :
      (Session.locate ⟨lib, target⟩ owner name).run = pure (target.locate name) := by
    unfold locate
    rw [if_pos here]
    rfl
  have followed := Snapshot.follow_of_stays own lib.reach stays
  exact congrFun followed c

/-- A chain that stays in the target is resolved without a call of the loader, to the type that
the chain inside the module ends at; and so to the shape which the type has there. -/
theorem resolve_within (stays : target.Stays ([], d)) :
    ∃ e why, (∀ e', target.EndsAt d e' ↔ e' = e) ∧ why ≠ .exhausted ∧
      Located.shape ⟨target, d⟩ = e.shape ∧
      ∀ lib : Library,
        (∀ c, (Session.resolve ⟨lib, target⟩ ⟨target, d⟩ c).2 = c) ∧
        ({key | key ∈ target.module.keys}.ncard + 2 ≤ lib.reach →
          ∀ c, Session.resolve ⟨lib, target⟩ ⟨target, d⟩ c = ((⟨target, e⟩, why), c)) ∧
        ∀ modules, lib.Ample modules → ∀ c' location facets loaded, lib.Reached c' →
          (lib.load location facets c').1 = .ok loaded → target = loaded.snapshot →
          ∀ c, Session.resolve ⟨lib, target⟩ ⟨target, d⟩ c = ((⟨target, e⟩, why), c) := by
  -- the cache is left alone for any number of steps, the end is only come to by enough of them
  obtain ⟨e, why, ends, stopped, all⟩ := target.exists_endsAt d
  have enough (lib : Library) (reach : {key | key ∈ target.module.keys}.ncard + 2 ≤ lib.reach)
      (c : Cache) : Session.resolve ⟨lib, target⟩ ⟨target, d⟩ c = ((⟨target, e⟩, why), c) := by
    rw [resolve_of_stays stays, all lib.reach reach]
  refine ⟨e, why, fun e' => ⟨fun ends' => ends'.unique ends, fun same => same ▸ ends⟩, stopped,
    ends.shape_eq, fun lib => ⟨fun c => ?_, enough lib, ?_⟩⟩
  · rw [resolve_of_stays stays]
  · intro modules ample c' location facets loaded reached load same
    have known : {key | key ∈ target.module.keys} ⊆ declaredKeys modules := by
      rw [same]
      exact Library.keys_of_load ample.consistent reached load
    have few := Set.ncard_le_ncard known ample.finite
    exact enough lib (Nat.le_trans (Nat.add_le_add_right few 2) ample.enough)

/-- From the entry of the wheel, from a type of the cycle, from an earlier type of the same name
and from one that is lost. -/
theorem resolve_within_wheel :
    (∀ d ∈ Wheel.target.module.types.list, Wheel.target.Stays ([], d)) ∧
    ∀ row ∈ [(Wheel.spoke "Entry" "Left", Wheel.spoke "Left" "Right", Stop.repeated),
        (Wheel.spoke "Right" "Left", Wheel.spoke "Right" "Left", Stop.repeated),
        (⟨"Left", .record []⟩, ⟨"Left", .record []⟩, Stop.shape),
        (Wheel.spoke "Lost" "Nowhere", Wheel.spoke "Lost" "Nowhere",
          Stop.failed (.typeNotFound "wheel" "Nowhere"))],
      Located.shape ⟨Wheel.target, row.1⟩ = row.2.1.shape ∧
      ∀ c, Session.resolve ⟨Shop.library, Wheel.target⟩ ⟨Wheel.target, row.1⟩ c =
        ((⟨Wheel.target, row.2.1⟩, row.2.2), c) := by
  have stays (d : Declaration) (mem : d ∈ Wheel.target.module.types.list) :
      Wheel.target.Stays ([], d) := Snapshot.stays_of_own mem (by decide +kernel)
  have enough : {key | key ∈ Wheel.target.module.keys}.ncard + 2 ≤ Shop.library.reach :=
    Nat.le_trans (Nat.add_le_add_right Wheel.target.ncard_keys_le 2) (by decide +kernel)
  refine ⟨stays, fun row mem => ?_⟩
  have from_row : row.1 ∈ Wheel.target.module.types.list ∧
      (Session.resolve ⟨Shop.library, Wheel.target⟩ ⟨Wheel.target, row.1⟩ {}).1 =
        (⟨Wheel.target, row.2.1⟩, row.2.2) := by
    simp only [List.mem_cons, List.not_mem_nil, or_false] at mem
    rcases mem with rfl | rfl | rfl | rfl <;> exact ⟨by decide +kernel, rfl⟩
  obtain ⟨e, why, _, _, shape, all⟩ := resolve_within (stays row.1 from_row.1)
  have resolved := (all Shop.library).2.1 enough
  have same := from_row.2
  rw [resolved {}] at same
  cases same
  exact ⟨shape, resolved⟩

end Session

end Stencil
