import Mathlib.Data.Set.Card
import Stencil.Proofs.Chain.Answers

/-
  How far chains are followed. Every look-up of a chain but the first starts at a type that a
  look-up gave, and no two start at types of one key; so if look-ups give types of finitely many
  keys only, following comes to an end of its own.

  Proved: `coursed`, all that following can come to; and `settles_of_within`, that it halts for a
  reason after at most one look-up more than there are keys.
-/

namespace Stencil

/-! ## Courses -/

section

variable {σ : Type} {locate : ModuleName → String → StateM σ (Except LoadError Located)}
  {start state here after : σ} {first x y z : Located} {passed : List Located} {why : Stop}
  {n k m : Nat} {seen : List (String × String)}

/-- Looking up, with a count of the look-ups made. -/
def counting (locate : ModuleName → String → StateM σ (Except LoadError Located))
    (owner : ModuleName) (name : String) : StateM (Nat × σ) (Except LoadError Located) :=
  fun counted =>
    let (answer, state) := locate owner name counted.2
    (answer, counted.1 + 1, state)

/-- How many look-ups following makes. -/
def lookups (locate : ModuleName → String → StateM σ (Except LoadError Located)) (n : Nat)
    (x : Located) (state : σ) : Nat :=
  (follow (counting locate) n [] x (0, state)).2.1

/-- The chain of a type comes to another in some state, after the types passed before it. -/
inductive Passes (locate : ModuleName → String → StateM σ (Except LoadError Located))
    (start : σ) (first : Located) : List Located → σ → Located → Prop
  | start : Passes locate start first [] start first
  | next {passed : List Located} {state after : σ} {x y : Located} {owner : ModuleName}
      {name : String} (before : Passes locate start first passed state x)
      (onto : x.declared.shape = .defined (.named (some owner) name))
      (found : locate owner name state = (.ok y, after)) :
      Passes locate start first (passed ++ [x]) after y

/-- Why a chain is not followed beyond a type, with the number of look-ups made there and the
state they leave. -/
inductive Halts (locate : ModuleName → String → StateM σ (Except LoadError Located))
    (passed : List Located) (here : σ) (z : Located) : Stop → Nat → σ → Prop
  | shape (fresh : z.key ∉ passed.map Located.key)
      (model : ∀ base, z.declared.shape ≠ .defined base) : Halts locate passed here z .shape 0 here
  | notNamed {base : TypeExpr} (fresh : z.key ∉ passed.map Located.key)
      (onto : z.declared.shape = .defined base)
      (other : ∀ owner name, base ≠ .named (some owner) name) :
      Halts locate passed here z .notNamed 0 here
  | failed {owner : ModuleName} {name : String} {e : LoadError} {after : σ}
      (fresh : z.key ∉ passed.map Located.key)
      (onto : z.declared.shape = .defined (.named (some owner) name))
      (missing : locate owner name here = (.error e, after)) :
      Halts locate passed here z (.failed e) 1 after
  | repeated (old : z.key ∈ passed.map Located.key) : Halts locate passed here z .repeated 0 here

/-- What following for at most `n` steps comes to: it halts, or it has passed `n` types. -/
inductive Course (locate : ModuleName → String → StateM σ (Except LoadError Located))
    (start : σ) (first : Located) (n : Nat) : (Located × Stop) × (Nat × σ) → Prop
  | halted {passed : List Located} {here after : σ} {z : Located} {why : Stop} {m : Nat}
      (passes : Passes locate start first passed here z)
      (apart : (passed.map Located.key).Nodup) (halts : Halts locate passed here z why m after) :
      Course locate start first n ((z, why), (passed.length + m, after))
  | exhausted {passed : List Located} {here : σ} {z : Located}
      (passes : Passes locate start first passed here z)
      (apart : (passed.map Located.key).Nodup) (all : passed.length = n) :
      Course locate start first n ((z, .exhausted), (n, here))

theorem halts_of_over?_none (fresh : z.key ∉ passed.map Located.key)
    (onto : z.declared.shape.over? = none) (here : σ) :
    Halts locate passed here z z.declared.shape.stop 0 here := by
  cases shape : z.declared.shape with
  | record fields => exact .shape fresh (by simp [shape])
  | capabilities methods => exact .shape fresh (by simp [shape])
  | defined base =>
    refine .notNamed fresh shape fun owner name same => ?_
    rw [shape, same] at onto
    cases onto

/-- Following, where some types are passed and their keys are the ones seen. -/
theorem course_from (passes : Passes locate start first passed state x)
    (apart : (passed.map Located.key).Nodup)
    (before : ∀ key, key ∈ seen ↔ key ∈ passed.map Located.key) (n : Nat) :
    Course locate start first (passed.length + n)
      (follow (counting locate) n seen x (passed.length, state)) := by
  induction n generalizing passed seen state x with
  | zero => exact .exhausted passes apart rfl
  | succ n ih =>
    by_cases old : x.key ∈ seen
    · rw [follow_of_mem old]
      exact .halted passes apart (.repeated ((before _).mp old))
    · have fresh : x.key ∉ passed.map Located.key := mt (before _).mpr old
      cases onto : x.declared.shape.over? with
      | none =>
        rw [follow_of_over?_none old onto]
        exact .halted passes apart (halts_of_over?_none fresh onto state)
      | some next =>
        obtain ⟨owner, name⟩ := next
        have shape := Shape.eq_of_over?_some onto
        rw [follow_of_over?_some old onto, stateM_bind_apply]
        rcases looked : locate owner name state with ⟨answer, after⟩
        have counted : counting locate owner name (passed.length, state) =
            (answer, passed.length + 1, after) := by
          simp only [counting, looked]
        rw [counted]
        cases answer with
        | error why => exact .halted passes apart (.failed fresh shape looked)
        | ok next =>
          have before' (key : String × String) :
              key ∈ x.key :: seen ↔ key ∈ (passed ++ [x]).map Located.key := by
            simp [before, or_comm]
          have later := ih (passes.next shape looked)
            (by simpa [List.nodup_append] using ⟨apart, by simpa using fresh⟩) before'
          rw [List.length_append, List.length_singleton] at later
          rwa [Nat.add_assoc, Nat.add_comm 1 n] at later

/-- Counting changes nothing else. -/
theorem follow_counting (locate : ModuleName → String → StateM σ (Except LoadError Located))
    (n : Nat) (seen : List (String × String)) (x : Located) (k : Nat) (state : σ) :
    ((follow (counting locate) n seen x (k, state)).1,
      (follow (counting locate) n seen x (k, state)).2.2) = follow locate n seen x state := by
  induction n generalizing seen x k state with
  | zero => rfl
  | succ n ih =>
    by_cases old : x.key ∈ seen
    · rw [follow_of_mem old, follow_of_mem old]
      rfl
    · cases onto : x.declared.shape.over? with
      | none =>
        rw [follow_of_over?_none old onto, follow_of_over?_none old onto]
        rfl
      | some next =>
        obtain ⟨owner, name⟩ := next
        rw [follow_of_over?_some old onto, follow_of_over?_some old onto, stateM_bind_apply,
          stateM_bind_apply]
        rcases looked : locate owner name state with ⟨answer, after⟩
        simp only [counting, looked]
        cases answer with
        | error why => rfl
        | ok next => exact ih (x.key :: seen) next (k + 1) after

/-- All that following a chain from its start can come to. -/
theorem coursed (locate : ModuleName → String → StateM σ (Except LoadError Located)) (n : Nat)
    (x : Located) (state : σ) : Course locate state x n
      ((follow locate n [] x state).1, (lookups locate n x state,
        (follow locate n [] x state).2)) := by
  have course : Course locate state x (0 + n) (follow (counting locate) n [] x (0, state)) :=
    course_from .start (by simp) (by simp) n
  have same := follow_counting locate n [] x 0 state
  rw [Nat.zero_add] at course
  rw [← same]
  exact course

/-! ## Finitely many keys -/

/-- From states of some kind, look-ups lead to such states, and to types of certain keys. -/
def Within (locate : ModuleName → String → StateM σ (Except LoadError Located))
    (P : σ → Prop) (keys : Set (String × String)) : Prop :=
  ∀ owner name state, P state → P (locate owner name state).2 ∧
    ∀ y, (locate owner name state).1 = .ok y → y.key ∈ keys

variable {P : σ → Prop} {keys : Set (String × String)}

theorem Passes.keys_mem (within : Within locate P keys) (kind : P start)
    (h : Passes locate start first passed here z) :
    P here ∧ ∀ key ∈ ((passed ++ [z]).map Located.key).tail, key ∈ keys := by
  induction h with
  | start => exact ⟨kind, by simp⟩
  | @next passed state after x y owner name _ _ found ih =>
    obtain ⟨kept, given⟩ := within owner name state ih.1
    rw [found] at kept given
    refine ⟨kept, fun key mem => ?_⟩
    rw [List.map_append, List.tail_append_of_ne_nil (by simp)] at mem
    rcases List.mem_append.mp mem with mem | mem
    · exact ih.2 key mem
    · obtain rfl : key = y.key := by simpa using mem
      exact given y rfl

/-- Keys that differ, all but the first from a finite set, are at most one more. -/
theorem length_le_of_tail {ks : List (String × String)} (finite : keys.Finite) (apart : ks.Nodup)
    (mem : ∀ key ∈ ks.tail, key ∈ keys) : ks.length ≤ keys.ncard + 1 := by
  have card : ks.tail.toFinset.card = ks.tail.length :=
    List.toFinset_card_of_nodup apart.tail
  have inside : (ks.tail.toFinset : Set (String × String)) ⊆ keys := by
    intro key among
    exact mem key (by simpa using among)
  have few : ks.tail.toFinset.card ≤ keys.ncard := by
    rw [← Set.ncard_coe_finset]
    exact Set.ncard_le_ncard inside finite
  rw [card, List.length_tail] at few
  omega

theorem Passes.length_le (within : Within locate P keys) (finite : keys.Finite)
    (kind : P start) (h : Passes locate start first passed here z)
    (apart : (passed.map Located.key).Nodup) : passed.length ≤ keys.ncard + 1 := by
  have mem := (h.keys_mem within kind).2
  have few := length_le_of_tail finite apart fun key among => mem key ?_
  · rwa [List.length_map] at few
  · rw [List.map_append]
    cases passed with
    | nil => cases among
    | cons y passed => exact List.mem_append_left _ among

/-- A type that is not one of those passed counts too. -/
theorem Passes.length_lt (within : Within locate P keys) (finite : keys.Finite)
    (kind : P start) (h : Passes locate start first passed here z)
    (apart : (passed.map Located.key).Nodup) (fresh : z.key ∉ passed.map Located.key) :
    passed.length + 1 ≤ keys.ncard + 1 := by
  have all : ((passed ++ [z]).map Located.key).Nodup := by
    rw [List.map_append, List.map_singleton, ← List.concat_eq_append]
    exact apart.concat fresh
  simpa using length_le_of_tail finite all (h.keys_mem within kind).2

theorem Halts.lookups_le (within : Within locate P keys) (finite : keys.Finite)
    (kind : P start) (passes : Passes locate start first passed here z)
    (apart : (passed.map Located.key).Nodup) (h : Halts locate passed here z why m after) :
    passed.length + m ≤ keys.ncard + 1 := by
  have passed_le := passes.length_le within finite kind apart
  cases h with
  | shape _ _ => exact passed_le
  | notNamed _ _ _ => exact passed_le
  | failed fresh _ _ => exact passes.length_lt within finite kind apart fresh
  | repeated _ => exact passed_le

/-- The end of a chain, by how it is come to and why it is not followed on, with the number of
all look-ups. -/
inductive Settles (locate : ModuleName → String → StateM σ (Except LoadError Located))
    (start : σ) (first : Located) : Nat → (Located × Stop) × σ → Prop
  | settled {passed : List Located} {here after : σ} {z : Located} {why : Stop} {m : Nat}
      (passes : Passes locate start first passed here z)
      (halts : Halts locate passed here z why m after) :
      Settles locate start first (passed.length + m) ((z, why), after)

theorem Settles.stopped {count : Nat} {r : (Located × Stop) × σ}
    (h : Settles locate start first count r) : r.1.2 ≠ .exhausted := by
  obtain ⟨_, halts⟩ := h
  cases halts <;> exact Stop.noConfusion

/-- Allowed two steps more than there are keys, following halts for a reason. -/
theorem settles_of_within (within : Within locate P keys) (finite : keys.Finite) (kind : P state)
    (x : Located) (enough : keys.ncard + 2 ≤ n) :
    Settles locate state x (lookups locate n x state) (follow locate n [] x state) ∧
      lookups locate n x state ≤ keys.ncard + 1 := by
  have course := coursed locate n x state
  generalize follow locate n [] x state = r at course ⊢
  generalize lookups locate n x state = count at course ⊢
  obtain ⟨last, final⟩ := r
  cases course with
  | halted passes apart halts =>
    exact ⟨.settled passes halts, halts.lookups_le within finite kind passes apart⟩
  | exhausted passes apart all =>
    have := passes.length_le within finite kind apart
    omega

end

end Stencil
