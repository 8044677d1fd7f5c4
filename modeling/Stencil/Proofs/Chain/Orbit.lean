import Mathlib.Dynamics.PeriodicPts.Lemmas
import Stencil.Proofs.Chain.Answers

/-
  Where chains lead. Let a type with no next type be its own next; then a chain is the orbit of
  its first type under one function, and all chains that are not endless run into cycles, a stop
  being a cycle of one.

  Proved: following a chain ends where its orbit enters the cycle, as soon as enough steps are
  allowed (`enters_of_follow`, `exists_enough`), if the keys tell the types of the chain apart.
-/

namespace Stencil

open Function (periodicPts IsPeriodicPt IsFixedPt)

/-! ## Orbits -/

section

variable {α : Type} {f : α → α} {x z w : α} {j k n : Nat}

/-- The orbit of `x` comes to `z` before any other point of a cycle. -/
def Enters (f : α → α) (x z : α) : Prop :=
  ∃ t, f^[t] x = z ∧ z ∈ periodicPts f ∧ ∀ s < t, f^[s] x ∉ periodicPts f

theorem iterate_mem_periodicPts (h : x ∈ periodicPts f) (n : Nat) : f^[n] x ∈ periodicPts f :=
  (Function.bijOn_periodicPts f).mapsTo.iterate n h

theorem Enters.unique (h : Enters f x z) (h' : Enters f x w) : z = w := by
  obtain ⟨t, rfl, periodic, first⟩ := h
  obtain ⟨t', rfl, periodic', first'⟩ := h'
  have not_later : ¬ t < t' := fun earlier => first' t earlier periodic
  have not_earlier : ¬ t' < t := fun earlier => first t' earlier periodic'
  rw [show t = t' by omega]

theorem enters_self (h : x ∈ periodicPts f) : Enters f x x :=
  ⟨0, rfl, h, fun _ none => absurd none (Nat.not_lt_zero _)⟩

theorem Enters.eq_self (h : Enters f x z) (periodic : x ∈ periodicPts f) : z = x :=
  h.unique (enters_self periodic)

/-- Outside of cycles a point and the next one lead to the same. -/
theorem enters_next_iff (h : x ∉ periodicPts f) : Enters f (f x) z ↔ Enters f x z := by
  constructor
  · rintro ⟨t, there, periodic, first⟩
    refine ⟨t + 1, there, periodic, fun s early => ?_⟩
    cases s with
    | zero => exact h
    | succ s => exact first s (Nat.lt_of_succ_lt_succ early)
  · rintro ⟨t, there, periodic, first⟩
    cases t with
    | zero =>
      cases there
      exact absurd periodic h
    | succ t => exact ⟨t, there, periodic, fun s early => first (s + 1) (Nat.succ_lt_succ early)⟩

theorem exists_enters (h : f^[n] x ∈ periodicPts f) : ∃ z, Enters f x z := by
  classical
  have some_periodic : ∃ t, f^[t] x ∈ periodicPts f := ⟨n, h⟩
  exact ⟨_, Nat.find some_periodic, rfl, Nat.find_spec some_periodic,
    fun s early => Nat.find_min some_periodic early⟩

theorem mem_periodicPts_of_fixed (h : f x = x) : x ∈ periodicPts f :=
  Function.mk_mem_periodicPts Nat.one_pos h

/-- A cycle with a point that is its own next has no other point. -/
theorem eq_of_iterate_fixed (h : x ∈ periodicPts f) (fixed : f z = z) (there : f^[n] x = z) :
    x = z := by
  obtain ⟨p, positive, back⟩ := Function.mem_periodicPts.mp h
  have around : f^[p * n] x = x := back.mul_const n
  obtain ⟨q, rfl⟩ := Nat.exists_eq_succ_of_ne_zero (Nat.pos_iff_ne_zero.mp positive)
  have steps : (q + 1) * n = q * n + n := Nat.succ_mul q n
  have stays : f^[q * n] z = z := Function.IsFixedPt.iterate fixed (q * n)
  rw [steps, Function.iterate_add_apply, there, stays] at around
  exact around.symm

/-- An orbit that reaches a point that is its own next enters there. -/
theorem enters_of_fixed (fixed : f z = z) (there : f^[n] x = z) : Enters f x z := by
  have periodic : f^[n] x ∈ periodicPts f := there ▸ mem_periodicPts_of_fixed fixed
  obtain ⟨w, entry⟩ := exists_enters periodic
  obtain ⟨t, here, on_cycle, first⟩ := entry
  have late : t ≤ n := Nat.le_of_not_lt fun early => first n early periodic
  have beyond : f^[n - t] w = z := by
    rw [← here, ← Function.iterate_add_apply, Nat.sub_add_cancel late, there]
  have same : w = z := eq_of_iterate_fixed on_cycle fixed beyond
  exact same ▸ ⟨t, here, on_cycle, first⟩

/-- The first point that comes again is where the orbit enters. -/
theorem enters_of_repeat (distinct : (Set.Iio k).InjOn fun i => f^[i] x) (early : j < k)
    (again : f^[k] x = f^[j] x) : Enters f x (f^[k] x) := by
  have back : IsPeriodicPt f (k - j) (f^[j] x) := by
    unfold IsPeriodicPt IsFixedPt
    rw [← Function.iterate_add_apply, Nat.sub_add_cancel early.le, again]
  refine ⟨j, again.symm, again ▸ Function.mk_mem_periodicPts (Nat.sub_pos_of_lt early) back, ?_⟩
  intro s before periodic
  -- from a periodic point on, a step back is unique, so the point before would come again too
  have on_cycle (i : Nat) (h : s ≤ i) : f^[i] x ∈ periodicPts f := by
    rw [← Nat.sub_add_cancel h, Function.iterate_add_apply]
    exact iterate_mem_periodicPts periodic (i - s)
  have step (i : Nat) (h : 0 < i) : f (f^[i - 1] x) = f^[i] x := by
    rw [← Function.iterate_succ_apply' f, Nat.succ_eq_add_one, Nat.sub_add_cancel h]
  have same : f^[k - 1] x = f^[j - 1] x := by
    refine (Function.bijOn_periodicPts f).injOn (on_cycle _ (by omega)) (on_cycle _ (by omega)) ?_
    rw [step k (by omega), step j (by omega), again]
  have := distinct (Set.mem_Iio.mpr (by omega)) (Set.mem_Iio.mpr (by omega)) same
  omega

theorem injOn_succ (distinct : (Set.Iio k).InjOn fun i => f^[i] x)
    (fresh : ∀ i < k, f^[i] x ≠ f^[k] x) : (Set.Iio (k + 1)).InjOn fun i => f^[i] x := by
  intro i below j below' same
  rcases Nat.lt_or_eq_of_le (Nat.le_of_lt_succ below) with early | rfl
  · rcases Nat.lt_or_eq_of_le (Nat.le_of_lt_succ below') with early' | rfl
    · exact distinct early early' same
    · exact absurd same (fresh i early)
  · rcases Nat.lt_or_eq_of_le (Nat.le_of_lt_succ below') with early' | rfl
    · exact absurd same.symm (fresh j early')
    · rfl

/-- Points that all differ are no more than the orbit has. -/
theorem exists_not_injOn (h : f^[n] x ∈ periodicPts f) :
    ∃ enough, ∀ m ≥ enough, ¬ (Set.Iio m).InjOn fun i => f^[i] x := by
  obtain ⟨p, positive, back⟩ := Function.mem_periodicPts.mp h
  refine ⟨p + n + 1, fun m large distinct => ?_⟩
  have again : f^[p + n] x = f^[n] x := by
    rw [Function.iterate_add_apply]
    exact back
  have := distinct (Set.mem_Iio.mpr (by omega)) (Set.mem_Iio.mpr (by omega)) again
  omega

end

/-! ## Chains as orbits -/

/-- The next type of a chain, or the type itself if there is none. -/
def advance (locate : ModuleName → String → Except LoadError Located) (x : Located) : Located :=
  match x.declared.shape.over? with
  | some (owner, name) => ((locate owner name).toOption).getD x
  | none => x

/-- No two types of a chain have one key. -/
def Apart (locate : ModuleName → String → Except LoadError Located) (x : Located) : Prop :=
  ∀ i j, ((advance locate)^[i] x).key = ((advance locate)^[j] x).key →
    (advance locate)^[i] x = (advance locate)^[j] x

section

variable {locate : ModuleName → String → Except LoadError Located} {x : Located} {n : Nat}

theorem advance_of_none (h : x.declared.shape.over? = none) : advance locate x = x := by
  unfold advance
  rw [h]

theorem advance_of_ok {owner : ModuleName} {name : String} {next : Located}
    (h : x.declared.shape.over? = some (owner, name)) (found : locate owner name = .ok next) :
    advance locate x = next := by
  unfold advance
  rw [h]
  dsimp only
  rw [found]
  rfl

theorem advance_of_error {owner : ModuleName} {name : String} {e : LoadError}
    (h : x.declared.shape.over? = some (owner, name)) (failed : locate owner name = .error e) :
    advance locate x = x := by
  unfold advance
  rw [h]
  dsimp only
  rw [failed]
  rfl

theorem Shape.stop_ne_exhausted (s : Shape) : s.stop ≠ .exhausted := by
  cases s <;> simp [stop]

/-- What following comes to: it has met only types that differ and the steps are used up, or
it has come to where the orbit enters its cycle. -/
inductive Followed (f : Located → Located) (x : Located) (n : Nat) : Located × Stop → Prop
  | exhausted (distinct : (Set.Iio n).InjOn fun i => f^[i] x) :
      Followed f x n (f^[n] x, .exhausted)
  | ended {z : Located} {why : Stop} (entry : Enters f x z) (stopped : why ≠ .exhausted) :
      Followed f x n (z, why)

/-- Following, from the `k`th type of a chain on, when those before it are the ones seen. -/
theorem follow_from (apart : Apart locate x) (n : Nat) {k : Nat}
    {seen : List (String × String)}
    (distinct : (Set.Iio k).InjOn fun i => (advance locate)^[i] x)
    (before : ∀ key, key ∈ seen ↔ ∃ i < k, ((advance locate)^[i] x).key = key) :
    Followed (advance locate) x (k + n)
      (follow (m := Id) locate n seen ((advance locate)^[k] x)) := by
  induction n generalizing k seen with
  | zero => exact .exhausted distinct
  | succ n ih =>
    by_cases old : ((advance locate)^[k] x).key ∈ seen
    · obtain ⟨i, early, same⟩ := (before _).mp old
      rw [follow_of_mem old]
      exact .ended (enters_of_repeat distinct early (apart k i same.symm)) (by simp)
    · have fresh (i : Nat) (early : i < k) :
          (advance locate)^[i] x ≠ (advance locate)^[k] x := by
        intro same
        exact old ((before _).mpr ⟨i, early, congrArg Located.key same⟩)
      have stays (h : advance locate ((advance locate)^[k] x) = (advance locate)^[k] x) :
          Enters (advance locate) x ((advance locate)^[k] x) := enters_of_fixed h rfl
      cases onto : ((advance locate)^[k] x).declared.shape.over? with
      | none =>
        rw [follow_of_over?_none old onto]
        exact .ended (stays (advance_of_none onto)) (Shape.stop_ne_exhausted _)
      | some next =>
        obtain ⟨owner, name⟩ := next
        rw [follow_of_over?_some old onto]
        cases answer : locate owner name with
        | error why => exact .ended (stays (advance_of_error onto answer)) (by simp)
        | ok next =>
          have here : next = (advance locate)^[k + 1] x := by
            rw [Function.iterate_succ_apply', advance_of_ok onto answer]
          have rest : Followed (advance locate) x (k + 1 + n) (follow (m := Id) locate n
              (((advance locate)^[k] x).key :: seen) ((advance locate)^[k + 1] x)) := by
            refine ih (injOn_succ distinct fresh) fun key => ?_
            rw [List.mem_cons, before, Nat.exists_lt_succ_right, or_comm, eq_comm (a := key)]
          rw [← here, Nat.add_right_comm] at rest
          exact rest

/-- Following a chain from its start. -/
theorem followed (apart : Apart locate x) (n : Nat) :
    Followed (advance locate) x n (follow (m := Id) locate n [] x) := by
  have whole : Followed (advance locate) x (0 + n) (follow (m := Id) locate n [] x) :=
    follow_from apart n (k := 0) (by simp) (by simp)
  rwa [Nat.zero_add] at whole

/-- A chain that stops for a reason stops where its orbit enters its cycle. -/
theorem enters_of_follow (apart : Apart locate x)
    (stopped : (follow (m := Id) locate n [] x).2 ≠ .exhausted) :
    Enters (advance locate) x (follow (m := Id) locate n [] x).1 := by
  have outcome := followed apart n
  generalize follow (m := Id) locate n [] x = r at outcome stopped ⊢
  cases outcome with
  | exhausted _ => exact absurd rfl stopped
  | ended entry _ => exact entry

/-- A chain whose orbit enters a cycle stops for a reason, once enough steps are allowed. -/
theorem exists_enough (apart : Apart locate x) {z : Located}
    (entry : Enters (advance locate) x z) :
    ∃ enough, ∀ n ≥ enough, (follow (m := Id) locate n [] x).2 ≠ .exhausted := by
  obtain ⟨t, there, periodic, _⟩ := entry
  obtain ⟨enough, repeats⟩ := exists_not_injOn (there ▸ periodic : (advance locate)^[t] x ∈ _)
  refine ⟨enough, fun n large => ?_⟩
  have outcome := followed apart n
  generalize follow (m := Id) locate n [] x = r at outcome ⊢
  cases outcome with
  | exhausted distinct => exact absurd distinct (repeats n large)
  | ended _ stopped => exact stopped

end

end Stencil
