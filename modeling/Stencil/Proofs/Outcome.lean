/-
  Computations that may fail: what the parts of one that succeeded gave.
-/

namespace Stencil

variable {ε φ α β : Type} {x : Except ε α}

theorem ok_of_bind {f : α → Except ε β} {b : β} (h : x >>= f = .ok b) :
    ∃ a, x = .ok a ∧ f a = .ok b := by
  cases x with
  | error e => cases h
  | ok a => exact ⟨a, rfl, h⟩

theorem ok_of_map {f : α → β} {b : β} (h : x.map f = .ok b) : ∃ a, x = .ok a ∧ f a = b := by
  cases x with
  | error e => cases h
  | ok a => exact ⟨a, rfl, Except.ok.inj h⟩

theorem ok_of_mapError {g : ε → φ} {a : α} (h : x.mapError g = .ok a) : x = .ok a := by
  cases x with
  | error e => cases h
  | ok a' => exact congrArg Except.ok (Except.ok.inj h)

/-- What each step of a fold keeps is kept by the fold. -/
theorem foldlM_keeps {P : β → Prop} {f : β → α → Except ε β} {as : List α}
    (step : ∀ a ∈ as, ∀ b b', P b → f b a = .ok b' → P b') {b b' : β} (h : P b)
    (ran : as.foldlM f b = .ok b') : P b' := by
  induction as generalizing b with
  | nil =>
    cases ran
    exact h
  | cons a as ih =>
    rw [List.foldlM_cons] at ran
    obtain ⟨next, first, rest⟩ := ok_of_bind ran
    have kept : P next := step a List.mem_cons_self b next h first
    exact ih (fun a' mem => step a' (List.mem_cons_of_mem a mem)) kept rest

/-- What is read from each item has the property that reading gives. -/
theorem mapM_all {P : β → Prop} {f : α → Except ε β} (each : ∀ a b, f a = .ok b → P b)
    {as : List α} {bs : List β} (ran : as.mapM f = .ok bs) : ∀ b ∈ bs, P b := by
  induction as generalizing bs with
  | nil =>
    cases ran
    simp
  | cons a as ih =>
    rw [List.mapM_cons] at ran
    obtain ⟨first, read, ran⟩ := ok_of_bind ran
    obtain ⟨rest, others, ran⟩ := ok_of_bind ran
    cases ran
    intro b mem
    rcases List.mem_cons.mp mem with rfl | mem
    · exact each a b read
    · exact ih others b mem

/-- Where each item gives its value, all do. -/
theorem mapM_map_ok {γ : Type} {f : α → Except ε β} {g : γ → α} {h : γ → β} {cs : List γ}
    (each : ∀ c ∈ cs, f (g c) = .ok (h c)) : (cs.map g).mapM f = .ok (cs.map h) := by
  induction cs with
  | nil => rfl
  | cons c cs ih =>
    rw [List.map_cons, List.mapM_cons, each c List.mem_cons_self,
      ih fun d mem => each d (List.mem_cons_of_mem c mem)]
    rfl

/-- A fold that adds what each item gives has added all of it at the end. -/
theorem foldlM_gather {γ δ : Type} (add : β → List δ → β) (nothing : ∀ b, add b [] = b)
    (both : ∀ b ds ds', add (add b ds) ds' = add b (ds ++ ds')) {f : β → α → Except ε β}
    {g : γ → α} {h : γ → δ} {cs : List γ} (each : ∀ c ∈ cs, ∀ b, f b (g c) = .ok (add b [h c]))
    (b : β) : (cs.map g).foldlM f b = .ok (add b (cs.map h)) := by
  induction cs generalizing b with
  | nil =>
    rw [List.map_nil, List.map_nil, nothing]
    rfl
  | cons c cs ih =>
    rw [List.map_cons, List.foldlM_cons, each c List.mem_cons_self]
    refine (ih (fun d mem => each d (List.mem_cons_of_mem c mem)) (add b [h c])).trans ?_
    rw [both]
    rfl

end Stencil
