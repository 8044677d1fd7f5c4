import Stencil.Proofs.Template.Hosts

/-
  Hosts that are watched. A watched host answers as the host itself and takes note of its
  calls; a template prints the same on both (`watched_alike`). What every single call keeps of
  a state and its notes, every template keeps (`on_leaves`).
-/

namespace Stencil.Template

variable {ω σ ε φ ρ α : Type}

/-! ## Taking notes -/

/-- Work with notes of its outcome. -/
def noted (note : Except φ α → List ρ) (work : Work φ σ α) : Work φ (σ × List ρ) α :=
  fun (state, notes) =>
  let (outcome, state) := work state
  (outcome, state, notes ++ note outcome)

/-- The host, with notes of its calls. -/
def Host.watched (host : Host ω σ ε)
    (note : Callee ω → List (Value ω) → Except (Failure ε) (Value ω) → List ρ) :
    Host ω (σ × List ρ) ε where
  functions := host.functions
  answer callee args := noted (note callee args) (host.answer callee args)

theorem noted_apply (note : Except φ α → List ρ) (work : Work φ σ α) (x : σ) (notes : List ρ) :
    noted note work (x, notes) = ((work x).1, (work x).2, notes ++ note (work x).1) := rfl

theorem noted_alike (note : Except φ α → List ρ) (work : Work φ σ α) :
    Alike id (fun x y => x = y.1) (fun _ x y => x = y.1) work (noted note work) := by
  rintro x ⟨_, notes⟩ rfl
  rw [noted_apply]
  rcases work x with ⟨outcome, x'⟩
  cases outcome with
  | ok a => exact .ok rfl rfl
  | error e => exact .error e rfl

theorem watched_alike (host : Host ω σ ε)
    (note : Callee ω → List (Value ω) → Except (Failure ε) (Value ω) → List ρ) :
    HostsAlike id (fun x y => x = y.1) (fun _ x y => x = y.1) host (host.watched note) :=
  .of_same (fun _ _ _ related => related) rfl fun _ _ => noted_alike _ _

/-! ## What single calls keep -/

/-- An outcome that leaves `P`, or `Q` with an error. -/
def Leaves (P : σ → Prop) (Q : φ → σ → Prop) : Except φ α × σ → Prop
  | (.ok _, x) => P x
  | (.error e, x) => Q e x

theorem alike_self {P : σ → Prop} {Q : φ → σ → Prop} {w : Work φ σ α}
    (h : ∀ x, P x → Leaves P Q (w x)) :
    Alike id (fun x y => x = y ∧ P x) (fun e x y => x = y ∧ Q e x) w w := by
  rintro x _ ⟨rfl, kept⟩
  have left := h x kept
  rcases hw : w x with ⟨outcome, x'⟩
  rw [hw] at left
  cases outcome with
  | ok a => exact .ok rfl ⟨rfl, left⟩
  | error e => exact .error e ⟨rfl, left⟩

theorem leaves_of_outcomes {P : σ → Prop} {Q : φ → σ → Prop} {left right : Except φ α × σ}
    (h : Outcomes id (fun x y => x = y ∧ P x) (fun e x y => x = y ∧ Q e x) left right) :
    Leaves P Q left := by
  cases h with
  | ok _ related => exact related.2
  | error e left => exact left.2

/-- What every call keeps, a template keeps. -/
theorem on_leaves {P : σ → Prop} {Q : Failure ε → σ → Prop} {host : Host ω σ ε}
    (complaint : ∀ kind x, P x → Q { kind } x)
    (answer : ∀ callee args x, P x → Leaves P Q (host.answer callee args x))
    (run : Run ω α) {x : σ} (kept : P x) :
    Leaves P (fun fault => Q fault.failure) (run.on host x) := by
  have beside : HostsAlike id (fun x y => x = y ∧ P x) (fun e x y => x = y ∧ Q e x) host host :=
    .of_same (fun kind x _ related => ⟨related.1, complaint kind x related.2⟩) rfl
      fun callee args => alike_self (answer callee args)
  exact leaves_of_outcomes (Run.on_alike beside run.alike_self x x ⟨rfl, kept⟩)

end Stencil.Template
