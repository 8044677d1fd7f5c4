import Stencil.Proofs.Template.Things
import Stencil.Template.Engine

/-
  What a template makes of two hosts. Let `g` tell of the things what matters. If one host answers
  each call as the other does, as far as `g` tells, and keeps a relation between the two states,
  and if two runs are alike, which is to say that they differ in nothing that `g` tells, then
  they print the same on the two hosts, or fail alike, and keep the relation too (`Run.on_alike`).

  `R` relates the states as long as nothing has failed, `E` the states in which an error left
  them. With one host twice this says what a template keeps of a state; with two it carries a
  run over from one host to the other.

  A run is alike to itself where `g` tells everything (`Run.alike_self`), whatever the engine.
  Where `g` tells less, that runs on like roots are alike is a property of the engine, which must
  not look into the things outside (`Engine.Respects`).
-/

namespace Stencil.Template

variable {ω ρ σ τ ε φ α β γ δ : Type}

/-! ## Work alike -/

theorem bind_of_ok {w : Work φ σ α} {x x' : σ} {a : α} (h : w x = (.ok a, x'))
    (f : α → Work φ σ β) : (w >>= f) x = f a x' := by
  have : (w >>= f) x = (fun p : Except φ α × σ => ExceptT.bindCont f p.1 p.2) (w x) := rfl
  rw [this, h]
  rfl

theorem bind_of_error {w : Work φ σ α} {x x' : σ} {e : φ} (h : w x = (.error e, x'))
    (f : α → Work φ σ β) : (w >>= f) x = (.error e, x') := by
  have : (w >>= f) x = (fun p : Except φ α × σ => ExceptT.bindCont f p.1 p.2) (w x) := rfl
  rw [this, h]
  rfl

theorem onLine_apply (line : Nat) (w : Work (Failure ε) σ α) (x : σ) :
    onLine line w x = ((w x).1.mapError (Fault.mk · line), (w x).2) := rfl

/-- One answer, as far as `view` tells, in related states, or the same error. -/
inductive Outcomes (view : α → β) (R : σ → τ → Prop) (E : φ → σ → τ → Prop) :
    Except φ α × σ → Except φ α × τ → Prop where
  | ok {a b : α} {x : σ} {y : τ} (same : view a = view b) (related : R x y) :
      Outcomes view R E (.ok a, x) (.ok b, y)
  | error (e : φ) {x : σ} {y : τ} (left : E e x y) : Outcomes view R E (.error e, x) (.error e, y)

/-- Work that has related outcomes from related states. -/
def Alike (view : α → β) (R : σ → τ → Prop) (E : φ → σ → τ → Prop) (w : Work φ σ α)
    (v : Work φ τ α) : Prop :=
  ∀ x y, R x y → Outcomes view R E (w x) (v y)

namespace Alike

variable {R : σ → τ → Prop} {E : φ → σ → τ → Prop} {view : α → β} {view' : γ → δ}

theorem pure {a b : α} (same : view a = view b) : Alike view R E (Pure.pure a) (Pure.pure b) :=
  fun _ _ related => .ok same related

theorem bind {w : Work φ σ α} {v : Work φ τ α} {f : α → Work φ σ γ} {f' : α → Work φ τ γ}
    (h : Alike view R E w v)
    (next : ∀ a b, view a = view b → Alike view' R E (f a) (f' b)) :
    Alike view' R E (w >>= f) (v >>= f') := by
  intro x y related
  have first := h x y related
  rcases hw : w x with ⟨left, x'⟩
  rcases hv : v y with ⟨right, y'⟩
  rw [hw, hv] at first
  cases first with
  | ok same related =>
    rw [bind_of_ok hw, bind_of_ok hv]
    exact next _ _ same _ _ related
  | error e left =>
    rw [bind_of_error hw, bind_of_error hv]
    exact .error e left

/-- Work that is gone on with by one answer. -/
theorem bind_id {w : Work φ σ α} {v : Work φ τ α} {f : α → Work φ σ γ} {f' : α → Work φ τ γ}
    (h : Alike id R E w v) (next : ∀ a, Alike view' R E (f a) (f' a)) :
    Alike view' R E (w >>= f) (v >>= f') := by
  refine h.bind fun a b same => ?_
  cases show a = b from same
  exact next a

/-- One answer is one for every view. -/
theorem viewed {w : Work φ σ α} {v : Work φ τ α} (h : Alike id R E w v) : Alike view R E w v := by
  intro x y related
  have outcomes := h x y related
  rcases hw : w x with ⟨left, x'⟩
  rcases hv : v y with ⟨right, y'⟩
  rw [hw, hv] at outcomes
  cases outcomes with
  | ok same related => exact .ok (congrArg view same) related
  | error e left => exact .error e left

/-- Work done for a line fails as it does by itself. -/
theorem onLine {E : Failure ε → σ → τ → Prop} {w : Work (Failure ε) σ α}
    {v : Work (Failure ε) τ α} (h : Alike view R E w v) (line : Nat) :
    Alike view R (fun fault => E fault.failure) (onLine line w) (onLine line v) := by
  intro x y related
  have first := h x y related
  rw [onLine_apply, onLine_apply]
  rcases hw : w x with ⟨left, x'⟩
  rcases hv : v y with ⟨right, y'⟩
  rw [hw, hv] at first
  cases first with
  | ok same related => exact .ok same related
  | error e left => exact .error (Fault.mk e line) left

end Alike

/-! ## Complaints alike -/

/-- Complaints without a cause leave states that count as left by an error. -/
def Complaint (R : σ → τ → Prop) (E : Failure ε → σ → τ → Prop) : Prop :=
  ∀ kind x y, R x y → E { kind } x y

namespace Complaint

variable {g : ω → ρ} {R : σ → τ → Prop} {E : Failure ε → σ → τ → Prop} {view : α → β}
  {v w : Value ω} {args args' : List (Value ω)}

theorem fail (h : Complaint R E) (kind : ErrorKind) :
    Alike view R E (fail kind : Work (Failure ε) σ α) (Template.fail kind) :=
  fun x y related => .error _ (h kind x y related)

theorem failOn (h : Complaint R E) (line : Nat) (kind : ErrorKind) :
    Alike view R (fun fault => E fault.failure) (failOn line kind : Work (Fault ε) σ α)
      (Template.failOn line kind) :=
  (h.fail kind).onLine line

theorem textOf (h : Complaint R E) (same : v.map g = w.map g) :
    Alike id R E (textOf v : Work (Failure ε) σ String) (Template.textOf w) := by
  unfold Template.textOf
  rw [Value.isDefined_eq same, Value.text_eq same]
  split
  · exact .pure rfl
  · exact h.fail _

theorem noMore (h : Complaint R E) (same : Value.mapItems g args = Value.mapItems g args') :
    Alike id R E (noMore args : Work (Failure ε) σ Unit) (Template.noMore args') := by
  unfold Template.noMore
  rw [Value.isEmpty_eq same]
  split
  · exact .pure rfl
  · exact h.fail _

end Complaint

/-! ## Hosts alike -/

/-- Hosts that have the same functions and answer alike. -/
structure HostsAlike (g : ω → ρ) (R : σ → τ → Prop) (E : Failure ε → σ → τ → Prop)
    (host : Host ω σ ε) (other : Host ω τ ε) : Prop where
  complaint : Complaint R E
  functions : host.functions = other.functions
  answer : ∀ callee callee' args args', callee.map g = callee'.map g →
    Value.mapItems g args = Value.mapItems g args' →
      Alike (Value.map g) R E (host.answer callee args) (other.answer callee' args')

/-- Hosts that answer the same, of whatever things. -/
theorem HostsAlike.of_same {R : σ → τ → Prop} {E : Failure ε → σ → τ → Prop} {host : Host ω σ ε}
    {other : Host ω τ ε} (complaint : Complaint R E)
    (functions : host.functions = other.functions)
    (answer : ∀ callee args, Alike id R E (host.answer callee args) (other.answer callee args)) :
    HostsAlike id R E host other where
  complaint := complaint
  functions := functions
  answer callee callee' args args' callees sames := by
    rw [callee.map_id, callee'.map_id] at callees
    rw [Value.mapItems_id, Value.mapItems_id] at sames
    cases callees
    cases sames
    exact (answer callee args).viewed

/-! ## Runs alike -/

namespace Run

/-- Runs that print and call the same, as far as `g` tells, and go on alike after like answers;
what they come to is the same, as far as `view` tells. -/
inductive Alike (g : ω → ρ) (view : α → β) : Run ω α → Run ω α → Prop
  | done {a b : α} (same : view a = view b) : Alike g view (.done a) (.done b)
  | failed (line : Nat) (kind : ErrorKind) : Alike g view (.failed line kind) (.failed line kind)
  | printed (piece : String) {rest rest' : Run ω α} (alike : Alike g view rest rest') :
      Alike g view (.printed piece rest) (.printed piece rest')
  | called (line : Nat) {callee callee' : Callee ω} {args args' : List (Value ω)}
      {next next' : Value ω → Run ω α} (callees : callee.map g = callee'.map g)
      (sames : Value.mapItems g args = Value.mapItems g args')
      (alike : ∀ v w, v.map g = w.map g → Alike g view (next v) (next' w)) :
      Alike g view (.called line callee args next) (.called line callee' args' next')

theorem alike_self (run : Run ω α) : Alike id id run run := by
  induction run with
  | done a => exact .done rfl
  | failed line kind => exact .failed line kind
  | printed piece rest ih => exact .printed piece ih
  | called line callee args next ih =>
    refine .called line rfl rfl fun v w same => ?_
    rw [v.map_id, w.map_id] at same
    exact same ▸ ih v

namespace Alike

variable {g : ω → ρ} {view : α → β} {view' : γ → δ} {run run' : Run ω α}

theorem bind {f f' : α → Run ω γ} (h : Alike g view run run')
    (next : ∀ a b, view a = view b → Alike g view' (f a) (f' b)) :
    Alike g view' (run >>= f) (run' >>= f') := by
  induction h with
  | done same => exact next _ _ same
  | failed line kind => exact .failed line kind
  | printed piece _ ih => exact .printed piece ih
  | called line callees sames _ ih => exact .called line callees sames ih

/-- Runs that are gone on with by one result. -/
theorem bind_id {f f' : α → Run ω γ} (h : Alike g id run run')
    (next : ∀ a, Alike g view' (f a) (f' a)) : Alike g view' (run >>= f) (run' >>= f') := by
  refine h.bind fun a b same => ?_
  cases show a = b from same
  exact next a

end Alike

/-- Runs that are alike come to the same on hosts that are alike. -/
theorem on_alike {g : ω → ρ} {view : α → β} {R : σ → τ → Prop} {E : Failure ε → σ → τ → Prop}
    {host : Host ω σ ε} {other : Host ω τ ε} (hosts : HostsAlike g R E host other)
    {run run' : Run ω α} (alike : Alike g view run run') :
    Template.Alike id R (fun fault => E fault.failure) (run.on host) (run'.on other) := by
  induction alike with
  | done same => exact .pure rfl
  | failed line kind => exact hosts.complaint.failOn line kind
  | printed piece alike ih => exact .bind_id ih fun pieces => .pure rfl
  | called line callees sames alike ih =>
    exact .bind ((hosts.answer _ _ _ _ callees sames).onLine line) ih

end Run

/-- An engine that learns nothing of the things outside but what `g` tells: what a template does
on roots that are alike is alike. -/
def Engine.Respects (engine : Engine ω) (g : ω → ρ) : Prop :=
  ∀ path text program, engine.read path text = .ok program → ∀ functions (root root' : Value ω),
    root.map g = root'.map g → Run.Alike g id (program functions root) (program functions root')

end Stencil.Template
