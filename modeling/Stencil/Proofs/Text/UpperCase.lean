import Stencil.Text.Case

/-
  Upper case as a whole. The tables hold runs of code points, so what is true of every character is
  checked run by run: where the ends and the parities of two runs keep them apart, no code point is
  in both.

  Proved: `upperChar_of_mem`. Upper case comes to rest: its characters are their own upper case.
-/

namespace Stencil.Text

/-! ## Runs -/

namespace CaseRun

variable {r q : CaseRun} {runs : List CaseRun} {n m : Nat}

/-- The code points of a run. -/
def Holds (r : CaseRun) (n : Nat) : Prop :=
  r.first ≤ n ∧ n ≤ r.last ∧ (n - r.first) % r.step = 0

/-- The run of the code points that a run maps to. -/
def image (r : CaseRun) : CaseRun :=
  ⟨(r.first + r.offset).toNat, (r.last + r.offset).toNat, r.step, 0⟩

theorem holds_image (h : r.Holds n) (start : 0 ≤ r.first + r.offset) :
    r.image.Holds (n + r.offset).toNat := by
  obtain ⟨low, high, step⟩ := h
  refine ⟨?_, ?_, ?_⟩
  · simp only [image]
    omega
  · simp only [image]
    omega
  · have same : (n + r.offset).toNat - (r.first + r.offset).toNat = n - r.first := by omega
    simpa only [image, same] using step

/-- A run seen to have only even code points or only odd ones. -/
def oneParity (r : CaseRun) : Bool := r.first.beq r.last || (r.step % 2).beq 0

theorem Holds.parity (h : r.Holds n) (one : r.oneParity = true) : n % 2 = r.first % 2 := by
  obtain ⟨low, high, step⟩ := h
  simp only [oneParity, Bool.or_eq_true, Nat.beq_eq] at one
  rcases one with single | even
  · omega
  · have : 2 ∣ n - r.first :=
      Nat.dvd_trans (Nat.dvd_of_mod_eq_zero even) (Nat.dvd_of_mod_eq_zero step)
    omega

/-- A run seen to have no code point in common with ascending runs: each of them ends before it, or
has even code points where it has odd ones. The search stops at the first run behind it. -/
def clearOf (r : CaseRun) : List CaseRun → Bool
  | [] => true
  | q :: rest =>
    r.last.blt q.first ||
      ((q.last.blt r.first ||
          (r.oneParity && q.oneParity && ((r.first + q.first) % 2).beq 1)) &&
        r.clearOf rest)

theorem Holds.mapRuns_eq_none (h : r.Holds n) (clear : r.clearOf runs = true) :
    mapRuns runs n = none := by
  induction runs with
  | nil => rfl
  | cons q rest ih =>
    simp only [clearOf, Bool.or_eq_true, Bool.and_eq_true, Nat.blt_eq, Nat.beq_eq] at clear
    rw [mapRuns]
    rcases clear with behind | ⟨apart, clear⟩
    · exact if_pos (Nat.lt_of_le_of_lt h.2.1 behind)
    · split
      · rfl
      · rename_i reached
        have outside : ¬ (n ≤ q.last ∧ (n - q.first) % q.step = 0) := by
          intro within
          rcases apart with before | ⟨⟨one, one'⟩, differ⟩
          · exact absurd (Nat.lt_of_le_of_lt within.1 before) (Nat.not_lt.mpr h.1)
          · have := h.parity one
            have := Holds.parity ⟨Nat.not_lt.mp reached, within⟩ one'
            omega
        rw [if_neg outside]
        exact ih clear

theorem holds_of_mapRuns (h : mapRuns runs n = some m) :
    ∃ r ∈ runs, r.Holds n ∧ m = (n + r.offset).toNat := by
  induction runs with
  | nil => cases h
  | cons q rest ih =>
    rw [mapRuns] at h
    split at h
    · cases h
    · rename_i reached
      split at h
      · rename_i within
        cases h
        exact ⟨q, List.mem_cons_self, ⟨Nat.not_lt.mp reached, within⟩, rfl⟩
      · obtain ⟨r, mem, found⟩ := ih h
        exact ⟨r, List.mem_cons_of_mem q mem, found⟩

end CaseRun

/-! ## The tables of upper case -/

variable {r : CaseRun} {c d : Char} {n : Nat}

/-- A run seen to have no code point that a run of upper case holds or that has an expansion. -/
def CaseRun.settled (r : CaseRun) : Bool :=
  r.clearOf upperRuns && upperExpansions.all fun e => e.1.blt r.first || r.last.blt e.1

def CaseRun.single (n : Nat) : CaseRun := ⟨n, n, 1, 0⟩

theorem CaseRun.holds_single (n : Nat) : (single n).Holds n :=
  ⟨Nat.le_refl n, Nat.le_refl n, Nat.mod_one _⟩

theorem settled_upperRuns : upperRuns.all (fun r =>
    0 ≤ r.first + r.offset && r.image.settled) = true := by
  decide +kernel

theorem settled_upperExpansions : upperExpansions.all (fun e =>
    e.2 ≠ [] && e.2.all fun n => (CaseRun.single n).settled) = true := by
  decide +kernel

theorem upperChar_ofNat (expansion : upperExpansions.lookup n = none)
    (run : mapRuns upperRuns n = none) : upperChar (Char.ofNat n) = [Char.ofNat n] := by
  by_cases valid : n.isValidChar
  · have code : (Char.ofNat n).toNat = n := by
      rw [Char.ofNat, dif_pos valid]
      rfl
    rw [upperChar, code, expansion, run]
  · have null : Char.ofNat n = Char.ofNat 0 := by
      rw [Char.ofNat, dif_neg valid]
      rfl
    rw [null]
    decide +kernel

theorem upperChar_of_settled (h : r.settled = true) (holds : r.Holds n) :
    upperChar (Char.ofNat n) = [Char.ofNat n] := by
  obtain ⟨clear, keys⟩ := Bool.and_eq_true_iff.mp h
  refine upperChar_ofNat (List.lookup_eq_none_iff.mpr fun e mem => ?_) (holds.mapRuns_eq_none clear)
  have apart := List.all_eq_true.mp keys e mem
  simp only [Bool.or_eq_true, Nat.blt_eq] at apart
  have := holds.1
  have := holds.2.1
  simp only [bne_iff_ne]
  omega

/-- An upper case comes from the expansions, from a run, or is the character itself. -/
theorem upperChar_cases (c : Char) :
    (∃ codes, (c.toNat, codes) ∈ upperExpansions ∧ upperChar c = codes.map Char.ofNat) ∨
      (∃ r ∈ upperRuns, r.Holds c.toNat ∧ upperChar c = [Char.ofNat (c.toNat + r.offset).toNat]) ∨
      upperChar c = [c] := by
  cases expansion : upperExpansions.lookup c.toNat with
  | some codes =>
    obtain ⟨before, after, listed, _⟩ := List.lookup_eq_some_iff.mp expansion
    exact .inl ⟨codes, by simp [listed], by simp only [upperChar, expansion]⟩
  | none => cases run : mapRuns upperRuns c.toNat with
    | some n =>
      obtain ⟨r, mem, holds, rfl⟩ := CaseRun.holds_of_mapRuns run
      exact .inr (.inl ⟨r, mem, holds, by simp only [upperChar, expansion, run]⟩)
    | none => exact .inr (.inr (by simp only [upperChar, expansion, run]))

theorem upperChar_ne_nil (c : Char) : upperChar c ≠ [] := by
  rcases upperChar_cases c with ⟨codes, listed, upper⟩ | ⟨r, _, _, upper⟩ | upper
  · have checked := List.all_eq_true.mp settled_upperExpansions _ listed
    simp only [Bool.and_eq_true, decide_eq_true_eq] at checked
    simp [upper, checked.1]
  · simp [upper]
  · simp [upper]

/-- Each character of an upper case is its own upper case. -/
theorem upperChar_of_mem (mem : d ∈ upperChar c) : upperChar d = [d] := by
  rcases upperChar_cases c with ⟨codes, listed, upper⟩ | ⟨r, listed, holds, upper⟩ | upper
  · have checked := List.all_eq_true.mp settled_upperExpansions _ listed
    simp only [Bool.and_eq_true, List.all_eq_true] at checked
    rw [upper] at mem
    obtain ⟨n, code, rfl⟩ := List.mem_map.mp mem
    exact upperChar_of_settled (checked.2 n code) (CaseRun.holds_single n)
  · have checked := List.all_eq_true.mp settled_upperRuns r listed
    simp only [Bool.and_eq_true, decide_eq_true_eq] at checked
    rw [upper] at mem
    obtain rfl := List.mem_singleton.mp mem
    exact upperChar_of_settled checked.2 (CaseRun.holds_image holds checked.1)
  · rw [upper] at mem
    obtain rfl := List.mem_singleton.mp mem
    exact upper

end Stencil.Text
