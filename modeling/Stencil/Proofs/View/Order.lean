import Mathlib.Data.List.Nodup
import Mathlib.Data.String.Basic
import Stencil.View.Member

/-
  The order of members. They stand in code point order of their names, and members of one name
  stand as they were declared.

  Proved: `arranged_sortByName`, sorting gives that order; and `Arranged.eq_of_perm`, with
  distinct names it does not depend on the order before.
-/

namespace Stencil.Text

/-- The code points of a text, in order. -/
def codePoints (s : String) : List Nat := s.toList.map Char.toNat

theorem map_toNat_lt_iff (s t : List Char) : s.map Char.toNat < t.map Char.toNat ↔ s < t := by
  induction s generalizing t with
  | nil => cases t <;> simp
  | cons c s ih =>
    cases t with
    | nil => simp
    | cons d t =>
      rw [List.map_cons, List.map_cons, List.cons_lt_cons_iff, List.cons_lt_cons_iff, ih,
        Char.toNat_inj]
      rfl

/-- The order of texts is the order of their code points, the first difference counting. -/
theorem le_iff_codePoints (a b : String) : a ≤ b ↔ codePoints a ≤ codePoints b := by
  rw [String.le_iff_toList_le, ← not_lt, ← not_lt, codePoints, codePoints, map_toNat_lt_iff]

end Stencil.Text

namespace Stencil.View

open Text

/-- The same members in code point order of their names, those of one name as before. -/
structure Arranged {α : Type} (name : α → String) (members sorted : List α) : Prop where
  perm : sorted.Perm members
  ascending : sorted.Pairwise fun a b => codePoints (name a) ≤ codePoints (name b)
  stable : ∀ shared, sorted.filter (name · = shared) = members.filter (name · = shared)

section

variable {α β : Type} {name : α → String} {members members' sorted sorted' : List α}

theorem arranged_sortByName (name : α → String) (members : List α) :
    Arranged name members (sortByName name members) := by
  have trans : ∀ a b c : α, decide (name a ≤ name b) = true → decide (name b ≤ name c) = true →
      decide (name a ≤ name c) = true := by
    simp only [decide_eq_true_eq]
    exact fun a b c => le_trans
  have total : ∀ a b : α, (decide (name a ≤ name b) || decide (name b ≤ name a)) = true := by
    simp only [Bool.or_eq_true, decide_eq_true_eq]
    exact fun a b => le_total _ _
  have perm : (sortByName name members).Perm members := List.mergeSort_perm _ _
  refine ⟨perm, ?_, fun shared => ?_⟩
  · refine (List.pairwise_mergeSort trans total members).imp fun before => ?_
    exact (le_iff_codePoints _ _).mp (of_decide_eq_true before)
  · -- members of one name are in order already, so sorting keeps them as they are
    have equal : (members.filter (name · = shared)).Pairwise
        fun a b => decide (name a ≤ name b) = true := by
      refine List.pairwise_of_forall_mem_list fun a mem b mem' => ?_
      have named : name a = shared := by simpa using (List.mem_filter.mp mem).2
      have named' : name b = shared := by simpa using (List.mem_filter.mp mem').2
      simp [named, named']
    have kept : (members.filter (name · = shared)).Sublist (sortByName name members) :=
      List.sublist_mergeSort trans total equal List.filter_sublist
    have within : (members.filter (name · = shared)).Sublist
        ((sortByName name members).filter (name · = shared)) := by
      simpa [List.filter_filter] using kept.filter (name · = shared)
    exact (within.eq_of_length (perm.filter _).length_eq.symm).symm

theorem eq_of_codePoints_le {a b : String} (h : codePoints a ≤ codePoints b)
    (h' : codePoints b ≤ codePoints a) : a = b :=
  le_antisymm ((le_iff_codePoints a b).mpr h) ((le_iff_codePoints b a).mpr h')

/-- With distinct names the order before does not count. -/
theorem Arranged.eq_of_perm (h : Arranged name members sorted)
    (h' : Arranged name members' sorted') (perm : members.Perm members')
    (distinct : (members.map name).Nodup) : sorted = sorted' := by
  refine List.Perm.eq_of_pairwise ?_ h.ascending h'.ascending
    (h.perm.trans (perm.trans h'.perm.symm))
  intro a b mem mem' before after
  have among : a ∈ members := h.perm.mem_iff.mp mem
  have among' : b ∈ members := perm.mem_iff.mpr (h'.perm.mem_iff.mp mem')
  exact List.inj_on_of_nodup_map distinct among among' (eq_of_codePoints_le before after)

/-- Renaming what the members are, but not their names, keeps the order. -/
theorem map_sortByName {other : β → String} {f : α → β} (same : ∀ a, other (f a) = name a)
    (members : List α) : (sortByName name members).map f = sortByName other (members.map f) := by
  refine List.map_mergeSort fun a _ b _ => ?_
  rw [same, same]

end

end Stencil.View
