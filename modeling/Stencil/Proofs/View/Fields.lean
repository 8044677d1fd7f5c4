import Stencil.Proofs.Tag.Flags
import Stencil.Proofs.View.Order

/-
  The fields of a record as a template sees them.

  Proved: `fields_shown`. All fields that are not skipped stand in order of their names; so a
  template sees the same of two records that differ in the order of distinct names, or in what
  is skipped.
-/

namespace Stencil.View

/-- The fields that are not skipped, as declared. -/
def visible (fields : List Field) : List Field := fields.filter (!·.isSkipped)

/-- A field is skipped exactly if its tag shows the flag. -/
theorem isSkipped_iff (f : Field) : f.isSkipped = true ↔ f.tag.Flagged "gen" "skip" := by
  have lowered : Text.lower "skip" = "skip" := by decide +kernel
  rw [Field.isSkipped, Tag.hasFlag_iff, lowered]

theorem arranged_visible (name : String) (fields : List Field) :
    Arranged Field.name (visible fields) (Record.ofFields name fields).fields :=
  arranged_sortByName Field.name (visible fields)

/-- A record shows the fields without the skip flag in order of their names; where these are
distinct, neither the order of declaration nor the skipped fields count. -/
theorem fields_shown (name : String) (fields : List Field) :
    (∀ f : Field, f.isSkipped = true ↔ f.tag.Flagged "gen" "skip") ∧
      Arranged Field.name (visible fields) (Record.ofFields name fields).fields ∧
      ∀ name' fields', (visible fields).Perm (visible fields') →
        ((visible fields).map Field.name).Nodup →
        (Record.ofFields name' fields').fields = (Record.ofFields name fields).fields := by
  refine ⟨isSkipped_iff, arranged_visible name fields, fun name' fields' perm distinct => ?_⟩
  exact ((arranged_visible name fields).eq_of_perm (arranged_visible name' fields') perm
    distinct).symm

/-- A field of a basic type. -/
def plainField (name tag : String) : Field := ⟨name, .named none "int", ⟨tag⟩⟩

def declaredDown : List Field :=
  [plainField "c" "", plainField "a" "", plainField "b" "gen:\"x,SKIP\""]

def declaredUp : List Field :=
  [plainField "x" "gen:\",Skip\"", plainField "a" "", plainField "b" "gen:\"x,SKIP\"",
    plainField "c" ""]

theorem fields_shown_twice :
    (visible declaredDown).Perm (visible declaredUp) ∧
      ((visible declaredDown).map Field.name).Nodup ∧
      (Record.ofFields "B" declaredUp).fields = (Record.ofFields "A" declaredDown).fields := by
  have down : visible declaredDown = [plainField "c" "", plainField "a" ""] := by decide +kernel
  have up : visible declaredUp = [plainField "a" "", plainField "c" ""] := by decide +kernel
  have perm : (visible declaredDown).Perm (visible declaredUp) := by
    rw [down, up]
    exact List.Perm.swap _ _ _
  have distinct : ((visible declaredDown).map Field.name).Nodup := by
    rw [down]
    decide
  exact ⟨perm, distinct, (fields_shown "A" declaredDown).2.2 "B" declaredUp perm distinct⟩

end Stencil.View
