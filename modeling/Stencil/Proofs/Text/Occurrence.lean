import Stencil.Render.Basic

/-
  Occurrences of one text in another, and what becomes of them when a block takes the place of
  the first.

  Proved: a cut is at the first occurrence (`append_of_cutAt`, `length_le_of_cutAt`), and there
  is one wherever there is an occurrence (`isSome_cutAt`); a mark that stands in a text once
  gives way to the block (`replaceFirst_of_once`); and if no occurrence can reach over the ends
  of the block, one is left exactly if there were two, or the block itself holds one
  (`within_replaceFirst`).
-/

namespace Stencil.Text

variable {mark before after s x y : List Char} {c : Char}

/-! ## Cutting -/

theorem stripHead_eq_some_iff : stripHead mark s = some after ↔ s = mark ++ after := by
  induction mark generalizing s with
  | nil => simp [stripHead]
  | cons h mark ih =>
    cases s with
    | nil => simp [stripHead]
    | cons c s =>
      unfold stripHead
      split
      · rename_i same
        subst same
        simp [ih]
      · rename_i other
        simp [Ne.symm other]

theorem append_of_cutAt (h : cutAt mark s = some (before, after)) :
    s = before ++ mark ++ after := by
  induction s generalizing before with
  | nil =>
    unfold cutAt at h
    split at h
    · rename_i empty
      cases h
      simp [empty]
    · cases h
  | cons c s ih =>
    unfold cutAt at h
    split at h
    · rename_i found
      cases h
      exact stripHead_eq_some_iff.mp found
    · rw [Option.map_eq_some_iff] at h
      obtain ⟨⟨front, back⟩, found, same⟩ := h
      cases same
      rw [ih found]
      rfl

/-- No occurrence begins before the cut. -/
theorem length_le_of_cutAt (h : cutAt mark s = some (before, after))
    (split_s : s = x ++ mark ++ y) : before.length ≤ x.length := by
  induction s generalizing before x with
  | nil =>
    have empty := congrArg List.length (append_of_cutAt h)
    simp only [List.length_append, List.length_nil] at empty
    omega
  | cons c s ih =>
    unfold cutAt at h
    split at h
    · cases h
      exact Nat.zero_le _
    · rename_i not_here
      rw [Option.map_eq_some_iff] at h
      obtain ⟨⟨front, back⟩, found, same⟩ := h
      cases same
      cases x with
      | nil =>
        rw [stripHead_eq_some_iff.mpr (by simpa using split_s)] at not_here
        cases not_here
      | cons d x =>
        have shorter := ih found (List.cons.inj split_s).2
        simp only [List.length_cons]
        omega

theorem isSome_cutAt (h : mark <:+: s) : (cutAt mark s).isSome := by
  induction s with
  | nil => simp [cutAt, List.infix_nil.mp h]
  | cons c s ih =>
    unfold cutAt
    split
    · rfl
    · rename_i not_here
      rw [Option.isSome_map]
      refine ih ((List.infix_cons_iff.mp h).resolve_left ?_)
      rintro ⟨rest, here⟩
      rw [stripHead_eq_some_iff.mpr here.symm] at not_here
      cases not_here

theorem isWithin_iff : isWithin mark s = true ↔ mark <:+: s := by
  refine ⟨fun h => ?_, isSome_cutAt⟩
  obtain ⟨⟨before, after⟩, found⟩ := Option.isSome_iff_exists.mp h
  exact ⟨before, after, (append_of_cutAt found).symm⟩

/-- What stands before the cut holds no occurrence. -/
theorem not_infix_of_cutAt (h : cutAt mark s = some (before, after)) (some_mark : mark ≠ []) :
    ¬ mark <:+: before := by
  rintro ⟨x, y, rfl⟩
  have shorter : (x ++ mark ++ y).length ≤ x.length :=
    length_le_of_cutAt (y := y ++ mark ++ after) h (by simp [append_of_cutAt h])
  have := List.length_pos_iff.mpr some_mark
  simp only [List.length_append] at shorter
  omega

/-! ## Occurrences over a boundary -/

theorem not_infix_of_length {part : List Char} (h : s.length < part.length) : ¬ part <:+: s :=
  fun inside => Nat.not_le.mpr h inside.length_le

/-- An occurrence does not reach over a character that is not in it. -/
theorem infix_append_cons (h : c ∉ mark) : mark <:+: x ++ c :: y ↔ mark <:+: x ∨ mark <:+: y := by
  constructor
  · rintro ⟨front, back, same⟩
    rw [List.append_assoc] at same
    rcases List.append_eq_append_iff.mp same with ⟨mid, rfl, tail⟩ | ⟨mid, rfl, tail⟩
    · rcases List.append_eq_append_iff.mp tail with ⟨rest, rfl, _⟩ | ⟨rest, rfl, reach⟩
      · exact .inl ⟨front, rest, by simp⟩
      · cases rest with
        | nil => exact .inl ⟨front, [], by simp⟩
        | cons d rest =>
          cases reach
          simp at h
    · cases mid with
      | nil =>
        cases mark with
        | nil => exact .inl (List.nil_infix)
        | cons d mark =>
          cases tail
          simp at h
      | cons d mid =>
        obtain ⟨_, rfl⟩ := List.cons.inj tail
        exact .inr ⟨mid, back, by simp⟩
  · rintro (⟨front, back, rfl⟩ | ⟨front, back, rfl⟩)
    · exact ⟨front, back ++ c :: y, by simp⟩
    · exact ⟨x ++ c :: front, back, by simp⟩

/-- An occurrence does not end in what does not hold its last character. -/
theorem infix_of_append (h : c ∉ y) (inside : mark ++ [c] <:+: x ++ y) : mark ++ [c] <:+: x := by
  obtain ⟨front, back, same⟩ := inside
  rcases List.append_eq_append_iff.mp same with ⟨rest, rfl, _⟩ | ⟨beyond, reaches, rfl⟩
  · exact ⟨front, rest, rfl⟩
  · rcases List.eq_nil_or_concat beyond with rfl | ⟨beyond, d, rfl⟩
    · exact ⟨front, [], by simpa using reaches⟩
    · have ends : front ++ mark ++ [c] = x ++ beyond ++ [d] := by simpa using reaches
      obtain ⟨_, last⟩ := List.append_inj' ends rfl
      cases last
      simp at h

/-- What stands between two bars, and nowhere else, stands between the same bars in any
reading. -/
theorem eq_of_bars {bar : Char} {core a b a' b' : List Char} (no_bar : bar ∉ core)
    (not_before : ¬ core <:+: a) (not_behind : ¬ core <:+: b)
    (same : a ++ bar :: (core ++ bar :: b) = a' ++ bar :: (core ++ bar :: b')) : a = a' := by
  rcases List.append_eq_append_iff.mp same with ⟨gap, rfl, tail⟩ | ⟨gap, rfl, tail⟩
  · cases gap with
    | nil => simp
    | cons d gap =>
      obtain ⟨rfl, further⟩ := List.cons.inj tail
      rcases List.append_eq_append_iff.mp further with ⟨more, _, rest⟩ | ⟨more, rfl, rest⟩
      · cases more with
        | nil =>
          obtain ⟨_, rfl⟩ := List.cons.inj rest
          exact absurd ⟨[], bar :: b', rfl⟩ not_behind
        | cons e more =>
          obtain ⟨_, rfl⟩ := List.cons.inj rest
          exact absurd ⟨more ++ [bar], bar :: b', by simp⟩ not_behind
      · cases more with
        | nil =>
          obtain ⟨_, rfl⟩ := List.cons.inj rest
          exact absurd ⟨[], bar :: b', by simp⟩ not_behind
        | cons e more =>
          obtain ⟨rfl, _⟩ := List.cons.inj rest
          simp at no_bar
  · cases gap with
    | nil => simp
    | cons d gap =>
      obtain ⟨rfl, further⟩ := List.cons.inj tail
      rcases List.append_eq_append_iff.mp further with ⟨more, rfl, _⟩ | ⟨more, rfl, rest⟩
      · exact absurd ⟨a' ++ [bar], more, by simp⟩ not_before
      · cases more with
        | nil => exact absurd ⟨a' ++ [bar], [], by simp⟩ not_before
        | cons e more =>
          obtain ⟨rfl, _⟩ := List.cons.inj rest
          simp at no_bar

/-- A block that holds `gap` after its front, and ends with `close`, keeps occurrences on
either side of it apart. -/
theorem infix_around {last gap close : Char} {front : List Char} (x body y : List Char)
    (no_last : last ∉ front) (no_gap : gap ∉ mark ++ [last]) (no_close : close ∉ mark ++ [last]) :
    mark ++ [last] <:+: x ++ (front ++ gap :: (body ++ [close])) ++ y ↔
      mark ++ [last] <:+: x ∨ mark ++ [last] <:+: body ∨ mark ++ [last] <:+: y := by
  have shape : x ++ (front ++ gap :: (body ++ [close])) ++ y =
      (x ++ front) ++ gap :: (body ++ close :: y) := by simp
  rw [shape, infix_append_cons no_gap, infix_append_cons no_close]
  exact or_congr_left ⟨infix_of_append no_last, List.infix_append_of_infix_left⟩

/-! ## Occurrences in texts -/

/-- `part` stands in a text somewhere. -/
def Within (part text : String) : Prop := ∃ before after, text = before ++ part ++ after

/-- `part` stands in a text between `front` and `back`, and nowhere else. -/
structure Once (part text front back : String) : Prop where
  here : text = front ++ part ++ back
  only : ∀ x y, text = x ++ part ++ y → x = front

/-- `part` stands in a text at two places that do not overlap. -/
def Twice (part text : String) : Prop :=
  ∃ before between after, text = before ++ part ++ between ++ part ++ after

theorem within_iff {part text : String} : Within part text ↔ part.toList <:+: text.toList := by
  constructor
  · rintro ⟨before, after, rfl⟩
    exact ⟨before.toList, after.toList, by simp⟩
  · rintro ⟨before, after, same⟩
    refine ⟨.ofList before, .ofList after, ?_⟩
    rw [← String.toList_inj, ← same]
    simp

theorem Twice.within {part text : String} (h : Twice part text) : Within part text := by
  obtain ⟨before, between, after, rfl⟩ := h
  exact ⟨before, between ++ part ++ after, by simp only [String.append_assoc]⟩

instance (part text : String) : Decidable (Within part text) :=
  decidable_of_iff (isWithin part.toList text.toList = true) (isWithin_iff.trans within_iff.symm)

/-- There are two places exactly if one is left behind the first. -/
theorem twice_iff {part text : String}
    (h : cutAt part.toList text.toList = some (before, after)) :
    Twice part text ↔ part.toList <:+: after := by
  have whole := append_of_cutAt h
  constructor
  · rintro ⟨a, b, c, rfl⟩
    have shorter : before.length ≤ a.toList.length :=
      length_le_of_cutAt (y := b.toList ++ part.toList ++ c.toList) h (by simp)
    have same : (a.toList ++ part.toList) ++ (b.toList ++ part.toList ++ c.toList) =
        (before ++ part.toList) ++ after := by simpa using whole
    rcases List.append_eq_append_iff.mp same with ⟨gap, longer, rest⟩ | ⟨gap, _, rest⟩
    · have lengths := congrArg List.length longer
      simp only [List.length_append] at lengths
      have no_gap : gap = [] := List.length_eq_zero_iff.mp (by omega)
      exact ⟨b.toList, c.toList, by simpa [no_gap] using rest⟩
    · exact ⟨gap ++ b.toList, c.toList, by simp [rest]⟩
  · rintro ⟨b, c, rfl⟩
    refine ⟨.ofList before, .ofList b, .ofList c, ?_⟩
    rw [← String.toList_inj, whole]
    simp

/-! ## A block in the place of the first occurrence -/

variable {token block text : String}

theorem replaceFirst_of_cutAt (h : cutAt token.toList text.toList = some (before, after)) :
    replaceFirst token block text = String.ofList (before ++ block.toList ++ after) := by
  simp only [replaceFirst, h]

theorem replaceFirst_of_not_within (h : ¬ Within token text) :
    replaceFirst token block text = text := by
  cases cut : cutAt token.toList text.toList with
  | none => simp only [replaceFirst, cut]
  | some parts =>
    exact absurd (within_iff.mpr (isWithin_iff.mp (Option.isSome_of_eq_some cut))) h

/-- Where no occurrence can reach over the ends of the block, one is left exactly if there
were two, or the block holds one. -/
theorem within_replaceFirst {mark front body : List Char} {last gap close : Char}
    (token_eq : token.toList = mark ++ [last])
    (block_eq : block.toList = front ++ gap :: (body ++ [close])) (no_last : last ∉ front)
    (no_gap : gap ∉ token.toList) (no_close : close ∉ token.toList) (h : Within token text) :
    Within token (replaceFirst token block text) ↔ Twice token text ∨ Within token block := by
  obtain ⟨⟨before, after⟩, cut⟩ := Option.isSome_iff_exists.mp (isSome_cutAt (within_iff.mp h))
  have not_before : ¬ token.toList <:+: before := not_infix_of_cutAt cut (by simp [token_eq])
  rw [replaceFirst_of_cutAt cut, twice_iff cut, within_iff, within_iff, String.toList_ofList]
  rw [token_eq] at no_gap no_close not_before
  have around := infix_around before body after no_last no_gap no_close
  have alone := infix_around [] body [] no_last no_gap no_close
  rw [List.nil_append, List.append_nil, List.infix_nil] at alone
  rw [token_eq, block_eq, around, alone]
  simp [not_before, or_comm]

end Stencil.Text
