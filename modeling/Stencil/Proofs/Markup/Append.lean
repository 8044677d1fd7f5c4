import Mathlib.Data.List.TakeWhile
import Stencil.Markup.Reading
import Stencil.Proofs.Outcome
import Stencil.Proofs.Text.Occurrence

/-
  Texts that go on. A reader that has found its end does not look further, so it takes the same
  when more text follows; only plain text would go on, and it stops before a tag.

  Proved: `readEvents_append`. Where a text was read to its end and a tag or nothing follows, its
  events come first, and reading goes on with the elements that are open.
-/

namespace Stencil.Markup

open Text

variable {s t rest inside after before mark : List Char} {c : Char}

/-! ## Marks -/

theorem cutAt_append (h : cutAt mark s = some (before, after)) (t : List Char) :
    cutAt mark (s ++ t) = some (before, after ++ t) := by
  have whole : s = before ++ mark ++ after := append_of_cutAt h
  have longer : s ++ t = before ++ mark ++ (after ++ t) := by rw [whole]; simp
  obtain ⟨⟨before', after'⟩, found⟩ :=
    Option.isSome_iff_exists.mp (isSome_cutAt ⟨before, after ++ t, longer.symm⟩)
  have shape : s ++ t = before' ++ mark ++ after' := append_of_cutAt found
  have short : before'.length ≤ before.length := length_le_of_cutAt found longer
  -- the cut of the longer text lies in the shorter one, where no earlier one is
  have within : before' ++ mark <+: s := by
    refine List.prefix_of_prefix_length_le ⟨after', shape.symm⟩ ⟨t, rfl⟩ ?_
    rw [whole]
    simp only [List.length_append]
    omega
  obtain ⟨tail, split_s⟩ := within
  have long : before.length ≤ before'.length := length_le_of_cutAt h split_s.symm
  have same : before' ++ mark = before ++ mark := by
    have cuts := shape.symm.trans longer
    exact (List.append_inj cuts (by simp only [List.length_append]; omega)).1
  have behind : after' = after ++ t := by
    rw [shape, same] at longer
    exact List.append_cancel_left longer
  rw [found, List.append_cancel_right same, behind]

theorem length_le_of_cut (h : cutAt mark s = some (before, after)) : after.length ≤ s.length := by
  have whole := congrArg List.length (append_of_cutAt h)
  simp only [List.length_append] at whole
  omega

/-- A text that holds a character a mark does not have begins with the mark, or never will. -/
theorem prefix_append_iff (here : c ∈ s) (not_in : c ∉ mark) : mark <+: s ++ t ↔ mark <+: s := by
  refine ⟨fun h => ?_, fun h => h.trans (List.prefix_append s t)⟩
  rcases List.prefix_or_prefix_of_prefix h (List.prefix_append s t) with within | beyond
  · exact within
  · exact absurd (beyond.subset here) not_in

theorem stripHead_append (h : stripHead mark s = some after) (t : List Char) :
    stripHead mark (s ++ t) = some (after ++ t) := by
  rw [stripHead_eq_some_iff] at h ⊢
  rw [h, List.append_assoc]

theorem stripHead_append_of_none (h : stripHead mark s = none) (here : c ∈ s)
    (not_in : c ∉ mark) (t : List Char) : stripHead mark (s ++ t) = none := by
  rw [Option.eq_none_iff_forall_ne_some]
  intro after found
  have begins : mark <+: s ++ t := ⟨after, (stripHead_eq_some_iff.mp found).symm⟩
  obtain ⟨rest, here⟩ := (prefix_append_iff here not_in).mp begins
  rw [stripHead_eq_some_iff.mpr here.symm] at h
  cases h

/-! ## Tags and text -/

theorem readTag_append {quote : Option Char} (h : readTag quote s = .ok (inside, after))
    (t : List Char) : readTag quote (s ++ t) = .ok (inside, after ++ t) := by
  induction s generalizing quote inside with
  | nil => cases quote <;> cases h
  | cons c s ih =>
    cases quote with
    | none =>
      rw [List.cons_append, readTag]
      rw [readTag] at h
      split at h
      · rename_i ends
        cases h
        rw [if_pos ends]
      · rename_i goes_on
        obtain ⟨⟨inner, back⟩, read, same⟩ := ok_of_map h
        cases same
        rw [if_neg goes_on]
        dsimp only
        rw [ih read]
        rfl
    | some quote =>
      rw [List.cons_append, readTag]
      rw [readTag] at h
      obtain ⟨⟨inner, back⟩, read, same⟩ := ok_of_map h
      cases same
      rw [ih read]
      rfl

theorem length_le_of_readTag {quote : Option Char} (h : readTag quote s = .ok (inside, after)) :
    after.length ≤ s.length := by
  induction s generalizing quote inside with
  | nil => cases quote <;> cases h
  | cons c s ih =>
    rw [List.length_cons]
    cases quote with
    | none =>
      rw [readTag] at h
      split at h
      · cases h
        exact Nat.le_succ _
      · obtain ⟨⟨inner, back⟩, read, same⟩ := ok_of_map h
        cases same
        exact Nat.le_succ_of_le (ih read)
    | some quote =>
      rw [readTag] at h
      obtain ⟨⟨inner, back⟩, read, same⟩ := ok_of_map h
      cases same
      exact Nat.le_succ_of_le (ih read)

/-- Nothing, or a tag at once. -/
def AtTag (t : List Char) : Prop := ∀ c ∈ t.head?, c = '<'

theorem skipText_append {inReference : Bool} (h : skipText inReference s = .ok after)
    (tag : AtTag t) : skipText inReference (s ++ t) = .ok (after ++ t) := by
  induction s generalizing inReference with
  | nil =>
    cases inReference with
    | true => cases h
    | false =>
      cases h
      cases t with
      | nil => rfl
      | cons c t => rw [tag c rfl]; rfl
  | cons c s ih =>
    rw [List.cons_append, skipText]
    rw [skipText] at h
    split at h
    · rename_i here
      rw [if_pos here]
      split at h
      · cases h
      · rename_i outside
        cases h
        rw [if_neg outside]
        rfl
    · rename_i not_here
      rw [if_neg not_here]
      split at h
      · rename_i starts
        rw [if_pos starts]
        split at h
        · cases h
        · rename_i outside
          rw [if_neg outside, ih h]
      · rename_i goes_on
        rw [if_neg goes_on, ih h]

theorem length_le_of_skipText {inReference : Bool} (h : skipText inReference s = .ok after) :
    after.length ≤ s.length := by
  induction s generalizing inReference with
  | nil =>
    cases inReference with
    | true => cases h
    | false => cases h; exact Nat.le_refl _
  | cons c s ih =>
    rw [skipText] at h
    split at h
    · split at h
      · cases h
      · cases h
        exact Nat.le_refl _
    · split at h
      · split at h
        · cases h
        · exact Nat.le_succ_of_le (ih h)
      · exact Nat.le_succ_of_le (ih h)

/-! ## Document types -/

theorem skipDoctype_comment {n : Nat} (h : stripHead ['!', '-', '-'] s = some inside) :
    skipDoctype (n + 1) .subset ('<' :: s) =
      (cutAt ['-', '-', '>'] inside).bind fun cut => skipDoctype n .subset cut.2 := by
  simp [skipDoctype, h]

theorem skipDoctype_instruction {n : Nat} (h : stripHead ['?'] s = some inside) :
    skipDoctype (n + 1) .subset ('<' :: s) =
      (cutAt ['?', '>'] inside).bind fun cut => skipDoctype n .subset cut.2 := by
  have other : stripHead ['!', '-', '-'] s = none := by
    rw [stripHead_eq_some_iff.mp h]
    rfl
  simp [skipDoctype, h, other]

theorem skipDoctype_declaration {n : Nat} (h : stripHead ['!', '-', '-'] s = none)
    (h' : stripHead ['?'] s = none) :
    skipDoctype (n + 1) .subset ('<' :: s) =
      skipDoctype n (if quotingDeclarations.any (·.isPrefixOf s) then .declaration none
        else .other) s := by
  simp [skipDoctype, h, h']

/-- What a step of a declaration does, which is the same when more text follows: it ends the
declaration, or goes on from another place, which has to reach the end. -/
def StepsOn (n : Nat) (place : DoctypePlace) (c : Char) (s after : List Char) : Prop :=
  (c = '>' ∧ after = s ∧ ∀ m t, skipDoctype (m + 1) place (c :: (s ++ t)) = some (s ++ t)) ∨
  ∃ place' rest, rest <:+ s ∧ skipDoctype n place' rest = some after ∧ ∀ m t, '>' ∈ rest →
    skipDoctype (m + 1) place (c :: (s ++ t)) = skipDoctype m place' (rest ++ t)

theorem steps_of_markup {n : Nat} (h : skipDoctype (n + 1) .subset ('<' :: s) = some after) :
    StepsOn n .subset '<' s after := by
  cases comment : stripHead ['!', '-', '-'] s with
  | some inside =>
    rw [skipDoctype_comment comment] at h
    obtain ⟨⟨before, rest⟩, found, goes_on⟩ := Option.bind_eq_some_iff.mp h
    have shape : s = (['!', '-', '-'] ++ before ++ ['-', '-', '>']) ++ rest := by
      rw [stripHead_eq_some_iff.mp comment, append_of_cutAt found]
      simp
    refine .inr ⟨.subset, rest, ⟨_, shape.symm⟩, goes_on, fun m t _ => ?_⟩
    rw [skipDoctype_comment (stripHead_append comment t), cutAt_append found]
    rfl
  | none =>
    cases instruction : stripHead ['?'] s with
    | some inside =>
      rw [skipDoctype_instruction instruction] at h
      obtain ⟨⟨before, rest⟩, found, goes_on⟩ := Option.bind_eq_some_iff.mp h
      have shape : s = (['?'] ++ before ++ ['?', '>']) ++ rest := by
        rw [stripHead_eq_some_iff.mp instruction, append_of_cutAt found]
        simp
      refine .inr ⟨.subset, rest, ⟨_, shape.symm⟩, goes_on, fun m t _ => ?_⟩
      rw [skipDoctype_instruction (stripHead_append instruction t), cutAt_append found]
      rfl
    | none =>
      rw [skipDoctype_declaration comment instruction] at h
      refine .inr ⟨_, s, List.suffix_refl s, h, fun m t ends => ?_⟩
      have same : (quotingDeclarations.any fun mark => mark.isPrefixOf (s ++ t)) =
          quotingDeclarations.any fun mark => mark.isPrefixOf s := by
        have no_end : ∀ mark ∈ quotingDeclarations, '>' ∉ mark := by decide
        rw [Bool.eq_iff_iff, List.any_eq_true, List.any_eq_true]
        refine exists_congr fun mark => and_congr_right fun listed => ?_
        rw [List.isPrefixOf_iff_prefix, List.isPrefixOf_iff_prefix]
        exact prefix_append_iff ends (no_end mark listed)
      rw [skipDoctype_declaration (stripHead_append_of_none comment ends (by decide) t)
        (stripHead_append_of_none instruction ends (by decide) t), same]

theorem steps_of_skipDoctype {n : Nat} {place : DoctypePlace}
    (h : skipDoctype (n + 1) place (c :: s) = some after) : StepsOn n place c s after := by
  have on : ∀ place', skipDoctype n place' s = some after →
      (∀ m t, skipDoctype (m + 1) place (c :: (s ++ t)) = skipDoctype m place' (s ++ t)) →
      StepsOn n place c s after :=
    fun place' goes_on same => .inr ⟨place', s, List.suffix_refl s, goes_on, fun m t _ => same m t⟩
  match place with
  | .heading none =>
    simp only [skipDoctype] at h
    split at h
    · rename_i ends
      exact .inl ⟨ends, (Option.some.inj h).symm, fun _ _ => if_pos ends⟩
    · rename_i not_end
      split at h
      · rename_i opens
        exact on _ h fun _ _ => by rw [skipDoctype, if_neg not_end, if_pos opens]
      · rename_i other
        exact on _ h fun _ _ => by rw [skipDoctype, if_neg not_end, if_neg other]
  | .heading (some quote) => exact on _ h fun _ _ => rfl
  | .subset =>
    by_cases markup : c = '<'
    · subst markup
      exact steps_of_markup h
    · simp only [skipDoctype] at h
      split at h
      · rename_i closes
        exact on _ h fun _ _ => by rw [skipDoctype, if_pos closes]
      · rename_i goes_on
        exact on _ h fun _ _ => by rw [skipDoctype, if_neg goes_on, if_pos markup]
  | .declaration none =>
    simp only [skipDoctype] at h
    split at h
    · rename_i ends
      exact on _ h fun _ _ => if_pos ends
    · rename_i goes_on
      exact on _ h fun _ _ => if_neg goes_on
  | .declaration (some quote) => exact on _ h fun _ _ => rfl
  | .other => exact on _ h fun _ _ => rfl
  | .ending =>
    simp only [skipDoctype] at h
    split at h
    · rename_i ends
      exact .inl ⟨ends, (Option.some.inj h).symm, fun _ _ => if_pos ends⟩
    · rename_i goes_on
      exact on _ h fun _ _ => if_neg goes_on

/-- A document type declaration is skipped the same way whatever follows it. -/
theorem skipDoctype_append {n : Nat} {place : DoctypePlace}
    (h : skipDoctype n place s = some after) : '>' ∈ s ∧ after.length ≤ s.length ∧
      ∀ k t, skipDoctype (n + k) place (s ++ t) = some (after ++ t) := by
  induction n generalizing place s with
  | zero => cases h
  | succ n ih =>
    cases s with
    | nil => cases place <;> cases h
    | cons c s =>
      rcases steps_of_skipDoctype h with ⟨rfl, rfl, ends⟩ | ⟨place', rest, tail, goes_on, same⟩
      · refine ⟨List.mem_cons_self, Nat.le_succ _, fun k t => ?_⟩
        rw [Nat.add_right_comm]
        exact ends (n + k) t
      · obtain ⟨mem, short, append⟩ := ih goes_on
        refine ⟨List.mem_cons_of_mem c (tail.subset mem), ?_, fun k t => ?_⟩
        · exact Nat.le_trans short (Nat.le_succ_of_le tail.length_le)
        · rw [Nat.add_right_comm, List.cons_append, same (n + k) t mem]
          exact append k t

theorem readDoctype_append (h : readDoctype s = .ok after) :
    after.length ≤ s.length ∧ ∀ t, readDoctype (s ++ t) = .ok (after ++ t) := by
  unfold readDoctype at h
  split at h
  · cases h
  rename_i keyword
  split at h
  · cases h
  rename_i rest skipped
  split at h
  · cases h
  rename_i named
  cases h
  obtain ⟨ends, short, append⟩ := skipDoctype_append skipped
  have long : 7 ≤ s.length := by
    have lengths := congrArg List.length (Decidable.not_not.mp keyword)
    rw [List.length_map, List.length_take] at lengths
    have word : "DOCTYPE".toList.length = 7 := by decide
    omega
  refine ⟨by rw [List.length_drop] at short; omega, fun t => ?_⟩
  have front : (s ++ t).take 7 = s.take 7 := List.take_append_of_le_length long
  have back : (s ++ t).drop 7 = s.drop 7 ++ t := List.drop_append_of_le_length long
  have whole : skipDoctype ((s ++ t).length + 1) (.heading none) (s.drop 7 ++ t) =
      some (after ++ t) := by
    rw [List.length_append, Nat.add_right_comm]
    exact append t.length t
  have first : ((s.drop 7 ++ t).dropWhile isSpace).head? =
      ((s.drop 7).dropWhile isSpace).head? := by
    have some_left : (s.drop 7).dropWhile isSpace ≠ [] := fun none_left =>
      absurd (List.dropWhile_eq_nil_iff.mp none_left '>' ends) (by decide)
    rw [List.dropWhile_append, if_neg (by simpa using some_left), List.head?_append]
    cases shape : (s.drop 7).dropWhile isSpace with
    | nil => exact absurd shape some_left
    | cons d ds => rfl
  simp only [readDoctype, front, back, whole, first]
  rw [if_neg keyword, if_neg named]

/-! ## Events -/

theorem delimited_append {start stop : List Char}
    (h : (stripHead start s).bind (cutAt stop) = some (inside, after)) :
    after.length ≤ s.length ∧
      ∀ t, (stripHead start (s ++ t)).bind (cutAt stop) = some (inside, after ++ t) := by
  obtain ⟨behind, begins, found⟩ := Option.bind_eq_some_iff.mp h
  refine ⟨?_, fun t => ?_⟩
  · rw [stripHead_eq_some_iff.mp begins, List.length_append]
    exact Nat.le_add_left_of_le (length_le_of_cut found)
  · rw [stripHead_append begins t, Option.bind_some]
    exact cutAt_append found t

theorem readBang_append (h : readBang s = .ok after) :
    after.length ≤ s.length ∧ ∀ t, readBang (s ++ t) = .ok (after ++ t) := by
  unfold readBang at h
  split at h
  · split at h
    · rename_i found
      cases h
      obtain ⟨short, append⟩ := delimited_append found
      exact ⟨short, fun t => by rw [List.cons_append, readBang, ← List.cons_append, append t]⟩
    · cases h
  · split at h
    · rename_i found
      cases h
      obtain ⟨short, append⟩ := delimited_append found
      exact ⟨short, fun t => by rw [List.cons_append, readBang, ← List.cons_append, append t]⟩
    · cases h
  · rename_i c s not_comment not_section
    split at h
    · rename_i doctype
      obtain ⟨short, append⟩ := readDoctype_append h
      refine ⟨short, fun t => ?_⟩
      rw [← append t]
      rcases doctype with rfl | rfl <;> rfl
    · cases h
  · cases h

theorem readInstruction_append (h : readInstruction s = .ok after) :
    after.length ≤ s.length ∧ ∀ t, readInstruction (s ++ t) = .ok (after ++ t) := by
  unfold readInstruction at h
  split at h
  · cases h
  · rename_i inside rest not_empty found
    cases h
    have whole := congrArg List.length (append_of_cutAt found)
    have some_inside : inside ≠ [] := not_empty
    have := List.length_pos_iff.mpr some_inside
    simp only [List.length_cons, List.length_append] at whole
    refine ⟨by omega, fun t => ?_⟩
    have longer := cutAt_append found t
    rw [List.cons_append] at longer
    cases inside with
    | nil => exact absurd rfl some_inside
    | cons c inside => simp only [readInstruction, longer]
  · split at h <;> cases h

theorem skipText_cons (h : c ≠ '<') :
    ∃ inReference, ∀ s, skipText false (c :: s) = skipText inReference s := by
  by_cases starts : c = '&'
  · exact ⟨true, fun s => by rw [skipText, if_neg h, if_pos starts]; rfl⟩
  · exact ⟨false && c ≠ ';', fun s => by rw [skipText, if_neg h, if_neg starts]⟩

/-- The names of the open elements after an event, innermost first. -/
def openAfter : List String → Event → List String
  | names, .opened name _ => name :: names
  | names, .closed _ => names.drop 1
  | names, _ => names

theorem closeTag_append {openNames : List String} {step : Event.Step}
    (h : closeTag openNames inside s = .ok step) :
    step.rest = s ∧ step.openNames = openAfter openNames step.event ∧
      ∀ t, closeTag openNames inside (s ++ t) = .ok { step with rest := s ++ t } := by
  unfold closeTag at h ⊢
  cases openNames with
  | nil => cases h
  | cons expected outer =>
    dsimp only at h ⊢
    split at h
    · rename_i matching
      cases h
      exact ⟨rfl, rfl, fun t => if_pos matching⟩
    · cases h

theorem startTag_append (openNames : List String) (inside s : List Char) :
    (startTag openNames inside s).rest = s ∧ (startTag openNames inside s).openNames =
      openAfter openNames (startTag openNames inside s).event ∧
      ∀ t, startTag openNames inside (s ++ t) =
        { startTag openNames inside s with rest := s ++ t } := by
  unfold startTag
  dsimp only
  split <;> exact ⟨rfl, rfl, fun _ => rfl⟩

section

variable {openNames : List String} {d : Char}

theorem readEvent_text (h : c ≠ '<') : readEvent openNames c s =
    skipText false (c :: s) >>= fun after => .ok ⟨.inert, openNames, after⟩ :=
  if_pos h

theorem readEvent_bang :
    readEvent openNames '<' ('!' :: s) = (readBang s).map (⟨.inert, openNames, ·⟩) := rfl

theorem readEvent_instruction :
    readEvent openNames '<' ('?' :: s) = (readInstruction s).map (⟨.inert, openNames, ·⟩) := rfl

theorem readEvent_close : readEvent openNames '<' ('/' :: s) =
    readTag none ('/' :: s) >>= fun tag => closeTag openNames (tag.1.drop 1) tag.2 := rfl

theorem readEvent_start (not_bang : d ≠ '!') (not_instruction : d ≠ '?') (not_close : d ≠ '/') :
    readEvent openNames '<' (d :: s) =
      readTag none (d :: s) >>= fun tag => .ok (startTag openNames tag.1 tag.2) := by
  rw [readEvent, if_neg (by decide)]
  · rintro _ ⟨⟩
    exact not_bang rfl
  · rintro _ ⟨⟩
    exact not_instruction rfl
  · rintro _ ⟨⟩
    exact not_close rfl

/-- All that an event can be, with what was read for it. -/
inductive Begins (openNames : List String) : Char → List Char → Event.Step → Prop where
  | text {c : Char} {s rest : List Char} : c ≠ '<' → skipText false (c :: s) = .ok rest →
    Begins openNames c s ⟨.inert, openNames, rest⟩
  | bang {s rest : List Char} : readBang s = .ok rest →
    Begins openNames '<' ('!' :: s) ⟨.inert, openNames, rest⟩
  | instruction {s rest : List Char} : readInstruction s = .ok rest →
    Begins openNames '<' ('?' :: s) ⟨.inert, openNames, rest⟩
  | close {s inside after : List Char} {step : Event.Step} :
    readTag none ('/' :: s) = .ok (inside, after) →
    closeTag openNames (inside.drop 1) after = .ok step → Begins openNames '<' ('/' :: s) step
  | start {d : Char} {s inside after : List Char} : d ≠ '!' → d ≠ '?' → d ≠ '/' →
    readTag none (d :: s) = .ok (inside, after) →
    Begins openNames '<' (d :: s) (startTag openNames inside after)

theorem begins_of_readEvent {step : Event.Step} (h : readEvent openNames c s = .ok step) :
    Begins openNames c s step := by
  by_cases text : c ≠ '<'
  · rw [readEvent_text text] at h
    obtain ⟨rest, skipped, h⟩ := ok_of_bind h
    cases h
    exact .text text skipped
  obtain rfl : c = '<' := Decidable.not_not.mp text
  cases s with
  | nil => cases h
  | cons d s =>
    by_cases bang : d = '!'
    · subst bang
      obtain ⟨rest, read, rfl⟩ := ok_of_map h
      exact .bang read
    by_cases instruction : d = '?'
    · subst instruction
      obtain ⟨rest, read, rfl⟩ := ok_of_map h
      exact .instruction read
    by_cases close : d = '/'
    · subst close
      rw [readEvent_close] at h
      obtain ⟨tag, read, closes⟩ := ok_of_bind h
      exact .close read closes
    · rw [readEvent_start bang instruction close] at h
      obtain ⟨tag, read, starts⟩ := ok_of_bind h
      cases starts
      exact .start bang instruction close read

/-- An event takes something, says which elements are open, and is the same whatever follows
it, if that begins with a tag. -/
theorem readEvent_append {step : Event.Step} (h : readEvent openNames c s = .ok step) :
    step.rest.length ≤ s.length ∧ step.openNames = openAfter openNames step.event ∧
      ∀ t, AtTag t →
        readEvent openNames c (s ++ t) = .ok { step with rest := step.rest ++ t } := by
  cases begins_of_readEvent h with
  | text not_tag skipped =>
    obtain ⟨inReference, same⟩ := skipText_cons not_tag
    rw [same] at skipped
    refine ⟨length_le_of_skipText skipped, rfl, fun t tag => ?_⟩
    rw [readEvent_text not_tag, same, skipText_append skipped tag]
    rfl
  | bang read =>
    obtain ⟨short, append⟩ := readBang_append read
    refine ⟨Nat.le_succ_of_le short, rfl, fun t _ => ?_⟩
    rw [List.cons_append, readEvent_bang, append t]
    rfl
  | instruction read =>
    obtain ⟨short, append⟩ := readInstruction_append read
    refine ⟨Nat.le_succ_of_le short, rfl, fun t _ => ?_⟩
    rw [List.cons_append, readEvent_instruction, append t]
    rfl
  | close read closes =>
    obtain ⟨same, names, append⟩ := closeTag_append closes
    refine ⟨same ▸ length_le_of_readTag read, names, fun t _ => ?_⟩
    rw [List.cons_append, readEvent_close, ← List.cons_append, readTag_append read t, same]
    exact append t
  | @start _ _ inside after bang instruction close read =>
    obtain ⟨same, names, append⟩ := startTag_append openNames inside after
    refine ⟨by rw [same]; exact length_le_of_readTag read, names, fun t _ => ?_⟩
    rw [List.cons_append, readEvent_start bang instruction close, ← List.cons_append,
      readTag_append read t, same, ← append t]
    rfl

end

/-! ## Texts -/

theorem readEvents_nil (n : Nat) (openNames : List String) :
    readEvents n openNames [] = ⟨[], none⟩ := by
  cases n <;> rfl

/-- As many steps as characters are enough. -/
theorem readEvents_enough {n m : Nat} {openNames : List String} (enough : s.length ≤ n)
    (enough' : s.length ≤ m) : readEvents n openNames s = readEvents m openNames s := by
  induction n generalizing m openNames s with
  | zero =>
    obtain rfl : s = [] := List.length_eq_zero_iff.mp (Nat.le_zero.mp enough)
    rw [readEvents_nil, readEvents_nil]
  | succ n ih =>
    cases s with
    | nil => rw [readEvents_nil, readEvents_nil]
    | cons c s =>
      obtain ⟨m, rfl⟩ : ∃ k, m = k + 1 := Nat.exists_eq_succ_of_ne_zero (by
        rw [List.length_cons] at enough'; omega)
      rw [List.length_cons] at enough enough'
      rw [readEvents, readEvents]
      cases read : readEvent openNames c s with
      | error fault => rfl
      | ok step =>
        obtain ⟨short, _⟩ := readEvent_append read
        have same : readEvents n step.openNames step.rest = readEvents m step.openNames step.rest :=
          ih (by omega) (by omega)
        dsimp only
        rw [same]

/-- A text read to its end, before a tag or nothing: its events come first, and reading goes on
with the elements that are open then. -/
theorem readEvents_append {n m k : Nat} {openNames : List String}
    (sound : (readEvents n openNames s).fault = none) (enough : s.length ≤ n)
    (enough_all : (s ++ t).length ≤ m) (enough_back : t.length ≤ k) (tag : AtTag t) :
    readEvents m openNames (s ++ t) =
      let front := (readEvents n openNames s).events
      let back := readEvents k (front.foldl openAfter openNames) t
      ⟨front ++ back.events, back.fault⟩ := by
  induction n generalizing m openNames s with
  | zero =>
    obtain rfl : s = [] := List.length_eq_zero_iff.mp (Nat.le_zero.mp enough)
    exact readEvents_enough enough_all enough_back
  | succ n ih =>
    cases s with
    | nil => exact readEvents_enough enough_all enough_back
    | cons c s =>
      obtain ⟨m, rfl⟩ : ∃ j, m = j + 1 := Nat.exists_eq_succ_of_ne_zero (by
        rw [List.cons_append, List.length_cons] at enough_all; omega)
      rw [List.cons_append, List.length_cons, List.length_append] at enough_all
      rw [List.length_cons] at enough
      rw [readEvents] at sound ⊢
      rw [List.cons_append, readEvents]
      cases read : readEvent openNames c s with
      | error fault =>
        rw [read] at sound
        cases sound
      | ok step =>
        obtain ⟨short, names, append⟩ := readEvent_append read
        rw [read] at sound
        have later := ih (m := m) sound (by omega) (by rw [List.length_append]; omega)
        rw [append t tag]
        dsimp only
        rw [later, names]
        rfl

/-! ## Whole texts -/

/-- A text without the byte order mark at its start. -/
def unmarked : List Char → List Char
  | '\ufeff' :: rest => rest
  | s => s

theorem unmarked_of_ne (h : c ≠ '\ufeff') : unmarked (c :: s) = c :: s := by
  rw [unmarked]
  rintro _ ⟨⟩
  exact h rfl

theorem read_eq (text : String) :
    read text = readEvents (unmarked text.toList).length [] (unmarked text.toList) := rfl

theorem unmarked_append (tag : AtTag t) : unmarked (s ++ t) = unmarked s ++ t := by
  cases s with
  | nil =>
    cases t with
    | nil => rfl
    | cons c t => rw [tag c rfl]; rfl
  | cons c s =>
    by_cases mark : c = '\ufeff'
    · subst mark
      rfl
    · rw [List.cons_append, unmarked_of_ne mark, unmarked_of_ne mark, List.cons_append]

/-- The names of the elements that some events leave open, innermost first. -/
def stillOpen (events : List Event) : List String := events.foldl openAfter []

theorem read_append {text tail : String} (sound : (read text).fault = none)
    (tag : AtTag tail.toList) :
    read (text ++ tail) =
      let back := readEvents tail.toList.length (stillOpen (read text).events) tail.toList
      ⟨(read text).events ++ back.events, back.fault⟩ := by
  rw [read_eq] at sound
  rw [read_eq (text ++ tail), String.toList_append, unmarked_append tag]
  exact readEvents_append sound (Nat.le_refl _) (Nat.le_refl _) (Nat.le_refl _) tag

end Stencil.Markup
