import Mathlib.Data.List.Induction
import Stencil.Arguments
import Stencil.Proofs.Outcome
import Stencil.Proofs.Text.Blank

/-
  Arguments and their text. Segments between semicolons give keys their values; among segments
  that give a value to one key the last counts.

  Proved: `arguments_round_trip`. Arguments are read back exactly if nothing in them could be
  taken for a separator or is trimmed away, and all that is read is of that kind.
-/

namespace Stencil.Arguments

open Text

/-! ## Segments -/

/-- A segment gives a key a value: they stand around its first equals sign, less the blanks around
them. -/
def Gives (segment : List Char) (key value : String) : Prop :=
  ∃ before after, segment = before ++ '=' :: after ∧ '=' ∉ before ∧
    key.toList = trim before ∧ value.toList = trim after

/-- A segment that gives nothing and is not blank. -/
def IsMalformed (segment : List Char) : Prop := trim segment ≠ [] ∧ '=' ∉ segment

/-- The first of some segments that is malformed. -/
def IsFirstMalformed (segments : List (List Char)) (segment : List Char) : Prop :=
  ∃ before after, segments = before ++ segment :: after ∧ IsMalformed segment ∧
    ∀ earlier ∈ before, ¬ IsMalformed earlier

/-- The last of some segments that gives a key a value gives it this one. -/
def GivesLast (segments : List (List Char)) (key value : String) : Prop :=
  ∃ before segment after, segments = before ++ segment :: after ∧ Gives segment key value ∧
    ∀ later ∈ after, ∀ other, ¬ Gives later key other

/-- A key and a value in which nothing is taken for a separator or trimmed away. -/
structure Plain (key value : String) : Prop where
  key_equals : '=' ∉ key.toList
  key_semicolon : ';' ∉ key.toList
  key_trim : trim key.toList = key.toList
  value_semicolon : ';' ∉ value.toList
  value_trim : trim value.toList = value.toList

section

variable {segment : List Char} {segments : List (List Char)} {key value : String}
  {pairs : List (String × String)} {a : Arguments} {text : String}

theorem readPair_eq_ok_iff : readPair segment = .ok (key, value) ↔ Gives segment key value := by
  unfold readPair
  constructor
  · intro read
    split at read
    · rename_i before after divided
      obtain ⟨whole, first⟩ := append_of_cut divided
      cases read
      exact ⟨before, after, whole, first, String.toList_ofList, String.toList_ofList⟩
    · cases read
  · rintro ⟨before, after, rfl, first, key_eq, value_eq⟩
    rw [cut_append first]
    simp only [← key_eq, ← value_eq, String.ofList_toList]

/-- A segment gives one value to one key. -/
theorem Gives.unique {key' value' : String} (h : Gives segment key value)
    (h' : Gives segment key' value') : key' = key ∧ value' = value := by
  have read := (readPair_eq_ok_iff.mpr h').symm.trans (readPair_eq_ok_iff.mpr h)
  simpa using read

theorem equals_mem_of_gives (h : Gives segment key value) : '=' ∈ segment := by
  obtain ⟨before, after, rfl, _⟩ := h
  simp

theorem trim_ne_nil_of_equals (h : '=' ∈ segment) : trim segment ≠ [] :=
  trim_ne_nil h (by decide +kernel)

theorem readPair_eq_error_iff {why : Malformed} :
    readPair segment = .error why ↔ '=' ∉ segment ∧ why = ⟨String.ofList segment⟩ := by
  by_cases equals : '=' ∈ segment
  · obtain ⟨before, after, rfl, first⟩ := List.eq_append_cons_of_mem equals
    simp [readPair, cut_append first]
  · cases divided : cut '=' segment with
    | some parts =>
      obtain ⟨rfl, _⟩ := append_of_cut divided
      simp at equals
    | none => simp [readPair, divided, equals, eq_comm]

theorem givesLast_concat : GivesLast (segments ++ [segment]) key value ↔
    Gives segment key value ∨
      (∀ other, ¬ Gives segment key other) ∧ GivesLast segments key value := by
  constructor
  · rintro ⟨before, giver, after, shape, gives, none_later⟩
    rcases List.eq_nil_or_concat after with rfl | ⟨after, last, rfl⟩
    · obtain ⟨rfl, same⟩ := List.append_inj' shape rfl
      cases same
      exact .inl gives
    · have concat : segments ++ [segment] = (before ++ giver :: after) ++ [last] := by
        simpa using shape
      obtain ⟨rfl, same⟩ := List.append_inj' concat rfl
      cases same
      exact .inr ⟨none_later segment (by simp), before, giver, after, rfl, gives,
        fun later mem => none_later later (by simp [mem])⟩
  · rintro (gives | ⟨not_last, before, giver, after, rfl, gives, none_later⟩)
    · exact ⟨segments, segment, [], rfl, gives, by simp⟩
    · refine ⟨before, giver, after ++ [segment], by simp, gives, fun later mem => ?_⟩
      rcases List.mem_append.mp mem with mem | mem
      · exact none_later later mem
      · exact List.mem_singleton.mp mem ▸ not_last

/-! ## Reading -/

/-- The pairs of the segments that are not blank. -/
def pairsOf (segments : List (List Char)) : Except Malformed (List (String × String)) :=
  (segments.filter fun segment => !(trim segment).isEmpty).mapM readPair

theorem read_eq (text : String) :
    read text = pairsOf (text.toList.splitOn ';') >>= fun pairs => .ok (ofList pairs) := rfl

theorem pairsOf_concat (segments : List (List Char)) (segment : List Char) :
    pairsOf (segments ++ [segment]) =
      if trim segment = [] then pairsOf segments
      else pairsOf segments >>= fun pairs =>
        (readPair segment).map fun pair => pairs ++ [pair] := by
  unfold pairsOf
  by_cases blank : trim segment = []
  · simp [blank]
  · rw [if_neg blank, List.filter_append, List.filter_cons_of_pos (by simp [blank]),
      List.filter_nil, List.mapM_append]
    congr 1
    funext pairs
    rw [List.mapM_cons, List.mapM_nil]
    cases readPair segment <;> rfl

/-- What is read gives each key the value of the last segment that gives it one. -/
theorem pairsOf_eq_ok (h : pairsOf segments = .ok pairs) :
    (∀ segment ∈ segments, ¬ IsMalformed segment) ∧
      ∀ key value, (Table.ofList pairs).find? key = some value ↔ GivesLast segments key value := by
  induction segments using List.reverseRecOn generalizing pairs with
  | nil =>
    cases h
    simp [GivesLast, Table.ofList, Table.find?_empty]
  | append_singleton segments segment ih =>
    rw [pairsOf_concat] at h
    split at h
    · rename_i blank
      -- without an equals sign the segment gives nothing, so all stays as it was before
      obtain ⟨none_malformed, found⟩ := ih h
      have silent (key value : String) : ¬ Gives segment key value := fun gives =>
        trim_ne_nil_of_equals (equals_mem_of_gives gives) blank
      refine ⟨fun other mem => ?_, fun key value => ?_⟩
      · rcases List.mem_append.mp mem with mem | mem
        · exact none_malformed other mem
        · exact fun malformed => malformed.1 (List.mem_singleton.mp mem ▸ blank)
      · rw [found, givesLast_concat]
        simp [silent]
    · obtain ⟨pairs, read, h⟩ := ok_of_bind h
      obtain ⟨⟨key, value⟩, given, rfl⟩ := ok_of_map h
      obtain ⟨none_malformed, found⟩ := ih read
      have gives := readPair_eq_ok_iff.mp given
      refine ⟨fun other mem => ?_, fun key' value' => ?_⟩
      · rcases List.mem_append.mp mem with mem | mem
        · exact none_malformed other mem
        · exact fun malformed => malformed.2 (List.mem_singleton.mp mem ▸ equals_mem_of_gives gives)
      · have put : Table.ofList (pairs ++ [(key, value)]) = (Table.ofList pairs).put key value := by
          rw [Table.ofList, List.foldl_append]
          rfl
        rw [put, Table.find?_put, givesLast_concat, ← found]
        -- a segment that gives a value decides for its own key and for no other
        by_cases same : key' = key
        · subst same
          constructor
          · intro here
            rw [if_pos rfl] at here
            exact .inl (Option.some.inj here ▸ gives)
          · rintro (gives' | ⟨silent, _⟩)
            · rw [if_pos rfl, (gives.unique gives').2]
            · exact absurd gives (silent value)
        · have silent (other : String) : ¬ Gives segment key' other := fun gives' =>
            same (gives.unique gives').1
          simp [same, silent]

theorem IsFirstMalformed.concat (h : IsFirstMalformed segments segment) (other : List Char) :
    IsFirstMalformed (segments ++ [other]) segment := by
  obtain ⟨before, after, rfl, first⟩ := h
  exact ⟨before, after ++ [other], by simp, first⟩

/-- What is complained about is the first malformed segment. -/
theorem pairsOf_eq_error {why : Malformed} (h : pairsOf segments = .error why) :
    IsFirstMalformed segments why.segment.toList := by
  induction segments using List.reverseRecOn with
  | nil => cases h
  | append_singleton segments segment ih =>
    rw [pairsOf_concat] at h
    split at h
    · exact (ih h).concat segment
    · rename_i not_blank
      cases read : pairsOf segments with
      | error why' =>
        rw [read] at h
        cases h
        exact (ih read).concat segment
      | ok pairs =>
        rw [read] at h
        cases given : readPair segment with
        | ok pair =>
          rw [given] at h
          cases h
        | error why' =>
          rw [given] at h
          cases h
          obtain ⟨equals, rfl⟩ := readPair_eq_error_iff.mp given
          rw [String.toList_ofList]
          exact ⟨segments, [], rfl, ⟨not_blank, equals⟩, (pairsOf_eq_ok read).1⟩

theorem first_of_read_error {why : Malformed} (h : read text = .error why) :
    IsFirstMalformed (text.toList.splitOn ';') why.segment.toList := by
  rw [read_eq] at h
  cases read : pairsOf (text.toList.splitOn ';') with
  | ok pairs =>
    rw [read] at h
    cases h
  | error why' =>
    rw [read] at h
    cases h
    exact pairsOf_eq_error read

/-- Reading fails exactly if some segment is malformed. -/
theorem read_eq_error_iff : (∃ why, read text = .error why) ↔
    ∃ segment ∈ text.toList.splitOn ';', IsMalformed segment := by
  constructor
  · rintro ⟨why, failed⟩
    obtain ⟨before, after, whole, malformed, _⟩ := first_of_read_error failed
    refine ⟨why.segment.toList, ?_, malformed⟩
    rw [whole]
    simp
  · rintro ⟨segment, mem, malformed⟩
    cases read : pairsOf (text.toList.splitOn ';') with
    | ok pairs => exact absurd malformed ((pairsOf_eq_ok read).1 segment mem)
    | error why => exact ⟨why, by rw [read_eq, read]; rfl⟩

/-- The values of what is read are those that the last segments give. -/
theorem find?_of_read (h : read text = .ok a) (key value : String) :
    a.values.find? key = some value ↔ GivesLast (text.toList.splitOn ';') key value := by
  rw [read_eq] at h
  obtain ⟨pairs, read, h⟩ := ok_of_bind h
  cases h
  exact (pairsOf_eq_ok read).2 key value

theorem plain_of_gives (h : Gives segment key value) (inside : ';' ∉ segment) :
    Plain key value := by
  obtain ⟨before, after, rfl, first, key_eq, value_eq⟩ := h
  rw [List.mem_append, List.mem_cons] at inside
  refine ⟨fun mem => ?_, fun mem => ?_, ?_, fun mem => ?_, ?_⟩
  · exact first (mem_of_mem_trim (key_eq ▸ mem))
  · exact inside (.inl (mem_of_mem_trim (key_eq ▸ mem)))
  · rw [key_eq, trim_trim]
  · exact inside (.inr (.inr (mem_of_mem_trim (value_eq ▸ mem))))
  · rw [value_eq, trim_trim]

theorem plain_of_read (h : read text = .ok a) : ∀ pair ∈ a.items, Plain pair.1 pair.2 := by
  rintro ⟨key, value⟩ mem
  have found := (a.values.mem_rows key value).mp mem
  obtain ⟨before, segment, after, whole, gives, _⟩ := (find?_of_read h key value).mp found
  refine plain_of_gives gives (sep_not_mem_splitOn ';' text.toList segment ?_)
  rw [whole]
  simp

/-! ## Reading back -/

/-- The segment that is written for a key and a value. -/
def written (pair : String × String) : List Char := pair.1.toList ++ '=' :: pair.2.toList

theorem toList_display (a : Arguments) :
    a.display.toList = [';'].intercalate (a.items.map written) := by
  rw [display, String.toList_intercalate, List.map_map]
  congr 1
  refine List.map_congr_left fun pair _ => ?_
  simp [written]

theorem gives_written {pair : String × String} (h : Plain pair.1 pair.2) :
    Gives (written pair) pair.1 pair.2 :=
  ⟨_, _, rfl, h.key_equals, h.key_trim.symm, h.value_trim.symm⟩

theorem pairsOf_written (h : ∀ pair ∈ pairs, Plain pair.1 pair.2) :
    pairsOf (pairs.map written) = .ok pairs := by
  have counted : (pairs.map written).filter (fun segment => !(trim segment).isEmpty) =
      pairs.map written := by
    rw [List.filter_eq_self]
    intro segment mem
    obtain ⟨pair, held, rfl⟩ := List.mem_map.mp mem
    simpa using trim_ne_nil_of_equals (equals_mem_of_gives (gives_written (h pair held)))
  rw [pairsOf, counted, mapM_map_ok (h := id) fun pair held =>
    readPair_eq_ok_iff.mpr (gives_written (h pair held)), List.map_id]

theorem read_display (h : ∀ pair ∈ a.items, Plain pair.1 pair.2) : read a.display = .ok a := by
  have pairs : pairsOf (a.display.toList.splitOn ';') = .ok a.items := by
    rw [toList_display]
    -- no arguments give the empty text, whose one segment is blank
    by_cases empty : a.items = []
    · rw [empty]
      rfl
    · have inside : ∀ segment ∈ a.items.map written, ';' ∉ segment := by
        intro segment mem
        obtain ⟨pair, held, rfl⟩ := List.mem_map.mp mem
        have plain := h pair held
        simp [written, plain.key_semicolon, plain.value_semicolon]
      rw [List.splitOn_intercalate ';' inside (by simpa using empty), pairsOf_written h]
  rw [read_eq, pairs]
  exact congrArg (fun values => Except.ok (Arguments.mk values)) a.values.ofList_rows

/-- Arguments are read back from their text exactly if no key has an equals sign, neither a key
nor a value has a semicolon, and none has blanks around it. Whatever is read is such, so it is
read back. Reading fails exactly if some segment is malformed, and tells the first one; otherwise
each key has the value of the last segment that gives it one. -/
theorem arguments_round_trip (a : Arguments) (text : String) :
    (read a.display = .ok a ↔ ∀ pair ∈ a.items, Plain pair.1 pair.2) ∧
    ((∃ why, read text = .error why) ↔
      ∃ segment ∈ text.toList.splitOn ';', IsMalformed segment) ∧
    (∀ why, read text = .error why →
      IsFirstMalformed (text.toList.splitOn ';') why.segment.toList) ∧
    ∀ b, read text = .ok b →
      (∀ pair ∈ b.items, Plain pair.1 pair.2) ∧ read b.display = .ok b ∧
        ∀ key value, b.values.find? key = some value ↔
          GivesLast (text.toList.splitOn ';') key value :=
  ⟨⟨plain_of_read, read_display⟩, read_eq_error_iff, fun _ => first_of_read_error, fun _ read =>
    ⟨plain_of_read read, read_display (plain_of_read read), find?_of_read read⟩⟩

/-- An empty key and an equals sign in a value are kept, a blank behind a key is not. -/
theorem arguments_round_trip_blank :
    read (ofList [("k", "a=b"), ("", "")]).display = .ok (ofList [("k", "a=b"), ("", "")]) ∧
    read (ofList [("k ", "v")]).display ≠ .ok (ofList [("k ", "v")]) := by
  have kept : (ofList [("k", "a=b"), ("", "")]).items = [("", ""), ("k", "a=b")] := by
    decide +kernel
  have lost : (ofList [("k ", "v")]).items = [("k ", "v")] := by decide +kernel
  constructor
  · refine (arguments_round_trip _ "").1.mpr fun pair mem => ?_
    rw [kept] at mem
    rcases List.mem_cons.mp mem with rfl | mem
    · exact ⟨by decide, by decide, by decide +kernel, by decide, by decide +kernel⟩
    · rw [List.mem_singleton.mp mem]
      exact ⟨by decide, by decide, by decide +kernel, by decide, by decide +kernel⟩
  · intro back
    have plain := (arguments_round_trip _ "").1.mp back ("k ", "v") (by rw [lost]; simp)
    exact absurd plain.key_trim (by decide +kernel)

end

end Stencil.Arguments
