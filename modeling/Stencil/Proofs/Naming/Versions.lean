import Mathlib.Data.List.Induction
import Stencil.Naming
import Stencil.Proofs.Text.Cut

/-
  Versions of a path. Its short name is made from its last segment; what stands before the segment,
  slashes behind it, and a major version, as a segment of its own or as a suffix, leave it the same.

  Proved: `defaultShortName_of_version`.
-/

namespace Stencil

open Text

variable {path s base version tail : List Char}

/-! ## Versions -/

/-- Some ASCII digits. -/
def IsNumber (s : List Char) : Prop := s ≠ [] ∧ ∀ c ∈ s, c.isDigit = true

/-- A major version has the form `v2`. -/
def IsVersion (s : List Char) : Prop := ∃ number, IsNumber number ∧ s = 'v' :: number

/-- A text with a version suffix has the form `yaml.v3`. -/
def HasVersion (s : List Char) : Prop :=
  ∃ base version, base ≠ [] ∧ IsVersion version ∧ s = base ++ '.' :: version

theorem isMajorVersion_iff : isMajorVersion s = true ↔ IsVersion s := by
  unfold isMajorVersion
  split
  · rename_i digits
    simp [IsVersion, IsNumber]
  · rename_i other
    simp only [Bool.false_eq_true, false_iff]
    rintro ⟨number, _, rfl⟩
    exact other number rfl

theorem IsVersion.not_mem {c : Char} (h : IsVersion version) (not_v : c ≠ 'v')
    (not_digit : c.isDigit = false) : c ∉ version := by
  obtain ⟨number, ⟨_, digits⟩, rfl⟩ := h
  intro mem
  rcases List.mem_cons.mp mem with same | mem
  · exact not_v same
  · rw [digits c mem] at not_digit
    cases not_digit

theorem dropVersionSuffix_append (some_left : base ≠ []) (h : IsVersion version) :
    dropVersionSuffix (base ++ '.' :: version) = base := by
  have no_dot : '.' ∉ version := h.not_mem (by decide) rfl
  rw [dropVersionSuffix, cutLast_append base no_dot]
  simp [isMajorVersion_iff.mpr h, some_left]

theorem dropVersionSuffix_eq_self_iff : dropVersionSuffix s = s ↔ ¬ HasVersion s := by
  constructor
  · rintro same ⟨base, version, some_left, isVersion, rfl⟩
    rw [dropVersionSuffix_append some_left isVersion] at same
    simp at same
  · intro none_left
    unfold dropVersionSuffix
    split
    · rename_i base version found
      refine if_neg fun suffix => none_left ?_
      obtain ⟨isVersion, some_left⟩ := Bool.and_eq_true_iff.mp suffix
      exact ⟨base, version, by simpa using some_left, isMajorVersion_iff.mp isVersion,
        append_of_cutLast found⟩
    · rfl

/-! ## Segments -/

/-- The last segment of a path has slashes behind it only, and before it the path is at its start
or just behind a slash. -/
def IsLastSegment (path segment : List Char) : Prop :=
  segment ≠ [] ∧ '/' ∉ segment ∧ ∃ before slashes,
    path = before ++ segment ++ List.replicate slashes '/' ∧ ∀ c ∈ before.getLast?, c = '/'

theorem segments_append (before after : List Char) :
    segments (before ++ '/' :: after) = segments before ++ segments after := by
  rw [segments, List.splitOn_append_cons_self, List.filter_append, segments, segments]

theorem segments_of_no_slash (some_left : s ≠ []) (no_slash : '/' ∉ s) : segments s = [s] := by
  rw [segments, List.splitOn_eq_singleton no_slash]
  simp [some_left]

theorem segments_append_slashes (path : List Char) (n : Nat) :
    segments (path ++ List.replicate n '/') = segments path := by
  induction n with
  | zero => simp
  | succ n ih =>
    rw [List.replicate_succ', ← List.append_assoc, segments_append, ih]
    simp [segments]

theorem IsLastSegment.segments_eq (h : IsLastSegment path s) :
    ∃ front, segments path = front ++ [s] := by
  obtain ⟨some_left, no_slash, before, slashes, rfl, start⟩ := h
  rw [segments_append_slashes]
  cases before using List.reverseRecOn with
  | nil => exact ⟨[], segments_of_no_slash some_left no_slash⟩
  | append_singleton before c =>
    obtain rfl : c = '/' := start c (by simp)
    refine ⟨segments before, ?_⟩
    rw [List.append_assoc, List.singleton_append, segments_append,
      segments_of_no_slash some_left no_slash]

theorem IsLastSegment.self (some_left : s ≠ []) (no_slash : '/' ∉ s) : IsLastSegment s s :=
  ⟨some_left, no_slash, [], 0, by simp, by simp⟩

theorem IsLastSegment.append_slashes (h : IsLastSegment path s) (n : Nat) :
    IsLastSegment (path ++ List.replicate n '/') s := by
  obtain ⟨some_left, no_slash, before, slashes, rfl, start⟩ := h
  refine ⟨some_left, no_slash, before, slashes + n, ?_, start⟩
  rw [List.append_assoc, List.replicate_append_replicate]

/-- Where no slash follows, the last segment goes on. -/
theorem IsLastSegment.append (h : IsLastSegment path s) (ends : path.getLast? ≠ some '/')
    (no_slash : '/' ∉ tail) : IsLastSegment (path ++ tail) (s ++ tail) := by
  obtain ⟨some_left, inside, before, slashes, rfl, start⟩ := h
  have none_behind : slashes = 0 := by
    cases slashes with
    | zero => rfl
    | succ n => exact absurd (by simp [List.replicate_succ']) ends
  subst none_behind
  exact ⟨by simp [some_left], by simp [inside, no_slash], before, 0, by simp, start⟩

/-- A path that has more than slashes has a last segment. -/
theorem exists_isLastSegment (h : ∃ c ∈ path, c ≠ '/') : ∃ s, IsLastSegment path s := by
  induction path using List.reverseRecOn with
  | nil => simp at h
  | append_singleton path c ih =>
    by_cases slash : c = '/'
    · have inside : ∃ c ∈ path, c ≠ '/' := by simpa [slash] using h
      obtain ⟨s, last⟩ := ih inside
      rw [slash]
      exact ⟨s, last.append_slashes 1⟩
    · have no_slash : '/' ∉ [c] := by simpa using Ne.symm slash
      by_cases start : ∀ d ∈ path.getLast?, d = '/'
      · exact ⟨[c], List.cons_ne_nil c [], no_slash, path, 0, by simp, start⟩
      · obtain ⟨d, ends, not_slash⟩ : ∃ d ∈ path.getLast?, d ≠ '/' := by simpa using start
        obtain ⟨s, last⟩ := ih ⟨d, List.mem_of_getLast? ends, not_slash⟩
        have open_end : path.getLast? ≠ some '/' := by
          rw [Option.mem_def.mp ends]
          simpa using not_slash
        exact ⟨s ++ [c], last.append open_end no_slash⟩

/-- The last of the segments that are not empty. -/
theorem isLastSegment_iff : IsLastSegment path s ↔ (segments path).getLast? = some s := by
  have last_of (t : List Char) (last : IsLastSegment path t) :
      (segments path).getLast? = some t := by
    obtain ⟨front, segments_eq⟩ := last.segments_eq
    rw [segments_eq, List.getLast?_concat]
  constructor
  · exact last_of s
  · intro found
    have inside : ∃ c ∈ path, c ≠ '/' := by
      by_contra none_inside
      have slashes : path = List.replicate path.length '/' :=
        List.eq_replicate_iff.mpr ⟨rfl, by simpa using none_inside⟩
      rw [slashes, ← List.nil_append (List.replicate _ _), segments_append_slashes] at found
      cases found
    obtain ⟨t, last⟩ := exists_isLastSegment inside
    obtain rfl : t = s := Option.some.inj ((last_of t last).symm.trans found)
    exact last

theorem IsLastSegment.naming (h : IsLastSegment path s) (unversioned : ¬ IsVersion s) :
    namingSegment path = s := by
  have other : isMajorVersion s = false :=
    Bool.eq_false_iff.mpr (mt isMajorVersion_iff.mp unversioned)
  obtain ⟨front, segments_eq⟩ := h.segments_eq
  unfold namingSegment
  rw [segments_eq, List.reverse_append]
  cases front.reverse with
  | nil => rfl
  | cons before rest => simp [other]

theorem IsLastSegment.naming_version (h : IsLastSegment path s) (isVersion : IsVersion version) :
    namingSegment (path ++ '/' :: version) = s := by
  obtain ⟨front, segments_eq⟩ := h.segments_eq
  have no_slash : '/' ∉ version := isVersion.not_mem (by decide) rfl
  have some_left : version ≠ [] := by
    obtain ⟨number, _, rfl⟩ := isVersion
    simp
  have behind : segments (path ++ '/' :: version) = front ++ [s, version] := by
    rw [segments_append, segments_eq, segments_of_no_slash some_left no_slash]
    simp
  unfold namingSegment
  rw [behind, List.reverse_append]
  simp [isMajorVersion_iff.mpr isVersion]

/-! ## Short names -/

theorem defaultShortName_of_naming {path : String} (h : namingSegment path.toList = s) :
    defaultShortName path = String.ofList (toWord (dropVersionSuffix s)) := by
  rw [defaultShortName, h]

/-- Slashes behind a path, a major version as one more segment, and all that stands before the last
segment do not count for the short name, if the last segment is no major version itself; neither
does a version suffix, if the path ends in the segment and the segment has no such suffix. -/
theorem defaultShortName_of_version {path segment number : String}
    (last : IsLastSegment path.toList segment.toList) (unversioned : ¬ IsVersion segment.toList)
    (isNumber : IsNumber number.toList) :
    let name := defaultShortName path
    (∀ n, defaultShortName (path ++ String.ofList (List.replicate n '/')) = name) ∧
      defaultShortName (path ++ "/v" ++ number) = name ∧
      defaultShortName segment = name ∧
      (path.toList.getLast? ≠ some '/' → ¬ HasVersion segment.toList →
        defaultShortName (path ++ ".v" ++ number) = name) := by
  intro name
  have ⟨some_left, no_slash, _⟩ := last
  have isVersion : IsVersion ('v' :: number.toList) := ⟨number.toList, isNumber, rfl⟩
  have named : name = String.ofList (toWord (dropVersionSuffix segment.toList)) :=
    defaultShortName_of_naming (last.naming unversioned)
  rw [named]
  refine ⟨fun n => ?_, ?_, ?_, fun ends noVersion => ?_⟩
  · apply defaultShortName_of_naming
    rw [String.toList_append, String.toList_ofList]
    exact (last.append_slashes n).naming unversioned
  · apply defaultShortName_of_naming
    have spelled : (path ++ "/v" ++ number).toList =
        path.toList ++ '/' :: 'v' :: number.toList := by
      simp
    rw [spelled]
    exact last.naming_version isVersion
  · exact defaultShortName_of_naming ((IsLastSegment.self some_left no_slash).naming unversioned)
  · have spelled : (path ++ ".v" ++ number).toList =
        path.toList ++ '.' :: 'v' :: number.toList := by
      simp
    have suffix_no_slash : '/' ∉ '.' :: 'v' :: number.toList := by
      simpa using isVersion.not_mem (c := '/') (by decide) rfl
    -- with its dot the longer segment is no major version
    have longer : ¬ IsVersion (segment.toList ++ '.' :: 'v' :: number.toList) := by
      intro whole
      exact whole.not_mem (c := '.') (by decide) rfl (by simp)
    have naming := (last.append ends suffix_no_slash).naming longer
    rw [← spelled] at naming
    rw [defaultShortName_of_naming naming, dropVersionSuffix_append some_left isVersion,
      dropVersionSuffix_eq_self_iff.mpr noVersion]

theorem defaultShortName_of_version_slashes :
    defaultShortName "v1//go.v/yaml.x" = "yaml_x" ∧
      defaultShortName "v1//go.v/yaml.x///" = "yaml_x" ∧
      defaultShortName "v1//go.v/yaml.x/v007" = "yaml_x" ∧
      defaultShortName "v1//go.v/yaml.x.v007" = "yaml_x" ∧
      defaultShortName "yaml.x" = "yaml_x" := by
  have name : defaultShortName "v1//go.v/yaml.x" = "yaml_x" := by decide +kernel
  have last : IsLastSegment "v1//go.v/yaml.x".toList "yaml.x".toList :=
    isLastSegment_iff.mpr (by decide +kernel)
  have isNumber : IsNumber "007".toList := ⟨by simp, by simp⟩
  have unversioned : ¬ IsVersion "yaml.x".toList := mt isMajorVersion_iff.mpr (by decide +kernel)
  have noVersion : ¬ HasVersion "yaml.x".toList :=
    dropVersionSuffix_eq_self_iff.mp (by decide +kernel)
  obtain ⟨slashes, segment, alone, suffix⟩ := defaultShortName_of_version last unversioned isNumber
  rw [name] at slashes segment alone suffix
  exact ⟨name, slashes 3, segment, suffix (by simp) noVersion, alone⟩

end Stencil
