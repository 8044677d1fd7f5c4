import Stencil.Proofs.Tag.Pairs
import Stencil.Tag.Decoding

/-
  Decoding a quoted text piece by piece. A round takes a whole escape or a single character, and
  what it leaves is again a text without bare quotes whose last backslash has a character behind
  it; the digits of an escape are as many as 32 bits hold.

  Proved: `toOption_readPieces` and `toOption_decodeQuoted`, the pieces give what is decoded at once;
  `Body.decodeQuoted_fault`, the faults that do not come up in such a text between its quotes.
-/

namespace Stencil.Tag

open Text

/-! ## Numbers -/

section

variable {base count n m d : Nat} {c : Char} {s digits : List Char}

theorem digitOf_lt (h : digitOf base c = some d) : d < base := by
  rw [digitOf, Option.filter_eq_some_iff] at h
  exact of_decide_eq_true h.2

theorem fitted_of_lt (h : n < 2 ^ 32) : fitted n = .ok n := if_pos h

/-- A number that has room for `count + 1` digits has room for `count` behind the next one. -/
theorem room_digit (room : (n + 1) * base ^ (count + 1) ≤ 2 ^ 32) (h : d < base) :
    (n * base + d + 1) * base ^ count ≤ 2 ^ 32 := by
  calc (n * base + d + 1) * base ^ count
      ≤ ((n + 1) * base) * base ^ count :=
        Nat.mul_le_mul_right _ (by rw [Nat.succ_mul]; omega)
    _ = (n + 1) * base ^ (count + 1) := by rw [Nat.pow_succ', Nat.mul_assoc]
    _ ≤ 2 ^ 32 := room

theorem lt_of_room (positive : 0 < base) (room : (n + 1) * base ^ count ≤ 2 ^ 32) :
    n < 2 ^ 32 := by
  calc n < n + 1 := Nat.lt_succ_self n
    _ ≤ (n + 1) * base ^ count := Nat.le_mul_of_pos_right _ (Nat.pow_pos positive)
    _ ≤ 2 ^ 32 := room

/-- A digit is added without an overflow. -/
theorem readDigits_cons (room : (n + 1) * base ^ (count + 1) ≤ 2 ^ 32)
    (h : digitOf base c = some d) (s : List Char) :
    readDigits base (count + 1) n (c :: s) = readDigits base count (n * base + d) s := by
  have small : n * base + d < 2 ^ 32 :=
    lt_of_room (Nat.zero_lt_of_lt (digitOf_lt h)) (room_digit room (digitOf_lt h))
  have product : n * base < 2 ^ 32 := Nat.lt_of_le_of_lt (Nat.le_add_right _ _) small
  simp only [readDigits, fitted_of_lt product, h, fitted_of_lt small, bind, Except.bind]

/-- Where no digit is next, the digits are too few. -/
theorem readDigits_stop (positive : 0 < base) (room : (n + 1) * base ^ (count + 1) ≤ 2 ^ 32)
    (h : ∀ c ∈ s.head?, digitOf base c = none) :
    readDigits base (count + 1) n s = .error .noDigit := by
  have product : n * base < 2 ^ 32 := by
    have next := lt_of_room positive (room_digit room positive)
    omega
  simp only [readDigits, fitted_of_lt product, bind, Except.bind]
  cases s with
  | nil => rfl
  | cons c s => simp only [h c rfl]

/-- The number that goes on with some digits. -/
def numberFrom (base n : Nat) (digits : List Char) : Option Nat :=
  digits.foldlM (fun n c => (digitOf base c).map (n * base + ·)) n

theorem numberFrom_cons (base n : Nat) (c : Char) (digits : List Char) :
    numberFrom base n (c :: digits) =
      (digitOf base c).bind fun d => numberFrom base (n * base + d) digits := by
  rw [numberFrom, List.foldlM_cons]
  cases digitOf base c <;> rfl

theorem plain_of_numberFrom (h : numberFrom base n digits = some m) :
    ∀ c ∈ digits, c ≠ '"' ∧ c ≠ '\\' := by
  induction digits generalizing n with
  | nil => simp
  | cons c digits ih =>
    rw [numberFrom_cons] at h
    obtain ⟨d, digit, others⟩ := Option.bind_eq_some_iff.mp h
    intro c' mem
    rcases List.mem_cons.mp mem with rfl | mem
    · constructor <;> rintro rfl <;> cases digit
    · exact ih others c' mem

/-- The number that goes on with the next `count` characters, if there are as many digits. -/
def numberAt (base count n : Nat) (s : List Char) : Option Nat :=
  if count ≤ s.length then numberFrom base n (s.take count) else none

theorem numberAt_cons (base count n : Nat) (c : Char) (s : List Char) :
    numberAt base (count + 1) n (c :: s) =
      (digitOf base c).bind fun d => numberAt base count (n * base + d) s := by
  unfold numberAt
  rw [List.take_succ_cons, numberFrom_cons, List.length_cons]
  by_cases enough : count ≤ s.length
  · simp [enough]
  · simp [enough]

/-- Digits are read to their number, and nothing but too few of them can be wrong. Each digit uses
up one factor of the room. -/
theorem readDigits_eq (positive : 0 < base) (room : (n + 1) * base ^ count ≤ 2 ^ 32)
    (s : List Char) : readDigits base count n s =
      match numberAt base count n s with
      | some m => .ok (m, s.drop count)
      | none => .error .noDigit := by
  induction count generalizing n s with
  | zero => simp [readDigits, numberAt, numberFrom]
  | succ count ih =>
    cases s with
    | nil => exact readDigits_stop positive room (by simp)
    | cons c s =>
      rw [numberAt_cons]
      cases digit : digitOf base c with
      | none => exact readDigits_stop positive room (by simpa using digit)
      | some d =>
        rw [readDigits_cons room digit]
        exact ih (room_digit room (digitOf_lt digit)) s

theorem readNumber_eq (positive : 0 < base) (room : (n + 1) * base ^ count ≤ 2 ^ 32)
    (give : Nat → Except Fault (List UInt8)) (s : List Char) :
    readNumber base count n give s =
      match numberAt base count n s with
      | some m => (give m).map (·, s.drop count)
      | none => .error .noDigit := by
  rw [readNumber, readDigits_eq positive room]
  cases numberAt base count n s with
  | none => rfl
  | some m =>
    change (give m >>= fun bytes => _) = (give m).map _
    cases give m <;> rfl

end

/-! ## Pieces -/

/-- What decoding does not come to in a text that ends as its quotes do. -/
def unmet : List Fault := [.noQuotes, .bareQuote, .openEscape, .overflow]

section

variable {base count n m : Nat} {c : Char} {s plain : List Char} {fault : Fault}
  {give : Nat → Except Fault (List UInt8)}

theorem Body.of_append (each : ∀ c ∈ plain, c ≠ '"' ∧ c ≠ '\\') (body : Body (plain ++ s)) :
    Body s := by
  induction plain with
  | nil => exact body
  | cons c plain ih =>
    rw [List.cons_append] at body
    generalize plain ++ s = s' at body ih
    cases body with
    | plain _ _ others => exact ih (fun d mem => each d (List.mem_cons_of_mem c mem)) others
    | escaped => exact absurd rfl (each '\\' List.mem_cons_self).2

theorem Body.of_numberAt (body : Body s) (h : numberAt base count n s = some m) :
    Body (s.drop count) := by
  rw [numberAt] at h
  split at h
  · rw [← List.take_append_drop count s] at body
    exact body.of_append (plain_of_numberFrom h)
  · cases h

theorem asByte_fault (h : asByte n = .error fault) : fault ∉ unmet := by
  rw [asByte] at h
  split at h <;> cases h
  simp [unmet]

theorem asChar_fault (h : asChar n = .error fault) : fault ∉ unmet := by
  rw [asChar] at h
  split at h <;> cases h
  simp [unmet]

/-- A piece of a body has been read and a body is left, or decoding ends there with a fault. -/
def Leads : Except Fault (List UInt8 × List Char) → Prop
  | .ok (_, rest) => Body rest
  | .error fault => fault ∉ unmet

theorem Body.leads_readNumber (body : Body s) (positive : 0 < base)
    (room : (n + 1) * base ^ count ≤ 2 ^ 32)
    (each : ∀ m fault, give m = .error fault → fault ∉ unmet) :
    Leads (readNumber base count n give s) := by
  rw [readNumber_eq positive room]
  cases number : numberAt base count n s with
  | none => simp [Leads, unmet]
  | some m =>
    dsimp only
    cases given : give m with
    | error fault => exact each m fault given
    | ok bytes => exact body.of_numberAt number

/-- The numbers of all escapes have room in 32 bits. -/
theorem Body.leads_readEscape (body : Body s) (c : Char) : Leads (readEscape (c :: s)) := by
  rw [readEscape.eq_def]
  split
  all_goals
    rename_i shape
    cases shape
  · exact body.leads_readNumber (by decide) (by decide) fun _ _ => asByte_fault
  · exact body.leads_readNumber (by decide) (by decide) fun _ _ => asChar_fault
  · exact body.leads_readNumber (by decide) (by decide) fun _ _ => asChar_fault
  · split
    · exact body
    · rename_i d _ digit
      have small := digitOf_lt digit
      exact body.leads_readNumber (by decide) (by omega) fun _ _ => asByte_fault
    · simp [Leads, unmet]

/-- One round of decoding: a body has no quote at its start and no backslash at its end. -/
theorem Body.leads_readPiece (body : Body (c :: s)) : Leads (readPiece c s) := by
  cases body with
  | plain notQuote notBackslash others =>
    rw [readPiece, if_neg notBackslash, if_neg notQuote]
    split
    · simp [Leads, unmet]
    · exact others
  | @escaped c s others =>
    rw [readPiece, if_pos rfl]
    exact others.leads_readEscape c

theorem Body.readPieces_fault (body : Body s) (h : readPieces s = .error fault) :
    fault ∉ unmet := by
  fun_induction readPieces s with
  | case1 => cases h
  | case2 c s bytes rest piece ih =>
    have left : Leads (.ok (bytes, rest)) := piece ▸ body.leads_readPiece
    cases others : readPieces rest with
    | ok more =>
      rw [others] at h
      cases h
    | error fault' =>
      rw [others] at h
      cases h
      exact ih left others
  | case3 c s fault' piece =>
    cases h
    have ended : Leads (.error fault) := piece ▸ body.leads_readPiece
    exact ended

end

/-! ## All at once -/

section

variable {base count n : Nat} {c : Char} {s : List Char} {give : Nat → Except Fault (List UInt8)}

/-- What is decoded where a piece has been read. -/
def decodeBehind (piece : Except Fault (List UInt8 × List Char)) : Option (List UInt8) :=
  piece.toOption.bind fun (bytes, rest) => joinBytes (some bytes) (decodeBytes rest)

theorem decodeBehind_readNumber (positive : 0 < base) (room : (n + 1) * base ^ count ≤ 2 ^ 32) :
    decodeBehind (readNumber base count n give s) =
      (numberAt base count n s).bind fun m =>
        joinBytes (give m).toOption (decodeBytes (s.drop count)) := by
  rw [readNumber_eq positive room]
  cases numberAt base count n s with
  | none => rfl
  | some m =>
    change decodeBehind ((give m).map _) = joinBytes (give m).toOption _
    cases give m <;> rfl

theorem byteOf_eq_bind (base : Nat) (digits : List Char) :
    byteOf base digits = (numberFrom base 0 digits).bind fun n => (asByte n).toOption := by
  change (match numberFrom base 0 digits with | some n => _ | none => _) = _
  cases numberFrom base 0 digits with
  | none => rfl
  | some n =>
    by_cases small : n < 256
    · simp [asByte, small, Except.toOption]
    · simp [asByte, small, Except.toOption]

theorem charBytesOf_eq_bind (digits : List Char) :
    charBytesOf digits = (numberFrom 16 0 digits).bind fun n => (asChar n).toOption := by
  change ((numberFrom 16 0 digits).bind charOf).map String.utf8EncodeChar = _
  cases numberFrom 16 0 digits with
  | none => rfl
  | some n =>
    rw [Option.bind_some, Option.bind_some, asChar]
    cases charOf n <;> rfl

/-- Escapes that do not begin with a letter and as many characters as it takes digits. -/
theorem decodeBytes_other (c : Char) (s : List Char) :
    (c = 'x' → s.length < 2) → (c = 'u' → s.length < 4) → (c = 'U' → s.length < 8) →
    decodeBytes ('\\' :: c :: s) =
      match namedEscape c with
      | some byte => joinBytes (some [byte]) (decodeBytes s)
      | none => match s with
        | a :: b :: more => joinBytes (byteOf 8 [c, a, b]) (decodeBytes more)
        | _ => none := by
  intro x u U
  rw [decodeBytes.eq_def]
  split
  all_goals
    rename_i shape
    cases shape
  · exact absurd (x rfl) (by simp)
  · exact absurd (u rfl) (by simp)
  · exact absurd (U rfl) (by simp)
  · rfl
  · rename_i other
    exact (other c s rfl rfl).elim

theorem decodeBytes_other_none (named : namedEscape c = none) (octal : digitOf 8 c = none)
    (x : c = 'x' → s.length < 2) (u : c = 'u' → s.length < 4) (U : c = 'U' → s.length < 8) :
    decodeBytes ('\\' :: c :: s) = none := by
  rw [decodeBytes_other c s x u U, named]
  match s with
  | [] => rfl
  | [_] => rfl
  | a :: b :: more =>
    dsimp only
    rw [byteOf_eq_bind, numberFrom_cons, octal]
    rfl

/-- An escape of a letter with hex digits, where what is decoded at once is said for enough digits
and for too few. -/
theorem decodeBytes_letter (room : (0 + 1) * 16 ^ count ≤ 2 ^ 32)
    (row : ∀ s, readEscape (c :: s) = readNumber 16 count 0 give s)
    (enough : ∀ digits rest, digits.length = count → decodeBytes ('\\' :: c :: (digits ++ rest)) =
      joinBytes ((numberFrom 16 0 digits).bind fun n => (give n).toOption) (decodeBytes rest))
    (few : s.length < count → decodeBytes ('\\' :: c :: s) = none) :
    decodeBytes ('\\' :: c :: s) = decodeBehind (readEscape (c :: s)) := by
  rw [row, decodeBehind_readNumber (by decide) room, numberAt]
  rcases Nat.lt_or_ge s.length count with short | long
  · rw [few short, if_neg (Nat.not_le.mpr short)]
    rfl
  · have digits := enough (s.take count) (s.drop count) (by simpa using long)
    rw [List.take_append_drop] at digits
    rw [digits, if_pos long]
    cases numberFrom 16 0 (s.take count) <;> rfl

theorem readEscape_other (x : c ≠ 'x') (u : c ≠ 'u') (U : c ≠ 'U') (s : List Char) :
    readEscape (c :: s) =
      match namedEscape c, digitOf 8 c with
      | some byte, _ => .ok ([byte], s)
      | none, some d => readNumber 8 2 d asByte s
      | none, none => .error (.unknownEscape c) := by
  rw [readEscape.eq_def]
  split
  all_goals
    rename_i shape
    cases shape
  · exact absurd rfl x
  · exact absurd rfl u
  · exact absurd rfl U
  · rfl

theorem decodeBehind_octal {d : Nat} (octal : digitOf 8 c = some d) (s : List Char) :
    decodeBehind (readNumber 8 2 d asByte s) =
      match s with
      | a :: b :: more => joinBytes (byteOf 8 [c, a, b]) (decodeBytes more)
      | _ => none := by
  have small := digitOf_lt octal
  rw [decodeBehind_readNumber (by decide) (by omega)]
  match s with
  | [] => rfl
  | [_] => rfl
  | a :: b :: more =>
    have number : byteOf 8 [c, a, b] =
        (numberFrom 8 d [a, b]).bind fun n => (asByte n).toOption := by
      rw [byteOf_eq_bind, numberFrom_cons, octal, Option.bind_some, Nat.zero_mul, Nat.zero_add]
    have two : numberAt 8 2 d (a :: b :: more) = numberFrom 8 d [a, b] := if_pos (by simp)
    dsimp only
    rw [number, two]
    cases numberFrom 8 d [a, b] <;> rfl

/-- A backslash and what it takes are decoded at once as they are piece by piece. -/
theorem decodeBytes_escape (c : Char) (s : List Char) :
    decodeBytes ('\\' :: c :: s) = decodeBehind (readEscape (c :: s)) := by
  by_cases x : c = 'x'
  · subst x
    refine decodeBytes_letter (by decide) (fun _ => rfl) (fun digits rest length => ?_)
      fun few => decodeBytes_other_none rfl rfl (fun _ => few) (by simp) (by simp)
    rw [← byteOf_eq_bind]
    match digits, length with
    | [_, _], _ => rfl
  by_cases u : c = 'u'
  · subst u
    refine decodeBytes_letter (by decide) (fun _ => rfl) (fun digits rest length => ?_)
      fun few => decodeBytes_other_none rfl rfl (by simp) (fun _ => few) (by simp)
    rw [← charBytesOf_eq_bind]
    match digits, length with
    | [_, _, _, _], _ => rfl
  by_cases U : c = 'U'
  · subst U
    refine decodeBytes_letter (by decide) (fun _ => rfl) (fun digits rest length => ?_)
      fun few => decodeBytes_other_none rfl rfl (by simp) (by simp) (fun _ => few)
    rw [← charBytesOf_eq_bind]
    match digits, length with
    | [_, _, _, _, _, _, _, _], _ => rfl
  have row := decodeBytes_other c s (absurd · x) (absurd · u) (absurd · U)
  rw [readEscape_other x u U]
  cases named : namedEscape c with
  | some byte =>
    rw [row, named]
    rfl
  | none =>
    cases octal : digitOf 8 c with
    | some d =>
      rw [row, named]
      exact (decodeBehind_octal octal s).symm
    | none => exact decodeBytes_other_none named octal (absurd · x) (absurd · u) (absurd · U)

theorem decodeBytes_cons (c : Char) (s : List Char) :
    decodeBytes (c :: s) = decodeBehind (readPiece c s) := by
  by_cases backslash : c = '\\'
  · subst backslash
    rw [readPiece, if_pos rfl]
    cases s with
    | nil => rfl
    | cons c s => exact decodeBytes_escape c s
  rw [readPiece, if_neg backslash, decodeBytes]
  · by_cases quote : c = '"'
    · rw [if_pos quote, if_pos (.inl quote)]
      rfl
    by_cases newline : c = '\n'
    · rw [if_neg quote, if_pos newline, if_pos (.inr newline)]
      rfl
    · rw [if_neg quote, if_neg newline, if_neg (not_or.mpr ⟨quote, newline⟩)]
      rfl
  all_goals intros; contradiction

/-- Decoding piece by piece gives what decoding at once gives. -/
theorem toOption_readPieces (s : List Char) : (readPieces s).toOption = decodeBytes s := by
  fun_induction readPieces s with
  | case1 => rfl
  | case2 c s bytes rest piece ih =>
    rw [decodeBytes_cons, piece]
    change _ = joinBytes (some bytes) (decodeBytes rest)
    rw [← ih]
    cases readPieces rest <;> rfl
  | case3 c s fault piece =>
    rw [decodeBytes_cons, piece]
    rfl

end

/-! ## Between quotes -/

theorem unwrap_quoted (value : List Char) : unwrap ('"' :: (value ++ ['"'])) = .ok value := by
  simp [unwrap, stripHead]

theorem toOption_decodeQuoted (value : List Char) :
    (decodeQuoted ('"' :: (value ++ ['"']))).toOption = decode value := by
  rw [decodeQuoted, unwrap_quoted, decode, ← toOption_readPieces]
  change (readPieces value >>= asText).toOption = _
  cases readPieces value with
  | error fault => rfl
  | ok bytes =>
    change (asText bytes).toOption = ofUtf8 bytes
    rw [asText]
    cases ofUtf8 bytes <;> rfl

theorem asText_fault {bytes : List UInt8} {fault : Fault} (h : asText bytes = .error fault) :
    fault ∉ unmet := by
  rw [asText] at h
  split at h <;> cases h
  simp [unmet]

theorem Body.decodeQuoted_fault {value : List Char} {fault : Fault} (body : Body value)
    (h : decodeQuoted ('"' :: (value ++ ['"'])) = .error fault) : fault ∉ unmet := by
  rw [decodeQuoted, unwrap_quoted] at h
  change readPieces value >>= asText = _ at h
  cases pieces : readPieces value with
  | error fault' =>
    rw [pieces] at h
    cases h
    exact body.readPieces_fault pieces
  | ok bytes =>
    rw [pieces] at h
    exact asText_fault h

end Stencil.Tag
