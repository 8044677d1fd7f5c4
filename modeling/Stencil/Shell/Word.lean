import Stencil.Text.Split

/-
  Shell scripts as words and signs. A word is made of pieces, some of them quoted: a piece is
  a text, or stands for the value of a parameter or for the output of another script.
-/

namespace Stencil.Shell

/-- What a parameter gives. A rule with an operand applies to parameters that are not set; with
a colon, also to those with an empty value. -/
inductive Rule where
  | value
  | size
  | orElse (colon : Bool)
  | orAssign (colon : Bool)
  | orFail (colon : Bool)
  /-- The operand, unless the rule applies. -/
  | replaced (colon : Bool)
  /-- The value without a part at its end, or at its start, that the operand matches. -/
  | trimmed (atEnd longest : Bool)
  deriving DecidableEq, Repr

inductive Piece where
  | text (s : List Char) (quoted : Bool)
  | param (name : String) (rule : Rule) (operand : List Piece) (quoted : Bool)
  | output (script : List Char) (quoted : Bool)
  /-- The value of an arithmetic expression. -/
  | number (expression : List Piece) (quoted : Bool)

abbrev Word := List Piece

/-- What is wrong with the form of a script. -/
inductive Fault where
  | openQuote
  | openBackquote
  | openBrace
  | openArithmetic
  | badSubstitution
  | badLoopVariable
  | badFunctionName
  | unexpected (found : String) (wanted : Option String)
  deriving DecidableEq, Repr

def Fault.message : Fault → String
  | openQuote => "Syntax error: Unterminated quoted string"
  | openBackquote => "Syntax error: EOF in backquote substitution"
  | openBrace => "Syntax error: Missing '\x7d'"
  | openArithmetic => "Syntax error: Missing '))'"
  | badSubstitution => "Bad substitution"
  | badLoopVariable => "Syntax error: Bad for loop variable"
  | badFunctionName => "Syntax error: Bad function name"
  | unexpected found wanted =>
    "Syntax error: " ++ found ++ " unexpected" ++
      (match wanted with
        | some wanted => " (expecting " ++ wanted ++ ")"
        | none => "")

/-- Where a redirected stream leads. -/
inductive Direction where
  | fromFile
  | toFile
  | toEnd
  /-- The text that is given. -/
  | fromText
  /-- The stream whose number is given. -/
  | same
  deriving DecidableEq, Repr

inductive Token where
  | word (w : Word)
  /-- A sign; a line end is the sign "\n". -/
  | sign (s : String)
  /-- The next word says where the stream leads. -/
  | redirect (stream : Nat) (direction : Direction)
  /-- The script cannot be read further. -/
  | fault (why : Fault)
  | finish

/-- A token, and the line it ends in. -/
structure Lexeme where
  token : Token
  line : Nat

def isBreak (c : Char) : Bool := c ∈ [' ', '\t', '\n', ';', '&', '|', '<', '>', '(', ')']

def isName (c : Char) : Bool := c.isAlphanum || c = '_'

/-! ## Nested parts -/

/-- What is open in a script until a sign of its own closes it. -/
inductive Opening where
  | paren
  | brace
  | quotes
  | apostrophe

/-- What is open after a character. -/
def Opening.after : Opening → Char → List Opening
  | apostrophe, c => if c = '\'' then [] else [apostrophe]
  | quotes, c => if c = '"' then [] else [quotes]
  | paren, c =>
    if c = ')' then []
    else if c = '(' then [paren, paren]
    else if c = '"' then [quotes, paren]
    else if c = '\'' then [apostrophe, paren]
    else [paren]
  | brace, c =>
    if c = '\x7d' then []
    else if c = '"' then [quotes, brace]
    else if c = '\'' then [apostrophe, brace]
    else [brace]

/-- The characters up to the one that closes all that is open, and what follows them. -/
def enclosed : List Opening → List Char → Option (List Char × List Char)
  | [], s => some ([], s)
  | _, [] => none
  | .apostrophe :: outer, c :: rest =>
    (enclosed (Opening.apostrophe.after c ++ outer) rest).map fun (t, after) => (c :: t, after)
  | opening, '\\' :: c :: rest =>
    (enclosed opening rest).map fun (t, after) => ('\\' :: c :: t, after)
  | opening, '$' :: '(' :: rest =>
    (enclosed (.paren :: opening) rest).map fun (t, after) => ('$' :: '(' :: t, after)
  | opening, '$' :: '\x7b' :: rest =>
    (enclosed (.brace :: opening) rest).map fun (t, after) => ('$' :: '\x7b' :: t, after)
  | o :: outer, c :: rest =>
    (enclosed (o.after c ++ outer) rest).map fun (t, after) => (c :: t, after)

/-- The characters before the one that closes `o`, and those behind it. -/
def inside (o : Opening) (s : List Char) : Option (List Char × List Char) :=
  (enclosed [o] s).map fun (t, after) => (t.dropLast, after)

/-- The script up to the closing backquote, and what follows; a backslash keeps the next
character from its meaning. -/
def backquoted (quoted : Bool) : List Char → Option (List Char × List Char)
  | [] => none
  | '\x60' :: rest => some ([], rest)
  | '\\' :: c :: rest =>
    let kept := c = '$' ∨ c = '\\' ∨ c = '\x60' ∨ (quoted ∧ c = '"')
    (backquoted quoted rest).map fun (t, after) =>
      (if kept then c :: t else '\\' :: c :: t, after)
  | c :: rest => (backquoted quoted rest).map fun (t, after) => (c :: t, after)

/-! ## Words -/

/-- The name of a parameter at the front, with all its digits if `long`, and the rest. -/
def takeName (long : Bool) (s : List Char) : Option (String × List Char) :=
  match s with
  | c :: rest =>
    if c.isDigit ∧ long then
      some (String.ofList (s.takeWhile Char.isDigit), s.dropWhile Char.isDigit)
    else if c.isDigit ∨ c ∈ ['@', '*', '#', '?', '$', '!', '-'] then some (c.toString, rest)
    else if isName c then some (String.ofList (s.takeWhile isName), s.dropWhile isName)
    else none
  | [] => none

/-- What the text behind the name of a parameter in braces says, and its operand. -/
def ruleOf (s : List Char) : Option (Rule × List Char) :=
  let named := fun (colon : Bool) (c : Char) => match c with
    | '-' => some (Rule.orElse colon)
    | '=' => some (Rule.orAssign colon)
    | '?' => some (Rule.orFail colon)
    | '+' => some (Rule.replaced colon)
    | _ => none
  match s with
  | [] => some (.value, [])
  | '%' :: '%' :: operand => some (.trimmed true true, operand)
  | '%' :: operand => some (.trimmed true false, operand)
  | '#' :: '#' :: operand => some (.trimmed false true, operand)
  | '#' :: operand => some (.trimmed false false, operand)
  | ':' :: c :: operand => (named true c).map (·, operand)
  | c :: operand => (named false c).map (·, operand)

/-- The parameter that a text in braces names, its rule, and the operand. -/
def readBraces (s : List Char) : Option (String × Rule × List Char) :=
  let plain := (takeName true s).bind fun (name, rest) =>
    (ruleOf rest).map fun (rule, operand) => (name, rule, operand)
  match s with
  | '#' :: counted =>
    match takeName true counted with
    | some (name, []) => some (name, .size, [])
    | _ => plain
  | _ => plain

/-- Where some pieces stand: in the open, between double quotes, in braces, or in a text of its
own. -/
inductive Place where
  | bare
  | quotes
  | braces (quoted : Bool)
  | lines
  deriving DecidableEq, Repr

def Place.quoted : Place → Bool
  | bare => false
  | quotes => true
  | braces quoted => quoted
  | lines => true

/-- Whether a backslash takes the meaning of a character away. -/
def Place.escapes (place : Place) (c : Char) : Bool :=
  !place.quoted || c ∈ ['$', '\x60', '\\'] || (c = '"' && place ≠ .lines) ||
    (c = '\x7d' && place = .braces true)

/-- The pieces at the front, and what follows them; `n` bounds the number of steps. -/
def takePieces : Nat → Place → List Char → Except Fault (Word × List Char)
  | 0, _, _ => .error .openQuote
  | n + 1, place, s =>
    let push := fun (ps : Word) (rest : List Char) =>
      (takePieces n place rest).map fun (qs, after) => (ps ++ qs, after)
    let quoted := place.quoted
    match s with
    | [] => if place = .quotes then .error .openQuote else .ok ([], [])
    | '\\' :: '\n' :: rest => push [] rest
    | '\\' :: c :: rest =>
      if place.escapes c then push [.text [c] true] rest
      else push [.text ['\\', c] true] rest
    | '$' :: '(' :: '(' :: rest =>
      match inside .paren rest with
      | some (expression, ')' :: after) => do
        let (expression, _) ← takePieces n (.braces true) expression
        push [.number expression quoted] after
      | _ => .error .openArithmetic
    | '$' :: '(' :: rest =>
      match inside .paren rest with
      | some (script, after) => push [.output script quoted] after
      | none => .error (.unexpected "end of file" (some "\")\""))
    | '\x60' :: rest =>
      match backquoted quoted rest with
      | some (script, after) => push [.output script quoted] after
      | none => .error .openBackquote
    | '$' :: '\x7b' :: rest =>
      match inside .brace rest with
      | none => .error (if quoted then .openQuote else .openBrace)
      | some (body, after) =>
        match readBraces body with
        | none => .error .badSubstitution
        | some (name, rule, operand) => do
          let isPattern := match rule with
            | .trimmed _ _ => true
            | _ => false
          let (operand, _) ← takePieces n (.braces (quoted && !isPattern)) operand
          push [.param name rule operand quoted] after
    | '$' :: rest =>
      match takeName false rest with
      | some (name, after) => push [.param name .value [] quoted] after
      | none => push [.text ['$'] quoted] rest
    | '"' :: rest =>
      if place = .quotes then .ok ([], rest)
      else if place = .lines then push [.text ['"'] true] rest
      else do
        let (ps, after) ← takePieces n .quotes rest
        push (if ps.isEmpty then [.text [] true] else ps) after
    | c :: rest =>
      if c = '\'' ∧ !quoted then
        match Text.cut '\'' rest with
        | some (inside, after) => push [.text inside true] after
        | none => .error .openQuote
      else if isBreak c ∧ place = .bare then .ok ([], s)
      else push [.text [c] quoted] rest

def Word.letters : Word → Option (List Char)
  | [] => some []
  | .text s false :: rest => (Word.letters rest).map (s ++ ·)
  | _ => none

/-- The text of a word that has only plain text. -/
def Word.plain (w : Word) : Option String := w.letters.map String.ofList

/-- The name before the first equals sign of a word, and the word behind it. -/
def Word.splitAssignment : Word → Option (List Char × Word)
  | .text ['='] false :: rest => some ([], rest)
  | .text [c] false :: rest =>
    if isName c then (Word.splitAssignment rest).map fun (name, value) => (c :: name, value)
    else none
  | _ => none

/-- Whether a text is a name for a variable. -/
def isVariable (name : List Char) : Bool :=
  match name with
  | c :: _ => name.all isName && !c.isDigit
  | [] => false

/-- The variable that a word gives a value, and the value. -/
def Word.assignment? (w : Word) : Option (String × Word) :=
  match w.splitAssignment with
  | some (name, value) => if isVariable name then some (String.ofList name, value) else none
  | none => none

/-! ## Tokens -/

/-- The letters of a word whatever is quoted, and whether something is. -/
def Word.delimiter (w : Word) : List Char × Bool :=
  (w.flatMap fun
    | .text s _ => s
    | _ => [],
   w.any fun
    | .text _ quoted => quoted
    | _ => false)

/-- The text between the next line and a line that is the delimiter, without tabs at the line
starts if `stripped`, and what stands around it. -/
def takeLines (stripped : Bool) (delimiter s : List Char) : List Char × List Char :=
  let strip := fun (line : List Char) => if stripped then line.dropWhile (· = '\t') else line
  let lines := ((s.dropWhile (· ≠ '\n')).drop 1).splitOn '\n'
  let isInside := fun (line : List Char) => strip line ≠ delimiter
  let body := (lines.takeWhile isInside).map strip
  let line := s.takeWhile (· ≠ '\n')
  match lines.dropWhile isInside with
  | [] => (['\n'].intercalate body, line)
  | _ :: after => (body.flatMap (· ++ ['\n']), line ++ '\n' :: ['\n'].intercalate after)

/-- The tokens of a script from a line on; `n` bounds their number. -/
def tokens : Nat → (line : Nat) → List Char → List Lexeme
  | 0, line, _ => [⟨.finish, line⟩]
  | n + 1, line, s =>
    let push := fun (t : Token) (rest : List Char) => ⟨t, line⟩ :: tokens n line rest
    let text := fun (stripped : Bool) (s : List Char) =>
      match takePieces (s.length + 1) .bare (s.dropWhile fun c => c = ' ' || c = '\t') with
      | .error why => [⟨.fault why, line⟩]
      | .ok (w, after) =>
        let (delimiter, quoted) := w.delimiter
        let (body, after) := takeLines stripped delimiter after
        let pieces := if quoted then .ok ([.text body true], [])
          else takePieces (body.length + 1) .lines body
        match pieces with
        | .error why => [⟨.fault why, line⟩]
        | .ok (w, _) => ⟨.redirect 0 .fromText, line⟩ :: ⟨.word w, line⟩ :: tokens n line after
    match s with
    | [] => [⟨.finish, line⟩]
    | '\n' :: rest => ⟨.sign "\n", line + 1⟩ :: tokens n (line + 1) rest
    | '\\' :: '\n' :: rest => tokens n (line + 1) rest
    | '&' :: '&' :: rest => push (.sign "&&") rest
    | '|' :: '|' :: rest => push (.sign "||") rest
    | ';' :: ';' :: rest => push (.sign ";;") rest
    | '>' :: '&' :: rest => push (.redirect 1 .same) rest
    | '<' :: '&' :: rest => push (.redirect 0 .same) rest
    | '>' :: '>' :: rest => push (.redirect 1 .toEnd) rest
    | '>' :: '|' :: rest | '>' :: rest => push (.redirect 1 .toFile) rest
    | '<' :: '<' :: '-' :: rest => text true rest
    | '<' :: '<' :: rest => text false rest
    | '<' :: rest => push (.redirect 0 .fromFile) rest
    | '#' :: rest => tokens n line (rest.dropWhile (· ≠ '\n'))
    | c :: rest =>
      let numbered := fun (more : List Char) =>
        match tokens n line more with
        | ⟨.redirect _ direction, l⟩ :: after =>
          ⟨.redirect (c.toNat - '0'.toNat) direction, l⟩ :: after
        | after => after
      if c = ' ' ∨ c = '\t' then tokens n line rest
      else if isBreak c then push (.sign c.toString) rest
      else if c.isDigit ∧ (rest.head? = some '>' ∨ rest.head? = some '<') then numbered rest
      else
        match takePieces (s.length + 1) .bare s with
        | .error why => [⟨.fault why, line + s.count '\n'⟩]
        | .ok (w, after) =>
          let consumed := s.take (s.length - after.length)
          let line := line + consumed.count '\n'
          ⟨.word w, line⟩ :: tokens n line after

end Stencil.Shell
