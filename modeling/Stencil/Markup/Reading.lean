import Stencil.Markup.Attributes

/-
  The reader of markup that the library is run with. Results that rest on how texts are read are
  stated for any reader, with what they take for granted of it; this one has all of that.
-/

namespace Stencil.Markup

open Text

/-- The inside of a tag and what follows it; `quote` is the quote that is open. -/
def readTag : Option Char → List Char → Except Fault (List Char × List Char)
  | none, [] => .error .tagUnclosed
  | some quote, [] => .error (.quoteUnclosed quote)
  | none, c :: rest =>
    if c = '>' then .ok ([], rest)
    else
      let quote := if c = '"' ∨ c = '\'' then some c else none
      (readTag quote rest).map fun (inside, after) => (c :: inside, after)
  | some quote, c :: rest =>
    (readTag (if c = quote then none else some quote) rest).map
      fun (inside, after) => (c :: inside, after)

/-- What follows the text up to the next tag; a reference in it must end with a semicolon. -/
def skipText (inReference : Bool) : List Char → Except Fault (List Char)
  | [] => if inReference then .error .referenceUnclosed else .ok []
  | c :: rest =>
    if c = '<' then
      if inReference then .error .referenceUnclosed else .ok (c :: rest)
    else if c = '&' then
      if inReference then .error .referenceUnclosed else skipText true rest
    else skipText (inReference && c ≠ ';') rest

/-- Where the reading of a document type declaration stands. -/
inductive DoctypePlace where
  /-- Before the subset in square brackets; `quote` is the quote that is open. -/
  | heading (quote : Option Char)
  | subset
  /-- In a declaration of the subset, where quotes count. -/
  | declaration (quote : Option Char)
  /-- In other markup of the subset. -/
  | other
  /-- Behind the subset. -/
  | ending
  deriving DecidableEq

def isQuote (c : Char) : Bool := c = '"' || c = '\''

/-- The markup of the subset in which quotes count. -/
def quotingDeclarations : List (List Char) :=
  ["!ATTLIST".toList, "!ENTITY".toList, "!NOTATION".toList]

/-- What follows a document type declaration; every step takes at least one character, so `n`
bounds the number of steps. -/
def skipDoctype : Nat → DoctypePlace → List Char → Option (List Char)
  | 0, _, _ => none
  | _, _, [] => none
  | n + 1, place, c :: rest =>
    match place with
    | .heading none =>
      if c = '>' then some rest
      else if c = '[' then skipDoctype n .subset rest
      else skipDoctype n (.heading (if isQuote c then some c else none)) rest
    | .heading (some quote) =>
      skipDoctype n (.heading (if c = quote then none else some quote)) rest
    | .subset =>
      if c = ']' then skipDoctype n .ending rest
      else if c ≠ '<' then skipDoctype n .subset rest
      else match stripHead ['!', '-', '-'] rest, stripHead ['?'] rest with
        | some inside, _ => (cutAt ['-', '-', '>'] inside).bind fun (_, after) =>
          skipDoctype n .subset after
        | _, some inside => (cutAt ['?', '>'] inside).bind fun (_, after) =>
          skipDoctype n .subset after
        | none, none =>
          let quoting := quotingDeclarations.any (·.isPrefixOf rest)
          skipDoctype n (if quoting then .declaration none else .other) rest
    | .declaration none =>
      if c = '>' then skipDoctype n .subset rest
      else skipDoctype n (.declaration (if isQuote c then some c else none)) rest
    | .declaration (some quote) =>
      skipDoctype n (.declaration (if c = quote then none else some quote)) rest
    | .other => skipDoctype n (if c = '>' then .subset else .other) rest
    | .ending => if c = '>' then some rest else skipDoctype n .ending rest

/-- What follows a document type declaration, given what follows `<!`. -/
def readDoctype (s : List Char) : Except Fault (List Char) :=
  if (s.take 7).map Char.toUpper ≠ "DOCTYPE".toList then .error .doctypeUnclosed
  else match skipDoctype (s.length + 1) (.heading none) (s.drop 7) with
    | none => .error .doctypeUnclosed
    | some rest =>
      if ((s.drop 7).dropWhile isSpace).head? = some '>' then .error .doctypeNameless else .ok rest

/-- An event, the names open after it, and what follows. -/
structure Event.Step where
  event : Event
  openNames : List String
  rest : List Char

/-- What follows a comment, character section or document type, given what follows `<!`. -/
def readBang (s : List Char) : Except Fault (List Char) :=
  match s with
  | '-' :: _ =>
    match (stripHead ['-', '-'] s).bind (cutAt ['-', '-', '>']) with
    | some (_, rest) => .ok rest
    | none => .error .commentUnclosed
  | '[' :: _ =>
    match (stripHead "[CDATA[".toList s).bind (cutAt [']', ']', '>']) with
    | some (_, rest) => .ok rest
    | none => .error .cdataUnclosed
  | c :: _ =>
    if c = 'D' ∨ c = 'd' then readDoctype s
    else .error .unknownMarkup
  | [] => .error .unknownMarkup

/-- What follows an instruction, given what follows `<?`. -/
def readInstruction (s : List Char) : Except Fault (List Char) :=
  match cutAt ['?', '>'] ('?' :: s) with
  | some ([], _) => .error .instructionUnclosed
  | some (_, rest) => .ok rest
  | none =>
    match stripHead "xml".toList s with
    | some [] => .error .declarationUnclosed
    | some (c :: _) =>
      .error (if isSpace c ∨ c = '?' then .declarationUnclosed else .instructionUnclosed)
    | none => .error .instructionUnclosed

/-- A name without the spaces behind it; spaces alone are kept. -/
def trimName (name : List Char) : List Char :=
  match name.reverse.dropWhile isSpace with
  | [] => name
  | kept => kept.reverse

/-- Closes the innermost open element, given the inside of the tag behind its slash. -/
def closeTag (openNames : List String) (inside rest : List Char) : Except Fault Event.Step :=
  let name := String.ofList (trimName inside)
  match openNames with
  | [] => .error (.closeUnmatched name)
  | expected :: outer =>
    if name = expected then .ok ⟨.closed name, outer, rest⟩
    else .error (.closeMismatch expected name)

/-- The event of a start tag, given its inside. -/
def startTag (openNames : List String) (inside rest : List Char) : Event.Step :=
  let split := fun (s : List Char) =>
    (String.ofList (s.takeWhile (!isSpace ·)), attributesOf (s.dropWhile (!isSpace ·)))
  match inside.reverse with
  | '/' :: body =>
    let (name, attributes) := split body.reverse
    ⟨.empty name attributes, openNames, rest⟩
  | _ =>
    let (name, attributes) := split inside
    ⟨.opened name attributes, name :: openNames, rest⟩

/-- The next event of a text that is not empty. -/
def readEvent (openNames : List String) (first : Char) (rest : List Char) :
    Except Fault Event.Step :=
  if first ≠ '<' then do
    let after ← skipText false (first :: rest)
    .ok ⟨.inert, openNames, after⟩
  else match rest with
    | '!' :: s => (readBang s).map (⟨.inert, openNames, ·⟩)
    | '?' :: s => (readInstruction s).map (⟨.inert, openNames, ·⟩)
    | '/' :: _ => do
      let (inside, after) ← readTag none rest
      closeTag openNames (inside.drop 1) after
    | _ => do
      let (inside, after) ← readTag none rest
      .ok (startTag openNames inside after)

/-- All events; every event takes at least one character, so `n` bounds their number. -/
def readEvents : Nat → List String → List Char → Reading
  | 0, _, _ => ⟨[], none⟩
  | _, _, [] => ⟨[], none⟩
  | n + 1, openNames, first :: rest =>
    match readEvent openNames first rest with
    | .error fault => ⟨[], some fault⟩
    | .ok step =>
      let later := readEvents n step.openNames step.rest
      ⟨step.event :: later.events, later.fault⟩

/-- The events of a text; a byte order mark at its start is passed over. -/
def read (text : String) : Reading :=
  let s := match text.toList with
    | '\ufeff' :: rest => rest
    | s => s
  readEvents s.length [] s

end Stencil.Markup
