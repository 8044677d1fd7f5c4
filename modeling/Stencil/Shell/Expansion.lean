import Stencil.Shell.Arithmetic
import Stencil.Shell.Pattern

/-
  The expansion of words: pieces become texts, and a word falls into fields at the separators
  in the values that are not quoted. Scripts whose output stands in a word run on the way.
-/

namespace Stencil.Shell

/-- A part of an expanded word. -/
inductive Part where
  | letter (c : Char) (quoted : Bool)
  /-- An empty text, as it stands between quotes. -/
  | blank
  /-- Ends a field, if the word falls into fields. -/
  | boundary (c : Char)

namespace Part

def ofText (quoted : Bool) (s : List Char) : List Part :=
  if s.isEmpty ∧ quoted then [.blank] else s.map (.letter · quoted)

/-- A value that is not quoted falls into fields at its separators. -/
def ofValue (separators s : List Char) : List Part :=
  s.map fun c => if c ∈ separators then .boundary c else .letter c false

def letter? : Part → Option Letter
  | letter c quoted => some (c, quoted)
  | blank => none
  | boundary c => some (c, false)

/-- The text of some parts that do not fall into fields. -/
def text (ps : List Part) : List Char := (ps.filterMap letter?).map (·.1)

/-- Fields as far as they are known, with what comes last in front. -/
structure Fields where
  complete : List String := []
  /-- The letters of the field that is begun, if there is one. -/
  begun : Option (List Char) := none

def Fields.finish (f : Fields) : Fields :=
  match f.begun with
  | some letters => ⟨String.ofList letters.reverse :: f.complete, none⟩
  | none => f

def Fields.push (f : Fields) (letters : List Char) : Fields :=
  { f with begun := some (letters ++ f.begun.getD []) }

/-- Adds a part to the fields before it. Only at separators other than blanks a field can be
empty. -/
def Fields.add (f : Fields) : Part → Fields
  | letter c _ => f.push [c]
  | blank => f.push []
  | boundary c => if c ∈ [' ', '\t', '\n'] then f.finish else (f.push []).finish

/-- The fields of some parts. -/
def fields (ps : List Part) : List String := (ps.foldl Fields.add {}).finish.complete.reverse

end Part

/-- The output of a script as a text: without the line ends at its end. -/
def textOf (bytes : ByteArray) : List Char :=
  let text := ((String.fromUTF8? bytes).getD "").toList.filter (· ≠ '\x00')
  (text.reverse.dropWhile (· = '\n')).reverse

/-- The parts of a value that the script gave. -/
def Run.partsOf (r : Run) (quoted : Bool) (s : List Char) : List Part :=
  if quoted then Part.ofText true s else Part.ofValue r.separators s

/-- The parts of a parameter's value. -/
def Run.paramParts (r : Run) (name : String) (quoted : Bool) : List Part :=
  if name = "@" then
    ((r.args.map fun a => r.partsOf quoted a.toList).intersperse [.boundary ' ']).flatten
  else
    match r.value? name with
    | some value => r.partsOf quoted value.toList
    | none => r.partsOf quoted []

/-- What a rule makes of a parameter, given the parts of its operand and the state after them. -/
def Run.applyRule (r : Run) (name : String) (rule : Rule) (quoted : Bool)
    (operand : Run → Run × List Part) : Run × List Part :=
  let value := r.value? name
  let applies := fun (colon : Bool) => value.isNone || (colon && value = some "")
  let isMissing := r.isStrict && value.isNone && !(name = "@" || name = "*")
  let own := fun (_ : Unit) =>
    (if isMissing then r.fail (name ++ ": parameter not set") else r, r.paramParts name quoted)
  match rule with
  | .value => own ()
  | .size => (r, Part.ofText quoted (toString (value.getD "").length).toList)
  | .orElse colon => if applies colon then operand r else own ()
  | .replaced colon => if applies colon then (r, r.partsOf quoted []) else operand r
  | .orAssign colon =>
    if applies colon then
      let (r, parts) := operand r
      let text := Part.text parts
      (r.assign name (String.ofList text), r.partsOf quoted text)
    else own ()
  | .orFail colon =>
    if applies colon then
      let (r, parts) := operand r
      let text := String.ofList (Part.text parts)
      let standard := if colon then "parameter not set or null" else "parameter not set"
      (r.fail (name ++ ": " ++ (if text = "" then standard else text)), [])
    else own ()
  | .trimmed atEnd longest =>
    let (r, parts) := operand r
    let pattern := Pattern.ofLetters (parts.filterMap Part.letter?)
    (r, r.partsOf quoted (pattern.trim atEnd longest (value.getD "").toList))

mutual

/-- Expands a piece; what that reads, writes and gives values is in the state after it. -/
def Piece.expand (reach : Reach) (r : Run) : Piece → Run × List Part
  | .text s quoted => (r, Part.ofText quoted s)
  | .param name rule operand quoted =>
    r.applyRule name rule quoted fun r => Word.expand reach r operand
  | .output script quoted =>
    let (r, out) := r.capture (Run.apart reach (reach.script script))
    ({ r with substituted := r.status }, r.partsOf quoted (textOf out))
  | .number expression quoted =>
    let (r, parts) := Word.expand reach r expression
    let (r, value) := r.calculate (Part.text parts)
    (r, r.partsOf quoted value.toList)

def Word.expand (reach : Reach) (r : Run) : List Piece → Run × List Part
  | [] => (r, [])
  | p :: rest =>
    let (r, first) := Piece.expand reach r p
    let (r, others) := Word.expand reach r rest
    (r, first ++ others)

end

namespace Run

/-- The text of a word that does not fall into fields. -/
def textOf (reach : Reach) (r : Run) (w : Word) : Run × String :=
  let (r, parts) := Word.expand reach r w
  (r, String.ofList (Part.text parts))

/-- The fields of some words. -/
def fieldsOf (reach : Reach) (r : Run) : List Word → Run × List String
  | [] => (r, [])
  | w :: rest =>
    let (r, parts) := Word.expand reach r w
    let (r, others) := r.fieldsOf reach rest
    (r, Part.fields parts ++ others)

def assignAll (reach : Reach) (r : Run) : List (String × Word) → Run
  | [] => r
  | (name, w) :: rest =>
    let (r, value) := r.textOf reach w
    (r.assign name value).assignAll reach rest

end Run

end Stencil.Shell
