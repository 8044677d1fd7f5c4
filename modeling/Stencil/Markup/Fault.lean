/-
  Where markup cannot be read on, and where a character reference has no value.
-/

namespace Stencil.Markup

inductive Fault where
  | tagUnclosed
  | quoteUnclosed (quote : Char)
  | commentUnclosed
  | cdataUnclosed
  | doctypeUnclosed
  | instructionUnclosed
  | declarationUnclosed
  /-- `<!` is followed by nothing that markup knows. -/
  | unknownMarkup
  | doctypeNameless
  | referenceUnclosed
  | closeMismatch (expected found : String)
  | closeUnmatched (name : String)
  deriving DecidableEq, Repr

namespace Fault

/-- Whether the tokens are sound and only their arrangement is at fault. -/
def isIllFormed : Fault → Bool
  | doctypeNameless | referenceUnclosed | closeMismatch .. | closeUnmatched .. => true
  | _ => false

def message : Fault → String
  | tagUnclosed => "tag not closed: `>` not found before end of input"
  | quoteUnclosed quote =>
    "attribute value not closed: `" ++ quote.toString ++ "` not found before end of input"
  | commentUnclosed => "comment not closed: `-->` not found before end of input"
  | cdataUnclosed => "CDATA not closed: `]]>` not found before end of input"
  | doctypeUnclosed => "DOCTYPE not closed: `>` not found before end of input"
  | instructionUnclosed =>
    "processing instruction not closed: `?>` not found before end of input"
  | declarationUnclosed => "XML declaration not closed: `?>` not found before end of input"
  | unknownMarkup => "unknown or missed symbol in markup"
  | doctypeNameless =>
    "`<!DOCTYPE>` declaration does not contain a name of a document type"
  | referenceUnclosed =>
    "entity or character reference not closed: `;` not found before end of input"
  | closeMismatch expected found =>
    "expected `</" ++ expected ++ ">`, but `</" ++ found ++ ">` was found"
  | closeUnmatched name => "close tag `</" ++ name ++ ">` does not match any open tag"

def display (f : Fault) : String :=
  (if f.isIllFormed then "ill-formed document: " else "syntax error: ") ++ f.message

end Fault

/-- What is wrong with a character reference. -/
inductive BadNumber where
  | sign
  | noDigits
  | badDigit
  | tooLarge
  | notCharacter (code : Nat)
  | nul
  deriving DecidableEq, Repr

def BadNumber.message : BadNumber → String
  | sign => "unexpected number sign"
  | noDigits => "cannot parse integer from empty string"
  | badDigit => "invalid digit found in string"
  | tooLarge => "number too large to fit in target type"
  | notCharacter code => "`" ++ toString code ++ "` is not a valid codepoint"
  | nul => "0x0 character is not permitted in XML"

/-- Why an attribute value cannot be decoded; positions count bytes of the raw value. -/
inductive BadReference where
  | unknownEntity (start stop : Nat) (name : String)
  | unterminated (start stop : Nat)
  | number (why : BadNumber)
  deriving DecidableEq, Repr

def BadReference.message : BadReference → String
  | unknownEntity start stop name =>
    "at " ++ toString start ++ ".." ++ toString stop ++ ": unrecognized entity `" ++ name ++ "`"
  | unterminated start stop =>
    "Error while escaping character at range " ++ toString start ++ ".." ++ toString stop ++
      ": Cannot find ';' after '&'"
  | number why => "invalid character reference: " ++ why.message

end Stencil.Markup
