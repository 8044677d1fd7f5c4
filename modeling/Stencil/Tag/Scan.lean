/-
  Finding the pairs of a tag. A tag is a run of pairs, each a key, a colon and a quoted text,
  with any number of spaces before them; reading stops for good at the first place where no
  pair can go on. The quoted texts are found here and decoded elsewhere.
-/

namespace Stencil.Tag

/-- A key and the characters between its value's quotes, still escaped. -/
abbrev RawPair := List Char × List Char

/-- A character a key may hold. -/
def isKeyChar (c : Char) : Bool := ' ' < c && c ≠ ':' && c ≠ '"' && c ≠ '\x7f'

/-- Where the scan stands. The characters read so far are kept latest first. -/
inductive Place where
  /-- Before a pair. -/
  | gap
  | inKey (key : List Char)
  /-- Behind the colon, before the opening quote. -/
  | atQuote (key : List Char)
  | inValue (key value : List Char)
  /-- Behind a backslash inside the value. -/
  | escaped (key value : List Char)

def scanFrom : Place → List Char → List RawPair
  | _, [] => []
  | .gap, c :: rest =>
    if c = ' ' then scanFrom .gap rest
    else if isKeyChar c then scanFrom (.inKey [c]) rest
    else []
  | .inKey key, c :: rest =>
    if isKeyChar c then scanFrom (.inKey (c :: key)) rest
    else if c = ':' then scanFrom (.atQuote key) rest
    else []
  | .atQuote key, c :: rest =>
    if c = '"' then scanFrom (.inValue key []) rest else []
  | .inValue key value, c :: rest =>
    if c = '"' then (key.reverse, value.reverse) :: scanFrom .gap rest
    else if c = '\\' then scanFrom (.escaped key (c :: value)) rest
    else scanFrom (.inValue key (c :: value)) rest
  | .escaped key value, c :: rest => scanFrom (.inValue key (c :: value)) rest

/-- The pairs before the first place where the tag is malformed. -/
def scan (raw : List Char) : List RawPair := scanFrom .gap raw

end Stencil.Tag
