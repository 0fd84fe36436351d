import LayeredRoots.Text.Alphanumeric

/-! # Values of a variables file

    A value is written bare or in quotes, and the three ways may follow each
    other without a gap:

    - single quotes keep everything as it is;
    - in double quotes and outside quotes a backslash stands in front of a
      backslash, a quote, `$`, a blank, or an `n` for a line feed;
    - in double quotes and outside quotes `$name` and `$\x7bname\x7d` stand for
      the value of another variable.  A bare name has letters and digits only.

    A blank outside quotes ends the value.  Only blanks and a comment may
    follow. -/

namespace LayeredRoots.EnvFile

/-- Where a reader stands in a value. -/
inductive Spot where
  /-- Outside quotes, or in double quotes. -/
  | body (quoted : Bool)
  /-- Behind a backslash. -/
  | escape (quoted : Bool)
  /-- In single quotes. -/
  | verbatim
  /-- In the name of a variable, bare or in braces. -/
  | name (quoted braced : Bool) (letters : List Char)
  /-- Behind the value. -/
  | ended
  deriving DecidableEq, Repr

/-- What a character behind a backslash stands for. -/
def unescape? (c : Char) : Option Char :=
  if c = 'n' then some '\n'
  else if c ∈ ['\\', '\'', '"', '$', ' '] then some c
  else none

/-- The value that the rest of a line writes. -/
def readFrom (lookup : List Char → List Char) : Spot → List Char → Option (List Char)
  | .body quoted, [] => if quoted then none else some []
  | .body quoted, c :: rest =>
    if c = '$' then readFrom lookup (.name quoted false []) rest
    else if c = '\\' then readFrom lookup (.escape quoted) rest
    -- a double quote opens or closes
    else if c = '"' then readFrom lookup (.body !quoted) rest
    else if c = '\'' ∧ !quoted then readFrom lookup .verbatim rest
    else if (c = ' ' ∨ c = '\t') ∧ !quoted then readFrom lookup .ended rest
    else (readFrom lookup (.body quoted) rest).map (c :: ·)
  | .escape quoted, [] => if quoted then none else some []
  | .escape quoted, c :: rest =>
    match unescape? c with
    | none => none
    | some c => (readFrom lookup (.body quoted) rest).map (c :: ·)
  | .verbatim, [] => none
  | .verbatim, c :: rest =>
    if c = '\'' then readFrom lookup (.body false) rest
    else (readFrom lookup .verbatim rest).map (c :: ·)
  | .name quoted braced letters, [] =>
    if quoted || braced then none else some (lookup letters)
  | .name quoted braced letters, c :: rest =>
    if Text.isAlphanumeric c then readFrom lookup (.name quoted braced (letters ++ [c])) rest
    else if braced then
      -- anything up to the brace belongs to the name
      if c = '}' then (readFrom lookup (.body quoted) rest).map (lookup letters ++ ·)
      else readFrom lookup (.name quoted true (letters ++ [c])) rest
    else if c = '{' ∧ letters.isEmpty then readFrom lookup (.name quoted true []) rest
    else if c = '$' then
      (readFrom lookup (.name quoted false []) rest).map (lookup letters ++ ·)
    else (readFrom lookup (.body quoted) rest).map fun value => lookup letters ++ c :: value
  | .ended, [] => some []
  | .ended, c :: rest =>
    if c = ' ' ∨ c = '\t' then readFrom lookup .ended rest
    else if c = '#' then some []
    else none

/-- The value that a text writes, where `lookup` gives the values of
    variables. -/
def readValue (lookup : List Char → List Char) (text : List Char) : Option (List Char) :=
  readFrom lookup (.body false) text

/-! ### Examples -/

example : readValue id "a'$b'\"$c \"\\$ # d".toList = some "a$bc $".toList := by
  decide +kernel

/-- The character that ends a bare name is text, even if it is a quote. -/
example : readValue id "$a\"b".toList = some "a\"b".toList := by decide +kernel

example : readValue id "$\x7ba b\x7d_".toList = some "a b_".toList := by decide +kernel

example : readValue id "a b".toList = none := by decide +kernel

end LayeredRoots.EnvFile
