import LayeredRoots.Text.Blank
import LayeredRoots.Text.Utf8

/-! # Lines of a variables file

    A variables file assigns values to variables, one assignment per line.

    - A line end inside quotes does not end the line.
    - `#` starts a comment at the start of a line, and right behind the first
      of some blanks.
    - A line that is still open at the end of the file, or behind which the
      file is no text, is no line.

    Backslashes and quotes are only looked at to find where a line ends; what
    they stand for is left to the reader of the value. -/

namespace LayeredRoots.EnvFile

/-! ### Where a line ends -/

/-- How things stand behind a character. -/
inductive Context where
  | plain
  /-- Behind a blank. -/
  | blank
  /-- Behind a backslash outside quotes. -/
  | escape
  /-- Between two marks. -/
  | quoted (mark : Char)
  /-- Behind a backslash between two marks. -/
  | quotedEscape (mark : Char)
  deriving DecidableEq, Repr

namespace Context

/-- How things stand behind a character outside quotes. -/
def opening (c : Char) : Context :=
  if c = '\\' then .escape
  else if c = '"' ∨ c = '\'' then .quoted c
  else .plain

/-- How things stand behind one more character, unless a comment starts. -/
def next? (s : Context) (c : Char) : Option Context :=
  match s with
  | .plain =>
    -- a line end is no blank here, or else no file could end with one
    some (if Text.isBlankChar c && c ≠ '\n' && c ≠ '\r' then .blank else opening c)
  -- a second blank counts as plain, so no comment starts behind it
  | .blank => if c = '#' then none else some (opening c)
  | .escape => some .plain
  | .quoted mark =>
    some (if c = '\\' then .quotedEscape mark else if c = mark then .plain else .quoted mark)
  | .quotedEscape mark => some (.quoted mark)

end Context

/-- What stands in front of a comment, and how things stand behind it if there
    is no comment. -/
def beforeComment (s : Context) : List Char → List Char × Option Context
  | [] => ([], some s)
  | c :: rest =>
    match s.next? c with
    | none => ([], none)
    | some s =>
      let (kept, s) := beforeComment s rest
      (c :: kept, s)

/-- A text without the blanks at its start. -/
def skipBlanks (cs : List Char) : List Char := cs.dropWhile Text.isBlankChar

/-- Whether a text says nothing: it is empty or a comment. -/
def saysNothing : List Char → Bool
  | [] => true
  | c :: _ => c = '#'

/-- Whether a text is a comment as a whole. -/
def isComment (cs : List Char) : Bool := (skipBlanks cs).head? = some '#'

/-- Joins pieces that end at line feeds to lines.  `held` is what there is of
    a line so far. -/
def joinPieces (held : List Char) (s : Context) : List (List Char) → List (List Char)
  | [] => []
  | piece :: rest =>
    if isComment (held ++ piece) then joinPieces [] .plain rest
    else
      match beforeComment s piece with
      | (kept, none) => (held ++ kept) :: joinPieces [] .plain rest
      | (_, some .plain) => (held ++ piece) :: joinPieces [] .plain rest
      -- quotes are still open
      | (_, some s) => joinPieces (held ++ piece) s rest

/-! ### From bytes -/

/-- The byte of a line feed. -/
def lineFeed : UInt8 := 10

/-- The bytes that may stand in front of a text to announce UTF-8. -/
def byteOrderMark : Bytes := [0xEF, 0xBB, 0xBF]

/-- The bytes up to each line feed and those behind the last one. -/
def pieces (bytes : Bytes) : List Bytes :=
  let parts := bytes.splitOn lineFeed
  parts.dropLast.map (· ++ [lineFeed]) ++ [parts.getLastD []].filter (!·.isEmpty)

/-- The texts of pieces up to the first one that is no text. -/
def texts : List Bytes → List (List Char)
  | [] => []
  | piece :: rest =>
    match Text.decode? piece with
    | none => []
    | some text => text.toList :: texts rest

/-- The lines of a variables file. -/
def lines (bytes : Bytes) : List (List Char) :=
  let bytes := if byteOrderMark.isPrefixOf bytes then bytes.drop byteOrderMark.length else bytes
  joinPieces [] .plain (texts (pieces bytes))

/-! ### Examples -/

example : lines (Text.encode "A=1 # one\n # two\nB='x\ny'\nC=\"") =
    ["A=1 ".toList, "B='x\ny'\n".toList] := by decide +kernel

/-- Two blanks in a row hide a comment, and a quote in it then counts. -/
example : lines (Text.encode "A=1  # it's\nB=2\n") = [] := by decide +kernel

end LayeredRoots.EnvFile
