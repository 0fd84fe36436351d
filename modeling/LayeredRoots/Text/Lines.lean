/-! # Lines of a text

    A line ends at a line feed, and one carriage return right before that line
    feed belongs to the line end.  Text after the last line feed is a line of
    its own, carriage returns included, unless it is empty. -/

namespace LayeredRoots.Text

/-- A line without the carriage return of its line end. -/
def dropReturn (line : List Char) : List Char :=
  if line.getLast? = some '\r' then line.dropLast else line

/-- The lines of a text, as lists of characters. -/
def lineChars (cs : List Char) : List (List Char) :=
  let pieces := cs.splitOn '\n'
  let last := pieces.getLastD []
  pieces.dropLast.map dropReturn ++ (if last.isEmpty then [] else [last])

/-- The lines of a text. -/
def lines (s : String) : List String :=
  (lineChars s.toList).map String.ofList

/-- Only the carriage return next to a line feed is dropped, and only one. -/
example : lines "a\r\nb\rc\n\r\n\rd\r" = ["a", "b\rc", "", "\rd\r"] := by decide +kernel

end LayeredRoots.Text
