/-! # Sinks

    A sink takes text piece by piece, and a line may come in several pieces.
    It may have room for a limited number of lines: once that many line feeds
    are in it, every further piece is refused.

    - A piece is taken whole or not at all, however many lines are in it.
    - Pieces in front of a refused one stay, so a line may be cut off.
    - An empty piece is always taken. -/

namespace LayeredRoots.Command

structure Sink where
  /-- Everything that was taken. -/
  text  : String
  /-- How many lines there is room for, if that is limited. -/
  limit : Option Nat
  deriving DecidableEq, Repr

namespace Sink

/-- A sink that nothing was written to. -/
def empty (limit : Option Nat) : Sink := ⟨"", limit⟩

/-- How many lines have ended. -/
def lines (s : Sink) : Nat := s.text.toList.count '\n'

/-- Whether there is room for more text. -/
def hasRoom (s : Sink) : Bool := s.limit.all (s.lines < ·)

/-- The sink after one more piece, if that is taken. -/
def write? (s : Sink) (piece : String) : Option Sink :=
  if piece.isEmpty then some s
  else if s.hasRoom then some { s with text := s.text ++ piece }
  else none

/-- The sink after pieces up to the first that is refused, and whether all of
    them were taken. -/
def writeAll (s : Sink) : List String → Sink × Bool
  | [] => (s, true)
  | piece :: rest =>
    match s.write? piece with
    | none => (s, false)
    | some s => s.writeAll rest

/-- Writes the pieces of a line and its end. -/
def writeLine (s : Sink) (pieces : List String) : Sink × Bool := s.writeAll (pieces ++ ["\n"])

/-- A piece with a line feed in it is taken whole and fills the sink. -/
example : ((empty (some 1)).writeLine ["a\nb", "c"]) = (⟨"a\nb", some 1⟩, false) := by
  decide +kernel

end Sink
end LayeredRoots.Command
