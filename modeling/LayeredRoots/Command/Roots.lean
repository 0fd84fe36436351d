import LayeredRoots.Command.Failure
import LayeredRoots.Command.Sink
import LayeredRoots.Resolver.Report

/-! # The roots command

    Writes one line about the root of each source, in the order in which a
    search tries them. -/

namespace LayeredRoots.Command

/-- Writes lines, each in pieces, until one is not taken to its end. -/
def writeLines (s : Sink) : List (List String) → Sink × Option WriteFault
  | [] => (s, none)
  | line :: rest =>
    match s.writeLine line with
    | (s, false) => (s, some .sinkFull)
    | (s, true) => writeLines s rest

/-- Writes the reports about all roots. -/
def roots (r : Resolver) (s : Sink) : Sink × Option Failure :=
  let (s, fault) := writeLines s (r.candidates.map RootReport.displayPieces)
  (s, fault.map .output)

end LayeredRoots.Command
