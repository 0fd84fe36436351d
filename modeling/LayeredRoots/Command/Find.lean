import LayeredRoots.Command.Failure
import LayeredRoots.Command.Sink
import LayeredRoots.Resolver.Search

/-! # The find command

    Looks up one resource after the other and writes one line about each:

    - as text, a path to the output or a message to the diagnostics;
    - as JSON, the whole resolution to the output.

    An empty path among the resources is refused before anything else happens.
    A line that cannot be written to its end ends the command at once.
    Otherwise it fails in the end if any resource was not found. -/

namespace LayeredRoots.Command

/-- What a search has written so far. -/
structure Streams where
  out : Sink
  err : Sink
  deriving DecidableEq, Repr

/-- What a find command leaves behind. -/
structure FindReport where
  streams : Streams
  failure : Option Failure

/-- Writes a line to the output. -/
def Streams.writeOut (s : Streams) (pieces : List String) : Streams × Option WriteFault :=
  let (out, complete) := s.out.writeLine pieces
  ({ s with out }, WriteFault.ofComplete complete)

/-- Writes a line to the diagnostics. -/
def Streams.writeErr (s : Streams) (pieces : List String) : Streams × Option WriteFault :=
  let (err, complete) := s.err.writeLine pieces
  ({ s with err }, WriteFault.ofComplete complete)

/-- Writes the line about one resolution, and tells why it is not there as a
    whole, if it is not. -/
def writeResolution (json : Bool) (s : Streams) (r : Resolution) : Streams × Option WriteFault :=
  if json then
    match r.toJson with
    | .error fault => (s, some (.unwritable fault))
    | .ok line => s.writeOut [line]
  else
    match r.absolutePath? with
    | some path => s.writeOut path.displayPieces
    | none => s.writeErr [r.errorMessage?.getD ""]

/-- What a search over several resources has come to: what was written, how
    many resources were not found, and why it ended early, if it did. -/
structure FindProgress where
  streams : Streams
  failed  : Nat
  fault   : Option WriteFault
  deriving DecidableEq, Repr

/-- Looks up resources in order, where `failed` were not found before. -/
def findAll (r : Resolver) (json : Bool) (s : Streams) (failed : Nat) :
    List String → Finding FindProgress
  | [] => .of (.ok ⟨s, failed, none⟩)
  | resource :: rest =>
    let f := r.resolve resource
    match f.outcome with
    | .error m => ⟨.error m, f.notes, f.directories⟩
    | .ok resolution =>
      let failed := if resolution.isSuccess then failed else failed + 1
      match writeResolution json s resolution with
      | (s, some fault) => ⟨.ok ⟨s, failed, some fault⟩, f.notes, f.directories⟩
      | (s, none) =>
        let g := findAll r json s failed rest
        ⟨g.outcome, f.notes ++ g.notes, f.directories ++ g.directories⟩

/-- Looks up resources and reports about them. -/
def find (r : Resolver) (resources : List String) (json : Bool) (s : Streams) :
    Finding FindReport :=
  if resources.any String.isEmpty then .of (.ok ⟨s, some .emptyPath⟩)
  else
    (findAll r json s 0 resources).map fun p =>
      match p.fault with
      | some fault => ⟨p.streams, some (.output fault)⟩
      | none =>
        if p.failed = 0 then ⟨p.streams, none⟩
        else ⟨p.streams, some (.notFound p.failed resources.length)⟩

end LayeredRoots.Command
