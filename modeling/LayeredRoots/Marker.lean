import LayeredRoots.Config.Basic
import LayeredRoots.Path.Component
import LayeredRoots.Text.Lines

/-! # Install markers

    An installed tree is recognised by a program or library that lies at a
    known place inside it.  `mappedDirectory?` finds the directory of a library
    in the table of files that are mapped into a process: one file per line,
    its absolute path at the end of the line. -/

namespace LayeredRoots

/-- What serves as install marker. -/
inductive Marker where
  | absent
  /-- A marker in a directory that is known beforehand. -/
  | fixed (dir : Path)
  /-- The running program. -/
  | executable
  /-- A library that is mapped into the process. -/
  | library (name : String)
  deriving DecidableEq, Repr

/-- The marker that a configuration asks for.  A library comes before the
    program. -/
def Config.marker (c : Config) : Marker :=
  match c.markerLibrary with
  | some name => .library name
  | none => if c.executableMarker then .executable else .absent

/-- The path at the end of a line: everything from the first `/` on. -/
def mappedPath? (line : String) : Option Path :=
  match line.toList.dropWhile (· ≠ '/') with
  | [] => none
  | cs => some (Path.ofText (String.ofList cs))

/-- The directory of the first mapped file with a name. -/
def mappedDirectory? (maps name : String) : Option Path :=
  let paths := (Text.lines maps).filterMap mappedPath?
  let named := paths.find? fun p => p.fileName? = some (Text.encode name)
  named.bind Path.parent?

end LayeredRoots
