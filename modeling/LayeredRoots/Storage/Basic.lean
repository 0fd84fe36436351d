import LayeredRoots.Path.Component

/-! # Files as resolvers see them

    A resolver asks two questions about a path: does it lead to a directory,
    does it lead to a regular file.  `Files` is any way to answer them.
    `Storage` answers them too and also hands out the contents of files.

    `MemoryFiles` answers from two sets of paths that a caller fills. -/

namespace LayeredRoots

/-- Answers to where paths lead. -/
structure Files where
  isDir  : Path → Bool
  isFile : Path → Bool

/-- Why a file could not be read as text. -/
inductive ReadFault where
  | notFound
  | permissionDenied
  | notADirectory
  | isADirectory
  | nameTooLong
  | tooManyLinks
  | containsNul
  | notUtf8
  deriving DecidableEq, Repr

/-- The text of a failed read. -/
def ReadFault.message : ReadFault → String
  | notFound => "No such file or directory (os error 2)"
  | permissionDenied => "Permission denied (os error 13)"
  | notADirectory => "Not a directory (os error 20)"
  | isADirectory => "Is a directory (os error 21)"
  | nameTooLong => "File name too long (os error 36)"
  | tooManyLinks => "Too many levels of symbolic links (os error 40)"
  | containsNul => "file name contained an unexpected NUL byte"
  | notUtf8 => "stream did not contain valid UTF-8"

/-- Files with their contents. -/
structure Storage extends Files where
  read : Path → Except ReadFault Bytes

/-- A file as text. -/
def Storage.readText (s : Storage) (p : Path) : Except ReadFault String := do
  let bytes ← s.read p
  match Text.decode? bytes with
  | some text => .ok text
  | none => .error .notUtf8

/-! ### Files in memory -/

/-- Two sets of paths.  Paths with the same steps are the same member. -/
structure MemoryFiles where
  dirs  : List Path
  files : List Path
  deriving DecidableEq, Repr

namespace MemoryFiles

def empty : MemoryFiles := ⟨[], []⟩

/-- Whether a set holds a path, however it is written. -/
def holds (paths : List Path) (p : Path) : Bool :=
  let steps := p.components
  paths.any fun q => q.components = steps

/-- The directories that a new entry brings along: all above it. -/
def above (p : Path) : List Path := p.parents.filter fun q => !q.isEmpty

def addDir (m : MemoryFiles) (p : Path) : MemoryFiles :=
  { m with dirs := p :: (above p ++ m.dirs) }

def addFile (m : MemoryFiles) (p : Path) : MemoryFiles :=
  ⟨above p ++ m.dirs, p :: m.files⟩

/-- Takes a path out of both sets.  What lies below it stays. -/
def remove (m : MemoryFiles) (p : Path) : MemoryFiles :=
  ⟨m.dirs.filter (!·.same p), m.files.filter (!·.same p)⟩

/-- The sets as answers. -/
def view (m : MemoryFiles) : Files := ⟨holds m.dirs, holds m.files⟩

end MemoryFiles
end LayeredRoots
