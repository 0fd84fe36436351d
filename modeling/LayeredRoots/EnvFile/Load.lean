import LayeredRoots.EnvFile.Statement
import LayeredRoots.Environment
import LayeredRoots.Storage.Basic
import LayeredRoots.Text.Shown

/-! # Loading a variables file

    The variables file of a process is the nearest `.env` in its working
    directory or above.  It gives values to variables that have none; those
    that have one keep it.  The first malformed line ends the file, and what
    was assigned before it stays.  A value with a zero byte cannot be assigned,
    and that ends the process. -/

namespace LayeredRoots

/-- What a process finds under a name, if it is a text. -/
def Variables.text? (vs : Variables) (name : String) : Option String :=
  (vs.assigned? name).bind Text.decode?

namespace EnvFile

/-- An assignment that is impossible, because a zero byte ends a value. -/
structure Unassignable where
  name  : String
  value : String
  deriving DecidableEq, Repr

/-- The text of an impossible assignment. -/
def Unassignable.message (u : Unassignable) : String :=
  s!"failed to set environment variable `{Text.shown u.name}` to `{Text.shown u.value}`: " ++
    "file name contained an unexpected NUL byte"

end EnvFile

/-- The variables with a value for one that has no text yet. -/
def Variables.supply (vs : Variables) (name value : String) :
    Except EnvFile.Unassignable Variables :=
  if (vs.text? name).isSome then .ok vs
  else if (0 : UInt8) ∈ Text.encode value then .error ⟨name, value⟩
  else .ok (vs.set name (Text.encode value))

namespace EnvFile

/-- The name of a variables file. -/
def fileName : String := ".env"

/-- Where the variables file of a working directory may lie, nearest first. -/
def places : Option Path → List Path
  | none => []
  | some dir => (dir :: dir.parents).map (·.joinText fileName)

/-- The contents of the first place that is a file.  A place that cannot be
    looked at ends the search. -/
def nearest? (storage : Storage) : List Path → Option Bytes
  | [] => none
  | place :: rest =>
    if storage.isFile place then (storage.read place).toOption
    else
      match storage.read place with
      | .ok _ | .error .notFound | .error .isADirectory => nearest? storage rest
      | .error _ => none

/-- The value that a name stands for inside other values.  A name in braces may
    reach past a `=`. -/
def lookup (vs : Variables) (name : List Char) : List Char :=
  ((vs.text? (String.ofList name)).getD "").toList

/-- The variables after the lines of a file. -/
def follow (vs : Variables) : List (List Char) → Except Unassignable Variables
  | [] => .ok vs
  | line :: rest =>
    match Statement.ofLine (lookup vs) line with
    | .malformed => .ok vs
    | .nothing => follow vs rest
    | .assign name value => do follow (← vs.supply name value) rest

/-- The variables of a process after its variables file. -/
def load (storage : Storage) (workingDir : Option Path) (vs : Variables) :
    Except Unassignable Variables :=
  match nearest? storage (places workingDir) with
  | none => .ok vs
  | some bytes => follow vs (lines bytes)

end EnvFile
end LayeredRoots
