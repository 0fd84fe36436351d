import LayeredRoots.Misuse
import LayeredRoots.Path.Basic

/-! # Resolutions

    The outcome of looking up one resource: an absolute path, or a message
    saying why there is none.  The empty resolution stands for a resource that
    nobody asked for.  `success` and `failure` refuse empty parts, so that a
    resolution they build names its resource and carries exactly one of a
    non-empty path and a non-empty message. -/

namespace LayeredRoots

inductive Resolution where
  | empty
  | found (resource : String) (path : Path)
  | failed (resource : String) (message : String)
  deriving DecidableEq, Repr

namespace Resolution

/-- A resource that was found. -/
def success (resource : String) (path : Path) : Except Misuse Resolution :=
  if resource.isEmpty then .error .namelessResolution
  else if path.isEmpty then .error .emptyAbsolutePath
  else .ok (found resource path)

/-- A resource that was not found. -/
def failure (resource message : String) : Except Misuse Resolution :=
  if resource.isEmpty then .error .namelessResolution
  else if message.isEmpty then .error .emptyMessage
  else .ok (failed resource message)

/-- What the empty resolution says. -/
def emptyText : String := "No resource was requested (empty result)"

/-- The resource that was asked for. -/
def resourcePath : Resolution → String
  | empty => ""
  | found resource _ | failed resource _ => resource

/-- Where the resource is. -/
def absolutePath? : Resolution → Option Path
  | found _ path => some path
  | _ => none

/-- Why there is no path. -/
def errorMessage? : Resolution → Option String
  | empty => some emptyText
  | found _ _ => none
  | failed _ message => some message

def isSuccess : Resolution → Bool
  | found _ _ => true
  | _ => false

def isEmpty : Resolution → Bool
  | empty => true
  | _ => false

/-- The path of a resource that was not found was asked for. -/
structure NotFound where
  message : String
  deriving DecidableEq, Repr

/-- Where the resource is, or the message as an error. -/
def absolutePath : Resolution → Except NotFound Path
  | found _ path => .ok path
  | failed _ message => .error ⟨message⟩
  | empty => .error ⟨emptyText⟩

/-- A resolution in one line of text. -/
def display : Resolution → String
  | found resource path => resource ++ " = " ++ path.display
  | failed resource message => resource ++ ": " ++ message
  | empty => emptyText

end Resolution
end LayeredRoots
