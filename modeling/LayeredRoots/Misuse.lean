/-! # Broken preconditions

    What a caller must not ask for.  None of these is an answer about
    resources; they say that a question made no sense. -/

namespace LayeredRoots

/-- A precondition that a caller broke. -/
inductive Misuse where
  /-- A resolver was asked for the empty path. -/
  | emptyRequest
  /-- A resolution would name no resource. -/
  | namelessResolution
  /-- A success would carry an empty path. -/
  | emptyAbsolutePath
  /-- A failure would carry no message. -/
  | emptyMessage
  /-- A root was checked without saying where it came from. -/
  | undescribedRoot
  /-- The empty path was checked as a root. -/
  | emptyRoot
  /-- A root was asked for a path that does not lie under it. -/
  | rootedRequest (resource : String)
  deriving DecidableEq, Repr

/-- The text of a broken precondition. -/
def Misuse.message : Misuse → String
  | emptyRequest => "resource path must not be empty"
  | namelessResolution => "resource_path must not be empty"
  | emptyAbsolutePath => "absolute_path must not be empty"
  | emptyMessage => "error_message must not be empty"
  | undescribedRoot => "root description must not be empty"
  | emptyRoot => "root must not be empty"
  | rootedRequest resource => s!"resource path '{resource}' must be a relative path"

end LayeredRoots
