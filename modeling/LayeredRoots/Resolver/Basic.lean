import LayeredRoots.Bundle.Basic
import LayeredRoots.Config.Validity
import LayeredRoots.Environment
import LayeredRoots.Misuse
import LayeredRoots.Note
import LayeredRoots.Storage.Basic

/-! # Resolvers

    A resolver is a configuration together with the surroundings it looks at:
    variables, files, a bundle and the place of the install marker.  All of
    them are plain values, so asking the same resolver twice gives the same
    answer. -/

namespace LayeredRoots

structure Resolver where
  config      : Config
  environment : Environment
  files       : Files
  bundle      : Bundle
  /-- The directory of the install marker, if there is one. -/
  markerDir   : Option Path
  /-- What relative values of the root variable are relative to, if there is
      anything. -/
  workingDir  : Option Path

/-- What a search comes to.  The outcome stands beside the notes it left and
    the resources that turned out to be directories, both in order, because
    these are told even where a precondition was broken. -/
structure Finding (α : Type) where
  outcome     : Except Misuse α
  notes       : List Note
  directories : List String

namespace Finding

variable {α β : Type}

/-- An outcome and nothing else to tell. -/
def of (outcome : Except Misuse α) : Finding α := ⟨outcome, [], []⟩

/-- Notes from before. -/
def noting (f : Finding α) (notes : List Note) : Finding α :=
  { f with notes := notes ++ f.notes }

/-- A resource that turned out to be a directory. -/
def deprecating (f : Finding α) (resource : String) : Finding α :=
  { f with directories := resource :: f.directories }

/-- A finding about something else. -/
def map (g : α → β) (f : Finding α) : Finding β :=
  ⟨f.outcome.map g, f.notes, f.directories⟩

@[simp] theorem outcome_of (e : Except Misuse α) : (of e).outcome = e := rfl
@[simp] theorem notes_of (e : Except Misuse α) : (of e).notes = [] := rfl
@[simp] theorem directories_of (e : Except Misuse α) : (of e).directories = [] := rfl

@[simp] theorem outcome_noting (f : Finding α) (notes : List Note) :
    (f.noting notes).outcome = f.outcome := rfl
@[simp] theorem notes_noting (f : Finding α) (notes : List Note) :
    (f.noting notes).notes = notes ++ f.notes := rfl
@[simp] theorem directories_noting (f : Finding α) (notes : List Note) :
    (f.noting notes).directories = f.directories := rfl

@[simp] theorem outcome_deprecating (f : Finding α) (resource : String) :
    (f.deprecating resource).outcome = f.outcome := rfl
@[simp] theorem notes_deprecating (f : Finding α) (resource : String) :
    (f.deprecating resource).notes = f.notes := rfl
@[simp] theorem directories_deprecating (f : Finding α) (resource : String) :
    (f.deprecating resource).directories = resource :: f.directories := rfl

end Finding

/-! ### Roots -/

/-- Whether a resource path leads down from a root. -/
def isRelativeResource (resource : String) : Bool :=
  !resource.isEmpty && !Text.hasPrefix "/" resource

/-- How the bundle is called in messages. -/
def bundleDescription : String := "runtime bundle"

/-- How the install marker is called in messages. -/
def markerDescription : String := "install marker"

namespace Resolver

/-- How the root variable is called in messages. -/
def variableDescription (r : Resolver) : String :=
  r.config.rootVariable ++ " environment variable"

/-- A path made absolute, as far as there is a working directory to start
    from.  The empty path stays as it is. -/
def absolute (r : Resolver) (path : Path) : Path :=
  if path.isEmpty || path.isAbsolute then path
  else
    match r.workingDir with
    | some dir => dir.absoluteFrom path
    | none => path

/-- The root that the variable names. -/
def variableRoot? (r : Resolver) : Option Path :=
  (r.environment.get r.config.rootVariable).map fun value => r.absolute ⟨value⟩

/-- The root of the install tree. -/
def installRoot? (r : Resolver) : Option Path :=
  r.markerDir.map (·.joinText r.config.installShare)

end Resolver
end LayeredRoots
