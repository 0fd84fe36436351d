import LayeredRoots.Path.Basic
import LayeredRoots.Text.Shown

/-! # Notes about a search

    What a search has to tell besides its result.  A note never changes where
    anything is found; it says why a place was passed over. -/

namespace LayeredRoots

inductive Note where
  /-- The root variable names no directory. -/
  | rootMissing (name : String) (root : Path)
  /-- There is no install marker. -/
  | noMarker
  /-- There is no share directory at the install marker. -/
  | installRootMissing (root : Path)
  /-- The bundle could not be searched for directories. -/
  | bundleRootUnknown (resource reason : String)
  /-- The bundle does not have a resource at its new place either. -/
  | relocationMissed (resource moved reason : String)
  /-- The manifest of the bundle cannot be read. -/
  | manifestUnreadable (manifest : Path) (reason : String)
  /-- The directory of the bundle does not exist. -/
  | runfilesMissing (dir : Path)
  deriving DecidableEq, Repr

namespace Note

/-- The sentence of a note. -/
def message : Note → String
  | rootMissing .. => "Ignoring resource root because it does not exist"
  | noMarker => "No install marker candidate"
  | installRootMissing _ => "Ignoring install marker candidate because it does not exist"
  | bundleRootUnknown .. => "Skipping legacy directory lookup"
  | relocationMissed .. => "Relocated lookup missed"
  | manifestUnreadable .. => "Ignoring unreadable runfiles manifest"
  | runfilesMissing _ => "Ignoring missing runfiles directory"

/-- What a note is about, by name. -/
def fields : Note → List (String × String)
  | rootMissing name root => [("env_var", name), ("root", root.display)]
  | noMarker => []
  | installRootMissing root => [("root", root.display)]
  | bundleRootUnknown resource reason => [("resource_path", resource), ("reason", reason)]
  | relocationMissed resource moved reason =>
    [("resource_path", resource), ("moved", moved), ("reason", reason)]
  | manifestUnreadable manifest reason => [("manifest", manifest.display), ("error", reason)]
  | runfilesMissing dir => [("dir", dir.display)]

/-- The fields that hold a resource as it was given. -/
def quotedFields : List String := ["resource_path", "moved"]

/-- A message of the log with its fields.  Fields that hold a resource are
    quoted. -/
def logEntry (message : String) (fields : List (String × String)) : String :=
  fields.foldl (fun entry (name, value) =>
    let value := if name ∈ quotedFields then Text.shown value else value
    s!"{entry} {name}={value}") message

/-- A note as an entry of the log. -/
def entry (n : Note) : String := logEntry n.message n.fields

end Note
end LayeredRoots
