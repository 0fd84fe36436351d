import LayeredRoots.Bundle.Basic
import LayeredRoots.Config.Validity
import LayeredRoots.Note
import LayeredRoots.Path.Component
import LayeredRoots.Storage.Basic

/-! # What a bundle misses

    A bundle maps files only, at the places it knows.  Two fallbacks widen it:

    - a resource may be a directory below the root of the bundle.  The root is
      where the sentinel lies, without the steps of the sentinel's own path;
    - a resource may lie in a subtree that moved. -/

namespace LayeredRoots

namespace Bundle

/-- Why a bundle has no root. -/
inductive RootFault where
  /-- The bundle does not have the sentinel. -/
  | noSentinel (reason : String)
  /-- The sentinel is not where its path says. -/
  | strayed (place : Path) (sentinel : String)
  /-- Nothing lies above the sentinel. -/
  | noParent (place : Path)
  deriving DecidableEq, Repr

/-- The text of a missing root. -/
def RootFault.message : RootFault → String
  | noSentinel reason => reason
  | strayed place sentinel =>
    s!"bundle sentinel '{place.display}' does not end with '{sentinel}'"
  | noParent place => s!"bundle sentinel '{place.display}' has no root"

/-- The directory that the bundle's resources lie in. -/
def root (b : Bundle) (sentinel : String) : Except RootFault Path :=
  match b.locate sentinel with
  | .error reason => .error (.noSentinel reason)
  | .ok place =>
    let steps := Path.ofText sentinel
    if !place.endsWith steps then .error (.strayed place sentinel)
    else
      match place.ancestor? steps.components.length with
      | none => .error (.noParent place)
      | some root => .ok root

/-! ### Directories -/

/-- The directory of a resource below the root of the bundle. -/
def directory? (b : Bundle) (files : Files) (sentinel resource : String) :
    Option Path × List Note :=
  match b.root sentinel with
  | .error fault => (none, [.bundleRootUnknown resource fault.message])
  | .ok root =>
    let place := root.joinText resource
    (if files.isDir place then some place else none, [])

end Bundle

/-! ### Moved subtrees -/

/-- What follows a text at the start of another. -/
def Text.dropPrefix? (start s : String) : Option String :=
  if Text.hasPrefix start s then some (String.ofList (s.toList.drop start.toList.length)) else none

/-- Whether a path below the namespace lies in the subtree. -/
def Relocation.captures (r : Relocation) (suffix : String) : Bool :=
  (Path.ofText suffix).startsWith (Path.ofText r.subtree)

/-- Where a path below the namespace moved. -/
def Relocation.moved (r : Relocation) (namespacePrefix suffix : String) : String :=
  namespacePrefix ++ r.target ++ suffix

namespace Bundle

/-- The first of the given resources that the bundle has. -/
def firstOf? (b : Bundle) (resource : String) : List String → Option Path × List Note
  | [] => (none, [])
  | moved :: rest =>
    match b.locate moved with
    | .ok place => (some place, [])
    | .error reason =>
      let (place, notes) := b.firstOf? resource rest
      (place, .relocationMissed resource moved reason :: notes)

/-- The resources that a bundle is asked for in place of a missing one. -/
def movedPaths (namespacePrefix : String) (rules : List Relocation) (resource : String) :
    List String :=
  match Text.dropPrefix? namespacePrefix resource with
  | none => []
  | some suffix =>
    (rules.filter (·.captures suffix)).map (·.moved namespacePrefix suffix)

/-- A missing resource at the first of its new places that the bundle has. -/
def relocated? (b : Bundle) (namespacePrefix : String) (rules : List Relocation)
    (resource : String) : Option Path × List Note :=
  b.firstOf? resource (movedPaths namespacePrefix rules resource)

end Bundle
end LayeredRoots
