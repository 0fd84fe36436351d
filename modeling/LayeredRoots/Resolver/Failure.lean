import LayeredRoots.Resolver.Basic

/-! # Why a resource is not found -/

namespace LayeredRoots

/-- Why a resolver gives no path for a resource. -/
inductive Failure where
  /-- The resource path is rooted. -/
  | notRelative
  /-- The resource path lies outside the namespace. -/
  | outsideNamespace (namespacePrefix : String)
  /-- A root lacks the sentinel. -/
  | noSentinel (origin : String) (root : Path) (sentinel : String)
  /-- A root lacks the resource. -/
  | noSuchFile (origin : String) (root : Path) (file : Path)
  /-- The bundle lacks the resource and says why. -/
  | bundleMiss (reason : String)
  /-- The bundle lacks the resource and does not say why. -/
  | bundleSilent
  /-- There is no root of any kind. -/
  | noRoots (rootVariable : String)
  deriving DecidableEq, Repr

/-- The message about a resource. -/
def Failure.message (resource : String) : Failure → String
  | notRelative => s!"Resource path '{resource}' is not a relative path."
  | outsideNamespace start => s!"Resource path '{resource}' does not start with {start}."
  | noSentinel origin root sentinel =>
    s!"Could not find resource path '{resource}' because {origin} specified a resource root " ++
      s!"of '{root.display}' but that root did not contain the expected sentinel file " ++
      s!"'{sentinel}'."
  | noSuchFile origin root file =>
    s!"Could not find resource path '{resource}' because {origin} specified a resource root " ++
      s!"of '{root.display}' but that root did not contain the expected file '{file.display}'."
  | bundleMiss reason => reason
  | bundleSilent =>
    s!"Could not find resource path '{resource}' in the {bundleDescription}."
  | noRoots name =>
    s!"Could not find resource path '{resource}' because no resource roots of any kind " ++
      s!"could be found: {name} is unset, a {bundleDescription} could not be created, and " ++
      s!"there is no {markerDescription}."

end LayeredRoots
