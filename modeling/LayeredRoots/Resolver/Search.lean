import LayeredRoots.Bundle.Fallback
import LayeredRoots.Resolution.Basic
import LayeredRoots.Resolver.Failure

/-! # The search for a resource

    A resolver probes its sources one after the other.  A source that has no
    root is passed over; the first that has one settles the matter, found or
    not, because every root is expected to carry the whole set of resources.

    A root from the variable or the install tree must carry the sentinel.  A
    bundle is trusted without it. -/

namespace LayeredRoots

namespace Resolver

/-- A resolution that says why there is no path. -/
def refuse (resource : String) (why : Failure) : Except Misuse Resolution :=
  Resolution.failure resource (why.message resource)

/-! ### One root -/

/-- A resource below a directory that serves as root. -/
def checkRoot (r : Resolver) (origin : String) (root : Path) (resource : String) :
    Finding Resolution :=
  if origin.isEmpty then .of (.error .undescribedRoot)
  else if root.isEmpty then .of (.error .emptyRoot)
  else if !isRelativeResource resource then .of (.error (.rootedRequest resource))
  else if !r.files.isFile (root.joinText r.config.sentinel) then
    .of (refuse resource (.noSentinel origin root r.config.sentinel))
  else
    let file := root.joinText resource
    if r.files.isDir file then
      (Finding.of (Resolution.success resource file)).deprecating resource
    else if r.files.isFile file then .of (Resolution.success resource file)
    else .of (refuse resource (.noSuchFile origin root file))

/-! ### One source

    A probe that finds no root has the outcome `none`. -/

def probeVariable (r : Resolver) (resource : String) : Finding (Option Resolution) :=
  match r.variableRoot? with
  | none => .of (.ok none)
  | some root =>
    if r.files.isDir root then
      (r.checkRoot r.variableDescription root resource).map some
    else
      (Finding.of (.ok none)).noting [.rootMissing r.config.rootVariable root]

/-- A resource that the bundle does not have, for the reason given. -/
def bundleFailure (reason : String) : Failure :=
  if reason.isEmpty then .bundleSilent else .bundleMiss reason

def probeBundle (r : Resolver) (resource : String) : Finding (Option Resolution) :=
  if !r.bundle.available then .of (.ok none)
  else
    match r.bundle.locate resource with
    | .ok place => (Finding.of (Resolution.success resource place)).map some
    | .error reason =>
      -- a directory is tried before the places where subtrees moved to
      let (dir, notes) := r.bundle.directory? r.files r.config.sentinel resource
      match dir with
      | some dir =>
        (((Finding.of (Resolution.success resource dir)).deprecating resource).noting notes).map
          some
      | none =>
        let (place, more) :=
          r.bundle.relocated? r.config.namespacePrefix r.config.relocations resource
        match place with
        | some place =>
          ((Finding.of (Resolution.success resource place)).noting (notes ++ more)).map some
        | none =>
          -- the reason of the first look-up counts, not those of the fallbacks
          ((Finding.of (refuse resource (bundleFailure reason))).noting (notes ++ more)).map some

def probeInstallTree (r : Resolver) (resource : String) : Finding (Option Resolution) :=
  match r.installRoot? with
  | none => (Finding.of (.ok none)).noting [.noMarker]
  | some root =>
    if r.files.isDir root then
      (r.checkRoot markerDescription root resource).map some
    else
      (Finding.of (.ok none)).noting [.installRootMissing root]

/-- What one source says about a resource. -/
def probe (r : Resolver) (source : Source) (resource : String) : Finding (Option Resolution) :=
  match source with
  | .rootVariable => r.probeVariable resource
  | .bundle => r.probeBundle resource
  | .installTree => r.probeInstallTree resource

/-! ### All sources -/

/-- The first of the given sources that has a root settles a resource. -/
def search (r : Resolver) (resource : String) : List Source → Finding Resolution
  | [] => .of (refuse resource (.noRoots r.config.rootVariable))
  | source :: rest =>
    let f := r.probe source resource
    match f.outcome with
    | .error m => ⟨.error m, f.notes, f.directories⟩
    | .ok (some resolution) => ⟨.ok resolution, f.notes, f.directories⟩
    | .ok none => (r.search resource rest).noting f.notes

/-- Looks a resource up. -/
def resolve (r : Resolver) (resource : String) : Finding Resolution :=
  if resource.isEmpty then .of (.error .emptyRequest)
  else if !isRelativeResource resource then .of (refuse resource .notRelative)
  else if !Text.hasPrefix r.config.namespacePrefix resource then
    .of (refuse resource (.outsideNamespace r.config.namespacePrefix))
  else r.search resource r.config.candidateOrder

/-- Looks a resource up and asks for its path. -/
def resolvePath (r : Resolver) (resource : String) :
    Finding (Except Resolution.NotFound Path) :=
  (r.resolve resource).map Resolution.absolutePath

end Resolver
end LayeredRoots
