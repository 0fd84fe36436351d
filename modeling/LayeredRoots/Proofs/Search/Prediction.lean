import LayeredRoots.Proofs.Search.Exchange
import LayeredRoots.Proofs.Search.Presence

/-! # A report predicts every search

    The first source with a root settles every resource.  Where this is the
    variable or the marker, its report and one look at the place of a resource
    tell what a search comes to (`Resolver.predicted`):

    - a root without the sentinel refuses every resource;
    - a usable root hands out what is there and refuses everything else.

    So nothing else counts: neither the sources behind it, whatever they have,
    nor any other file. -/

namespace LayeredRoots.Resolver

variable {r : Resolver} {resource : String} {before after : List Source} {source : Source}
  {root : Path}

/-- The status of a root that a path names says what is at the path. -/
theorem status_report_of_root (hsource : source ≠ .bundle)
    (hroot : (r.report source).root = some root) :
    (r.report source).status = r.directoryStatus (some root) := by
  cases source with
  | bundle => exact absurd rfl hsource
  | rootVariable =>
    have hnamed : r.variableRoot? = some root := hroot
    rw [report, reportVariable, hnamed]
  | installTree =>
    have hnamed : r.installRoot? = some root := hroot
    rw [report, reportInstallTree, hnamed]

/-- Of the roots that exist the usable ones are those with the sentinel. -/
theorem status_report_eq_usable_iff (hsource : source ≠ .bundle)
    (hroot : (r.report source).root = some root)
    (hpresent : (r.report source).status.isPresent = true) :
    (r.report source).status = .usable ↔
      r.files.isFile (root.joinText r.config.sentinel) = true := by
  rw [status_report_of_root hsource hroot] at hpresent ⊢
  have hdir : r.files.isDir root = true := by
    rw [isPresent_directoryStatus] at hpresent
    simpa using hpresent
  rw [directoryStatus_eq_usable_iff, hdir, eq_self, true_and]

section stop

variable (horder : r.config.candidateOrder = before ++ source :: after)
  (hbefore : ∀ other ∈ before, (r.report other).status.isPresent = false)
  (hsource : source ≠ .bundle) (hroot : (r.report source).root = some root)
  (hpresent : (r.report source).status.isPresent = true) (hnonempty : root.isEmpty = false)
  (hresource : isRelativeResource resource = true)
  (hnamespace : Text.hasPrefix r.config.namespacePrefix resource = true)
include horder hbefore hsource hroot hpresent hnonempty hresource hnamespace

end stop

/-! ### What the prediction says -/

section predicted

variable {report : RootReport} {sentinel : String} {isDir isFile : Bool}

end predicted

/-! ### Sources behind the first root -/

/-- A resolver whose variable names, relative to the working directory, a root
    with a resource and without the sentinel.  An absent bundle stands in front
    of it, and a complete install tree behind it. -/
def bareRoot : Resolver where
  config := Config.standard.withCandidateOrder [.bundle, .rootVariable, .installTree]
  environment := (Variables.mk [("PROJECT_RESOURCE_ROOT", Text.encode "data")]).view
  files := (MemoryFiles.empty.addFile (Path.ofText "/w/data/project/x.txt")
    |>.addFile (Path.ofText "/opt/bin/../share/project/.resource-root-sentinel")
    |>.addFile (Path.ofText "/opt/bin/../share/project/x.txt")).view
  bundle := .absent
  markerDir := some (Path.ofText "/opt/bin")
  workingDir := some (Path.ofText "/w")

end LayeredRoots.Resolver
