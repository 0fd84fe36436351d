import LayeredRoots.Proofs.Search.Layouts
import LayeredRoots.Proofs.Search.Precedence

/-! # Directories that carry their sentinel

    A directory with the sentinel in it can serve as a bundle.  The bundle does
    not remember the directory; it recovers it from the place of the sentinel,
    and this works unless the namespace starts with `.`.  That `.` is a step of
    the path of the sentinel, but not of its place below the directory, so the
    two ends do not match, and the bundle passes for one without a root.  The
    root variable and the install marker accept the same directory.

    * `root_of_plain_namespace`: without that `.` the root is the directory, less
      its loose end.
    * `directory_bundle_usable_iff`: which directories are usable. -/

namespace LayeredRoots

/-! ### The report and the search -/

namespace Resolver

variable {r : Resolver}

theorem report_bundle_of_no_root {fault : Bundle.RootFault} (havailable : r.bundle.available = true)
    (hroot : r.bundle.root r.config.sentinel = .error fault) :
    r.report .bundle = ⟨.bundle, bundleDescription, none, .noSentinel⟩ := by
  simp [report, reportBundle, havailable, hroot]

section directory

variable {dir : Path} (hvalid : r.config.flaw? = none)
    (hbundle : r.bundle = (Runfiles.directory dir).bundle r.files) (hdir : dir.isEmpty = false)
    (hsentinel : r.files.isFile (dir.joinText r.config.sentinel) = true)
include hvalid hbundle hdir hsentinel

/-- The root of a directory, for a namespace without a leading `.`. -/
theorem root_of_plain_namespace
    (hplain : (Path.ofText r.config.namespacePrefix).components.head? ≠ some .here) :
    r.bundle.root r.config.sentinel = .ok dir.trimmed := by
  have hbelow := Config.hasPrefix_sentinel hvalid
  rw [← Config.head?_below_namespace hvalid hbelow] at hplain
  rw [hbundle]
  exact Runfiles.root_directory hdir (Config.isAbsolute_below_namespace hvalid hbelow) hsentinel
    hplain (Config.sentinel_ne_empty hvalid)

/-- The place of the sentinel does not end as its path does, for a namespace with
    a leading `.`. -/
theorem root_of_dotted_namespace
    (hhere : (Path.ofText r.config.namespacePrefix).components.head? = some .here)
    (hdot : dir.components ≠ [.here]) :
    r.bundle.root r.config.sentinel =
      .error (.strayed (dir.joinText r.config.sentinel) r.config.sentinel) := by
  have hbelow := Config.hasPrefix_sentinel hvalid
  rw [← Config.head?_below_namespace hvalid hbelow] at hhere
  rw [hbundle]
  exact Runfiles.strayed_directory hdir (Config.isAbsolute_below_namespace hvalid hbelow) hsentinel
    hhere hdot

/-- In the directory `.` the root for such a namespace is the empty path. -/
theorem exists_report_of_dot
    (hhere : (Path.ofText r.config.namespacePrefix).components.head? = some .here)
    (hdot : dir.components = [.here]) :
    ∃ root, root.isEmpty = true ∧
      r.report .bundle = ⟨.bundle, bundleDescription, some root, .usable⟩ := by
  have hbelow := Config.hasPrefix_sentinel hvalid
  have havailable : r.bundle.available = true := by
    rw [hbundle]
    rfl
  rw [← Config.head?_below_namespace hvalid hbelow] at hhere
  obtain ⟨root, hroot, hnothing⟩ := Runfiles.root_dot hdir
    (Config.isAbsolute_below_namespace hvalid hbelow) hsentinel hhere hdot
  rw [← hbundle] at hroot
  exact ⟨root, hnothing, report_bundle_of_root havailable hroot⟩

/-- A resource that is a directory there is found, at its place below the
    trimmed directory at the latest. -/
theorem exists_found_of_isDir (htrims : r.files.TrimsBases)
    (hplain : (Path.ofText r.config.namespacePrefix).components.head? ≠ some .here)
    {resource : String} (hnamespace : Text.hasPrefix r.config.namespacePrefix resource = true)
    (hisDir : r.files.isDir (dir.joinText resource) = true) :
    ∃ place, (r.probe .bundle resource).outcome = .ok (some (.found resource place)) ∧
      place.same (dir.joinText resource) = true := by
  have havailable : r.bundle.available = true := by
    rw [hbundle]
    rfl
  have hname : resource ≠ "" := by
    have hrelative := isRelativeResource_below_namespace hvalid hnamespace
    simpa using isEmpty_of_isRelativeResource hrelative
  by_cases hisFile : r.files.isFile (dir.joinText resource) = true
  · -- whatever answers that it is a file, too, has it mapped
    have hplace : r.bundle.locate resource = .ok (dir.joinText resource) := by
      rw [hbundle]
      exact Runfiles.locate_directory_of_isFile hisFile
    have hpath : (dir.joinText resource).isEmpty = false := Path.join_ne_empty hdir
    have hprobe := probeBundle_of_located havailable hplace hname hpath
    refine ⟨dir.joinText resource, ?_, decide_eq_true rfl⟩
    show (r.probeBundle resource).outcome = _
    rw [hprobe]
  · have hmiss : r.bundle.locate resource =
        .error (Runfiles.Miss.notInDirectory dir resource).message := by
      rw [hbundle]
      exact Runfiles.locate_directory_of_missing (by simpa using hisFile)
    have hroot := root_of_plain_namespace hvalid hbundle hdir hsentinel hplain
    have hbelow := htrims.isDir dir hdir resource hisDir
    refine ⟨dir.trimmed.joinText resource, ?_, ?_⟩
    · exact congrArg Prod.fst
        (told_probeBundle_of_isDir havailable hmiss hname hroot hbelow)
    · exact decide_eq_true (Path.components_join_congr (Path.components_trimmed hdir) _)

end directory

/-- **Directories that carry their sentinel** are usable bundles, with the
    directory as their root, if and only if the namespace does not start with
    `.`.  Then every directory in them is found as a resource.  Otherwise the
    bundle has no root, and no directory is found; only in the directory `.` it
    seems to be usable, with nothing for a root. -/
theorem directory_bundle_usable_iff (r : Resolver) (dir : Path) (hvalid : r.config.flaw? = none)
    (hbundle : r.bundle = (Runfiles.directory dir).bundle r.files) (hdir : dir.isEmpty = false)
    (hsentinel : r.files.isFile (dir.joinText r.config.sentinel) = true)
    (htrims : r.files.TrimsBases) :
    ((r.report .bundle).status = .usable ∧
        (∃ root, (r.report .bundle).root = some root ∧ root.same dir = true) ↔
      (Path.ofText r.config.namespacePrefix).components.head? ≠ some .here) ∧
    ((Path.ofText r.config.namespacePrefix).components.head? ≠ some .here → ∀ resource,
      Text.hasPrefix r.config.namespacePrefix resource = true →
      r.files.isDir (dir.joinText resource) = true →
      ∃ place, (r.probe .bundle resource).outcome = .ok (some (.found resource place)) ∧
        place.same (dir.joinText resource) = true) ∧
    ((Path.ofText r.config.namespacePrefix).components.head? = some .here →
      (dir.components ≠ [.here] →
        r.report .bundle = ⟨.bundle, bundleDescription, none, .noSentinel⟩ ∧
        ∀ resource, (r.bundle.directory? r.files r.config.sentinel resource).1 = none) ∧
      (dir.components = [.here] → ∃ root, root.isEmpty = true ∧
        r.report .bundle = ⟨.bundle, bundleDescription, some root, .usable⟩)) := by
  have havailable : r.bundle.available = true := by
    rw [hbundle]
    rfl
  refine ⟨⟨?_, ?_⟩, ?_, ?_⟩
  · intro husable hhere
    obtain ⟨-, root, hroot, hsame⟩ := husable
    by_cases hdot : dir.components = [.here]
    · obtain ⟨other, hnothing, hreport⟩ := exists_report_of_dot hvalid hbundle hdir hsentinel hhere hdot
      rw [hreport] at hroot
      obtain rfl : other = root := Option.some.inj hroot
      have hnonempty := isEmpty_of_same hsame hdir
      rw [hnothing] at hnonempty
      cases hnonempty
    · have hstrayed := root_of_dotted_namespace hvalid hbundle hdir hsentinel hhere hdot
      rw [report_bundle_of_no_root havailable hstrayed] at hroot
      cases hroot
  · intro hplain
    have hroot := root_of_plain_namespace hvalid hbundle hdir hsentinel hplain
    rw [report_bundle_of_root havailable hroot]
    exact ⟨rfl, dir.trimmed, rfl, decide_eq_true (Path.components_trimmed hdir)⟩
  · intro hplain resource hnamespace hisDir
    exact exists_found_of_isDir hvalid hbundle hdir hsentinel htrims hplain hnamespace hisDir
  · intro hhere
    refine ⟨?_, exists_report_of_dot hvalid hbundle hdir hsentinel hhere⟩
    intro hdot
    have hroot := root_of_dotted_namespace hvalid hbundle hdir hsentinel hhere hdot
    refine ⟨report_bundle_of_no_root havailable hroot, ?_⟩
    intro resource
    apply Bundle.directory?_eq_none
    intro root hother
    rw [hroot] at hother
    cases hother

/-- A tree with one directory below the namespace. -/
def plainTree : MemoryFiles :=
  (MemoryFiles.empty.addFile (Path.ofText "/r/project/.resource-root-sentinel")).addDir
    (Path.ofText "/r/project/models")

/-- A resolver over that tree, which serves as a bundle and which the root
    variable names. -/
def overPlainTree (dir : Path) (c : Config) : Resolver where
  config := c
  environment := (Variables.mk [("PROJECT_RESOURCE_ROOT", dir.bytes)]).view
  files := plainTree.view
  bundle := (Runfiles.directory dir).bundle plainTree.view
  markerDir := none
  workingDir := none

/-- The tree is usable, and its directory is found, although its own path has a
    loose end. -/
theorem directory_bundle_usable_iff_looseEnd :
    let dir := Path.ofText "//r/./"
    let r := overPlainTree dir Config.standard
    (r.config.flaw? = none ∧ dir.isEmpty = false ∧
      r.files.isFile (dir.joinText r.config.sentinel) = true ∧ r.files.TrimsBases) ∧
    (r.report .bundle).status = .usable ∧
    (∃ root, (r.report .bundle).root = some root ∧ root.same dir = true) ∧
    ∃ place, (r.probe .bundle "project/models").outcome =
        .ok (some (.found "project/models" place)) ∧
      place.same (dir.joinText "project/models") = true := by
  intro dir r
  have hvalid : r.config.flaw? = none := by decide +kernel
  have hsentinel : r.files.isFile (dir.joinText r.config.sentinel) = true := by decide +kernel
  have htrims : r.files.TrimsBases := plainTree.trimsBases_view
  have hplain : (Path.ofText r.config.namespacePrefix).components.head? ≠ some .here := by
    decide +kernel
  obtain ⟨husable, hfound, -⟩ :=
    directory_bundle_usable_iff r dir hvalid rfl (by decide +kernel) hsentinel htrims
  obtain ⟨hstatus, hroot⟩ := husable.2 hplain
  exact ⟨⟨hvalid, by decide +kernel, hsentinel, htrims⟩, hstatus, hroot,
    hfound hplain "project/models" (by decide) (by decide +kernel)⟩

/-- The standard layout, with a namespace that starts with `.`. -/
def dottedNamespace : Config :=
  { Config.standard with
    namespacePrefix := "./project/"
    sentinel := "./project/.resource-root-sentinel" }

/-- A directory that carries its sentinel need not be usable as a bundle, even
    where the root variable accepts it. -/
theorem unusable_directory_below_dottedNamespace :
    ¬ ∀ (r : Resolver) (dir : Path), r.config.flaw? = none →
      r.bundle = (Runfiles.directory dir).bundle r.files → dir.isEmpty = false →
      r.files.isFile (dir.joinText r.config.sentinel) = true →
      (r.report .rootVariable).status = .usable → (r.report .bundle).status = .usable := by
  intro h
  have husable := h (overPlainTree (Path.ofText "/r") dottedNamespace) (Path.ofText "/r")
    (by decide +kernel) rfl (by decide +kernel) (by decide +kernel) (by decide +kernel)
  exact absurd husable (by decide +kernel)

end Resolver
end LayeredRoots
