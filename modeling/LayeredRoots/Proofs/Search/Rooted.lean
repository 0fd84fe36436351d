import LayeredRoots.Proofs.Search.DirectoryBundle
import LayeredRoots.Proofs.Search.Routes

/-! # Rooted resources

    A search refuses a rooted path before it asks any source, so it never finds
    one.  A probe of a single source does not look at the path first, and what
    becomes of a rooted one depends on the source:

    * the variable and the marker refuse it: a directory that serves as root is
      never asked for a path that does not lie below it (`told_probe_of_rooted`);
    * the bundle takes it.  Joined to a directory of runfiles, or to the root of a
      bundle, a rooted path is all that remains, so any file of the machine passes
      for a part of the runfiles, and any directory if the bundle has a root
      (`rooted_resource_found_iff`).

    No rule ever applies to a rooted path. -/

namespace LayeredRoots

/-! ### Rooted paths -/

theorem isRelativeResource_of_rooted {resource : String}
    (h : Text.hasPrefix "/" resource = true) : isRelativeResource resource = false := by
  rw [isRelativeResource, h, Bool.not_true, Bool.and_false]

/-- Nothing remains of what a rooted path is joined to. -/
theorem Path.joinText_of_rooted (base : Path) {resource : String}
    (h : Text.hasPrefix "/" resource = true) : base.joinText resource = Path.ofText resource := by
  apply join_of_isAbsolute
  rw [isAbsolute_ofText, h]

theorem Path.isEmpty_ofText_of_rooted {resource : String}
    (h : Text.hasPrefix "/" resource = true) : (Path.ofText resource).isEmpty = false := by
  apply isEmpty_of_isAbsolute
  rw [isAbsolute_ofText, h]

/-- A rooted path lies outside every namespace, so no rule applies to it. -/
theorem Config.movedPaths_of_rooted {c : Config} (hvalid : c.flaw? = none) {resource : String}
    (h : Text.hasPrefix "/" resource = true) (rules : List Relocation) :
    Bundle.movedPaths c.namespacePrefix rules resource = [] := by
  have houtside : Text.hasPrefix c.namespacePrefix resource = false := by
    by_contra hinside
    have hrelative := isAbsolute_below_namespace hvalid (by simpa using hinside)
    rw [Path.isAbsolute_ofText, h] at hrelative
    cases hrelative
  rw [Bundle.movedPaths, Text.dropPrefix?, houtside, if_neg Bool.false_ne_true]

namespace Resolver

variable {r : Resolver} {resource named : String} {path : Path}

/-! ### Probes -/

theorem success_eq_found_iff {place : Path} :
    Resolution.success resource place = .ok (.found named path) ↔
      resource.isEmpty = false ∧ place.isEmpty = false ∧ named = resource ∧ path = place := by
  constructor
  · intro h
    obtain ⟨rfl, rfl⟩ := eq_of_success h
    unfold Resolution.success at h
    split at h
    · cases h
    · next hresource =>
      split at h
      · cases h
      · next hpath => exact ⟨by simpa using hresource, by simpa using hpath, rfl, rfl⟩
  · intro h
    obtain ⟨hresource, hplace, rfl, rfl⟩ := h
    exact Resolution.success_eq_ok hresource hplace

theorem map_some_eq_iff {outcome : Except Misuse Resolution} {resolution : Resolution} :
    outcome.map some = .ok (some resolution) ↔ outcome = .ok resolution := by
  constructor
  · exact ok_of_map_some
  · intro h
    obtain rfl := h
    rfl

/-- An answer that is no success is a miss. -/
theorem exists_error_iff {answer : Except String Path} :
    (∃ reason, answer = .error reason) ↔ ∀ place, answer ≠ .ok place := by
  cases answer <;> simp

section rooted

variable (hrooted : Text.hasPrefix "/" resource = true)
include hrooted

theorem isEmpty_of_rooted : resource.isEmpty = false := by
  rw [← Path.isEmpty_ofText, Path.isEmpty_ofText_of_rooted hrooted]

/-- **The variable and the marker** never take a rooted path. -/
theorem told_probe_of_rooted {source : Source} (hsource : source ≠ .bundle)
    (hroot : r.hasRoot source = true) :
    ∃ root, (r.report source).root = some root ∧
      (r.probe source resource).told =
        (.error (if root.isEmpty then .emptyRoot else .rootedRequest resource), []) := by
  obtain ⟨root, hreport, -, heq⟩ := probe_eq_checkRoot resource hsource hroot
  refine ⟨root, hreport, ?_⟩
  rw [heq, checkRoot, description_report_ne_empty r source, if_neg Bool.false_ne_true]
  cases root.isEmpty with
  | true => rfl
  | false =>
    rw [isRelativeResource_of_rooted hrooted]
    rfl

/-- **The bundle** takes a rooted path that it has, or that is a directory if the
    bundle has a root. -/
theorem probeBundle_of_rooted (hvalid : r.config.flaw? = none)
    (havailable : r.bundle.available = true) :
    (r.probeBundle resource).told.1 = .ok (some (.found named path)) ↔
      named = resource ∧
        (r.bundle.locate resource = .ok path ∧ path.isEmpty = false ∨
          (∃ reason, r.bundle.locate resource = .error reason) ∧
            (∃ root, r.bundle.root r.config.sentinel = .ok root) ∧
            path = Path.ofText resource ∧ r.files.isDir path = true) := by
  have hname := isEmpty_of_rooted hrooted
  have hjoin (root : Path) := Path.joinText_of_rooted root hrooted
  have hunmoved : (r.bundle.relocated? r.config.namespacePrefix r.config.relocations
      resource).1 = none := by
    rw [Bundle.relocated?, Config.movedPaths_of_rooted hvalid hrooted]
    rfl
  obtain ⟨place, hplace⟩ | ⟨reason, dir, hmiss, hdir⟩ | ⟨reason, place, hmiss, hdir, hmoved⟩ |
    ⟨reason, hmisses⟩ := bundle_cases r resource havailable
  -- the bundle has the path
  · rw [told_probeBundle_of_located havailable hplace, map_some_eq_iff, success_eq_found_iff, hplace]
    constructor
    · intro h
      obtain ⟨-, hnonempty, rfl, rfl⟩ := h
      exact ⟨rfl, .inl ⟨rfl, hnonempty⟩⟩
    · intro h
      rcases h with ⟨rfl, ⟨hsame, hnonempty⟩ | ⟨⟨reason, hmiss⟩, -⟩⟩
      · obtain rfl := Except.ok.inj hsame
        exact ⟨hname, hnonempty, rfl, rfl⟩
      · cases hmiss
  -- it lacks the path, and joined to its root the path is still the same
  · obtain ⟨root, hroot, rfl, hthere⟩ := Bundle.exists_root_of_directory? hdir
    rw [hjoin] at hdir hthere
    rw [told_probeBundle_of_directory havailable hmiss hdir, map_some_eq_iff, success_eq_found_iff,
      hmiss]
    constructor
    · intro h
      obtain ⟨-, -, rfl, rfl⟩ := h
      exact ⟨rfl, .inr ⟨⟨reason, rfl⟩, ⟨root, hroot⟩, rfl, hthere⟩⟩
    · intro h
      rcases h with ⟨rfl, ⟨hplace, -⟩ | ⟨-, -, rfl, -⟩⟩
      · cases hplace
      · exact ⟨hname, Path.isEmpty_ofText_of_rooted hrooted, rfl, rfl⟩
  · rw [hunmoved] at hmoved
    cases hmoved
  -- it has neither, so no directory is there or the bundle has no root
  · rw [told_probeBundle_of_misses hmisses, map_some_eq_iff, hmisses.locate]
    refine iff_of_false (refuse_ne_found _) ?_
    intro h
    rcases h with ⟨rfl, ⟨hplace, -⟩ | ⟨-, ⟨root, hroot⟩, rfl, hthere⟩⟩
    · cases hplace
    · have hnodir := hmisses.directory
      rw [Bundle.directory?_of_root hroot, hjoin, hthere] at hnodir
      cases hnodir

/-- **A directory of runfiles** takes every rooted file there is. -/
theorem probeBundle_directory_of_rooted (hvalid : r.config.flaw? = none) {dir : Path}
    (hbundle : r.bundle = (Runfiles.directory dir).bundle r.files) :
    (r.probeBundle resource).told.1 = .ok (some (.found named path)) ↔
      named = resource ∧ path = Path.ofText resource ∧
        (r.files.isFile path = true ∨
          r.files.isDir path = true ∧ ∃ root, r.bundle.root r.config.sentinel = .ok root) := by
  have hlocate {place : Path} : r.bundle.locate resource = .ok place ↔
      place = Path.ofText resource ∧ r.files.isFile place = true := by
    rw [hbundle, Runfiles.locate_bundle_iff, Runfiles.locate_directory_iff,
      Path.joinText_of_rooted dir hrooted]
  rw [probeBundle_of_rooted hrooted hvalid (by rw [hbundle]; rfl)]
  constructor
  · intro h
    rcases h with ⟨hnamed, ⟨hplace, -⟩ | ⟨-, hroot, hpath, hdir⟩⟩
    · obtain ⟨hpath, hfile⟩ := hlocate.1 hplace
      exact ⟨hnamed, hpath, .inl hfile⟩
    · exact ⟨hnamed, hpath, .inr ⟨hdir, hroot⟩⟩
  · intro h
    obtain ⟨hnamed, hpath, hthere⟩ := h
    refine ⟨hnamed, ?_⟩
    -- what is a file and a directory at once counts as a file
    by_cases hfile : r.files.isFile path = true
    · left
      exact ⟨hlocate.2 ⟨hpath, hfile⟩, by rw [hpath, Path.isEmpty_ofText_of_rooted hrooted]⟩
    · right
      obtain ⟨hdir, hroot⟩ := hthere.resolve_left hfile
      refine ⟨?_, hroot, hpath, hdir⟩
      apply exists_error_iff.2
      intro place hplace
      obtain ⟨rfl, hthere⟩ := hlocate.1 hplace
      rw [← hpath] at hthere
      exact hfile hthere

/-- **A manifest** takes the rooted files that it lists. -/
theorem probeBundle_manifest_of_rooted (hvalid : r.config.flaw? = none) {listing : Path}
    {entries : Entries} (hbundle : r.bundle = (Runfiles.manifest listing entries).bundle r.files) :
    (r.probeBundle resource).told.1 = .ok (some (.found named path)) ↔
      named = resource ∧
        (entries.get? resource = some path ∧ r.files.isFile path = true ∧ path.isEmpty = false ∨
          (∀ target, entries.get? resource = some target → r.files.isFile target = false) ∧
            path = Path.ofText resource ∧ r.files.isDir path = true ∧
            ∃ root, r.bundle.root r.config.sentinel = .ok root) := by
  have hlocate {place : Path} : r.bundle.locate resource = .ok place ↔
      entries.get? resource = some place ∧ r.files.isFile place = true := by
    rw [hbundle, Runfiles.locate_bundle_iff, Runfiles.locate_manifest_iff]
  have hmissed : (∃ reason, r.bundle.locate resource = .error reason) ↔
      ∀ target, entries.get? resource = some target → r.files.isFile target = false := by
    rw [exists_error_iff]
    simp only [Ne, hlocate, not_and, Bool.not_eq_true]
  rw [probeBundle_of_rooted hrooted hvalid (by rw [hbundle]; rfl), hlocate, hmissed]
  constructor
  · intro h
    rcases h with ⟨hnamed, ⟨⟨hentry, hfile⟩, hnonempty⟩ | ⟨hmiss, hroot, hpath, hdir⟩⟩
    · exact ⟨hnamed, .inl ⟨hentry, hfile, hnonempty⟩⟩
    · exact ⟨hnamed, .inr ⟨hmiss, hpath, hdir, hroot⟩⟩
  · intro h
    rcases h with ⟨hnamed, ⟨hentry, hfile, hnonempty⟩ | ⟨hmiss, hpath, hdir, hroot⟩⟩
    · exact ⟨hnamed, .inl ⟨⟨hentry, hfile⟩, hnonempty⟩⟩
    · exact ⟨hnamed, .inr ⟨hmiss, hroot, hpath, hdir⟩⟩

end rooted

/-- **Rooted resources.**  For a valid configuration a search never finds one, and
    neither the variable nor the marker takes one.  Runfiles do: a directory of them
    hands out every rooted file there is, wherever it lies, and a manifest those
    that it lists.  Both hand out every rooted directory there is if they have a
    root. -/
theorem rooted_resource_found_iff (r : Resolver) (hvalid : r.config.flaw? = none)
    (found : Option Runfiles) (hbundle : r.bundle = Runfiles.bundleOf r.files found)
    (resource : String) (hrooted : Text.hasPrefix "/" resource = true) :
    (∀ named path, (r.resolve resource).outcome ≠ .ok (.found named path)) ∧
    (∀ source, source ≠ .bundle →
      (r.hasRoot source = false → (r.probe source resource).told = (.ok none, [])) ∧
      (r.hasRoot source = true → ∃ root, (r.report source).root = some root ∧
        (r.probe source resource).told =
          (.error (if root.isEmpty then .emptyRoot else .rootedRequest resource), []))) ∧
    (found = none → (r.probe .bundle resource).told = (.ok none, [])) ∧
    (∀ dir, found = some (.directory dir) → ∀ named path,
      (r.probe .bundle resource).outcome = .ok (some (.found named path)) ↔
        named = resource ∧ path = Path.ofText resource ∧
          (r.files.isFile path = true ∨
            r.files.isDir path = true ∧ ∃ root, r.bundle.root r.config.sentinel = .ok root)) ∧
    (∀ listing entries, found = some (.manifest listing entries) → ∀ named path,
      (r.probe .bundle resource).outcome = .ok (some (.found named path)) ↔
        named = resource ∧
          (entries.get? resource = some path ∧ r.files.isFile path = true ∧ path.isEmpty = false ∨
            (∀ target, entries.get? resource = some target → r.files.isFile target = false) ∧
              path = Path.ofText resource ∧ r.files.isDir path = true ∧
              ∃ root, r.bundle.root r.config.sentinel = .ok root)) := by
  refine ⟨?_, ?_, ?_, ?_, ?_⟩
  · intro named path hfound
    obtain ⟨hrelative, -⟩ := requested_of_found hfound
    rw [isRelativeResource_of_rooted hrooted] at hrelative
    cases hrelative
  · intro source hsource
    exact ⟨told_probe_of_no_root resource, told_probe_of_rooted hrooted hsource⟩
  · intro hnone
    apply told_probeBundle_of_absent
    rw [hbundle, hnone]
    rfl
  · intro dir hdirectory named path
    rw [hdirectory] at hbundle
    exact probeBundle_directory_of_rooted hrooted hvalid hbundle
  · intro listing entries hmanifest named path
    rw [hmanifest] at hbundle
    exact probeBundle_manifest_of_rooted hrooted hvalid hbundle

/-- A bundle hands out the root directory of the machine, above its own root, and
    the root variable refuses it. -/
theorem rooted_resource_found_iff_rootDirectory :
    let r := overPlainTree (Path.ofText "/r") Config.standard
    (r.config.flaw? = none ∧ Text.hasPrefix "/" "/" = true) ∧
    (r.probe .bundle "/").outcome = .ok (some (.found "/" (Path.ofText "/"))) ∧
    r.bundle.root r.config.sentinel = .ok (Path.ofText "/r") ∧
    (r.probe .rootVariable "/").told = (.error (.rootedRequest "/"), []) := by
  intro r
  have hvalid : r.config.flaw? = none := by decide +kernel
  have hbundle : r.bundle = Runfiles.bundleOf r.files (some (.directory (Path.ofText "/r"))) := rfl
  have hroot : r.bundle.root r.config.sentinel = .ok (Path.ofText "/r") := by decide +kernel
  have hdir : r.files.isDir (Path.ofText "/") = true := by decide +kernel
  obtain ⟨-, hprobes, -, hdirectory, -⟩ :=
    rooted_resource_found_iff r hvalid _ hbundle "/" (by decide)
  obtain ⟨-, hrefuses⟩ := hprobes .rootVariable (by decide)
  obtain ⟨root, hreport, htold⟩ := hrefuses (by decide +kernel)
  have hnonempty : (r.report .rootVariable).root = some (Path.ofText "/r") := by decide +kernel
  obtain rfl := Option.some.inj (hreport.symm.trans hnonempty)
  refine ⟨⟨hvalid, by decide⟩, ?_, hroot, htold⟩
  exact (hdirectory _ rfl _ _).2 ⟨rfl, rfl, .inr ⟨hdir, _, hroot⟩⟩

/-- Probes of runfiles do find rooted resources: a file outside of them passes for
    one of theirs. -/
theorem rooted_file_probed :
    ¬ ∀ (r : Resolver) (found : Option Runfiles) (source : Source) (resource named : String)
        (path : Path), r.config.flaw? = none → r.bundle = Runfiles.bundleOf r.files found →
      Text.hasPrefix "/" resource = true →
      (r.probe source resource).outcome ≠ .ok (some (.found named path)) := by
  intro h
  exact h (overPlainTree (Path.ofText "/r/project/models") Config.standard)
    (some (.directory (Path.ofText "/r/project/models"))) .bundle
    "/r/project/.resource-root-sentinel" "/r/project/.resource-root-sentinel"
    (Path.ofText "/r/project/.resource-root-sentinel") (by decide +kernel) rfl (by decide +kernel)
    (by decide +kernel)

end Resolver
end LayeredRoots
