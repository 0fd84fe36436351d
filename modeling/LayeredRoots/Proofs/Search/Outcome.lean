import LayeredRoots.Proofs.Bundle.Places
import LayeredRoots.Resolver.Report
import LayeredRoots.Resolver.Search

/-! # What a search comes to

    Each operation of a search has here one equation for each way it can go:
    a root is checked, a bundle is asked, a source is probed, the sources are
    tried in order.  They speak of what a finding `told`, its outcome and the
    directories it came across; the notes are left out, because nothing that
    is looked up depends on them.

    The equations need the preconditions of the operations and nothing else.
    `Resolver.Grounded` collects what the surroundings must promise for a
    search to break none of them. -/

namespace LayeredRoots

/-! ### Findings without notes -/

namespace Finding

variable {α β : Type}

/-- What a finding has for its caller and for a deprecation log. -/
def told (f : Finding α) : Except Misuse α × List String := (f.outcome, f.directories)

@[simp] theorem told_of (outcome : Except Misuse α) : (of outcome).told = (outcome, []) := rfl

@[simp] theorem told_noting (f : Finding α) (notes : List Note) :
    (f.noting notes).told = f.told := rfl

@[simp] theorem told_deprecating (f : Finding α) (resource : String) :
    (f.deprecating resource).told = (f.outcome, resource :: f.directories) := rfl

@[simp] theorem told_map (g : α → β) (f : Finding α) :
    (f.map g).told = (f.told.1.map g, f.told.2) := rfl

end Finding

/-! ### Resolutions -/

theorem Resolution.success_eq_ok {resource : String} {path : Path}
    (hresource : resource.isEmpty = false) (hpath : path.isEmpty = false) :
    Resolution.success resource path = .ok (.found resource path) := by
  simp [Resolution.success, hresource, hpath]

theorem append_ne_empty {s : String} (t : String) (h : s ≠ "") : s ++ t ≠ "" := by
  intro he
  exact h (String.append_eq_empty_iff.1 he).1

/-- Only a bundle can have nothing to say about a miss. -/
theorem Failure.message_ne_empty {why : Failure} (resource : String)
    (h : why ≠ .bundleMiss "") : why.message resource ≠ "" := by
  cases why with
  | bundleMiss reason =>
    show reason ≠ ""
    rintro rfl
    exact h rfl
  | notRelative | outsideNamespace | noSentinel | noSuchFile | bundleSilent | noRoots =>
    -- every other message opens with a text of its own
    unfold Failure.message
    dsimp only
    repeat apply append_ne_empty
    decide

namespace Resolver

variable {r : Resolver} {resource : String}

theorem refuse_eq_ok {why : Failure} (hresource : resource.isEmpty = false)
    (hwhy : why ≠ .bundleMiss "") :
    refuse resource why = .ok (.failed resource (why.message resource)) := by
  have hmessage : (why.message resource).isEmpty = false := by
    simpa using Failure.message_ne_empty resource hwhy
  simp [refuse, Resolution.failure, hresource, hmessage]

theorem bundleFailure_ne (reason : String) : bundleFailure reason ≠ .bundleMiss "" := by
  unfold bundleFailure
  split
  · simp
  · next h => simpa using h

theorem isEmpty_of_isRelativeResource (h : isRelativeResource resource = true) :
    resource.isEmpty = false := by
  simp [isRelativeResource] at h
  simpa using h.1

/-! ### One root -/

section checkRoot

variable {origin : String} {root : Path}
    (horigin : origin.isEmpty = false) (hroot : root.isEmpty = false)
    (hresource : isRelativeResource resource = true)
include horigin hroot hresource

theorem told_checkRoot_of_no_sentinel
    (hsentinel : r.files.isFile (root.joinText r.config.sentinel) = false) :
    (r.checkRoot origin root resource).told =
      (.ok (.failed resource
        ((Failure.noSentinel origin root r.config.sentinel).message resource)), []) := by
  simp [checkRoot, horigin, hroot, hresource, hsentinel,
    refuse_eq_ok (isEmpty_of_isRelativeResource hresource)]

theorem told_checkRoot_of_isDir
    (hsentinel : r.files.isFile (root.joinText r.config.sentinel) = true)
    (hdir : r.files.isDir (root.joinText resource) = true) :
    (r.checkRoot origin root resource).told =
      (.ok (.found resource (root.joinText resource)), [resource]) := by
  have hfile : (root.joinText resource).isEmpty = false := Path.join_ne_empty hroot
  simp [checkRoot, horigin, hroot, hresource, hsentinel, hdir,
    Resolution.success_eq_ok (isEmpty_of_isRelativeResource hresource) hfile]

theorem told_checkRoot_of_isFile
    (hsentinel : r.files.isFile (root.joinText r.config.sentinel) = true)
    (hdir : r.files.isDir (root.joinText resource) = false)
    (hfile : r.files.isFile (root.joinText resource) = true) :
    (r.checkRoot origin root resource).told =
      (.ok (.found resource (root.joinText resource)), []) := by
  have hpath : (root.joinText resource).isEmpty = false := Path.join_ne_empty hroot
  simp [checkRoot, horigin, hroot, hresource, hsentinel, hdir, hfile,
    Resolution.success_eq_ok (isEmpty_of_isRelativeResource hresource) hpath]

theorem told_checkRoot_of_missing
    (hsentinel : r.files.isFile (root.joinText r.config.sentinel) = true)
    (hdir : r.files.isDir (root.joinText resource) = false)
    (hfile : r.files.isFile (root.joinText resource) = false) :
    (r.checkRoot origin root resource).told =
      (.ok (.failed resource
        ((Failure.noSuchFile origin root (root.joinText resource)).message resource)), []) := by
  simp [checkRoot, horigin, hroot, hresource, hsentinel, hdir, hfile,
    refuse_eq_ok (isEmpty_of_isRelativeResource hresource)]

end checkRoot

/-! ### The bundle -/

/-- The bundle has a resource neither where it was asked for, nor as a
    directory, nor where its subtree moved, and the first of these three misses
    has the given reason. -/
structure BundleMisses (r : Resolver) (resource reason : String) : Prop where
  available : r.bundle.available = true
  locate    : r.bundle.locate resource = .error reason
  directory : (r.bundle.directory? r.files r.config.sentinel resource).1 = none
  moved     : (r.bundle.relocated? r.config.namespacePrefix r.config.relocations resource).1 = none

section probeBundle

theorem told_probeBundle_of_absent (h : r.bundle.available = false) :
    (r.probeBundle resource).told = (.ok none, []) := by
  simp [probeBundle, h]

theorem told_probeBundle_of_located {place : Path} (h : r.bundle.available = true)
    (hplace : r.bundle.locate resource = .ok place) :
    (r.probeBundle resource).told = ((Resolution.success resource place).map some, []) := by
  simp [probeBundle, h, hplace]

theorem told_probeBundle_of_directory {reason : String} {dir : Path}
    (h : r.bundle.available = true) (hmiss : r.bundle.locate resource = .error reason)
    (hdir : (r.bundle.directory? r.files r.config.sentinel resource).1 = some dir) :
    (r.probeBundle resource).told =
      ((Resolution.success resource dir).map some, [resource]) := by
  simp [probeBundle, h, hmiss, hdir]

theorem told_probeBundle_of_moved {reason : String} {place : Path}
    (h : r.bundle.available = true) (hmiss : r.bundle.locate resource = .error reason)
    (hdir : (r.bundle.directory? r.files r.config.sentinel resource).1 = none)
    (hmoved : (r.bundle.relocated? r.config.namespacePrefix r.config.relocations resource).1 =
      some place) :
    (r.probeBundle resource).told = ((Resolution.success resource place).map some, []) := by
  simp [probeBundle, h, hmiss, hdir, hmoved]

theorem told_probeBundle_of_misses {reason : String} (h : r.BundleMisses resource reason) :
    (r.probeBundle resource).told = ((refuse resource (bundleFailure reason)).map some, []) := by
  simp [probeBundle, h.available, h.locate, h.directory, h.moved]

/-- The four ways in which a bundle can answer. -/
theorem bundle_cases (r : Resolver) (resource : String) (h : r.bundle.available = true) :
    (∃ place, r.bundle.locate resource = .ok place) ∨
    (∃ reason dir, r.bundle.locate resource = .error reason ∧
      (r.bundle.directory? r.files r.config.sentinel resource).1 = some dir) ∨
    (∃ reason place, r.bundle.locate resource = .error reason ∧
      (r.bundle.directory? r.files r.config.sentinel resource).1 = none ∧
      (r.bundle.relocated? r.config.namespacePrefix r.config.relocations resource).1 =
        some place) ∨
    ∃ reason, r.BundleMisses resource reason := by
  cases hplace : r.bundle.locate resource with
  | ok place => exact .inl ⟨place, rfl⟩
  | error reason =>
    cases hdir : (r.bundle.directory? r.files r.config.sentinel resource).1 with
    | some dir => exact .inr (.inl ⟨reason, dir, rfl, rfl⟩)
    | none =>
      cases hmoved : (r.bundle.relocated? r.config.namespacePrefix r.config.relocations
          resource).1 with
      | some place => exact .inr (.inr (.inl ⟨reason, place, rfl, rfl, rfl⟩))
      | none => exact .inr (.inr (.inr ⟨reason, h, hplace, hdir, hmoved⟩))

end probeBundle

/-! ### One source -/

/-- Whether a source has a root that a search would stop at. -/
def hasRoot (r : Resolver) (source : Source) : Bool := (r.report source).status.isPresent

theorem hasRoot_bundle (r : Resolver) : r.hasRoot .bundle = r.bundle.available := by
  simp only [hasRoot, report, reportBundle]
  cases r.bundle.available with
  | false => rfl
  | true => cases r.bundle.root r.config.sentinel <;> rfl

theorem isPresent_directoryStatus (r : Resolver) (root : Option Path) :
    (r.directoryStatus root).isPresent = root.any r.files.isDir := by
  cases root with
  | none => rfl
  | some root =>
    simp only [directoryStatus, Option.any_some]
    cases r.files.isDir root <;> cases r.files.isFile (root.joinText r.config.sentinel) <;> rfl

theorem directoryStatus_eq_usable_iff (r : Resolver) (root : Path) :
    r.directoryStatus (some root) = .usable ↔
      r.files.isDir root = true ∧ r.files.isFile (root.joinText r.config.sentinel) = true := by
  unfold directoryStatus
  cases hdir : r.files.isDir root <;>
    cases hfile : r.files.isFile (root.joinText r.config.sentinel) <;> simp [hdir, hfile]

theorem description_report_ne_empty (r : Resolver) (source : Source) :
    (r.report source).description.isEmpty = false := by
  have hvariable : r.variableDescription ≠ "" := by
    intro h
    exact absurd (String.append_eq_empty_iff.1 h).2 (by decide)
  cases source with
  | rootVariable => simpa [report, reportVariable] using hvariable
  | bundle =>
    simp only [report, reportBundle]
    split
    · decide
    · split <;> exact (by decide : bundleDescription.isEmpty = false)
  | installTree => exact (by decide : markerDescription.isEmpty = false)

/-- A source without a root is passed over. -/
theorem told_probe_of_no_root (resource : String) {source : Source} (h : r.hasRoot source = false) :
    (r.probe source resource).told = (.ok none, []) := by
  cases source with
  | bundle => exact told_probeBundle_of_absent (by rwa [hasRoot_bundle] at h)
  | rootVariable =>
    rw [hasRoot, report, reportVariable, isPresent_directoryStatus] at h
    cases hroot : r.variableRoot? with
    | none => simp [probe, probeVariable, hroot]
    | some root =>
      have hdir : r.files.isDir root = false := by simpa [hroot] using h
      simp [probe, probeVariable, hroot, hdir]
  | installTree =>
    rw [hasRoot, report, reportInstallTree, isPresent_directoryStatus] at h
    cases hroot : r.installRoot? with
    | none => simp [probe, probeInstallTree, hroot]
    | some root =>
      have hdir : r.files.isDir root = false := by simpa [hroot] using h
      simp [probe, probeInstallTree, hroot, hdir]

/-- A source with a directory for a root checks the resource there. -/
theorem probe_eq_checkRoot (resource : String) {source : Source} (hsource : source ≠ .bundle)
    (h : r.hasRoot source = true) :
    ∃ root, (r.report source).root = some root ∧ r.files.isDir root = true ∧
      r.probe source resource =
        (r.checkRoot (r.report source).description root resource).map some := by
  cases source with
  | bundle => exact absurd rfl hsource
  | rootVariable =>
    rw [hasRoot, report, reportVariable, isPresent_directoryStatus] at h
    obtain ⟨root, hroot, hdir⟩ := (Option.any_eq_true _ _).1 h
    exact ⟨root, hroot, hdir, by simp [probe, probeVariable, report, reportVariable, hroot, hdir]⟩
  | installTree =>
    rw [hasRoot, report, reportInstallTree, isPresent_directoryStatus] at h
    obtain ⟨root, hroot, hdir⟩ := (Option.any_eq_true _ _).1 h
    exact ⟨root, hroot, hdir,
      by simp [probe, probeInstallTree, report, reportInstallTree, hroot, hdir]⟩

/-! ### Without broken preconditions -/

/-- What the surroundings of a resolver promise: the empty path leads to no
    directory, and the bundle places nothing there. -/
structure Grounded (r : Resolver) : Prop where
  isDir_empty    : r.files.isDir ⟨[]⟩ = false
  place_nonempty : ∀ resource place, r.bundle.locate resource = .ok place →
    place.isEmpty = false

/-- Runfiles over files that have nothing at the empty path keep their
    promises. -/
theorem Grounded.of_runfiles (found : Option Runfiles)
    (hbundle : r.bundle = Runfiles.bundleOf r.files found) (hdir : r.files.isDir ⟨[]⟩ = false)
    (hfile : r.files.isFile ⟨[]⟩ = false) : r.Grounded where
  isDir_empty := hdir
  place_nonempty := by
    intro resource place hplace
    rw [hbundle] at hplace
    have hplaced := Runfiles.isFile_of_bundleOf hplace
    cases hempty : place.isEmpty with
    | false => rfl
    | true =>
      obtain ⟨bytes⟩ := place
      obtain rfl : bytes = [] := by simpa [Path.isEmpty] using hempty
      exact absurd hplaced (by simp [hfile])

theorem isEmpty_of_isDir {files : Files} {path : Path} (hempty : files.isDir ⟨[]⟩ = false)
    (h : files.isDir path = true) : path.isEmpty = false := by
  obtain ⟨bytes⟩ := path
  cases bytes with
  | nil => simp [hempty] at h
  | cons b rest => rfl

theorem checkRoot_ok {origin : String} {root : Path}
    (horigin : origin.isEmpty = false) (hroot : root.isEmpty = false)
    (hresource : isRelativeResource resource = true) :
    ∃ resolution, (r.checkRoot origin root resource).told.1 = .ok resolution := by
  cases hsentinel : r.files.isFile (root.joinText r.config.sentinel) with
  | false => exact ⟨_, by rw [told_checkRoot_of_no_sentinel horigin hroot hresource hsentinel]⟩
  | true =>
    cases hdir : r.files.isDir (root.joinText resource) with
    | true => exact ⟨_, by rw [told_checkRoot_of_isDir horigin hroot hresource hsentinel hdir]⟩
    | false =>
      cases hfile : r.files.isFile (root.joinText resource) with
      | true =>
        exact ⟨_, by rw [told_checkRoot_of_isFile horigin hroot hresource hsentinel hdir hfile]⟩
      | false =>
        exact ⟨_, by rw [told_checkRoot_of_missing horigin hroot hresource hsentinel hdir hfile]⟩

theorem probeBundle_ok (hr : r.Grounded) (hresource : isRelativeResource resource = true)
    (h : r.bundle.available = true) :
    ∃ resolution, (r.probeBundle resource).told.1 = .ok (some resolution) := by
  have hname := isEmpty_of_isRelativeResource hresource
  obtain ⟨place, hplace⟩ | ⟨reason, dir, hmiss, hdir⟩ | ⟨reason, place, hmiss, hdir, hmoved⟩ |
    ⟨reason, hmisses⟩ := bundle_cases r resource h
  · rw [told_probeBundle_of_located h hplace,
      Resolution.success_eq_ok hname (hr.place_nonempty _ _ hplace)]
    exact ⟨_, rfl⟩
  · rw [told_probeBundle_of_directory h hmiss hdir,
      Resolution.success_eq_ok hname (isEmpty_of_isDir hr.isDir_empty (Bundle.isDir_of_directory? hdir))]
    exact ⟨_, rfl⟩
  · obtain ⟨moved, -, hplace⟩ := Bundle.exists_locate_of_firstOf? hmoved
    rw [told_probeBundle_of_moved h hmiss hdir hmoved,
      Resolution.success_eq_ok hname (hr.place_nonempty _ _ hplace)]
    exact ⟨_, rfl⟩
  · rw [told_probeBundle_of_misses hmisses, refuse_eq_ok hname (bundleFailure_ne reason)]
    exact ⟨_, rfl⟩

/-- A source with a root settles every resource. -/
theorem probe_ok (hr : r.Grounded) (hresource : isRelativeResource resource = true)
    {source : Source} (h : r.hasRoot source = true) :
    ∃ resolution, (r.probe source resource).told.1 = .ok (some resolution) := by
  by_cases hsource : source = .bundle
  · subst hsource
    exact probeBundle_ok hr hresource (by rwa [hasRoot_bundle] at h)
  · obtain ⟨root, -, hdir, heq⟩ := probe_eq_checkRoot resource hsource h
    obtain ⟨resolution, hok⟩ := checkRoot_ok (r := r) (description_report_ne_empty r source)
      (isEmpty_of_isDir hr.isDir_empty hdir) hresource
    exact ⟨resolution, by rw [heq, Finding.told_map, hok]; rfl⟩

/-! ### All sources -/

/-- Where no source has a root, the search says so. -/
theorem told_search_of_no_root {order : List Source} (hresource : resource.isEmpty = false)
    (h : order.find? r.hasRoot = none) :
    (r.search resource order).told =
      (.ok (.failed resource ((Failure.noRoots r.config.rootVariable).message resource)), []) := by
  induction order with
  | nil => simp [search, refuse_eq_ok hresource]
  | cons source rest ih =>
    rw [List.find?_cons] at h
    cases hroot : r.hasRoot source with
    | true => simp [hroot] at h
    | false =>
      have hpass := told_probe_of_no_root resource hroot
      have hnone : (r.probe source resource).outcome = .ok none := congrArg Prod.fst hpass
      rw [search, hnone]
      exact ih (by simpa [hroot] using h)

/-- The first source with a root settles the search, or breaks it off. -/
theorem told_search_of_probe {order : List Source} {source : Source}
    {outcome : Except Misuse Resolution} (h : order.find? r.hasRoot = some source)
    (hprobe : (r.probe source resource).told.1 = outcome.map some) :
    (r.search resource order).told = (outcome, (r.probe source resource).told.2) := by
  induction order with
  | nil => simp at h
  | cons first rest ih =>
    rw [List.find?_cons] at h
    cases hroot : r.hasRoot first with
    | true =>
      have hfirst : first = source := by simpa [hroot] using h
      subst hfirst
      have hsettled : (r.probe first resource).outcome = outcome.map some := hprobe
      rw [search, hsettled]
      cases outcome <;> rfl
    | false =>
      have hpass := told_probe_of_no_root resource hroot
      have hnone : (r.probe first resource).outcome = .ok none := congrArg Prod.fst hpass
      rw [search, hnone]
      exact ih (by simpa [hroot] using h)

theorem told_search_of_root {order : List Source} {source : Source} {resolution : Resolution}
    (h : order.find? r.hasRoot = some source)
    (hprobe : (r.probe source resource).told.1 = .ok (some resolution)) :
    (r.search resource order).told = (.ok resolution, (r.probe source resource).told.2) := by
  have hsettled : (r.probe source resource).told.1 =
      (Except.ok resolution : Except Misuse Resolution).map some := hprobe
  exact told_search_of_probe h hsettled

/-- A resource below the namespace is looked for in all sources. -/
theorem resolve_eq_search (hresource : isRelativeResource resource = true)
    (hnamespace : Text.hasPrefix r.config.namespacePrefix resource = true) :
    r.resolve resource = r.search resource r.config.candidateOrder := by
  simp [resolve, isEmpty_of_isRelativeResource hresource, hresource, hnamespace]

end Resolver
end LayeredRoots
