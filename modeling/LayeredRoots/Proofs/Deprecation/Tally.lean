import LayeredRoots.Command.Find
import LayeredRoots.Deprecation
import LayeredRoots.Proofs.Search.Outcome
import LayeredRoots.Proofs.Storage.Files

/-! # Which look-ups are deprecated

    Over one tree of files, shared by a resolver and its bundle, a look-up
    reports a directory exactly where the path it hands out is one.  The report
    is made in two places far apart, when a root is checked and when a bundle
    falls back on its root; a hit of the bundle and a moved resource are regular
    files, and everything else hands out no path.

    A log that records reports in order warns about each of them (`always`) or
    about each resource once (`once`), and remembers all of them. -/

namespace LayeredRoots

/-! ### Recording -/

namespace DeprecationLog

theorem mem_warned_record (log : DeprecationLog) (ps : List String) (p : String) :
    p ∈ (log.record ps).1.warned ↔ p ∈ log.warned ∨ p ∈ ps := by
  induction ps generalizing log with
  | nil => simp
  | cons q rest ih =>
    simp only [record, ih, mem_warned_insert, List.mem_cons]
    constructor
    · rintro ((h | h) | h)
      · exact .inr (.inl h)
      · exact .inl h
      · exact .inr (.inr h)
    · rintro (h | h | h)
      · exact .inl (.inr h)
      · exact .inl (.inl h)
      · exact .inr h

@[simp] theorem policy_record (log : DeprecationLog) (ps : List String) :
    (log.record ps).1.policy = log.policy := by
  induction ps generalizing log with
  | nil => rfl
  | cons q rest ih => simp [record, ih]

/-- A log that always warns warns about everything it records. -/
theorem record_of_always {log : DeprecationLog} (h : log.policy = .always) (ps : List String) :
    (log.record ps).2 = ps := by
  induction ps generalizing log with
  | nil => rfl
  | cons q rest ih =>
    have hwarns : log.warns q = true := by simp [warns, h]
    have hrest : ((log.insert q).record rest).2 = rest := ih (by rw [policy_insert, h])
    simp [record, hwarns, hrest]

/-- A log that warns once warns about what it did not remember. -/
theorem count_record_of_once {log : DeprecationLog} (h : log.policy = .once) (ps : List String)
    (p : String) :
    (log.record ps).2.count p = if p ∈ ps ∧ p ∉ log.warned then 1 else 0 := by
  induction ps generalizing log with
  | nil => simp
  | cons q rest ih =>
    have hrest := @ih (log.insert q) (by rw [policy_insert, h])
    have hwarns : log.warns q = true ↔ q ∉ log.warned := by simp [warns, h, hasWarned]
    by_cases hq : q ∈ log.warned
    · have hquiet : log.warns q = false := by simpa [hq] using hwarns
      simp only [record, hquiet, Bool.false_eq_true, if_false, hrest, mem_warned_insert,
        List.mem_cons]
      by_cases hp : p = q
      · subst hp
        simp [hq]
      · simp [hp]
    · have hloud : log.warns q = true := hwarns.2 hq
      simp only [record, hloud, if_true, List.count_cons, hrest, mem_warned_insert,
        List.mem_cons]
      by_cases hp : p = q
      · subst hp
        simp [hq]
      · have hne : (q == p) = false := by simpa using Ne.symm hp
        simp [hp, hne]

end DeprecationLog

/-! ### One tree of files -/

namespace Resolver

/-- The bundle is absent, or made of the very files that the resolver sees.
    Nothing there is both a directory and a regular file, and the empty path
    leads to no directory. -/
structure OverOneTree (r : Resolver) : Prop where
  bundle      : ∃ found, r.bundle = Runfiles.bundleOf r.files found
  separate    : r.files.Separate
  isDir_empty : r.files.isDir ⟨[]⟩ = false

theorem OverOneTree.isDir_of_locate {r : Resolver} (h : r.OverOneTree) {resource : String}
    {place : Path} (hplace : r.bundle.locate resource = .ok place) :
    r.files.isDir place = false := by
  obtain ⟨found, hfound⟩ := h.bundle
  rw [hfound] at hplace
  exact h.separate.isDir_of_isFile (Runfiles.isFile_of_bundleOf hplace)

end Resolver

/-! ### Reported directories -/

/-- The path that a probe hands out. -/
def Resolution.handedOut? : Except Misuse (Option Resolution) → Option Path
  | .ok (some resolution) => resolution.absolutePath?
  | _ => none

/-- The resource, if a directory was handed out for it. -/
def Resolution.sighting (files : Files) (resource : String)
    (outcome : Except Misuse (Option Resolution)) : List String :=
  if (handedOut? outcome).any files.isDir then [resource] else []

namespace Resolver

variable {r : Resolver} {resource : String}

theorem told_checkRoot_sighting {origin : String} {root : Path} (horigin : origin.isEmpty = false)
    (hroot : root.isEmpty = false) (hresource : isRelativeResource resource = true) :
    (r.checkRoot origin root resource).told.2 =
      Resolution.sighting r.files resource
        ((r.checkRoot origin root resource).told.1.map some) := by
  cases hsentinel : r.files.isFile (root.joinText r.config.sentinel) with
  | false =>
    rw [told_checkRoot_of_no_sentinel horigin hroot hresource hsentinel]
    rfl
  | true =>
    cases hdir : r.files.isDir (root.joinText resource) with
    | true =>
      rw [told_checkRoot_of_isDir horigin hroot hresource hsentinel hdir]
      simp [Resolution.sighting, Resolution.handedOut?, Resolution.absolutePath?, Except.map, hdir]
    | false =>
      cases hfile : r.files.isFile (root.joinText resource) with
      | true =>
        rw [told_checkRoot_of_isFile horigin hroot hresource hsentinel hdir hfile]
        simp [Resolution.sighting, Resolution.handedOut?, Resolution.absolutePath?, Except.map, hdir]
      | false =>
        rw [told_checkRoot_of_missing horigin hroot hresource hsentinel hdir hfile]
        rfl

/-- A path that is no directory is no sighting, even where it is refused. -/
theorem sighting_success {files : Files} {path : Path} (h : files.isDir path = false) :
    Resolution.sighting files resource ((Resolution.success resource path).map some) = [] := by
  unfold Resolution.success
  split
  · rfl
  · split
    · rfl
    · simp [Resolution.sighting, Resolution.handedOut?, Resolution.absolutePath?, Except.map, h]

theorem told_probeBundle_sighting (hr : r.OverOneTree) (hresource : resource.isEmpty = false) :
    (r.probeBundle resource).told.2 =
      Resolution.sighting r.files resource (r.probeBundle resource).told.1 := by
  cases havailable : r.bundle.available with
  | false =>
    rw [told_probeBundle_of_absent havailable]
    rfl
  | true =>
    obtain ⟨place, hplace⟩ | ⟨reason, dir, hmiss, hdir⟩ | ⟨reason, place, hmiss, hdir, hmoved⟩ |
      ⟨reason, hmisses⟩ := bundle_cases r resource havailable
    · rw [told_probeBundle_of_located havailable hplace]
      exact (sighting_success (hr.isDir_of_locate hplace)).symm
    · have hisDir := Bundle.isDir_of_directory? hdir
      rw [told_probeBundle_of_directory havailable hmiss hdir, Resolution.success_eq_ok hresource
        (isEmpty_of_isDir hr.isDir_empty hisDir)]
      simp [Resolution.sighting, Resolution.handedOut?, Resolution.absolutePath?, Except.map, hisDir]
    · obtain ⟨moved, -, hplace⟩ := Bundle.exists_locate_of_firstOf? hmoved
      rw [told_probeBundle_of_moved havailable hmiss hdir hmoved]
      exact (sighting_success (hr.isDir_of_locate hplace)).symm
    · rw [told_probeBundle_of_misses hmisses, refuse_eq_ok hresource (bundleFailure_ne reason)]
      rfl

/-- **A probe reports what it found as a directory.** -/
theorem told_probe_sighting (hr : r.OverOneTree) (hresource : isRelativeResource resource = true)
    (source : Source) :
    (r.probe source resource).told.2 =
      Resolution.sighting r.files resource (r.probe source resource).told.1 := by
  cases hroot : r.hasRoot source with
  | false =>
    rw [told_probe_of_no_root resource hroot]
    rfl
  | true =>
    by_cases hsource : source = .bundle
    · subst hsource
      exact told_probeBundle_sighting hr (isEmpty_of_isRelativeResource hresource)
    · obtain ⟨root, -, hdir, heq⟩ := probe_eq_checkRoot resource hsource hroot
      rw [heq]
      exact told_checkRoot_sighting (description_report_ne_empty r source)
        (isEmpty_of_isDir hr.isDir_empty hdir) hresource

theorem told_search_sighting (hr : r.OverOneTree) (hresource : isRelativeResource resource = true)
    (order : List Source) :
    (r.search resource order).told.2 =
      Resolution.sighting r.files resource ((r.search resource order).told.1.map some) := by
  induction order with
  | nil =>
    simp [search, refuse_eq_ok (isEmpty_of_isRelativeResource hresource), Except.map,
      Resolution.sighting, Resolution.handedOut?, Resolution.absolutePath?]
  | cons source rest ih =>
    have hprobe := told_probe_sighting hr hresource source
    rw [search]
    cases houtcome : (r.probe source resource).outcome with
    | error m => simpa [Finding.told, houtcome, Except.map] using hprobe
    | ok found =>
      cases found with
      | none => exact ih
      | some resolution => simpa [Finding.told, houtcome, Except.map] using hprobe

/-- **A search reports what it found as a directory.** -/
theorem told_resolve_sighting (hr : r.OverOneTree) (hresource : isRelativeResource resource = true) :
    (r.resolve resource).told.2 =
      Resolution.sighting r.files resource ((r.resolve resource).told.1.map some) := by
  cases hnamespace : Text.hasPrefix r.config.namespacePrefix resource with
  | true =>
    rw [resolve_eq_search hresource hnamespace]
    exact told_search_sighting hr hresource _
  | false =>
    have hname := isEmpty_of_isRelativeResource hresource
    simp [resolve, hname, hresource, hnamespace, refuse_eq_ok hname, Except.map,
      Resolution.sighting, Resolution.handedOut?, Resolution.absolutePath?]

/-- Whether a search finds a directory. -/
def findsDirectory (r : Resolver) (resource : String) : Bool :=
  (Resolution.handedOut? ((r.resolve resource).outcome.map some)).any r.files.isDir

theorem sighting_resolve (r : Resolver) (resource : String) :
    Resolution.sighting r.files resource ((r.resolve resource).told.1.map some) =
      [resource].filter r.findsDirectory := by
  rw [List.filter_cons]
  rfl

end Resolver

/-! ### Several resources -/

namespace Command

/-- The resources that a find command looks up: all of them, or those up to the
    first whose line cannot be written. -/
def lookedUp (r : Resolver) (json : Bool) (s : Streams) : List String → List String
  | [] => []
  | resource :: rest =>
    match (r.resolve resource).outcome with
    | .error _ => [resource]
    | .ok resolution =>
      match writeResolution json s resolution with
      | (_, some _) => [resource]
      | (s, none) => resource :: lookedUp r json s rest

theorem directories_findAll {r : Resolver} (hr : r.OverOneTree) (json : Bool)
    {resources : List String} (hresources : ∀ p ∈ resources, isRelativeResource p = true)
    (s : Streams) (failed : Nat) :
    (findAll r json s failed resources).directories =
      (lookedUp r json s resources).filter r.findsDirectory := by
  induction resources generalizing s failed with
  | nil => rfl
  | cons resource rest ih =>
    have hfirst : (r.resolve resource).directories = [resource].filter r.findsDirectory := by
      rw [← r.sighting_resolve]
      exact r.told_resolve_sighting hr (hresources resource List.mem_cons_self)
    have hrest := ih fun p hp => hresources p (List.mem_cons_of_mem _ hp)
    rw [findAll, lookedUp]
    cases houtcome : (r.resolve resource).outcome with
    | error m => exact hfirst
    | ok resolution =>
      dsimp only
      cases hwrite : writeResolution json s resolution with
      | mk after fault =>
        cases fault with
        | some fault => exact hfirst
        | none =>
          simp only [hfirst, hrest]
          rw [← List.filter_append]
          rfl

theorem directories_find {r : Resolver} (hr : r.OverOneTree) (json : Bool)
    {resources : List String} (hresources : ∀ p ∈ resources, isRelativeResource p = true)
    (s : Streams) :
    (find r resources json s).directories =
      (lookedUp r json s resources).filter r.findsDirectory := by
  have hnone : resources.any String.isEmpty = false := by
    rw [List.any_eq_false]
    intro p hp
    simpa using Resolver.isEmpty_of_isRelativeResource (hresources p hp)
  simp [find, hnone, Finding.map, directories_findAll hr json hresources]

end Command
end LayeredRoots
