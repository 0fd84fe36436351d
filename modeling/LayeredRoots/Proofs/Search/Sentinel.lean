import LayeredRoots.Proofs.Bundle.Root
import LayeredRoots.Proofs.Search.Layouts
import LayeredRoots.Proofs.Search.Prediction

/-! # The sentinel is a resource

    The sentinel that makes a directory a root lies in the namespace, so it can be
    looked up like any resource.  The search comes to it exactly where the root
    that settles the search is usable:

    - A root of the variable or the marker is usable if it has the sentinel, and
      that is where a search for the sentinel looks.
    - A usable bundle has recovered its root from the place of the sentinel, and
      hands out this place, to which the sentinel leads back from the root.

    * `told_resolve_sentinel`, `told_resolve_sentinel_of_bundle`: either kind of root.
    * `sentinel_found_iff_usable`: **the first root is usable if the sentinel is
      found in it.** -/

namespace LayeredRoots.Resolver

variable {r : Resolver} {source : Source} {root : Path}

/-! ### The request -/

section request

variable (hvalid : r.config.flaw? = none)
include hvalid

/-- The sentinel of a valid configuration can be asked for. -/
theorem isRelativeResource_sentinel : isRelativeResource r.config.sentinel = true :=
  isRelativeResource_below_namespace hvalid (Config.hasPrefix_sentinel hvalid)

/-! ### Roots with a path -/

/-- A search for the sentinel stops at the first root, which is usable if the
    sentinel is there. -/
theorem told_resolve_sentinel (hr : r.Grounded) (hfiles : r.files.Separate)
    (hfirst : r.firstRoot? = some source) (hsource : source ≠ .bundle)
    (hroot : (r.report source).root = some root) :
    (r.resolve r.config.sentinel).told =
      if (r.report source).status = .usable then
        (.ok (.found r.config.sentinel (root.joinText r.config.sentinel)), [])
      else
        (.ok (.failed r.config.sentinel
          ((Failure.noSentinel (r.report source).description root r.config.sentinel).message
            r.config.sentinel)), []) := by
  have hpresent : r.hasRoot source = true := List.find?_some hfirst
  obtain ⟨named, hnamed, hdir, hprobe⟩ := probe_eq_checkRoot r.config.sentinel hsource hpresent
  obtain rfl : named = root := Option.some.inj (hnamed.symm.trans hroot)
  have hresource := isRelativeResource_sentinel hvalid
  have hnonempty := isEmpty_of_isDir hr.isDir_empty hdir
  have horigin := description_report_ne_empty r source
  have husable := status_report_eq_usable_iff hsource hroot hpresent
  apply told_resolve_of_probe hresource (Config.hasPrefix_sentinel hvalid) hfirst
  rw [hprobe, Finding.told_map]
  cases hsentinel : r.files.isFile (named.joinText r.config.sentinel) with
  | true =>
    -- a file is no directory, so there is nothing to deprecate
    rw [if_pos (husable.2 hsentinel), told_checkRoot_of_isFile horigin hnonempty hresource hsentinel
      (hfiles.isDir_of_isFile hsentinel) hsentinel]
  | false =>
    have hstatus : (r.report source).status ≠ .usable := by simp [husable, hsentinel]
    rw [if_neg hstatus, told_checkRoot_of_no_sentinel horigin hnonempty hresource hsentinel]

/-! ### The bundle -/

/-- A bundle with a root hands out the place that it has its root from. -/
theorem told_resolve_sentinel_of_bundle (hr : r.Grounded) (hfirst : r.firstRoot? = some .bundle)
    (hroot : r.bundle.root r.config.sentinel = .ok root) :
    ∃ place, (r.resolve r.config.sentinel).told = (.ok (.found r.config.sentinel place), []) ∧
      place.same (root.joinText r.config.sentinel) = true := by
  have hresource := isRelativeResource_sentinel hvalid
  have hnamespace := Config.hasPrefix_sentinel hvalid
  have havailable : r.bundle.available = true := by
    rw [← hasRoot_bundle]
    exact List.find?_some hfirst
  obtain ⟨place, hplace, -⟩ := Bundle.locate_of_root hroot
  have hback := (Bundle.same_join_root (Config.isAbsolute_below_namespace hvalid hnamespace) hroot
    hplace).2
  refine ⟨place, ?_, decide_eq_true hback.symm⟩
  apply told_resolve_of_probe hresource hnamespace hfirst
  rw [probe, told_probeBundle_of_located havailable hplace, Resolution.success_eq_ok
    (isEmpty_of_isRelativeResource hresource) (hr.place_nonempty _ _ hplace)]

end request

/-- The root that a bundle reports is the one that it has. -/
theorem root_of_report_bundle (h : (r.report .bundle).status = .usable) :
    ∃ root, (r.report .bundle).root = some root ∧
      r.bundle.root r.config.sentinel = .ok root := by
  rw [report, reportBundle] at h ⊢
  cases havailable : r.bundle.available with
  | false => simp [havailable] at h
  | true =>
    cases hroot : r.bundle.root r.config.sentinel with
    | error fault => simp [havailable, hroot] at h
    | ok root => exact ⟨root, by simp, rfl⟩

/-! ### The first root -/

/-- **The sentinel is found in usable roots.**  Let `report` be the first report of a
    root that is there.  If the root is not the bundle's, a search for the sentinel
    comes to its place below the root, without a word to the log, exactly if the root
    is usable.  If it is the usable root of the bundle, the search comes to a place
    with the same steps. -/
theorem sentinel_found_iff_usable (r : Resolver) (hvalid : r.config.flaw? = none)
    (hr : r.Grounded) (hfiles : r.files.Separate) (report : RootReport)
    (hfirst : r.candidates.find? (·.status.isPresent) = some report) :
    (report.source ≠ .bundle → ∃ root, report.root = some root ∧
      (((r.resolve r.config.sentinel).outcome =
            .ok (.found r.config.sentinel (root.joinText r.config.sentinel)) ∧
          ∀ log : DeprecationLog,
            log.record (r.resolve r.config.sentinel).directories = (log, [])) ↔
        report.status = .usable)) ∧
    (report.source = .bundle → report.status = .usable →
      ∃ root place, report.root = some root ∧
        (r.resolve r.config.sentinel).outcome = .ok (.found r.config.sentinel place) ∧
        place.same (root.joinText r.config.sentinel) = true ∧
        ∀ log : DeprecationLog,
          log.record (r.resolve r.config.sentinel).directories = (log, [])) := by
  rw [find?_candidates] at hfirst
  obtain ⟨source, hsource, rfl⟩ := Option.map_eq_some_iff.1 hfirst
  rw [source_report]
  refine ⟨?_, ?_⟩
  · intro hpath
    obtain ⟨root, hroot, -⟩ := probe_eq_checkRoot r.config.sentinel hpath (List.find?_some hsource)
    refine ⟨root, hroot, ?_⟩
    obtain ⟨houtcome, hdirectories⟩ :=
      Prod.ext_iff.1 (told_resolve_sentinel hvalid hr hfiles hsource hpath hroot)
    constructor
    · rintro ⟨hfound, -⟩
      have htold := hfound.symm.trans houtcome
      by_contra hstatus
      rw [if_neg hstatus] at htold
      cases htold
    · intro hstatus
      rw [if_pos hstatus] at houtcome hdirectories
      refine ⟨houtcome, fun log => ?_⟩
      exact congrArg log.record hdirectories
  · rintro rfl hstatus
    obtain ⟨root, hroot, hbundle⟩ := root_of_report_bundle hstatus
    obtain ⟨place, htold, hplace⟩ := told_resolve_sentinel_of_bundle hvalid hr hsource hbundle
    obtain ⟨houtcome, hdirectories⟩ := Prod.ext_iff.1 htold
    exact ⟨root, place, hroot, houtcome, hplace, fun log => congrArg log.record hdirectories⟩

/-- The sentinel of a share directory is found next to the marker, and in the
    runfiles too. -/
theorem sentinel_found_iff_usable_overShare :
    (∃ root, ((overShare .installTree).report .installTree).root = some root ∧
      ((overShare .installTree).resolve "project/.resource-root-sentinel").outcome =
        .ok (.found "project/.resource-root-sentinel"
          (root.joinText "project/.resource-root-sentinel"))) ∧
    ∃ root place, ((overShare .bundle).report .bundle).root = some root ∧
      ((overShare .bundle).resolve "project/.resource-root-sentinel").outcome =
        .ok (.found "project/.resource-root-sentinel" place) ∧
      place.same (root.joinText "project/.resource-root-sentinel") = true := by
  have hseparate : shareFiles.view.Separate := MemoryFiles.separate_view (by decide +kernel)
  have hdir : shareFiles.view.isDir ⟨[]⟩ = false := by decide +kernel
  have hfile : shareFiles.view.isFile ⟨[]⟩ = false := by decide +kernel
  have hgrounded (source : Source) : (overShare source).Grounded :=
    .of_runfiles (some (.directory (Path.ofText "/opt/lib/../share"))) rfl hdir hfile
  obtain ⟨hmarker, -⟩ := sentinel_found_iff_usable (overShare .installTree) (by decide +kernel)
    (hgrounded _) hseparate ((overShare .installTree).report .installTree) (by decide +kernel)
  obtain ⟨-, hbundle⟩ := sentinel_found_iff_usable (overShare .bundle) (by decide +kernel)
    (hgrounded _) hseparate ((overShare .bundle).report .bundle) (by decide +kernel)
  obtain ⟨root, hroot, hfound⟩ := hmarker (by decide)
  obtain ⟨recovered, place, hrecovered, hplace, hsame, -⟩ :=
    hbundle (by decide +kernel) (by decide +kernel)
  exact ⟨⟨root, hroot, (hfound.2 (by decide +kernel)).1⟩, recovered, place, hrecovered, hplace,
    hsame⟩

end LayeredRoots.Resolver
