import LayeredRoots.Bundle.Table
import LayeredRoots.Proofs.Search.Outcome
import Mathlib.Control.Monad.Basic

/-! # Reports and searches agree

    A report about a source looks nothing up, and a probe of the source makes
    no report.  Still both see the same roots:

    - a probe settles a resource exactly where the report shows a root;
    - a search comes to what the first such source says about the resource;
    - every order of sources with the same first such source gives the same
      search, so most of an order never matters.

    A search that finds no root says so in a message of its own.  Directories
    never fail in those words (`checkRoot_ne_noRoots`), but a bundle
    words its misses itself and can.  `resolve_eq_noRoots_iff` has the exact
    condition. -/

namespace LayeredRoots

/-! ### The words for a search without roots -/

/-- The character in front of the last one. -/
def Text.lastButOne? (s : String) : Option Char := s.toList.reverse[1]?

theorem Text.lastButOne?_append (s : String) {t : String} (h : 2 ≤ t.toList.length) :
    Text.lastButOne? (s ++ t) = Text.lastButOne? t := by
  rw [Text.lastButOne?, String.toList_append, List.reverse_append,
    List.getElem?_append_left (by rw [List.length_reverse]; omega)]
  rfl

namespace Failure

/-- The message about roots ends in the name of the marker, every other one in
    a quoted path or the name of the bundle. -/
theorem lastButOne?_noRoots (resource name : String) :
    Text.lastButOne? ((noRoots name).message resource) = some 'r' := by
  unfold message
  dsimp only
  simp only [← String.append_assoc]
  rw [@String.append_assoc _ (toString markerDescription) _,
    Text.lastButOne?_append _ (by decide)]
  decide

theorem lastButOne?_noSentinel (resource origin sentinel : String) (root : Path) :
    Text.lastButOne? ((noSentinel origin root sentinel).message resource) = some '\'' := by
  unfold message
  dsimp only
  simp only [← String.append_assoc]
  rw [Text.lastButOne?_append _ (by decide)]
  decide

theorem lastButOne?_noSuchFile (resource origin : String) (root file : Path) :
    Text.lastButOne? ((noSuchFile origin root file).message resource) = some '\'' := by
  unfold message
  dsimp only
  simp only [← String.append_assoc]
  rw [Text.lastButOne?_append _ (by decide)]
  decide

theorem lastButOne?_bundleSilent (resource : String) :
    Text.lastButOne? (bundleSilent.message resource) = some 'e' := by
  unfold message
  dsimp only
  rw [@String.append_assoc _ (toString bundleDescription) _,
    Text.lastButOne?_append _ (by decide)]
  decide

end Failure

namespace Resolver

variable {r : Resolver} {resource : String}

/-- What a search without roots comes to. -/
def noRoots (r : Resolver) (resource : String) : Resolution :=
  .failed resource ((Failure.noRoots r.config.rootVariable).message resource)

/-- A directory that serves as root never fails in the words for no root. -/
theorem checkRoot_ne_noRoots {origin : String} {root : Path} (horigin : origin.isEmpty = false)
    (hroot : root.isEmpty = false) (hresource : isRelativeResource resource = true) :
    (r.checkRoot origin root resource).told.1 ≠ .ok (r.noRoots resource) := by
  have hend := Failure.lastButOne?_noRoots resource r.config.rootVariable
  cases hsentinel : r.files.isFile (root.joinText r.config.sentinel) with
  | false =>
    rw [told_checkRoot_of_no_sentinel horigin hroot hresource hsentinel]
    intro h
    simp only [noRoots, Except.ok.injEq, Resolution.failed.injEq, true_and] at h
    rw [← h, Failure.lastButOne?_noSentinel] at hend
    exact absurd hend (by decide)
  | true =>
    cases hdir : r.files.isDir (root.joinText resource) with
    | true =>
      rw [told_checkRoot_of_isDir horigin hroot hresource hsentinel hdir]
      simp [noRoots]
    | false =>
      cases hfile : r.files.isFile (root.joinText resource) with
      | true =>
        rw [told_checkRoot_of_isFile horigin hroot hresource hsentinel hdir hfile]
        simp [noRoots]
      | false =>
        rw [told_checkRoot_of_missing horigin hroot hresource hsentinel hdir hfile]
        intro h
        simp only [noRoots, Except.ok.injEq, Resolution.failed.injEq, true_and] at h
        rw [← h, Failure.lastButOne?_noSuchFile] at hend
        exact absurd hend (by decide)

/-- The bundle fails in the words for no root where these are its own. -/
theorem probeBundle_eq_noRoots_iff (hr : r.Grounded) (hresource : isRelativeResource resource = true)
    (havailable : r.bundle.available = true) :
    (r.probeBundle resource).told.1 = .ok (some (r.noRoots resource)) ↔
      r.BundleMisses resource ((Failure.noRoots r.config.rootVariable).message resource) := by
  have hname := isEmpty_of_isRelativeResource hresource
  have hend := Failure.lastButOne?_noRoots resource r.config.rootVariable
  constructor
  · intro h
    obtain ⟨place, hplace⟩ | ⟨reason, dir, hmiss, hdir⟩ | ⟨reason, place, hmiss, hdir, hmoved⟩ |
      ⟨reason, hmisses⟩ := bundle_cases r resource havailable
    · rw [told_probeBundle_of_located havailable hplace,
        Resolution.success_eq_ok hname (hr.place_nonempty _ _ hplace)] at h
      simp [Except.map, noRoots] at h
    · rw [told_probeBundle_of_directory havailable hmiss hdir, Resolution.success_eq_ok hname
        (isEmpty_of_isDir hr.isDir_empty (Bundle.isDir_of_directory? hdir))] at h
      simp [Except.map, noRoots] at h
    · obtain ⟨moved, -, hplace⟩ := Bundle.exists_locate_of_firstOf? hmoved
      rw [told_probeBundle_of_moved havailable hmiss hdir hmoved,
        Resolution.success_eq_ok hname (hr.place_nonempty _ _ hplace)] at h
      simp [Except.map, noRoots] at h
    · rw [told_probeBundle_of_misses hmisses, refuse_eq_ok hname (bundleFailure_ne reason)] at h
      simp only [Except.map, noRoots, Except.ok.injEq, Option.some.injEq, Resolution.failed.injEq,
        true_and] at h
      unfold bundleFailure at h
      split at h
      · rw [← h, Failure.lastButOne?_bundleSilent] at hend
        exact absurd hend (by decide)
      · have hreason : reason = (Failure.noRoots r.config.rootVariable).message resource := h
        rwa [← hreason]
  · intro hmisses
    have hwords : (Failure.noRoots r.config.rootVariable).message resource ≠ "" :=
      Failure.message_ne_empty resource (by simp)
    rw [told_probeBundle_of_misses hmisses, refuse_eq_ok hname (bundleFailure_ne _), bundleFailure,
      if_neg (by simpa using hwords)]
    rfl

/-! ### The first source with a root -/

@[simp] theorem source_report (r : Resolver) (source : Source) :
    (r.report source).source = source := by
  cases source with
  | rootVariable => rfl
  | installTree => rfl
  | bundle =>
    simp only [report, reportBundle]
    cases r.bundle.available with
    | false => rfl
    | true => cases r.bundle.root r.config.sentinel <;> rfl

/-- The first source that a search stops at. -/
def firstRoot? (r : Resolver) : Option Source := r.config.candidateOrder.find? r.hasRoot

theorem find?_candidates (r : Resolver) :
    r.candidates.find? (·.status.isPresent) = r.firstRoot?.map r.report := by
  rw [candidates, List.find?_map]
  rfl

theorem firstRoot?_eq_none_iff (r : Resolver) :
    r.firstRoot? = none ↔ ∀ report ∈ r.candidates, report.status.isPresent = false := by
  rw [← Option.map_eq_none_iff (f := r.report), ← find?_candidates, List.find?_eq_none]
  simp

theorem firstRoot?_eq_some_iff (r : Resolver) (source : Source) :
    r.firstRoot? = some source ↔
      ∃ report, r.candidates.find? (·.status.isPresent) = some report ∧ report.source = source := by
  rw [find?_candidates]
  constructor
  · intro h
    exact ⟨r.report source, by rw [h]; rfl, source_report r source⟩
  · rintro ⟨report, hreport, hsource⟩
    obtain ⟨first, hfirst, rfl⟩ := Option.map_eq_some_iff.1 hreport
    rw [source_report] at hsource
    rw [hfirst, hsource]

/-- A probe settles a resource exactly where the source has a root. -/
theorem probe_iff_hasRoot (hr : r.Grounded) (hresource : isRelativeResource resource = true)
    (source : Source) :
    ((∃ resolution, (r.probe source resource).outcome = .ok (some resolution)) ↔
      r.hasRoot source = true) ∧
    ((r.probe source resource).outcome = .ok none ↔ r.hasRoot source = false) := by
  cases hroot : r.hasRoot source with
  | true =>
    obtain ⟨resolution, hprobe⟩ := probe_ok hr hresource hroot
    have houtcome : (r.probe source resource).outcome = .ok (some resolution) := hprobe
    simp [houtcome]
  | false =>
    have houtcome : (r.probe source resource).outcome = .ok none :=
      congrArg Prod.fst (told_probe_of_no_root resource hroot)
    simp [houtcome]

theorem told_resolve_of_no_root (hresource : isRelativeResource resource = true)
    (hnamespace : Text.hasPrefix r.config.namespacePrefix resource = true)
    (h : r.firstRoot? = none) :
    (r.resolve resource).told = (.ok (r.noRoots resource), []) := by
  rw [resolve_eq_search hresource hnamespace]
  exact told_search_of_no_root (isEmpty_of_isRelativeResource hresource) h

/-- What the first source with a root comes to is what the search does. -/
theorem told_resolve_of_probe {told : Except Misuse Resolution × List String}
    (hresource : isRelativeResource resource = true)
    (hnamespace : Text.hasPrefix r.config.namespacePrefix resource = true) {source : Source}
    (h : r.firstRoot? = some source)
    (hprobe : (r.probe source resource).told = (told.1.map some, told.2)) :
    (r.resolve resource).told = told := by
  rw [resolve_eq_search hresource hnamespace,
    told_search_of_probe h (congrArg Prod.fst hprobe), hprobe]

/-- A search comes to what the first source with a root says. -/
theorem told_probe_firstRoot? (hr : r.Grounded) (hresource : isRelativeResource resource = true)
    (hnamespace : Text.hasPrefix r.config.namespacePrefix resource = true) {source : Source}
    (h : r.firstRoot? = some source) :
    (r.probe source resource).told =
      ((r.resolve resource).told.1.map some, (r.resolve resource).told.2) := by
  obtain ⟨resolution, hprobe⟩ := probe_ok hr hresource (List.find?_some h)
  rw [resolve_eq_search hresource hnamespace, told_search_of_root h hprobe]
  exact Prod.ext hprobe rfl

/-- The message about roots means what it says, unless it is the bundle's. -/
theorem resolve_eq_noRoots_iff (hr : r.Grounded) (hresource : isRelativeResource resource = true)
    (hnamespace : Text.hasPrefix r.config.namespacePrefix resource = true) :
    (r.resolve resource).told.1 = .ok (r.noRoots resource) ↔
      r.firstRoot? = none ∨ r.firstRoot? = some .bundle ∧
        r.BundleMisses resource ((Failure.noRoots r.config.rootVariable).message resource) := by
  cases hfirst : r.firstRoot? with
  | none => simp [told_resolve_of_no_root hresource hnamespace hfirst]
  | some source =>
    have hroot : r.hasRoot source = true := List.find?_some hfirst
    have hprobe : (r.probe source resource).told.1 = (r.resolve resource).told.1.map some :=
      congrArg Prod.fst (told_probe_firstRoot? hr hresource hnamespace hfirst)
    have hsome : (r.resolve resource).told.1 = .ok (r.noRoots resource) ↔
        (r.probe source resource).told.1 = .ok (some (r.noRoots resource)) := by
      rw [hprobe]
      cases (r.resolve resource).told.1 <;> simp [Except.map]
    rw [hsome]
    -- only the bundle chooses its words
    by_cases hsource : source = .bundle
    · subst hsource
      rw [hasRoot_bundle] at hroot
      simpa [probe] using probeBundle_eq_noRoots_iff hr hresource hroot
    · obtain ⟨root, -, hdir, heq⟩ := probe_eq_checkRoot resource hsource hroot
      have hne := checkRoot_ne_noRoots (r := r) (description_report_ne_empty r source)
        (isEmpty_of_isDir hr.isDir_empty hdir) hresource
      constructor
      · intro h
        rw [heq, Finding.told_map] at h
        cases hcheck : (r.checkRoot (r.report source).description root resource).told.1 with
        | error m => simp [hcheck, Except.map] at h
        | ok resolution =>
          have hsame : resolution = r.noRoots resource := by simpa [hcheck, Except.map] using h
          exact absurd (hsame ▸ hcheck) hne
      · rintro (h | ⟨h, -⟩)
        · cases h
        · exact absurd (Option.some.inj h) hsource

/-! ### Orders of sources -/

/-- The resolver with another order of sources. -/
def withOrder (r : Resolver) (order : List Source) : Resolver :=
  { r with config := r.config.withCandidateOrder order }

theorem hasRoot_withOrder (order : List Source) : (r.withOrder order).hasRoot = r.hasRoot := by
  funext source
  cases source <;> rfl

theorem probe_withOrder (order : List Source) (source : Source) :
    (r.withOrder order).probe source resource = r.probe source resource := by
  cases source <;> rfl

/-- What counts of an order is the first source with a root. -/
theorem told_resolve_withOrder (hr : r.Grounded) (hresource : isRelativeResource resource = true)
    (hnamespace : Text.hasPrefix r.config.namespacePrefix resource = true) {order : List Source}
    (h : order.find? r.hasRoot = r.firstRoot?) :
    ((r.withOrder order).resolve resource).told = (r.resolve resource).told := by
  have horder : (r.withOrder order).firstRoot? = r.firstRoot? := by
    rw [firstRoot?, hasRoot_withOrder]
    exact h
  cases hfirst : r.firstRoot? with
  | none =>
    rw [told_resolve_of_no_root hresource hnamespace hfirst]
    exact told_resolve_of_no_root (r := r.withOrder order) hresource hnamespace
      (horder.trans hfirst)
  | some source =>
    have hprobe := told_probe_firstRoot? hr hresource hnamespace hfirst
    rw [← probe_withOrder order] at hprobe
    exact told_resolve_of_probe (r := r.withOrder order) hresource hnamespace
      (horder.trans hfirst) hprobe

/-- An order without the sources that have no root, without repetitions, and
    without what comes after the first source that has a root. -/
def essentialOrder (r : Resolver) : List Source :=
  ((r.config.candidateOrder.filter r.hasRoot).eraseDups).take 1

theorem find?_essentialOrder (r : Resolver) :
    r.essentialOrder.find? r.hasRoot = r.firstRoot? := by
  unfold essentialOrder firstRoot?
  cases h : r.config.candidateOrder.filter r.hasRoot with
  | nil =>
    rw [← List.head?_filter (l := r.config.candidateOrder), h]
    rfl
  | cons source rest =>
    have hroot : r.hasRoot source = true := by
      have hmem : source ∈ r.config.candidateOrder.filter r.hasRoot := by simp [h]
      exact (List.mem_filter.1 hmem).2
    rw [← List.head?_filter (l := r.config.candidateOrder), h, List.eraseDups_cons]
    simp [hroot]

/-! ### Reports and searches -/

/-- **Reports and searches agree.**  A source settles a resource exactly where
    its report shows a root; a search comes to what the first such source says;
    it says that there is no root exactly where no report shows one, except
    that a bundle may word a miss of its own in this way; and of an order of
    sources only the first one with a root counts. -/
theorem reports_agree_with_searches (r : Resolver) (hr : r.Grounded) (resource : String)
    (hresource : isRelativeResource resource = true)
    (hnamespace : Text.hasPrefix r.config.namespacePrefix resource = true) :
    r.candidates.map (·.source) = r.config.candidateOrder ∧
    (∀ report ∈ r.candidates,
      ((∃ resolution, (r.probe report.source resource).outcome = .ok (some resolution)) ↔
        report.status.isPresent = true) ∧
      ((r.probe report.source resource).outcome = .ok none ↔ report.status.isPresent = false)) ∧
    (∀ report, r.candidates.find? (·.status.isPresent) = some report →
      (r.probe report.source resource).outcome = (r.resolve resource).outcome.map some ∧
      (r.probe report.source resource).directories = (r.resolve resource).directories) ∧
    ((r.resolve resource).outcome = .ok (r.noRoots resource) ↔
      (∀ report ∈ r.candidates, report.status.isPresent = false) ∨
      ∃ report, r.candidates.find? (·.status.isPresent) = some report ∧
        report.source = .bundle ∧ r.BundleMisses resource
          ((Failure.noRoots r.config.rootVariable).message resource)) ∧
    (∀ order : List Source, order.find? r.hasRoot = r.config.candidateOrder.find? r.hasRoot →
      ((r.withOrder order).resolve resource).outcome = (r.resolve resource).outcome ∧
      ((r.withOrder order).resolve resource).directories = (r.resolve resource).directories) ∧
    ((r.withOrder r.essentialOrder).resolve resource).outcome = (r.resolve resource).outcome ∧
    ((r.withOrder r.essentialOrder).resolve resource).directories =
      (r.resolve resource).directories := by
  have horder : ∀ order : List Source, order.find? r.hasRoot = r.firstRoot? →
      ((r.withOrder order).resolve resource).outcome = (r.resolve resource).outcome ∧
      ((r.withOrder order).resolve resource).directories = (r.resolve resource).directories := by
    intro order h
    exact Prod.ext_iff.1 (told_resolve_withOrder hr hresource hnamespace h)
  refine ⟨?_, ?_, ?_, ?_, horder, horder r.essentialOrder (find?_essentialOrder r)⟩
  · simp [candidates, Function.comp_def]
  · intro report hreport
    obtain ⟨source, -, rfl⟩ := List.mem_map.1 hreport
    rw [source_report]
    exact probe_iff_hasRoot hr hresource source
  · intro report hreport
    rw [find?_candidates] at hreport
    obtain ⟨source, hfirst, rfl⟩ := Option.map_eq_some_iff.1 hreport
    rw [source_report]
    exact Prod.ext_iff.1 (told_probe_firstRoot? hr hresource hnamespace hfirst)
  · have hiff := resolve_eq_noRoots_iff hr hresource hnamespace
    rw [firstRoot?_eq_none_iff, firstRoot?_eq_some_iff] at hiff
    rw [show (r.resolve resource).outcome = (r.resolve resource).told.1 from rfl, hiff]
    constructor
    · rintro (h | ⟨⟨report, hreport, hsource⟩, hmisses⟩)
      · exact .inl h
      · exact .inr ⟨report, hreport, hsource, hmisses⟩
    · rintro (h | ⟨report, hreport, hsource, hmisses⟩)
      · exact .inl h
      · exact .inr ⟨⟨report, hreport, hsource⟩, hmisses⟩

/-- A resolver over a directory bundle that lists sources twice, some of them
    without a root. -/
def bundledTwice : Resolver :=
  let files := ((MemoryFiles.empty.addFile (Path.ofText "/b/project/.resource-root-sentinel")
    |>.addDir (Path.ofText "/b/project/models"))).view
  { config := Config.standard.withCandidateOrder
      [.installTree, .rootVariable, .bundle, .installTree, .bundle, .rootVariable]
    environment := (Variables.mk [("PROJECT_RESOURCE_ROOT", Text.encode "/missing")]).view
    files := files
    bundle := (Runfiles.directory (Path.ofText "/b")).bundle files
    markerDir := none
    workingDir := none }

theorem grounded_bundledTwice : bundledTwice.Grounded :=
  .of_runfiles (some (.directory (Path.ofText "/b"))) rfl (by decide +kernel) (by decide +kernel)

/-- Reports and searches agree about a directory of that bundle, and of its six
    sources the bundle alone counts. -/
theorem reports_agree_with_searches_bundledTwice :
    (bundledTwice.Grounded ∧ isRelativeResource "project/models" = true ∧
      Text.hasPrefix bundledTwice.config.namespacePrefix "project/models" = true) ∧
    bundledTwice.essentialOrder = [.bundle] ∧
    ((bundledTwice.withOrder bundledTwice.essentialOrder).resolve "project/models").outcome =
      (bundledTwice.resolve "project/models").outcome ∧
    (bundledTwice.resolve "project/models").told =
      (.ok (.found "project/models" (Path.ofText "/b/project/models")), ["project/models"]) := by
  refine ⟨⟨grounded_bundledTwice, by decide, by decide⟩, by decide +kernel, ?_, by decide +kernel⟩
  exact (reports_agree_with_searches bundledTwice grounded_bundledTwice "project/models"
    (by decide) (by decide)).2.2.2.2.2.1

/-- A resolver over a bundle that words a miss like a search without roots. -/
def forgedMiss : Resolver where
  config := .standard
  environment := (Variables.mk []).view
  files := MemoryFiles.empty.view
  bundle := (BundleTable.mk true [] [("project/x",
    "Could not find resource path 'project/x' because no resource roots of any kind could be " ++
    "found: PROJECT_RESOURCE_ROOT is unset, a runtime bundle could not be created, and there " ++
    "is no install marker.")]).bundle
  markerDir := none
  workingDir := none

/-- The message about roots alone does not show that there is none. -/
theorem noRoots_beside_present_report :
    ¬ ∀ (r : Resolver) (resource : String), r.Grounded → isRelativeResource resource = true →
      Text.hasPrefix r.config.namespacePrefix resource = true →
      ((r.resolve resource).outcome = .ok (r.noRoots resource) ↔
        ∀ report ∈ r.candidates, report.status.isPresent = false) := by
  intro h
  have hgrounded : forgedMiss.Grounded := by
    refine ⟨by decide +kernel, ?_⟩
    intro resource place hplace
    simp [forgedMiss, BundleTable.bundle] at hplace
  have hiff := h forgedMiss "project/x" hgrounded (by decide) (by decide)
  have hforged : (forgedMiss.resolve "project/x").outcome =
      .ok (forgedMiss.noRoots "project/x") := by decide +kernel
  have hreport : forgedMiss.report .bundle ∈ forgedMiss.candidates := by decide +kernel
  exact absurd (hiff.1 hforged _ hreport) (by decide +kernel)

end Resolver
end LayeredRoots
