import LayeredRoots.Deprecation
import LayeredRoots.Proofs.Bundle.Manifest
import LayeredRoots.Proofs.Search.Outcome

/-! # Exchanging the bundle

    A search asks a bundle for a handful of resources: the one that is looked
    for, the sentinel, and the places where the resource may have moved.  Two
    bundles that have these at the same places can be exchanged; what they say
    about a miss goes into the message of a failure and nowhere else.

    * `Bundle.AlikeAt`: two bundles have a resource at the same place.
    * `told_resolve_withBundle`: where they are alike, searches agree up to
      the wording of failures.
    * `manifest_refines_directory`: a manifest of a directory can stand for the
      directory. -/

namespace LayeredRoots

/-- The same value, or no value for whatever reason. -/
theorem cases_of_toOption_eq {ε δ α : Type} {x : Except ε α} {y : Except δ α}
    (h : x.toOption = y.toOption) :
    (∃ a, x = .ok a ∧ y = .ok a) ∨ ∃ e d, x = .error e ∧ y = .error d := by
  cases x with
  | ok a =>
    cases y with
    | ok b =>
      have hsame : a = b := Option.some.inj h
      exact .inl ⟨a, rfl, by rw [hsame]⟩
    | error d => cases h
  | error e =>
    cases y with
    | ok b => cases h
    | error d => exact .inr ⟨e, d, rfl, rfl⟩

/-! ### Bundles that are alike -/

namespace Bundle

/-- Two bundles have a resource at the same place, or neither has it. -/
def AlikeAt (b other : Bundle) (resource : String) : Prop :=
  (b.locate resource).toOption = (other.locate resource).toOption

variable {b other : Bundle}

theorem toOption_root_congr {sentinel : String} (h : AlikeAt b other sentinel) :
    (b.root sentinel).toOption = (other.root sentinel).toOption := by
  unfold root
  rcases cases_of_toOption_eq h with ⟨place, hplace, hother⟩ | ⟨reason, miss, hreason, hmiss⟩
  · rw [hplace, hother]
  · rw [hreason, hmiss]
    rfl

theorem directory?_congr {sentinel : String} (h : AlikeAt b other sentinel) (files : Files)
    (resource : String) :
    (b.directory? files sentinel resource).1 = (other.directory? files sentinel resource).1 := by
  unfold directory?
  rcases cases_of_toOption_eq (toOption_root_congr h) with ⟨root, hb, hother⟩ | ⟨_, _, hb, hother⟩
  · rw [hb, hother]
  · rw [hb, hother]

theorem firstOf?_congr {places : List String} (h : ∀ moved ∈ places, AlikeAt b other moved)
    (resource : String) : (b.firstOf? resource places).1 = (other.firstOf? resource places).1 := by
  induction places with
  | nil => rfl
  | cons moved rest ih =>
    have hrest := ih fun q hq => h q (List.mem_cons_of_mem _ hq)
    rw [firstOf?, firstOf?]
    rcases cases_of_toOption_eq (h moved List.mem_cons_self) with
      ⟨place, hplace, hother⟩ | ⟨_, _, hreason, hmiss⟩
    · rw [hplace, hother]
    · rw [hreason, hmiss]
      exact hrest

end Bundle

/-! ### Resolutions without their wording -/

namespace Resolution

/-- What a resolution says, its message apart. -/
structure Gist where
  isEmpty      : Bool
  isSuccess    : Bool
  resourcePath : String
  absolutePath : Option Path
  deriving DecidableEq

def gist (resolution : Resolution) : Gist :=
  ⟨resolution.isEmpty, resolution.isSuccess, resolution.resourcePath, resolution.absolutePath?⟩

end Resolution

namespace Resolver

/-- Why a resource is refused is a matter of wording. -/
theorem gist_refuse {resource : String} {why other : Failure} (hwhy : why ≠ .bundleMiss "")
    (hother : other ≠ .bundleMiss "") :
    (refuse resource why).map Resolution.gist = (refuse resource other).map Resolution.gist := by
  cases hresource : resource.isEmpty with
  | true => simp [refuse, Resolution.failure, hresource]
  | false =>
    rw [refuse_eq_ok hresource hwhy, refuse_eq_ok hresource hother]
    rfl

/-! ### Searches with either bundle -/

/-- The same resolver with another bundle. -/
def withBundle (r : Resolver) (b : Bundle) : Resolver := { r with bundle := b }

@[simp] theorem config_withBundle (r : Resolver) (b : Bundle) :
    (r.withBundle b).config = r.config := rfl

@[simp] theorem bundle_withBundle (r : Resolver) (b : Bundle) : (r.withBundle b).bundle = b := rfl

/-- Two bundles are alike wherever a search for a resource can ask them. -/
structure Interchangeable (c : Config) (resource : String) (b other : Bundle) : Prop where
  available : b.available = other.available
  requested : Bundle.AlikeAt b other resource
  sentinel  : Bundle.AlikeAt b other c.sentinel
  moved     : ∀ moved ∈ Bundle.movedPaths c.namespacePrefix c.relocations resource,
    Bundle.AlikeAt b other moved

section exchange

variable {r : Resolver} {resource : String} {b other : Bundle}

theorem report_withBundle (havailable : b.available = other.available)
    (hsentinel : Bundle.AlikeAt b other r.config.sentinel) :
    (r.withBundle b).report .bundle = (r.withBundle other).report .bundle := by
  simp only [report, reportBundle, config_withBundle, bundle_withBundle, havailable]
  rcases cases_of_toOption_eq (Bundle.toOption_root_congr hsentinel) with
    ⟨root, hb, hother⟩ | ⟨_, _, hb, hother⟩
  · rw [hb, hother]
    rfl
  · rw [hb, hother]
    rfl

theorem map_some_gist (outcome : Except Misuse Resolution) :
    (outcome.map some).map (Option.map Resolution.gist) = (outcome.map Resolution.gist).map some := by
  cases outcome <;> rfl

variable (h : Interchangeable r.config resource b other)
include h

theorem told_probeBundle_withBundle :
    (((r.withBundle b).probeBundle resource).map (Option.map Resolution.gist)).told =
      (((r.withBundle other).probeBundle resource).map (Option.map Resolution.gist)).told := by
  have hdirectories := Bundle.directory?_congr h.sentinel r.files resource
  have hmoves := Bundle.firstOf?_congr h.moved resource
  rw [Finding.told_map, Finding.told_map]
  cases havailable : b.available with
  | false =>
    have hother : other.available = false := h.available ▸ havailable
    rw [told_probeBundle_of_absent (r := r.withBundle b) havailable,
      told_probeBundle_of_absent (r := r.withBundle other) hother]
  | true =>
    have hother : other.available = true := h.available ▸ havailable
    -- the answers of a bundle, in the order in which they are tried
    rcases cases_of_toOption_eq h.requested with
      ⟨place, hplace, hfound⟩ | ⟨reason, miss, hreason, hmiss⟩
    · rw [told_probeBundle_of_located (r := r.withBundle b) havailable hplace,
        told_probeBundle_of_located (r := r.withBundle other) hother hfound]
    · cases hdir : (b.directory? r.files r.config.sentinel resource).1 with
      | some dir =>
        rw [told_probeBundle_of_directory (r := r.withBundle b) havailable hreason hdir,
          told_probeBundle_of_directory (r := r.withBundle other) hother hmiss
            (hdirectories ▸ hdir)]
      | none =>
        cases hmoved : (b.relocated? r.config.namespacePrefix r.config.relocations resource).1 with
        | some place =>
          rw [told_probeBundle_of_moved (r := r.withBundle b) havailable hreason hdir hmoved,
            told_probeBundle_of_moved (r := r.withBundle other) hother hmiss
              (hdirectories ▸ hdir) (hmoves.symm.trans hmoved)]
        | none =>
          rw [told_probeBundle_of_misses (r := r.withBundle b) ⟨havailable, hreason, hdir, hmoved⟩,
            told_probeBundle_of_misses (r := r.withBundle other)
              ⟨hother, hmiss, hdirectories ▸ hdir, hmoves.symm.trans hmoved⟩,
            map_some_gist, map_some_gist,
            gist_refuse (bundleFailure_ne reason) (bundleFailure_ne miss)]

/-- No source but the bundle looks at the bundle. -/
theorem told_probe_withBundle (source : Source) :
    (((r.withBundle b).probe source resource).map (Option.map Resolution.gist)).told =
      (((r.withBundle other).probe source resource).map (Option.map Resolution.gist)).told := by
  cases source with
  | bundle => exact told_probeBundle_withBundle h
  | rootVariable | installTree => rfl

theorem told_search_withBundle (order : List Source) :
    (((r.withBundle b).search resource order).map Resolution.gist).told =
      (((r.withBundle other).search resource order).map Resolution.gist).told := by
  induction order with
  | nil => rfl
  | cons source rest ih =>
    have hprobe := told_probe_withBundle h source
    simp only [Finding.told, Finding.map, Prod.mk.injEq] at hprobe ih ⊢
    obtain ⟨houtcome, hdirectories⟩ := hprobe
    rw [search, search]
    -- both probes fail alike, find alike, or pass alike
    cases hfirst : ((r.withBundle b).probe source resource).outcome with
    | error m =>
      cases hsecond : ((r.withBundle other).probe source resource).outcome with
      | error n => simpa [hfirst, hsecond, Except.map, hdirectories] using houtcome
      | ok _ => simp [hfirst, hsecond, Except.map] at houtcome
    | ok found =>
      cases hsecond : ((r.withBundle other).probe source resource).outcome with
      | error n => simp [hfirst, hsecond, Except.map] at houtcome
      | ok given =>
        have hgist : found.map Resolution.gist = given.map Resolution.gist := by
          simpa [hfirst, hsecond, Except.map] using houtcome
        cases found with
        | none =>
          cases given with
          | none => exact ih
          | some _ => simp at hgist
        | some x =>
          cases given with
          | none => simp at hgist
          | some y => simpa [Except.map, hdirectories] using hgist

/-- **Exchanging the bundle.**  Where two bundles are interchangeable, a search
    comes to the same up to the wording of a failure. -/
theorem told_resolve_withBundle :
    (((r.withBundle b).resolve resource).map Resolution.gist).told =
      (((r.withBundle other).resolve resource).map Resolution.gist).told := by
  by_cases hresource : isRelativeResource resource = true
  · by_cases hnamespace : Text.hasPrefix r.config.namespacePrefix resource = true
    · rw [resolve_eq_search (r := r.withBundle b) hresource hnamespace,
        resolve_eq_search (r := r.withBundle other) hresource hnamespace]
      exact told_search_withBundle h _
    · simp [resolve, hresource, hnamespace]
  · simp [resolve, hresource]

end exchange

/-! ### A manifest in place of a directory -/

theorem toOption_locate_bundle (files : Files) (runfiles : Runfiles) (resource : String) :
    ((runfiles.bundle files).locate resource).toOption =
      (runfiles.locate files resource).toOption := by
  simp only [Runfiles.bundle]
  cases runfiles.locate files resource <;> rfl

section manifest

variable {files : Files} {base contents : String} {resources : Set String}
    (habsolute : (Path.ofText base).isAbsolute = true) (hfeed : '\n' ∉ base.toList)
    (hplain : ∀ resource ∈ resources, Entries.Plain resource)
    (hlists : Runfiles.Lists files (Path.ofText base) resources contents)
include habsolute hfeed hplain hlists

/-- Over a manifest and over its directory the bundles are alike for every
    resource of the set. -/
theorem alikeAt_of_lists {resource : String} (hresource : resource ∈ resources) (listing : Path) :
    Bundle.AlikeAt ((Runfiles.ofManifest listing contents).bundle files)
      ((Runfiles.directory (Path.ofText base)).bundle files) resource := by
  have hbase : Text.hasPrefix "/" base = true := Path.isAbsolute_ofText base ▸ habsolute
  rw [Bundle.AlikeAt, toOption_locate_bundle, toOption_locate_bundle]
  exact Runfiles.locate_of_lists hbase hfeed hplain hlists hresource listing

/-- **A manifest refines its directory.**  Take a manifest of what a directory
    has of a set of resources, and a resource for which the bundle is asked for
    resources of that set only.  A resolver over the manifest and the same
    resolver over the directory come to the same state and the same path, or
    break the same precondition, leave and emit the same in a log, and report
    the same root. -/
theorem manifest_refines_directory (r : Resolver) {resource : String}
    (hresource : resource ∈ resources) (hsentinel : r.config.sentinel ∈ resources)
    (hmoved : ∀ moved ∈ Bundle.movedPaths r.config.namespacePrefix r.config.relocations resource,
      moved ∈ resources)
    (listing : Path) :
    let overManifest := r.withBundle ((Runfiles.ofManifest listing contents).bundle files)
    let overDirectory := r.withBundle ((Runfiles.directory (Path.ofText base)).bundle files)
    ((overManifest.resolve resource).outcome.map Resolution.gist =
      (overDirectory.resolve resource).outcome.map Resolution.gist) ∧
    (∀ log : DeprecationLog,
      log.record (overManifest.resolve resource).directories =
        log.record (overDirectory.resolve resource).directories) ∧
    overManifest.report .bundle = overDirectory.report .bundle := by
  intro overManifest overDirectory
  have halike {q : String} (hq : q ∈ resources) :=
    alikeAt_of_lists habsolute hfeed hplain hlists hq listing
  have hsearch : ((overManifest.resolve resource).map Resolution.gist).told =
      ((overDirectory.resolve resource).map Resolution.gist).told :=
    told_resolve_withBundle
      ⟨rfl, halike hresource, halike hsentinel, fun moved hmem => halike (hmoved moved hmem)⟩
  rw [Finding.told_map, Finding.told_map, Prod.mk.injEq] at hsearch
  obtain ⟨houtcome, hdirectories⟩ := hsearch
  refine ⟨houtcome, ?_, report_withBundle rfl (halike hsentinel)⟩
  intro log
  exact congrArg log.record hdirectories

end manifest

/-- Runfiles with one regular file, the sentinel, and one directory. -/
def runfilesTree : MemoryFiles :=
  (MemoryFiles.empty.addFile (Path.ofText "/b/project/.resource-root-sentinel")).addDir
    (Path.ofText "/b/project/models")

/-- The resources that a search for the directory asks for. -/
def askedFor : Set String :=
  {resource | resource = "project/.resource-root-sentinel" ∨ resource = "project/models"}

/-- The manifest of the one regular file. -/
def sentinelLine : String := "project/.resource-root-sentinel /b/project/.resource-root-sentinel"

theorem lists_sentinelLine :
    Runfiles.Lists runfilesTree.view (Path.ofText "/b") askedFor (sentinelLine ++ "\n" ++ "") := by
  have hjoined : Path.joined "/b" "project/.resource-root-sentinel" =
      "/b/project/.resource-root-sentinel" := by decide +kernel
  have hpath : ((Path.ofText "/b").joinText "project/.resource-root-sentinel").text? =
      some "/b/project/.resource-root-sentinel" := by
    rw [Path.joinText_ofText, Path.text?_ofText, hjoined]
  refine ⟨[sentinelLine], .feed sentinelLine .nil, ?_⟩
  intro row
  rw [List.mem_singleton]
  constructor
  · rintro rfl
    exact ⟨_, .inl rfl, by decide +kernel, _, hpath, rfl⟩
  · rintro ⟨resource, rfl | rfl, hfile, path, hresource, rfl⟩
    · rw [hpath, Option.some_inj] at hresource
      rw [← hresource]
      rfl
    · exact absurd hfile (by decide +kernel)

/-- A resolver without surroundings, but for the files that it shares with the
    bundle. -/
def overRunfiles : Resolver where
  config := .standard
  environment := (Variables.mk []).view
  files := runfilesTree.view
  bundle := .absent
  markerDir := none
  workingDir := none

/-- The directory is found over either bundle. -/
theorem manifest_refines_directory_runfilesTree :
    let overManifest := overRunfiles.withBundle
      ((Runfiles.ofManifest (Path.ofText "/m") (sentinelLine ++ "\n" ++ "")).bundle runfilesTree.view)
    let overDirectory := overRunfiles.withBundle
      ((Runfiles.directory (Path.ofText "/b")).bundle runfilesTree.view)
    (overDirectory.resolve "project/models").told =
      (.ok (.found "project/models" (Path.ofText "/b/project/models")), ["project/models"]) ∧
    (overManifest.resolve "project/models").outcome.map Resolution.gist =
      (overDirectory.resolve "project/models").outcome.map Resolution.gist ∧
    overManifest.report .bundle = overDirectory.report .bundle := by
  intro overManifest overDirectory
  have hplain : ∀ resource ∈ askedFor, Entries.Plain resource := by
    rintro resource (rfl | rfl)
    · exact ⟨by decide, by decide, by decide⟩
    · exact ⟨by decide, by decide, by decide⟩
  have hmoved : ∀ moved ∈ Bundle.movedPaths overRunfiles.config.namespacePrefix
      overRunfiles.config.relocations "project/models", moved ∈ askedFor := by
    have hnone : Bundle.movedPaths overRunfiles.config.namespacePrefix
        overRunfiles.config.relocations "project/models" = [] := by decide +kernel
    rw [hnone]
    exact fun moved hmem => absurd hmem List.not_mem_nil
  obtain ⟨houtcome, -, hreport⟩ := manifest_refines_directory (by decide +kernel) (by decide)
    hplain lists_sentinelLine overRunfiles (.inr rfl) (.inl rfl) hmoved (Path.ofText "/m")
  exact ⟨by decide +kernel, houtcome, hreport⟩

end Resolver
end LayeredRoots
