import LayeredRoots.Bundle.Table
import LayeredRoots.Proofs.Search.Exchange

/-! # Precedence inside a bundle

    A bundle is asked for a resource in three ways, and the first that has an
    answer counts:

    - the bundle has the resource;
    - the resource is a directory below the root of the bundle.  This alone
      goes into a deprecation log;
    - the resource moved, and the bundle has it at one of its new places.

    Where all three miss, the bundle's words for the first miss are the message.
    What it says about the other two never shows
    (`told_probeBundle_of_same_answers`). -/

namespace LayeredRoots

/-! ### Where a resource may be -/

/-- A path to a named resource is never empty, whatever root it starts from. -/
theorem Path.isEmpty_joinText (root : Path) {resource : String} (h : resource ≠ "") :
    (root.joinText resource).isEmpty = false := by
  have htail : (ofText resource).isEmpty = false := by
    rw [isEmpty_ofText]
    simpa using h
  have hbytes : (ofText resource).bytes ≠ [] := by simpa [isEmpty] using htail
  unfold joinText join
  split
  · exact htail
  · split <;> simp [isEmpty, hbytes]

/-- Of the places that a resource may have moved to, the first that the bundle
    has counts. -/
theorem Bundle.fst_firstOf? (b : Bundle) (resource : String) (places : List String) :
    (b.firstOf? resource places).1 = places.findSome? fun moved => (b.locate moved).toOption := by
  induction places with
  | nil => rfl
  | cons moved rest ih =>
    rw [firstOf?, List.findSome?_cons]
    cases b.locate moved with
    | ok place => rfl
    | error reason => exact ih

/-- Without a directory below the root there is nothing to fall back on. -/
theorem Bundle.directory?_eq_none {b : Bundle} {files : Files} {sentinel resource : String}
    (h : ∀ root, b.root sentinel = .ok root → files.isDir (root.joinText resource) = false) :
    (b.directory? files sentinel resource).1 = none := by
  cases hroot : b.root sentinel with
  | error fault => simp [directory?, hroot]
  | ok root => simp [directory?_of_root hroot, h root hroot]

/-- A table whose places are paths places nothing at the empty path. -/
theorem BundleTable.isEmpty_place (t : BundleTable)
    (h : ∀ row ∈ t.hits, row.2.isEmpty = false) :
    ∀ asked place, t.bundle.locate asked = .ok place → place.isEmpty = false := by
  intro asked place hplace
  simp only [bundle] at hplace
  split at hplace
  · next found hfound =>
    cases hplace
    obtain ⟨front, rest, hrows, -⟩ := List.lookup_eq_some_iff.1 hfound
    exact h (asked, place) (by simp [hrows])
  · cases hplace

namespace Resolver

variable {r : Resolver} {resource : String}

/-- Where a bundle looks for a resource that has moved. -/
def movedPlace? (r : Resolver) (resource : String) : Option Path :=
  (Bundle.movedPaths r.config.namespacePrefix r.config.relocations resource).findSome?
    fun moved => (r.bundle.locate moved).toOption

theorem fst_relocated? (r : Resolver) (resource : String) :
    (r.bundle.relocated? r.config.namespacePrefix r.config.relocations resource).1 =
      r.movedPlace? resource :=
  Bundle.fst_firstOf? r.bundle resource _

/-! ### The answers of a bundle -/

/-- A bundle that has the resource does nothing else, and leaves no note of
    having looked elsewhere. -/
theorem probeBundle_of_located {place : Path} (havailable : r.bundle.available = true)
    (hplace : r.bundle.locate resource = .ok place) (hresource : resource ≠ "")
    (hnonempty : place.isEmpty = false) :
    r.probeBundle resource = ⟨.ok (some (.found resource place)), [], []⟩ := by
  have hname : resource.isEmpty = false := by simpa using hresource
  simp only [probeBundle, havailable, hplace, Bool.not_true, Bool.false_eq_true, if_false,
    Resolution.success_eq_ok hname hnonempty]
  rfl

/-- The message about a miss is the bundle's own, if it has one. -/
theorem message_bundleFailure (resource reason : String) :
    (bundleFailure reason).message resource =
      if reason = "" then s!"Could not find resource path '{resource}' in the {bundleDescription}."
      else reason := by
  unfold bundleFailure
  by_cases h : reason = ""
  · subst h
    rw [if_pos (by decide), if_pos rfl]
    rfl
  · rw [if_neg (by simpa using h), if_neg h]
    rfl

section asked

variable (havailable : r.bundle.available = true)
include havailable

/-- Of what a bundle says only the answer for the resource itself shows; of the
    other answers it only matters where they place something. -/
theorem told_probeBundle_of_same_answers {other : Bundle} (hother : other.available = true)
    (hlocate : other.locate resource = r.bundle.locate resource)
    (hplaces : ∀ asked, Bundle.AlikeAt other r.bundle asked) :
    ((r.withBundle other).probeBundle resource).told = (r.probeBundle resource).told := by
  have hdirectory : (other.directory? r.files r.config.sentinel resource).1 =
      (r.bundle.directory? r.files r.config.sentinel resource).1 :=
    Bundle.directory?_congr (hplaces _) r.files resource
  have hmoves : (other.relocated? r.config.namespacePrefix r.config.relocations resource).1 =
      (r.bundle.relocated? r.config.namespacePrefix r.config.relocations resource).1 :=
    Bundle.firstOf?_congr (fun moved _ => hplaces moved) resource
  obtain ⟨place, hplace⟩ | ⟨reason, dir, hmiss, hdir⟩ | ⟨reason, place, hmiss, hdir, hmoved⟩ |
    ⟨reason, hmisses⟩ := bundle_cases r resource havailable
  · rw [told_probeBundle_of_located havailable hplace,
      told_probeBundle_of_located (r := r.withBundle other) hother (hlocate.trans hplace)]
  · rw [told_probeBundle_of_directory havailable hmiss hdir,
      told_probeBundle_of_directory (r := r.withBundle other) hother (hlocate.trans hmiss)
        (hdirectory.trans hdir)]
  · rw [told_probeBundle_of_moved havailable hmiss hdir hmoved,
      told_probeBundle_of_moved (r := r.withBundle other) hother (hlocate.trans hmiss)
        (hdirectory.trans hdir) (hmoves.trans hmoved)]
  · rw [told_probeBundle_of_misses hmisses,
      told_probeBundle_of_misses (r := r.withBundle other) ⟨hother, hlocate.trans hmisses.locate,
        hdirectory.trans hmisses.directory, hmoves.trans hmisses.moved⟩]

variable {reason : String} (hmiss : r.bundle.locate resource = .error reason)
  (hresource : resource ≠ "")
include hmiss hresource

/-- A directory below the root of the bundle is found and told to the log. -/
theorem told_probeBundle_of_isDir {root : Path} (hroot : r.bundle.root r.config.sentinel = .ok root)
    (hdir : r.files.isDir (root.joinText resource) = true) :
    (r.probeBundle resource).told =
      (.ok (some (.found resource (root.joinText resource))), [resource]) := by
  have hfallback : (r.bundle.directory? r.files r.config.sentinel resource).1 =
      some (root.joinText resource) := by
    rw [Bundle.directory?_of_root hroot, if_pos hdir]
  rw [told_probeBundle_of_directory havailable hmiss hfallback,
    Resolution.success_eq_ok (by simpa using hresource) (Path.isEmpty_joinText root hresource)]
  rfl

variable (hnodir : ∀ root, r.bundle.root r.config.sentinel = .ok root →
  r.files.isDir (root.joinText resource) = false)
include hnodir

/-- A resource that moved is found at its new place, and no log is told. -/
theorem told_probeBundle_of_movedPlace {place : Path} (hmoved : r.movedPlace? resource = some place)
    (hnonempty : place.isEmpty = false) :
    (r.probeBundle resource).told = (.ok (some (.found resource place)), []) := by
  have hplace := (fst_relocated? r resource).trans hmoved
  rw [told_probeBundle_of_moved havailable hmiss (Bundle.directory?_eq_none hnodir) hplace,
    Resolution.success_eq_ok (by simpa using hresource) hnonempty]
  rfl

/-- A resource that is nowhere is refused in the words of the first miss. -/
theorem told_probeBundle_of_nowhere (hmoved : r.movedPlace? resource = none) :
    (r.probeBundle resource).told =
      (.ok (some (.failed resource ((bundleFailure reason).message resource))), []) := by
  have hmisses : r.BundleMisses resource reason :=
    ⟨havailable, hmiss, Bundle.directory?_eq_none hnodir, (fst_relocated? r resource).trans hmoved⟩
  rw [told_probeBundle_of_misses hmisses,
    refuse_eq_ok (by simpa using hresource) (bundleFailure_ne reason)]
  rfl

end asked

/-- A place that a resource moved to is one that the bundle has. -/
theorem exists_locate_of_movedPlace? {place : Path} (h : r.movedPlace? resource = some place) :
    ∃ moved, r.bundle.locate moved = .ok place := by
  rw [← fst_relocated?] at h
  obtain ⟨moved, -, hplace⟩ := Bundle.exists_locate_of_firstOf? h
  exact ⟨moved, hplace⟩

/-- A bundle settles every resource that has a name. -/
theorem exists_ok_probeBundle (havailable : r.bundle.available = true)
    (hplaces : ∀ asked place, r.bundle.locate asked = .ok place → place.isEmpty = false)
    (hresource : resource ≠ "") :
    ∃ resolution, (r.probeBundle resource).outcome = .ok (some resolution) := by
  have hname : resource.isEmpty = false := by simpa using hresource
  obtain ⟨place, hplace⟩ | ⟨reason, dir, hmiss, hdir⟩ | ⟨reason, place, hmiss, hdir, hmoved⟩ |
    ⟨reason, hmisses⟩ := bundle_cases r resource havailable
  · exact ⟨_, by rw [probeBundle_of_located havailable hplace hresource (hplaces _ _ hplace)]⟩
  · obtain ⟨root, hroot, -, hisDir⟩ := Bundle.exists_root_of_directory? hdir
    exact ⟨_, congrArg Prod.fst
      (told_probeBundle_of_isDir havailable hmiss hresource hroot hisDir)⟩
  · obtain ⟨moved, -, hplace⟩ := Bundle.exists_locate_of_firstOf? hmoved
    have htold := told_probeBundle_of_moved havailable hmiss hdir hmoved
    rw [Resolution.success_eq_ok hname (hplaces _ _ hplace)] at htold
    exact ⟨_, congrArg Prod.fst htold⟩
  · have htold := told_probeBundle_of_misses hmisses
    rw [refuse_eq_ok hname (bundleFailure_ne reason)] at htold
    exact ⟨_, congrArg Prod.fst htold⟩

/-- **Precedence inside a bundle.**  A bundle settles every resource: with its
    own place for it, else with the directory below its root, which alone is
    told to the log, else with the first new place of the resource that it has,
    else with a failure in the words of the first miss.  What it says about
    anything else than the resource changes nothing. -/
theorem bundle_answers_by_precedence (r : Resolver) (havailable : r.bundle.available = true)
    (hplaces : ∀ asked place, r.bundle.locate asked = .ok place → place.isEmpty = false)
    (resource : String) (hresource : resource ≠ "") :
    (∃ resolution, (r.probe .bundle resource).outcome = .ok (some resolution)) ∧
    (∀ place, r.bundle.locate resource = .ok place →
      r.probe .bundle resource = ⟨.ok (some (.found resource place)), [], []⟩) ∧
    (∀ reason, r.bundle.locate resource = .error reason →
      (∀ root, r.bundle.root r.config.sentinel = .ok root →
        r.files.isDir (root.joinText resource) = true →
        (r.probe .bundle resource).told =
          (.ok (some (.found resource (root.joinText resource))), [resource])) ∧
      ((∀ root, r.bundle.root r.config.sentinel = .ok root →
          r.files.isDir (root.joinText resource) = false) →
        (∀ place, r.movedPlace? resource = some place →
          (r.probe .bundle resource).told = (.ok (some (.found resource place)), [])) ∧
        (r.movedPlace? resource = none →
          (r.probe .bundle resource).told = (.ok (some (.failed resource
            (if reason = "" then
              s!"Could not find resource path '{resource}' in the {bundleDescription}."
            else reason))), [])))) ∧
    (∀ log : DeprecationLog,
      log.record [] = (log, []) ∧
      log.record [resource] =
        (log.insert resource, if log.warns resource then [resource] else [])) ∧
    (∀ other : Bundle, other.available = true →
      other.locate resource = r.bundle.locate resource →
      (∀ asked, (other.locate asked).toOption = (r.bundle.locate asked).toOption) →
      ((r.withBundle other).probe .bundle resource).told = (r.probe .bundle resource).told) := by
  refine ⟨exists_ok_probeBundle havailable hplaces hresource, ?_, ?_, ?_, ?_⟩
  · intro place hplace
    exact probeBundle_of_located havailable hplace hresource (hplaces _ _ hplace)
  · intro reason hmiss
    refine ⟨fun root hroot hdir =>
      told_probeBundle_of_isDir havailable hmiss hresource hroot hdir, fun hnodir => ⟨?_, ?_⟩⟩
    · intro place hmoved
      obtain ⟨moved, hplace⟩ := exists_locate_of_movedPlace? hmoved
      exact told_probeBundle_of_movedPlace havailable hmiss hresource hnodir hmoved
        (hplaces _ _ hplace)
    · intro hmoved
      rw [← message_bundleFailure]
      exact told_probeBundle_of_nowhere havailable hmiss hresource hnodir hmoved
  · intro log
    exact ⟨rfl, by simp [DeprecationLog.record]⟩
  · intro other hother hlocate halike
    exact told_probeBundle_of_same_answers havailable hother hlocate halike

/-- A bundle with a subtree in the attic. -/
def movedDirectoryTable : BundleTable where
  available := true
  hits :=
    [("project/.resource-root-sentinel", Path.ofText "/b/project/.resource-root-sentinel"),
      ("project/attic/models", Path.ofText "/b/project/attic/models"),
      ("project/attic/models/a", Path.ofText "/b/project/attic/models/a")]
  reasons := [("project/models/b", ""), ("project/attic/models/b", "not there either")]

/-- A resolver over that bundle.  The subtree is a directory at its old place
    too, which the bundle does not list. -/
def movedDirectory : Resolver where
  config := Config.standard.withRelocation (.attic "models")
  environment := (Variables.mk []).view
  files := (MemoryFiles.empty.addDir (Path.ofText "/b/project/models")).view
  bundle := movedDirectoryTable.bundle
  markerDir := none
  workingDir := none

/-- The directory is found below the root although it moved too, a file in it
    where it moved to, and of the misses only the first has a say. -/
theorem bundle_answers_by_precedence_movedDirectory :
    movedDirectory.bundle.available = true ∧
    (∀ asked place, movedDirectory.bundle.locate asked = .ok place → place.isEmpty = false) ∧
    movedDirectory.movedPlace? "project/models" = some (Path.ofText "/b/project/attic/models") ∧
    (movedDirectory.probe .bundle "project/models").told =
      (.ok (some (.found "project/models" (Path.ofText "/b/project/models"))),
        ["project/models"]) ∧
    (movedDirectory.probe .bundle "project/models/a").told =
      (.ok (some (.found "project/models/a" (Path.ofText "/b/project/attic/models/a"))), []) ∧
    (movedDirectory.probe .bundle "project/models/b").told =
      (.ok (some (.failed "project/models/b"
        "Could not find resource path 'project/models/b' in the runtime bundle.")), []) := by
  have hplaces := movedDirectoryTable.isEmpty_place (by decide +kernel)
  have hroot : movedDirectory.bundle.root movedDirectory.config.sentinel =
      .ok (Path.ofText "/b") := by decide +kernel
  have hprecedence := fun resource =>
    bundle_answers_by_precedence movedDirectory rfl hplaces resource
  have hnodir (resource : String) (h : movedDirectory.files.isDir
      ((Path.ofText "/b").joinText resource) = false) :
      ∀ root, movedDirectory.bundle.root movedDirectory.config.sentinel = .ok root →
        movedDirectory.files.isDir (root.joinText resource) = false := by
    intro root hother
    obtain rfl : root = Path.ofText "/b" := Except.ok.inj (hother.symm.trans hroot)
    exact h
  refine ⟨rfl, hplaces, by decide +kernel, ?_, ?_, ?_⟩
  · exact ((hprecedence "project/models" (by decide)).2.2.1 "no entry for 'project/models'"
      (by decide +kernel)).1 (Path.ofText "/b") hroot (by decide +kernel)
  · exact (((hprecedence "project/models/a" (by decide)).2.2.1 "no entry for 'project/models/a'"
      (by decide +kernel)).2 (hnodir "project/models/a" (by decide +kernel))).1
      (Path.ofText "/b/project/attic/models/a") (by decide +kernel)
  · exact (((hprecedence "project/models/b" (by decide)).2.2.1 ""
      (by decide +kernel)).2 (hnodir "project/models/b" (by decide +kernel))).2 (by decide +kernel)

end Resolver
end LayeredRoots
