import LayeredRoots.Machine
import LayeredRoots.Proofs.Config.Valid
import LayeredRoots.Proofs.Marker
import LayeredRoots.Proofs.Search.Relocations
import LayeredRoots.Proofs.Search.Routes
import LayeredRoots.Proofs.Storage.Files

/-! # Which paths are absolute

    A process that runs in a directory makes the value of the root variable
    absolute, and its install marker lies at an absolute path.  So whatever is
    found below these roots has an absolute path (`Route.below`).

    Nobody makes a path of the runfiles absolute.  A path that they hand out,
    with or without a fallback, is as absolute as its anchor: the directory of
    the runfiles, or the target that the manifest lists for the resource that
    was asked for in the end.  Both are taken as they are written, so a relative
    anchor means a relative path (`relative_path_found`). -/

namespace LayeredRoots

/-! ### Anchors of runfiles -/

/-- The path that decides whether the place of a resource is absolute. -/
def Runfiles.anchor? (asked : String) : Runfiles → Option Path
  | .manifest _ entries => entries.get? asked
  | .directory dir => some dir

/-- A place of runfiles is as absolute as its anchor. -/
theorem Runfiles.isAbsolute_of_locate {files : Files} {runfiles : Runfiles} {asked : String}
    {place : Path} (hasked : (Path.ofText asked).isAbsolute = false)
    (h : runfiles.locate files asked = .ok place) :
    ∃ anchor, runfiles.anchor? asked = some anchor ∧ place.isAbsolute = anchor.isAbsolute := by
  cases runfiles with
  | manifest listing entries => exact ⟨place, (locate_manifest_iff.1 h).1, rfl⟩
  | directory dir =>
    obtain ⟨rfl, -⟩ := locate_directory_iff.1 h
    refine ⟨dir, rfl, ?_⟩
    rw [Path.joinText, Path.isAbsolute_join, hasked, Bool.false_or]

/-! ### The process -/

/-- A process runs in a directory that exists, and knows the absolute path of
    that and of its program. -/
structure Machine.Placed (m : Machine) : Prop where
  workingDir : ∃ dir, m.workingDir = some dir ∧ dir.isAbsolute = true
  programDir : ∀ dir, m.programDir = some dir → dir.isAbsolute = true

/-- The marker that a configuration asks for lies at an absolute path. -/
theorem Machine.Placed.isAbsolute_markerDir {m : Machine} (hm : m.Placed) (c : Config) {dir : Path}
    (h : m.markerDir c.marker = some dir) : dir.isAbsolute = true := by
  unfold Config.marker at h
  split at h
  · next name hname =>
    obtain ⟨maps, -, hdir⟩ := Option.bind_eq_some_iff.1 h
    exact isAbsolute_mappedDirectory? hdir
  · split at h
    · exact hm.programDir dir h
    · cases h

/-! ### Routes -/

namespace Resolver

variable {r : Resolver} {resource named : String} {path : Path}

/-- In a working directory every path but the empty one can be made absolute. -/
theorem isAbsolute_absolute_of_ne {dir : Path} (hdir : r.workingDir = some dir)
    (habsolute : dir.isAbsolute = true) (hpath : path.isEmpty = false) :
    (r.absolute path).isAbsolute = true := by
  unfold absolute
  rw [hpath, Bool.false_or, hdir]
  split
  · assumption
  · exact Path.isAbsolute_absoluteFrom habsolute path

/-- The empty path is not made into any other. -/
theorem isAbsolute_absolute {dir : Path} (hdir : r.workingDir = some dir)
    (habsolute : dir.isAbsolute = true) (h : (r.absolute path).isEmpty = false) :
    (r.absolute path).isAbsolute = true := by
  refine isAbsolute_absolute_of_ne hdir habsolute ?_
  rw [← Bool.not_eq_true]
  intro hempty
  simp [absolute, hempty] at h

/-- A path of the bundle, with or without a fallback, is as absolute as the
    place of the resource that the bundle was asked for in the end. -/
theorem Bundled.isAbsolute {asked : String} {place : Path} (h : r.Bundled resource asked place path)
    (hvalid : r.config.flaw? = none)
    (hnamespace : Text.hasPrefix r.config.namespacePrefix resource = true) :
    (Path.ofText asked).isAbsolute = false ∧ path.isAbsolute = place.isAbsolute := by
  have hresource := Config.isAbsolute_below_namespace hvalid hnamespace
  have hsentinel :=
    Config.isAbsolute_below_namespace hvalid (Config.hasPrefix_sentinel hvalid)
  cases h with
  | mapped _ hplace => exact ⟨hresource, rfl⟩
  | moved _ _ _ _ hmoved _ =>
    exact ⟨Config.isAbsolute_below_namespace hvalid (Bundle.hasPrefix_of_mem_movedPaths hmoved), rfl⟩
  | directory _ _ root _ hplace hroot _ =>
    obtain ⟨other, hother, hsteps⟩ := Bundle.locate_of_root hroot
    obtain rfl : place = other := Except.ok.inj (hplace.symm.trans hother)
    refine ⟨hsentinel, ?_⟩
    -- going up from the sentinel never takes away the root
    have hroot : root.isAbsolute = place.isAbsolute :=
      Path.isAbsolute_of_components hsteps (Path.root_not_mem_components hsentinel)
    rw [Path.joinText, Path.isAbsolute_join, hresource, Bool.false_or, hroot]

/-- A root that the variable or the marker names is absolute where the working
    directory and the marker are. -/
theorem isAbsolute_root {dir : Path} (hdir : r.workingDir = some dir)
    (habsolute : dir.isAbsolute = true)
    (hmarker : ∀ dir, r.markerDir = some dir → dir.isAbsolute = true) {source : Source} {root : Path}
    (hsource : source ≠ .bundle) (hroot : (r.report source).root = some root)
    (hnonempty : root.isEmpty = false) : root.isAbsolute = true := by
  cases source with
  | bundle => exact absurd rfl hsource
  | rootVariable =>
    have hvariable : r.variableRoot? = some root := hroot
    obtain ⟨value, -, rfl⟩ := Option.map_eq_some_iff.1 hvariable
    exact isAbsolute_absolute hdir habsolute hnonempty
  | installTree =>
    have hinstall : r.installRoot? = some root := hroot
    obtain ⟨above, habove, rfl⟩ := Option.map_eq_some_iff.1 hinstall
    rw [Path.joinText, Path.isAbsolute_join, hmarker above habove, Bool.or_true]

/-- **Which paths are absolute.**  For a valid configuration, what a process
    finds below its root variable or install marker has an absolute path.  What
    its runfiles hand out is as absolute as the anchor there. -/
theorem found_path_absolute_iff_anchor (m : Machine) (hm : m.Placed) (c : Config)
    (hvalid : c.flaw? = none) (resource named : String) (path : Path)
    (h : ((m.resolver c).1.resolve resource).outcome = .ok (.found named path)) :
    ((m.resolver c).1.firstRoot? ≠ some .bundle → path.isAbsolute = true) ∧
    ((m.resolver c).1.firstRoot? = some .bundle →
      ∃ asked place runfiles anchor, (m.resolver c).1.Bundled resource asked place path ∧
        m.runfiles?.1 = some runfiles ∧ runfiles.anchor? asked = some anchor ∧
        (path.isAbsolute = true ↔ anchor.isAbsolute = true)) := by
  rw [Machine.fst_resolver] at h ⊢
  obtain ⟨-, hnamespace⟩ := requested_of_found h
  obtain ⟨-, hroute⟩ := route_of_resolve h
  cases hroute with
  | below source root hsource hfirst hroot hnonempty _ _ _ =>
    obtain ⟨dir, hdir, hworking⟩ := hm.workingDir
    have habsolute := isAbsolute_root hdir hworking (fun _ => hm.isAbsolute_markerDir c) hsource
      hroot hnonempty
    constructor
    · intro _
      rw [Path.joinText, Path.isAbsolute_join, habsolute, Bool.or_true]
    · intro hbundle
      exact absurd (Option.some.inj (hfirst.symm.trans hbundle)) hsource
  | bundled asked place _ hfirst hbundled =>
    obtain ⟨hasked, hpath⟩ := hbundled.isAbsolute hvalid hnamespace
    obtain ⟨runfiles, hrunfiles, hlocate⟩ := Runfiles.exists_locate_of_bundleOf hbundled.locate
    obtain ⟨anchor, hanchor, hplace⟩ := Runfiles.isAbsolute_of_locate hasked hlocate
    constructor
    · intro hother
      exact absurd hfirst hother
    · intro _
      exact ⟨asked, place, runfiles, anchor, hbundled, hrunfiles, hanchor, by rw [hpath, hplace]⟩

/-- A directory of runfiles in `/t`. -/
def runfilesDisk : Disk where
  entries := [
    (Disk.placeOf (Path.ofText "/t"), .dir),
    (Disk.placeOf (Path.ofText "/t/r"), .dir),
    (Disk.placeOf (Path.ofText "/t/r/project"), .dir),
    (Disk.placeOf (Path.ofText "/t/r/project/x.txt"), .file [])]

/-- A process that runs in `/t`, beside the runfiles, which its variable names
    by the relative path `r`. -/
def besideRunfiles : Machine where
  vars := ⟨[("RUNFILES_DIR", Text.encode "r")]⟩
  storage := runfilesDisk.view (.dir (Disk.placeOf (Path.ofText "/t")))
  workingDir := some (Path.ofText "/t")
  programDir := none
  maps := none

theorem placed_besideRunfiles : besideRunfiles.Placed where
  workingDir := ⟨Path.ofText "/t", rfl, by decide +kernel⟩
  programDir := by
    intro dir hdir
    simp [besideRunfiles] at hdir

theorem runfiles?_besideRunfiles :
    besideRunfiles.runfiles?.1 = some (.directory (Path.ofText "r")) := by
  have hmanifest : besideRunfiles.environment.getNonEmpty Runfiles.manifestVariable = none := by
    decide +kernel
  have hdirectory : besideRunfiles.environment.getNonEmpty Runfiles.directoryVariable =
      some (Path.ofText "r").bytes := by decide +kernel
  have hdir : besideRunfiles.storage.isDir (Path.ofText "r") = true :=
    Disk.isDir_of_direct? (by decide +kernel)
  simp only [Machine.runfiles?, Runfiles.discover?, hmanifest, hdirectory, hdir, if_true]

theorem bundle_besideRunfiles :
    (besideRunfiles.resolver Config.standard).1.bundle =
      (Runfiles.directory (Path.ofText "r")).bundle besideRunfiles.storage.toFiles := by
  rw [Machine.fst_resolver, runfiles?_besideRunfiles]
  rfl

theorem firstRoot?_besideRunfiles :
    (besideRunfiles.resolver Config.standard).1.firstRoot? = some .bundle := by
  have hvariable : (besideRunfiles.resolver Config.standard).1.hasRoot .rootVariable = false := by
    decide +kernel
  show [Source.rootVariable, .bundle, .installTree].find? _ = some .bundle
  rw [List.find?_cons, hvariable, List.find?_cons, hasRoot_bundle, bundle_besideRunfiles]
  rfl

/-- The process finds a file there, and has a relative path for it. -/
theorem resolve_besideRunfiles :
    ((besideRunfiles.resolver Config.standard).1.resolve "project/x.txt").outcome =
      .ok (.found "project/x.txt" (Path.ofText "r/project/x.txt")) := by
  have hjoin : (Path.ofText "r").joinText "project/x.txt" = Path.ofText "r/project/x.txt" := by
    decide +kernel
  have hfile : besideRunfiles.storage.isFile ((Path.ofText "r").joinText "project/x.txt") = true :=
    Disk.isFile_of_direct? [] (by decide +kernel)
  have hplace : (besideRunfiles.resolver Config.standard).1.bundle.locate "project/x.txt" =
      .ok (Path.ofText "r/project/x.txt") := by
    rw [bundle_besideRunfiles, ← hjoin]
    exact Runfiles.locate_directory_of_isFile hfile
  have havailable : (besideRunfiles.resolver Config.standard).1.bundle.available = true := by
    rw [bundle_besideRunfiles]
    rfl
  have hsuccess : Resolution.success "project/x.txt" (Path.ofText "r/project/x.txt") =
      .ok (.found "project/x.txt" (Path.ofText "r/project/x.txt")) := by decide +kernel
  have hprobe : ((besideRunfiles.resolver Config.standard).1.probeBundle "project/x.txt").told.1 =
      .ok (some (.found "project/x.txt" (Path.ofText "r/project/x.txt"))) := by
    rw [told_probeBundle_of_located havailable hplace, hsuccess]
    rfl
  rw [resolve_eq_search (by decide) (by decide)]
  exact congrArg Prod.fst (told_search_of_root firstRoot?_besideRunfiles hprobe)

/-- The anchor of that path is the directory of the runfiles, as it is
    written. -/
theorem found_path_absolute_iff_anchor_besideRunfiles :
    (besideRunfiles.Placed ∧ Config.standard.flaw? = none ∧
      ((besideRunfiles.resolver Config.standard).1.resolve "project/x.txt").outcome =
        .ok (.found "project/x.txt" (Path.ofText "r/project/x.txt"))) ∧
    besideRunfiles.runfiles?.1 = some (.directory (Path.ofText "r")) ∧
    ∃ asked runfiles anchor, besideRunfiles.runfiles?.1 = some runfiles ∧
      runfiles.anchor? asked = some anchor ∧
      ((Path.ofText "r/project/x.txt").isAbsolute = true ↔ anchor.isAbsolute = true) := by
  have hvalid : Config.standard.flaw? = none := by decide +kernel
  refine ⟨⟨placed_besideRunfiles, hvalid, resolve_besideRunfiles⟩, runfiles?_besideRunfiles, ?_⟩
  obtain ⟨asked, place, runfiles, anchor, -, hfound, hanchor, hiff⟩ :=
    (found_path_absolute_iff_anchor besideRunfiles placed_besideRunfiles Config.standard hvalid _ _ _
      resolve_besideRunfiles).2 firstRoot?_besideRunfiles
  exact ⟨asked, runfiles, anchor, hfound, hanchor, hiff⟩

/-- What a process finds for a valid configuration need not have an absolute
    path. -/
theorem relative_path_found :
    ¬ ∀ (m : Machine) (c : Config) (resource named : String) (path : Path), m.Placed →
      c.flaw? = none → ((m.resolver c).1.resolve resource).outcome = .ok (.found named path) →
      path.isAbsolute = true := by
  intro h
  have habsolute := h besideRunfiles Config.standard _ _ _ placed_besideRunfiles
    (by decide +kernel) resolve_besideRunfiles
  exact absurd habsolute (by decide +kernel)

end Resolver
end LayeredRoots
