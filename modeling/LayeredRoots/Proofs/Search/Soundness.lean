import LayeredRoots.Machine
import LayeredRoots.Proofs.Search.Routes
import LayeredRoots.Proofs.Storage.Files

/-! # What is found is there

    Over runfiles, a path that a search hands out leads to something: no route
    to a path leaves out the look at the files.  A directory is handed out on
    two of the routes only, and each of them starts from a sentinel that is a
    regular file:

    - a directory of the variable or the marker must carry the sentinel to
      serve as root (`DirectoryRoute.below`);
    - the root of a bundle is what lies above the place of the sentinel
      (`DirectoryRoute.fallback`).

    The other two routes end at a place that the runfiles hand out, and that is
    a regular file.  Files must be separate for this to exclude directories. -/

namespace LayeredRoots

namespace Resolver

/-- How a search comes to the path of a directory. -/
inductive DirectoryRoute (r : Resolver) (resource : String) : Path → Prop where
  /-- The directory lies below a root that the variable or the marker names and
      that carries the sentinel. -/
  | below (source : Source) (root : Path) (hsource : source ≠ .bundle)
      (hfirst : r.firstRoot? = some source) (hroot : (r.report source).root = some root)
      (hdir : r.files.isDir root = true)
      (hsentinel : r.files.isFile (root.joinText r.config.sentinel) = true) :
      DirectoryRoute r resource (root.joinText resource)
  /-- The bundle lacks the resource, and the directory lies below its root, the
      directory that the place of its sentinel leads to. -/
  | fallback (reason : String) (root place : Path) (hfirst : r.firstRoot? = some .bundle)
      (hmiss : r.bundle.locate resource = .error reason)
      (hroot : r.bundle.root r.config.sentinel = .ok root)
      (hplace : r.bundle.locate r.config.sentinel = .ok place)
      (hsentinel : r.files.isFile place = true)
      (habove : place.components =
        root.components ++ (Path.ofText r.config.sentinel).components) :
      DirectoryRoute r resource (root.joinText resource)

/-- What is true of a path that a search hands out. -/
structure Sound (r : Resolver) (resource : String) (path : Path) : Prop where
  there     : r.files.isFile path = true ∨ r.files.isDir path = true
  directory : r.files.isDir path = true → r.DirectoryRoute resource path

variable {r : Resolver} {resource named : String} {path : Path} {found : Option Runfiles}

/-- A regular file is sound, however a search came to it. -/
theorem sound_of_isFile (hseparate : r.files.Separate) (h : r.files.isFile path = true) :
    r.Sound resource path where
  there := .inl h
  directory hdir := absurd hdir (by simp [hseparate.isDir_of_isFile h])

/-- Every route to a path is sound. -/
theorem Route.sound (hbundle : r.bundle = Runfiles.bundleOf r.files found)
    (hseparate : r.files.Separate) (h : r.Route resource path) : r.Sound resource path := by
  have hfile {asked : String} {place : Path} (hplace : r.bundle.locate asked = .ok place) :
      r.files.isFile place = true := by
    rw [hbundle] at hplace
    exact Runfiles.isFile_of_bundleOf hplace
  cases h with
  | below source root hsource hfirst hroot _ hdir hsentinel hthere =>
    exact ⟨hthere.symm, fun _ => .below source root hsource hfirst hroot hdir hsentinel⟩
  | bundled asked place path hfirst hbundled =>
    cases hbundled with
    -- two of the three ways end at a place of the runfiles themselves
    | mapped _ hplace => exact sound_of_isFile hseparate (hfile hplace)
    | moved _ _ _ _ _ hplace => exact sound_of_isFile hseparate (hfile hplace)
    | directory reason _ root hmiss _ hroot hdir =>
      obtain ⟨place, hplace, habove⟩ := Bundle.locate_of_root hroot
      exact ⟨.inr hdir,
        fun _ => .fallback reason root place hfirst hmiss hroot hplace (hfile hplace) habove⟩

/-- **What is found is there.**  Whatever its configuration and surroundings
    are, a resolver over runfiles and one tree of files hands out the paths of
    things that exist, and those of directories only through a root with a
    sentinel.  The same holds of the resolver that a process builds for a
    single question. -/
theorem found_paths_are_sound (files : Files) (hseparate : files.Separate)
    (resource named : String) (path : Path) :
    (∀ (r : Resolver) (found : Option Runfiles), r.files = files →
      r.bundle = Runfiles.bundleOf files found →
      (r.resolve resource).outcome = .ok (.found named path) →
      named = resource ∧ r.Sound resource path) ∧
    (∀ m : Machine, m.storage.toFiles = files →
      ((m.resolver Config.standard).1.resolve resource).outcome = .ok (.found named path) →
      named = resource ∧ (m.resolver Config.standard).1.Sound resource path) := by
  have hresolver : ∀ (r : Resolver) (found : Option Runfiles), r.files = files →
      r.bundle = Runfiles.bundleOf files found →
      (r.resolve resource).outcome = .ok (.found named path) →
      named = resource ∧ r.Sound resource path := by
    rintro r found rfl hbundle h
    obtain ⟨hnamed, hroute⟩ := route_of_resolve h
    exact ⟨hnamed, hroute.sound hbundle hseparate⟩
  refine ⟨hresolver, ?_⟩
  rintro m rfl h
  rw [Machine.fst_resolver] at h ⊢
  exact hresolver _ m.runfiles?.1 rfl rfl h

/-- The bundle of `bundledTwice` comes to a directory below its root. -/
theorem found_paths_are_sound_bundledTwice :
    bundledTwice.files.Separate ∧
    (bundledTwice.resolve "project/models").outcome =
      .ok (.found "project/models" (Path.ofText "/b/project/models")) ∧
    bundledTwice.files.isDir (Path.ofText "/b/project/models") = true ∧
    bundledTwice.Sound "project/models" (Path.ofText "/b/project/models") := by
  have hseparate : bundledTwice.files.Separate := MemoryFiles.separate_view (by decide +kernel)
  have hfound : (bundledTwice.resolve "project/models").outcome =
      .ok (.found "project/models" (Path.ofText "/b/project/models")) := by decide +kernel
  refine ⟨hseparate, hfound, by decide +kernel, ?_⟩
  exact ((found_paths_are_sound bundledTwice.files hseparate _ _ _).1 bundledTwice
    (some (.directory (Path.ofText "/b"))) rfl rfl hfound).2

end Resolver
end LayeredRoots
