import LayeredRoots.Bundle.Fallback
import LayeredRoots.Bundle.Runfiles
import LayeredRoots.Proofs.Path.Above

/-! # What a bundle hands out

    A path that a bundle or one of its fallbacks gives for a resource was
    looked at: a place of runfiles is a regular file, the directory of a
    resource is a directory, and a moved resource is at a place that the
    bundle has for one of its new paths.

    * `exists_root`, `locate_of_root`: the root of a bundle is what lies above
      the sentinel.
    * `isFile_of_bundleOf`: runfiles hand out regular files and nothing else. -/

namespace LayeredRoots

namespace Bundle

variable {b : Bundle} {resource : String}

/-- A directory that a bundle falls back on lies below its root. -/
theorem exists_root_of_directory? {files : Files} {sentinel : String} {dir : Path}
    (h : (b.directory? files sentinel resource).1 = some dir) :
    ∃ root, b.root sentinel = .ok root ∧ dir = root.joinText resource ∧
      files.isDir (root.joinText resource) = true := by
  unfold directory? at h
  split at h
  · simp at h
  · next root hroot =>
    simp only [Option.ite_none_right_eq_some, Option.some.injEq] at h
    exact ⟨root, hroot, h.2.symm, h.1⟩

theorem isDir_of_directory? {files : Files} {sentinel : String} {dir : Path}
    (h : (b.directory? files sentinel resource).1 = some dir) : files.isDir dir = true := by
  obtain ⟨root, -, rfl, hdir⟩ := exists_root_of_directory? h
  exact hdir

theorem directory?_of_root {files : Files} {sentinel : String} {root : Path}
    (h : b.root sentinel = .ok root) :
    (b.directory? files sentinel resource).1 =
      if files.isDir (root.joinText resource) then some (root.joinText resource) else none := by
  simp only [directory?, h]

/-- Without rules nothing has moved. -/
theorem relocated?_nil (namespacePrefix : String) :
    (b.relocated? namespacePrefix [] resource).1 = none := by
  rw [relocated?, movedPaths]
  cases Text.dropPrefix? namespacePrefix resource <;> rfl

/-- The root of a bundle is what lies above the sentinel. -/
theorem exists_root {sentinel : String} {place : Path} {above : List Component}
    (hplace : b.locate sentinel = .ok place)
    (hrelative : (Path.ofText sentinel).isAbsolute = false)
    (h : place.components = above ++ (Path.ofText sentinel).components) :
    ∃ root, b.root sentinel = .ok root ∧ root.components = above := by
  obtain ⟨root, hroot, habove⟩ :=
    Path.exists_ancestor? h (Path.root_not_mem_components hrelative)
  have hends : place.endsWith (Path.ofText sentinel) = true := by
    rw [Path.endsWith, List.isSuffixOf_iff_suffix, h]
    exact List.suffix_append _ _
  refine ⟨root, ?_, habove⟩
  simp [Bundle.root, hplace, hends, hroot]

/-- A bundle with a root has the sentinel, as many steps below the root as the
    path of the sentinel has. -/
theorem locate_of_root {sentinel : String} {root : Path} (h : b.root sentinel = .ok root) :
    ∃ place, b.locate sentinel = .ok place ∧
      place.components = root.components ++ (Path.ofText sentinel).components := by
  unfold Bundle.root at h
  cases hplace : b.locate sentinel with
  | error reason => simp [hplace] at h
  | ok place =>
    simp only [hplace, Bool.not_eq_true'] at h
    split at h
    · cases h
    · next hends =>
      have hsuffix : (Path.ofText sentinel).components <:+ place.components := by
        simpa [Path.endsWith] using hends
      obtain ⟨above, habove⟩ := hsuffix
      cases hancestor : place.ancestor? (Path.ofText sentinel).components.length with
      | none => simp [hancestor] at h
      | some top =>
        obtain rfl : top = root := by simpa [hancestor] using h
        obtain ⟨below, hlength, hsteps⟩ := Path.components_of_ancestor? hancestor
        -- what was stripped is the end that was compared
        obtain ⟨-, hbelow⟩ := List.append_inj' (habove.trans hsteps) hlength.symm
        exact ⟨place, rfl, by rw [hsteps, hbelow]⟩

theorem exists_locate_of_firstOf? {places : List String} {place : Path}
    (h : (b.firstOf? resource places).1 = some place) :
    ∃ moved ∈ places, b.locate moved = .ok place := by
  induction places with
  | nil => simp [firstOf?] at h
  | cons moved rest ih =>
    rw [firstOf?] at h
    cases hmoved : b.locate moved with
    | ok found =>
      have hfound : found = place := by simpa [hmoved] using h
      exact ⟨moved, List.mem_cons_self, by rw [hmoved, hfound]⟩
    | error reason =>
      obtain ⟨other, hother, hplace⟩ := ih (by simpa [hmoved] using h)
      exact ⟨other, List.mem_cons_of_mem _ hother, hplace⟩

end Bundle

namespace Runfiles

variable {files : Files} {resource : String} {place : Path}

theorem locate_directory_of_isFile {dir : Path} (h : files.isFile (dir.joinText resource) = true) :
    ((directory dir).bundle files).locate resource = .ok (dir.joinText resource) := by
  simp [bundle, locate, h, Except.mapError]

theorem locate_directory_of_missing {dir : Path}
    (h : files.isFile (dir.joinText resource) = false) :
    ((directory dir).bundle files).locate resource =
      .error (Miss.notInDirectory dir resource).message := by
  simp [bundle, locate, h, Except.mapError]

/-- A directory has the regular files below it. -/
theorem locate_directory_iff {dir : Path} :
    locate files resource (directory dir) = .ok place ↔
      place = dir.joinText resource ∧ files.isFile place = true := by
  rw [locate]
  split
  · next hfile =>
    constructor
    · intro h
      obtain rfl := Except.ok.inj h
      exact ⟨rfl, hfile⟩
    · intro h
      obtain ⟨rfl, -⟩ := h
      rfl
  · next hfile =>
    refine iff_of_false (by simp) ?_
    intro h
    obtain ⟨rfl, hthere⟩ := h
    exact hfile hthere

/-- A manifest has the regular files that it lists. -/
theorem locate_manifest_iff {listing : Path} {entries : Entries} :
    locate files resource (manifest listing entries) = .ok place ↔
      entries.get? resource = some place ∧ files.isFile place = true := by
  rw [locate]
  split
  · next hnone => simp [hnone]
  · next target htarget =>
    rw [htarget, Option.some.injEq]
    split
    · next hfile =>
      constructor
      · intro h
        obtain rfl := Except.ok.inj h
        exact ⟨rfl, hfile⟩
      · intro h
        obtain ⟨rfl, -⟩ := h
        rfl
    · next hfile =>
      refine iff_of_false (by simp) ?_
      intro h
      obtain ⟨rfl, hthere⟩ := h
      exact hfile hthere

/-- Runfiles hand out regular files and nothing else. -/
theorem isFile_of_locate {runfiles : Runfiles}
    (h : runfiles.locate files resource = .ok place) : files.isFile place = true := by
  cases runfiles with
  | manifest listing entries => exact (locate_manifest_iff.1 h).2
  | directory dir => exact (locate_directory_iff.1 h).2

/-- Runfiles have the same places as a bundle. -/
theorem locate_bundle_iff {runfiles : Runfiles} :
    (runfiles.bundle files).locate resource = .ok place ↔
      runfiles.locate files resource = .ok place := by
  show (runfiles.locate files resource).mapError Miss.message = .ok place ↔ _
  cases runfiles.locate files resource with
  | error miss => simp [Except.mapError]
  | ok other => simp [Except.mapError]

/-- A bundle of runfiles has what the runfiles have. -/
theorem exists_locate_of_bundleOf {found : Option Runfiles}
    (h : (bundleOf files found).locate resource = .ok place) :
    ∃ runfiles, found = some runfiles ∧ runfiles.locate files resource = .ok place := by
  cases found with
  | none => cases h
  | some runfiles => exact ⟨runfiles, rfl, locate_bundle_iff.1 h⟩

theorem isFile_of_bundleOf {found : Option Runfiles}
    (h : (bundleOf files found).locate resource = .ok place) : files.isFile place = true := by
  obtain ⟨runfiles, -, hplace⟩ := exists_locate_of_bundleOf h
  exact isFile_of_locate hplace

end Runfiles
end LayeredRoots
