import LayeredRoots.Proofs.Bundle.Root
import LayeredRoots.Proofs.Path.Trimming

/-! # Directories as bundles

    A directory that carries the sentinel can serve as a bundle, which recovers
    it from the place of the sentinel.

    * `root_directory`: the root is the directory, less its loose end.
    * `strayed_directory`: below a namespace that starts with `.` there is no
      root, unless the directory is `.` itself (`root_dot`). -/

namespace LayeredRoots

namespace Runfiles

variable {files : Files} {dir : Path} {sentinel : String}
    (hdir : dir.isEmpty = false) (hrelative : (Path.ofText sentinel).isAbsolute = false)
    (hsentinel : files.isFile (dir.joinText sentinel) = true)
include hdir hrelative hsentinel

/-- **The root of a directory** is recovered as the directory, without the
    separators and `.` at its end. -/
theorem root_directory (hplain : (Path.ofText sentinel).components.head? ≠ some .here)
    (hnonempty : sentinel ≠ "") :
    ((directory dir).bundle files).root sentinel = .ok dir.trimmed := by
  have hplace := locate_directory_of_isFile hsentinel
  have hsteps := Path.components_eq_steps hrelative hplain
  have hne : (Path.ofText sentinel).steps ≠ [] := by
    rw [← hsteps, Ne, Path.components_eq_nil_iff, Path.isEmpty_ofText]
    simpa using hnonempty
  have hends : (dir.joinText sentinel).endsWith (Path.ofText sentinel) = true :=
    (Path.endsWith_join_iff hrelative hdir).2 (.inl hplain)
  have hancestor : (dir.joinText sentinel).ancestor? (Path.ofText sentinel).components.length =
      some dir.trimmed := by
    rw [hsteps]
    exact Path.ancestor?_join hdir hrelative hne
  unfold Bundle.root
  rw [hplace]
  simp [hends, hancestor]

/-- **No root.**  The place of a sentinel that starts with `.` does not end as
    its path does. -/
theorem strayed_directory (hhere : (Path.ofText sentinel).components.head? = some .here)
    (hdot : dir.components ≠ [.here]) :
    ((directory dir).bundle files).root sentinel =
      .error (.strayed (dir.joinText sentinel) sentinel) := by
  apply Bundle.root_of_strayed (locate_directory_of_isFile hsentinel)
  rw [← List.isSuffixOf_iff_suffix]
  intro hends
  rcases (Path.endsWith_join_iff hrelative hdir).1 hends with hplain | hsame
  · exact hplain hhere
  · exact hdot hsame

/-- In the directory `.` the place of such a sentinel does end as its path does,
    and nothing is left to be the root. -/
theorem root_dot (hhere : (Path.ofText sentinel).components.head? = some .here)
    (hdot : dir.components = [.here]) :
    ∃ root, ((directory dir).bundle files).root sentinel = .ok root ∧ root.isEmpty = true := by
  have hplace := locate_directory_of_isFile hsentinel
  have hends : (Path.ofText sentinel).components <:+ (dir.joinText sentinel).components := by
    rw [← List.isSuffixOf_iff_suffix]
    exact (Path.endsWith_join_iff hrelative hdir).2 (.inr hdot)
  obtain ⟨root, hroot⟩ := (Bundle.exists_root_iff hrelative).2 ⟨_, hplace, hends⟩
  obtain ⟨hsteps, -⟩ := Bundle.same_join_root hrelative hroot hplace
  have hjoin : (dir.joinText sentinel).components = (Path.ofText sentinel).components := by
    rw [Path.components_of_here hhere]
    exact (Path.components_join hdir hrelative).trans (by rw [hdot]; rfl)
  refine ⟨root, hroot, ?_⟩
  rw [← Path.components_eq_nil_iff]
  rw [hjoin] at hsteps
  exact List.append_left_eq_self.1 hsteps.symm

end Runfiles

end LayeredRoots
