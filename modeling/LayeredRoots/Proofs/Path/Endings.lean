import LayeredRoots.Proofs.Path.Above

/-! # How joined paths end

    A path that is joined to a base usually ends the result with its own steps.
    A leading `.` is the exception: it is a step of the path alone, and no step
    once something stands in front of it.

    * `components_join_of_plain`: a path without a leading `.` keeps its steps.
    * `endsWith_join_iff`: which joined paths end as they should.
    * `components_unique_of_join`: how far the joined path tells its base. -/

namespace LayeredRoots

namespace Component

theorem ofPiece?_ne_here (piece : Bytes) : ofPiece? piece ≠ some here := by
  unfold ofPiece?
  split
  · simp
  · split <;> simp

theorem here_not_mem_filterMap (pieces : List Bytes) : here ∉ pieces.filterMap ofPiece? := by
  intro hmem
  obtain ⟨piece, -, hpiece⟩ := List.mem_filterMap.1 hmem
  exact ofPiece?_ne_here piece hpiece

end Component

namespace Path

/-! ### A leading `.` -/

/-- `.` is no step but the first. -/
theorem here_not_mem_tail (p : Path) : Component.here ∉ p.components.tail := by
  obtain ⟨head, rest, hp⟩ := List.exists_cons_of_ne_nil p.pieces_ne_nil
  have hrest := Component.here_not_mem_filterMap rest
  rw [components_of_pieces hp]
  cases leadOf head rest with
  | none => exact fun hmem => hrest (List.mem_of_mem_tail hmem)
  | some c => exact hrest

/-- Behind a leading `.` come the steps of the pieces. -/
theorem components_of_here {p : Path} (h : p.components.head? = some .here) :
    p.components = .here :: p.steps := by
  obtain ⟨head, rest, hp⟩ := List.exists_cons_of_ne_nil p.pieces_ne_nil
  have hsteps : p.steps = (Component.ofPiece? head).toList ++ rest.filterMap Component.ofPiece? := by
    rw [steps, hp, List.filterMap_cons]
    cases Component.ofPiece? head <;> rfl
  rw [components_of_pieces hp] at h ⊢
  cases hlead : leadOf head rest with
  | none =>
    rw [hlead] at h
    exact absurd (List.mem_of_mem_head? h) (Component.here_not_mem_filterMap rest)
  | some c =>
    obtain rfl : c = .here := by simpa [hlead] using h
    -- only the piece `.` leads with this step
    have hdot : head = [dot] := by
      unfold leadOf at hlead
      split at hlead
      · simp at hlead
      · split at hlead
        · next hdot => exact hdot
        · exact absurd hlead (Component.ofPiece?_ne_here head)
    rw [hsteps, hdot]
    rfl

/-! ### Joining -/

theorem join_of_isEmpty {base : Path} (h : base.isEmpty = true) (tail : Path) :
    base.join tail = tail := by
  have hbytes : base.bytes = [] := by simpa [isEmpty] using h
  unfold join
  split
  · rfl
  · rw [if_pos (.inl h), hbytes]
    rfl

section tail

variable {tail : Path} (htail : tail.isAbsolute = false)
include htail

/-- **A path without a leading `.`** keeps its steps, whatever it is joined to. -/
theorem components_join_of_plain (hplain : tail.components.head? ≠ some .here) (base : Path) :
    (base.join tail).components = base.components ++ tail.components := by
  cases hbase : base.isEmpty with
  | true =>
    rw [join_of_isEmpty hbase, components_eq_nil_iff.2 hbase]
    rfl
  | false => rw [components_join hbase htail, components_eq_steps htail hplain]

/-- A path that ends as another does is what that one is joined to. -/
theorem components_join_of_append {place base : Path}
    (h : place.components = base.components ++ tail.components) :
    (base.join tail).components = place.components := by
  by_cases hhere : tail.components.head? = some .here
  · -- `.` can only start the place, so nothing stands in front of it
    have hbase : base.isEmpty = true := by
      rw [← components_eq_nil_iff]
      by_contra hne
      obtain ⟨first, more, hmore⟩ := List.exists_cons_of_ne_nil hne
      apply here_not_mem_tail place
      rw [h, hmore, components_of_here hhere]
      simp
    rw [join_of_isEmpty hbase, h, components_eq_nil_iff.2 hbase]
    rfl
  · rw [components_join_of_plain htail hhere, h]

/-- **Which joined paths end as they should:** all without a leading `.`, and
    those where the base is a `.` itself. -/
theorem endsWith_join_iff {base : Path} (hbase : base.isEmpty = false) :
    (base.join tail).endsWith tail = true ↔
      tail.components.head? ≠ some .here ∨ base.components = [.here] := by
  unfold endsWith
  rw [List.isSuffixOf_iff_suffix]
  by_cases hhere : tail.components.head? = some .here
  · have htail' := components_of_here hhere
    constructor
    · intro h
      obtain ⟨front, hfront⟩ := h
      rw [htail', components_join hbase htail, ← List.singleton_append, ← List.append_assoc] at hfront
      have hends : front ++ [.here] = base.components := List.append_cancel_right hfront
      cases front with
      | nil => exact .inr hends.symm
      | cons first more =>
        have hmem := here_not_mem_tail base
        simp [← hends] at hmem
    · intro h
      have hdot : base.components = [.here] := h.resolve_left (fun hplain => hplain hhere)
      rw [htail', components_join hbase htail, hdot]
      exact List.suffix_refl _
  · constructor
    · intro _
      exact .inl hhere
    · intro _
      rw [components_join_of_plain htail hhere]
      exact List.suffix_append _ _

/-- **How far a joined path tells its base.**  Two bases that a path is joined
    to alike have the same steps, unless one is empty and the other a `.` that
    the path starts with anyway. -/
theorem components_unique_of_join {base other : Path}
    (hbase : (base.join tail).components = base.components ++ tail.components)
    (h : (other.join tail).components = (base.join tail).components) :
    other.components = base.components ∨
      tail.components.head? = some .here ∧ base.components = [] ∧ other.components = [.here] := by
  by_cases hhere : tail.components.head? = some .here
  · have htail' := components_of_here hhere
    cases hempty : base.isEmpty with
    | false =>
      -- the `.` of the path is missing from the joined path
      exfalso
      have hlength := congrArg List.length hbase
      rw [components_join hempty htail, htail'] at hlength
      simp at hlength
    | true =>
      have hnil := components_eq_nil_iff.2 hempty
      cases hother : other.isEmpty with
      | true => exact .inl ((components_eq_nil_iff.2 hother).trans hnil.symm)
      | false =>
        rw [join_of_isEmpty hempty, components_join hother htail, htail',
          ← List.singleton_append] at h
        exact .inr ⟨hhere, hnil, List.append_cancel_right h⟩
  · rw [components_join_of_plain htail hhere, components_join_of_plain htail hhere] at h
    exact .inl (List.append_cancel_right h)

end tail
end Path
end LayeredRoots
