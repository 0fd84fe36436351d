import LayeredRoots.Bundle.Table
import LayeredRoots.Proofs.Bundle.Places
import LayeredRoots.Proofs.Config.Valid
import LayeredRoots.Proofs.Path.Endings

/-! # The root of a bundle

    A bundle does not know where it lies.  Its root is recovered from the place
    of the sentinel: that place has to end as the path of the sentinel does, and
    what stands in front is the root.

    * `exists_root_iff`: which bundles have a root.
    * `same_join_root`: the sentinel leads from the root back to its place.
    * `root_eq_error_iff`: the two ways to have no root.  A sentinel without
      enough above it is not among them. -/

namespace LayeredRoots
namespace Bundle

variable {b : Bundle} {sentinel : String}

/-- A bundle whose sentinel is elsewhere than its path says has no root. -/
theorem root_of_strayed {place : Path} (hplace : b.locate sentinel = .ok place)
    (h : ¬(Path.ofText sentinel).components <:+ place.components) :
    b.root sentinel = .error (.strayed place sentinel) := by
  have hends : place.endsWith (Path.ofText sentinel) = false := by
    rw [← Bool.not_eq_true, Path.endsWith, List.isSuffixOf_iff_suffix]
    exact h
  unfold root
  rw [hplace]
  simp [hends]

/-- A bundle without the sentinel has no root. -/
theorem root_of_missing {reason : String} (h : b.locate sentinel = .error reason) :
    b.root sentinel = .error (.noSentinel reason) := by
  unfold root
  rw [h]

section relative

variable (hrelative : (Path.ofText sentinel).isAbsolute = false)
include hrelative

/-- **Which bundles have a root:** those that have the sentinel, at a place
    that ends as its path does. -/
theorem exists_root_iff :
    (∃ root, b.root sentinel = .ok root) ↔
      ∃ place, b.locate sentinel = .ok place ∧
        (Path.ofText sentinel).components <:+ place.components := by
  constructor
  · intro h
    obtain ⟨root, hroot⟩ := h
    obtain ⟨place, hplace, hsteps⟩ := locate_of_root hroot
    refine ⟨place, hplace, ?_⟩
    rw [hsteps]
    exact List.suffix_append _ _
  · intro h
    obtain ⟨place, hplace, above, hsteps⟩ := h
    obtain ⟨root, hroot, -⟩ := exists_root hplace hrelative hsteps.symm
    exact ⟨root, hroot⟩

/-- **The way back.**  From the root the sentinel leads to its place. -/
theorem same_join_root {root place : Path} (hroot : b.root sentinel = .ok root)
    (hplace : b.locate sentinel = .ok place) :
    place.components = root.components ++ (Path.ofText sentinel).components ∧
      (root.joinText sentinel).components = place.components := by
  obtain ⟨other, hother, hsteps⟩ := locate_of_root hroot
  obtain rfl : place = other := Except.ok.inj (hplace.symm.trans hother)
  exact ⟨hsteps, Path.components_join_of_append hrelative hsteps⟩

/-- **No root.**  Either the bundle lacks the sentinel and says why, or the
    sentinel is elsewhere than its path says. -/
theorem root_eq_error_iff {fault : RootFault} :
    b.root sentinel = .error fault ↔
      (∃ reason, b.locate sentinel = .error reason ∧ fault = .noSentinel reason) ∨
      ∃ place, b.locate sentinel = .ok place ∧
        ¬(Path.ofText sentinel).components <:+ place.components ∧
        fault = .strayed place sentinel := by
  constructor
  · intro h
    cases hlocate : b.locate sentinel with
    | error reason =>
      rw [root_of_missing hlocate] at h
      exact .inl ⟨reason, rfl, (Except.error.inj h).symm⟩
    | ok place =>
      by_cases hends : (Path.ofText sentinel).components <:+ place.components
      · -- a relative path never strips so much that nothing is left to be the root
        obtain ⟨root, hroot⟩ := (exists_root_iff hrelative).2 ⟨place, hlocate, hends⟩
        rw [hroot] at h
        cases h
      · rw [root_of_strayed hlocate hends] at h
        exact .inr ⟨place, rfl, hends, (Except.error.inj h).symm⟩
  · intro h
    rcases h with ⟨reason, hlocate, hfault⟩ | ⟨place, hlocate, hends, hfault⟩
    · rw [root_of_missing hlocate, hfault]
    · rw [root_of_strayed hlocate hends, hfault]

end relative

/-- **The root of a bundle.**  For the sentinel of a valid configuration it is
    what lies above the place of the sentinel, and there is one whenever that
    place ends as the path of the sentinel does.  From the root the sentinel
    leads to its place.  No path with other steps has these two properties; by
    the second alone it might be confused with `.`, if the place starts with
    that.  In all other cases there is no root, for one of two reasons. -/
theorem root_lies_above_sentinel (b : Bundle) (c : Config) (hvalid : c.flaw? = none) :
    ((∃ root, b.root c.sentinel = .ok root) ↔
      ∃ place, b.locate c.sentinel = .ok place ∧
        (Path.ofText c.sentinel).components <:+ place.components) ∧
    (∀ root place, b.root c.sentinel = .ok root → b.locate c.sentinel = .ok place →
      place.components = root.components ++ (Path.ofText c.sentinel).components ∧
      (root.joinText c.sentinel).same place = true ∧
      (∀ other : Path, place.components = other.components ++ (Path.ofText c.sentinel).components →
        other.same root = true) ∧
      ∀ other : Path, (other.joinText c.sentinel).same place = true →
        other.same root = true ∨
          (Path.ofText c.sentinel).components.head? = some .here ∧ root.isEmpty = true ∧
            other.same (Path.ofText ".") = true) ∧
    (∀ place, b.root c.sentinel ≠ .error (.noParent place)) ∧
    (∀ fault, b.root c.sentinel = .error fault →
      (∃ reason, b.locate c.sentinel = .error reason ∧ fault = .noSentinel reason ∧
        fault.message = reason) ∨
      ∃ place, b.locate c.sentinel = .ok place ∧
        ¬(Path.ofText c.sentinel).components <:+ place.components ∧
        fault = .strayed place c.sentinel ∧
        fault.message = s!"bundle sentinel '{place.display}' does not end with '{c.sentinel}'") := by
  have hrelative := Config.isAbsolute_below_namespace hvalid (Config.hasPrefix_sentinel hvalid)
  refine ⟨exists_root_iff hrelative, ?_, ?_, ?_⟩
  · intro root place hroot hplace
    obtain ⟨hsteps, hback⟩ := same_join_root hrelative hroot hplace
    refine ⟨hsteps, decide_eq_true hback, ?_, ?_⟩
    · intro other hother
      exact decide_eq_true (List.append_cancel_right (hother.symm.trans hsteps))
    · intro other hother
      have hjoin : (other.joinText c.sentinel).components = (root.joinText c.sentinel).components :=
        (of_decide_eq_true hother).trans hback.symm
      rcases Path.components_unique_of_join hrelative (hback.trans hsteps) hjoin with
        hsame | ⟨hhere, hnil, hdot⟩
      · exact .inl (decide_eq_true hsame)
      · have hdot' : (Path.ofText ".").components = [.here] := by decide +kernel
        exact .inr ⟨hhere, Path.components_eq_nil_iff.1 hnil, decide_eq_true (hdot.trans hdot'.symm)⟩
  · intro place hnone
    rcases (root_eq_error_iff hrelative).1 hnone with ⟨_, _, hfault⟩ | ⟨_, _, _, hfault⟩
    · cases hfault
    · cases hfault
  · intro fault hfault
    rcases (root_eq_error_iff hrelative).1 hfault with
      ⟨reason, hlocate, hreason⟩ | ⟨place, hlocate, hends, hstrayed⟩
    · exact .inl ⟨reason, hlocate, hreason, by rw [hreason]; rfl⟩
    · exact .inr ⟨place, hlocate, hends, hstrayed, by rw [hstrayed]; rfl⟩

/-- A bundle that writes the place of its sentinel in a roundabout way. -/
def roundaboutTable : BundleTable where
  available := true
  hits := [("project/.resource-root-sentinel",
    Path.ofText "//b/./..//project/./.resource-root-sentinel/")]
  reasons := []

/-- The root is found all the same, and no step of it is resolved. -/
theorem root_lies_above_sentinel_roundabout :
    Config.standard.flaw? = none ∧
    ∃ root, roundaboutTable.bundle.root Config.standard.sentinel = .ok root ∧
      (Path.ofText "/b/..").same root = true ∧
      (root.joinText Config.standard.sentinel).same
        (Path.ofText "//b/./..//project/./.resource-root-sentinel/") = true := by
  have hvalid : Config.standard.flaw? = none := by decide +kernel
  obtain ⟨hexists, hroots, -, -⟩ :=
    root_lies_above_sentinel roundaboutTable.bundle Config.standard hvalid
  have hplace : roundaboutTable.bundle.locate Config.standard.sentinel =
      .ok (Path.ofText "//b/./..//project/./.resource-root-sentinel/") := by decide +kernel
  obtain ⟨root, hroot⟩ := hexists.2 ⟨_, hplace, by decide +kernel⟩
  obtain ⟨-, hback, hunique, -⟩ := hroots root _ hroot hplace
  exact ⟨hvalid, root, hroot, hunique _ (by decide +kernel), hback⟩

/-- A place that starts with `.` lies below the empty path, and below `.` too. -/
example : (Path.ofText "./p/s").ancestor? (Path.ofText "./p/s").components.length =
      some (Path.ofText "") ∧
    ((Path.ofText ".").joinText "./p/s").same (Path.ofText "./p/s") = true := by decide +kernel

end Bundle
end LayeredRoots
