import LayeredRoots.Proofs.Storage.Trimming
import Mathlib.Data.List.TakeWhile

/-! # Directories on the way

    A path that leads to something passes a directory at each of its
    separators.  So where something is found below a path, the path itself leads
    to a directory, and what is below it is that directory again if no step
    leads on from there.

    * `Disk.exists_follow`: following pieces passes a directory between any two
      of them.
    * `Disk.find_above`: the same for what a path leads to. -/

namespace LayeredRoots.Disk

/-- **Following** passes a directory in front of every piece, and goes on from
    there with the links that are left. -/
theorem exists_follow {d : Disk} {links : Nat} {here place : Place} {front back : List Bytes}
    (hback : back ≠ []) (h : d.follow links here (front ++ back) = .ok place) :
    ∃ mid left, d.follow links here (front ++ [[]]) = .ok mid ∧ d.entry? mid = some .dir ∧
      d.follow left mid back = .ok place := by
  -- a link starts anew with fewer links left, all other pieces get fewer
  induction links using Nat.strongRecOn generalizing here front with
  | _ links fewer =>
    induction front generalizing here with
    | nil =>
      obtain ⟨next, more, rfl⟩ := List.exists_cons_of_ne_nil hback
      have hdir : d.entry? here = some .dir := by
        by_contra hother
        rw [List.nil_append, follow, if_pos hother] at h
        cases h
      refine ⟨here, links, ?_, hdir, h⟩
      rw [List.nil_append, follow, if_neg (not_not_intro hdir), if_pos (.inl rfl), follow]
    | cons piece rest ih =>
      have hlong : rest ++ back ≠ [] := by simp [hback]
      have hshort : rest ++ [[]] ≠ [] := by simp
      rcases follow_cons d links here piece with ⟨fault, hfault⟩ | ⟨left, next, more, hleft, hnext⟩
      · rw [List.cons_append, hfault _ hlong] at h
        cases h
      · rw [List.cons_append, hnext _ hlong] at h
        rw [List.cons_append, hnext _ hshort]
        rcases hleft with hleft | ⟨rfl, rfl⟩
        · rw [← List.append_assoc] at h ⊢
          exact fewer left hleft h
        · exact ih h

/-- Pieces that stand for no step lead nowhere. -/
theorem eq_of_follow_idle {d : Disk} {links : Nat} {here place : Place} {idle : List Bytes}
    (hidle : ∀ piece ∈ idle, Component.ofPiece? piece = none)
    (h : d.follow links here idle = .ok place) : place = here := by
  induction idle with
  | nil =>
    rw [follow] at h
    exact (Except.ok.inj h).symm
  | cons piece rest ih =>
    have hpiece : piece = [] ∨ piece = [dot] :=
      Component.ofPiece?_eq_none_iff.1 (hidle piece List.mem_cons_self)
    by_cases hdir : d.entry? here = some .dir
    · rw [follow, if_neg (not_not_intro hdir), if_pos hpiece] at h
      exact ih (fun x hx => hidle x (List.mem_cons_of_mem _ hx)) h
    · rw [follow, if_pos hdir] at h
      cases h

section find

variable {d : Disk} {o : Origin} {front back : Bytes}

/-- A path and what lies below it are followed from the same place, unless both
    stay in a directory that was removed. -/
theorem start_above {start : Option (Place × List Bytes)}
    (h : o.start ⟨front ++ slash :: back⟩ = .ok start) :
    (o.start ⟨front ++ [slash]⟩ = .ok none ∧ (Path.steps ⟨back⟩ = [] → start = none)) ∨
    ∃ here pieces, start = some (here, pieces ++ Path.pieces ⟨back⟩) ∧
      o.start ⟨front ++ [slash]⟩ = .ok (some (here, pieces ++ [[]])) := by
  obtain ⟨hzero, hempty, hlimit⟩ := checks_of_start h
  have hshorter : front ++ [slash] <+: front ++ slash :: back := ⟨back, by simp⟩
  have hzero' : (0 : UInt8) ∉ front ++ [slash] := fun hmem => hzero (hshorter.subset hmem)
  have hempty' : ¬(Path.mk (front ++ [slash])).isEmpty = true := by simp [Path.isEmpty]
  have hlimit' : ¬pathLimit ≤ (front ++ [slash]).length :=
    fun hlong => hlimit (Nat.le_trans hlong hshorter.length_le)
  have habsolute : (Path.mk (front ++ slash :: back)).isAbsolute =
      (Path.mk (front ++ [slash])).isAbsolute := by
    cases front <;> simp [Path.isAbsolute]
  have hlong : Path.pieces ⟨front ++ slash :: back⟩ = Path.pieces ⟨front⟩ ++ Path.pieces ⟨back⟩ :=
    Path.pieces_append_slash front back
  have hshort : Path.pieces ⟨front ++ [slash]⟩ = Path.pieces ⟨front⟩ ++ [[]] :=
    Path.pieces_append_slash front []
  unfold Origin.start at h ⊢
  rw [if_neg hzero, if_neg hempty, if_neg hlimit, habsolute, hlong] at h
  rw [if_neg hzero', if_neg hempty', if_neg hlimit', hshort]
  by_cases hroot : (Path.mk (front ++ [slash])).isAbsolute = true
  · rw [if_pos hroot] at h ⊢
    exact .inr ⟨[], _, (Except.ok.inj h).symm, rfl⟩
  · rw [if_neg hroot] at h ⊢
    cases o with
    | dir place => exact .inr ⟨place, _, (Except.ok.inj h).symm, rfl⟩
    | removed above =>
      simp only [List.dropWhile_append] at h ⊢
      cases hfront : (Path.pieces ⟨front⟩).dropWhile fun piece => piece = [] ∨ piece = [dot] with
      | nil =>
        -- nothing in front of the separator leads out of the directory
        refine .inl ⟨by simp, fun hsteps => ?_⟩
        have hidle : (Path.pieces ⟨back⟩).dropWhile
            (fun piece => piece = [] ∨ piece = [dot]) = [] := by
          rw [List.dropWhile_eq_nil_iff]
          intro piece hpiece
          exact decide_eq_true (Component.ofPiece?_eq_none_iff.1
            (List.filterMap_eq_nil_iff.1 hsteps piece hpiece))
        simp only [hfront, hidle, List.isEmpty_nil, if_true] at h
        exact (Except.ok.inj h).symm
      | cons piece rest =>
        simp only [hfront, List.isEmpty_cons, Bool.false_eq_true, if_false, List.cons_append] at h ⊢
        by_cases hup : piece = [dot, dot]
        · rw [if_pos hup] at h ⊢
          exact .inr ⟨above, rest, (Except.ok.inj h).symm, rfl⟩
        · rw [if_neg hup] at h
          cases h

/-- **What a path leads to** lies below a directory, or is one. -/
theorem find_above {e : Entry} (h : d.find o ⟨front ++ slash :: back⟩ = .ok e) :
    d.find o ⟨front ++ [slash]⟩ = .ok .dir ∧ (Path.steps ⟨back⟩ = [] → e = .dir) := by
  unfold find at h ⊢
  cases hstart : o.start ⟨front ++ slash :: back⟩ with
  | error fault =>
    rw [hstart] at h
    cases h
  | ok start =>
    rw [hstart] at h
    rcases start_above hstart with ⟨habove, hnone⟩ | ⟨here, pieces, rfl, habove⟩
    · rw [habove]
      refine ⟨rfl, fun hsteps => ?_⟩
      rw [hnone hsteps] at h
      exact (Except.ok.inj h).symm
    · simp only [bind, Except.bind] at h
      cases hfollow : d.follow maxLinks here (pieces ++ Path.pieces ⟨back⟩) with
      | error fault =>
        rw [hfollow] at h
        cases h
      | ok place =>
        obtain ⟨mid, left, hmid, hdir, hrest⟩ := exists_follow (Path.pieces_ne_nil _) hfollow
        rw [habove]
        simp only [bind, Except.bind, hmid, hdir]
        refine ⟨rfl, fun hsteps => ?_⟩
        obtain rfl := eq_of_follow_idle (List.filterMap_eq_nil_iff.1 hsteps) hrest
        rw [hfollow] at h
        simp only [hdir] at h
        exact (Except.ok.inj h).symm

end find
end LayeredRoots.Disk
