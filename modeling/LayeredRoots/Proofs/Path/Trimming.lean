import LayeredRoots.Proofs.Path.Above

/-! # Paths without a loose end

    Separators and `.` at the end of a path stand for no step.  Going up drops
    them along the way: whoever joins a tail to a base and then goes up as many
    levels as the tail has steps comes back to the base, as it is written up to
    its last step.

    * `components_trimmed`: trimming keeps the steps.
    * `exists_pieces_join`: joining keeps the pieces of both paths.
    * `ancestor?_join`: going up from a joined path leads to the trimmed base. -/

namespace LayeredRoots.Path

/-- A path without the pieces at its end that stand for no step. -/
def trimmed (p : Path) : Path :=
  match p.pieces with
  | [] => p
  | head :: rest => restore head (trimPieces rest)

theorem trimmed_of_pieces {p : Path} {head : Bytes} {rest : List Bytes}
    (h : p.pieces = head :: rest) : p.trimmed = restore head (trimPieces rest) := by
  unfold trimmed
  rw [h]

/-! ### Pieces -/

/-- What is trimmed off stands for no step. -/
theorem exists_append_of_trimPieces (ps : List Bytes) :
    ∃ idle, ps = trimPieces ps ++ idle ∧ ∀ piece ∈ idle, Component.ofPiece? piece = none := by
  induction ps using List.reverseRecOn with
  | nil => exact ⟨[], rfl, by simp⟩
  | append_singleton ps piece ih =>
    rw [trimPieces_append_singleton]
    cases hpiece : Component.ofPiece? piece with
    | some c => exact ⟨[], by simp, by simp⟩
    | none =>
      obtain ⟨idle, hps, hidle⟩ := ih
      refine ⟨idle ++ [piece], ?_, ?_⟩
      · rw [Option.isNone_none, if_pos rfl, ← List.append_assoc, ← hps]
      · intro x hx
        rcases List.mem_append.1 hx with hx | hx
        · exact hidle x hx
        · rw [List.mem_singleton.1 hx, hpiece]

theorem trimPieces_append_of_idle (ps : List Bytes) {idle : List Bytes}
    (h : idle.filterMap Component.ofPiece? = []) : trimPieces (ps ++ idle) = trimPieces ps := by
  induction idle using List.reverseRecOn with
  | nil => rw [List.append_nil]
  | append_singleton idle piece ih =>
    rw [List.filterMap_append, List.append_eq_nil_iff] at h
    have hpiece : Component.ofPiece? piece = none := by
      have hnone := h.2
      rw [List.filterMap_cons] at hnone
      cases hc : Component.ofPiece? piece with
      | none => rfl
      | some c => simp [hc] at hnone
    rw [← List.append_assoc, trimPieces_append_singleton, hpiece, Option.isNone_none, if_pos rfl]
    exact ih h.1

theorem trimPieces_trimPieces (ps : List Bytes) : trimPieces (trimPieces ps) = trimPieces ps := by
  by_cases h : trimPieces ps = []
  · rw [h]
    rfl
  · obtain ⟨init, piece, c, hkept, hpiece⟩ := exists_of_trimPieces_ne_nil h
    rw [hkept, trimPieces_append_singleton, hpiece]
    rfl

theorem trimPieces_ne_nil {ps : List Bytes} (h : ps.filterMap Component.ofPiece? ≠ []) :
    trimPieces ps ≠ [] := by
  intro hnil
  rw [← filterMap_trimPieces, hnil] at h
  exact h rfl

/-- The pieces that are kept are written down again. -/
theorem pieces_restore {head : Bytes} {above : List Bytes} (habove : above ≠ [])
    (hslash : ∀ piece ∈ head :: above, slash ∉ piece) :
    (restore head above).pieces = head :: above := by
  cases above with
  | nil => exact absurd rfl habove
  | cons piece more => exact pieces_intercalate (by simp) hslash

/-- Trimming keeps the steps. -/
theorem components_trimmed {p : Path} (h : p.isEmpty = false) :
    p.trimmed.components = p.components := by
  obtain ⟨head, rest, hp⟩ := List.exists_cons_of_ne_nil p.pieces_ne_nil
  rw [trimmed_of_pieces hp, components_of_pieces hp]
  by_cases hrest : rest = []
  · -- the one piece there is gets written down again
    subst hrest
    have hhead : head ≠ [] := by simpa using (isEmpty_eq_false_iff hp).1 h
    have hlone : pieces ⟨head⟩ = [head] :=
      List.splitOn_eq_singleton (slash_not_mem_pieces (p := p) (by rw [hp]; exact List.mem_cons_self))
    have hwritten : restore head (trimPieces []) = ⟨head⟩ := by simp [restore, trimPieces, hhead]
    rw [hwritten, components_of_pieces hlone]
  · have hslash : ∀ piece ∈ head :: trimPieces rest, slash ∉ piece := fun piece hpiece =>
      slash_not_mem_pieces (hp ▸ List.cons_subset_cons head (trimPieces_subset rest) hpiece)
    rw [components_restore hrest hslash, filterMap_trimPieces]

/-! ### Joining -/

/-- Joining keeps the pieces of both paths, an empty one at the end of the base
    apart. -/
theorem exists_pieces_join {base tail : Path} (hbase : base.isEmpty = false)
    (htail : tail.isAbsolute = false) :
    ∃ kept, (base.join tail).pieces = kept ++ tail.pieces ∧
      (kept = base.pieces ∨ base.pieces = kept ++ [[]] ∧ kept ≠ []) := by
  have habsolute : ¬tail.isAbsolute = true := by simp [htail]
  unfold join
  rw [if_neg habsolute]
  by_cases hlast : base.bytes.getLast? = some slash
  · -- the separator at the end of the base is the one in between
    rw [if_pos (.inr hlast)]
    obtain ⟨init, hinit⟩ := List.getLast?_eq_some_iff.1 hlast
    refine ⟨pieces ⟨init⟩, ?_, .inr ⟨?_, pieces_ne_nil ⟨init⟩⟩⟩
    · rw [hinit, List.append_assoc, List.singleton_append, pieces_append_slash]
    · have hbase' : base = ⟨init ++ slash :: []⟩ := congrArg Path.mk hinit
      rw [hbase', pieces_append_slash]
      rfl
  · have hsplit : ¬(base.isEmpty = true ∨ base.bytes.getLast? = some slash) := by
      simp [hbase, hlast]
    rw [if_neg hsplit]
    exact ⟨base.pieces, pieces_append_slash base.bytes tail.bytes, .inl rfl⟩

/-- A joined path starts like the base, up to pieces that stand for no step. -/
theorem exists_pieces_join_cons {base tail : Path} {head : Bytes} {rest : List Bytes}
    (hbase : base.isEmpty = false) (htail : tail.isAbsolute = false)
    (hp : base.pieces = head :: rest) :
    ∃ kept, (base.join tail).pieces = head :: (kept ++ tail.pieces) ∧
      trimPieces kept = trimPieces rest := by
  obtain ⟨front, hjoin, hfront⟩ := exists_pieces_join hbase htail
  rcases hfront with hsame | ⟨hends, hne⟩
  · refine ⟨rest, ?_, rfl⟩
    rw [hjoin, hsame, hp, List.cons_append]
  · obtain ⟨first, kept, hkept⟩ := List.exists_cons_of_ne_nil hne
    rw [hp, hkept, List.cons_append, List.cons.injEq] at hends
    refine ⟨kept, ?_, ?_⟩
    · rw [hjoin, hkept, hends.1, List.cons_append]
    · rw [hends.2, trimPieces_append_singleton]
      rfl

/-- What is joined to a trimmed base comes right behind its last step. -/
theorem pieces_join_trimmed {base tail : Path} {head : Bytes} {rest : List Bytes}
    (hbase : base.isEmpty = false) (htail : tail.isAbsolute = false)
    (hp : base.pieces = head :: rest) :
    (base.trimmed.join tail).pieces = head :: (trimPieces rest ++ tail.pieces) := by
  have hslash : ∀ piece ∈ head :: trimPieces rest, slash ∉ piece := fun piece hpiece =>
    slash_not_mem_pieces (hp ▸ List.cons_subset_cons head (trimPieces_subset rest) hpiece)
  have hnonempty : base.trimmed.isEmpty = false := by
    rw [← Bool.not_eq_true, ← components_eq_nil_iff, components_trimmed hbase,
      components_eq_nil_iff, Bool.not_eq_true]
    exact hbase
  rw [trimmed_of_pieces hp] at hnonempty ⊢
  by_cases habove : trimPieces rest = []
  · rw [habove] at hnonempty ⊢
    rw [List.nil_append]
    by_cases hhead : head = []
    · -- the base is the root
      subst hhead
      have hjoin : (restore [] []).join tail = ⟨[] ++ slash :: tail.bytes⟩ := by
        simp [restore, join, htail]
      rw [hjoin, pieces_append_slash]
      rfl
    · have hwritten : restore head [] = ⟨head⟩ := by simp [restore, hhead]
      have hlone : pieces ⟨head⟩ = [head] :=
        List.splitOn_eq_singleton (hslash head List.mem_cons_self)
      rw [hwritten] at hnonempty ⊢
      obtain ⟨kept, hjoin, hkept⟩ := exists_pieces_join hnonempty htail
      rw [hlone] at hkept
      rcases hkept with hsame | ⟨hends, hne⟩
      · rw [hjoin, hsame, List.singleton_append]
      · have hlength := congrArg List.length hends
        have hpositive := List.length_pos_of_ne_nil hne
        simp only [List.length_append, List.length_singleton] at hlength
        omega
  · obtain ⟨init, piece, c, hinit, hpiece⟩ := exists_of_trimPieces_ne_nil habove
    obtain ⟨kept, hjoin, hkept⟩ := exists_pieces_join hnonempty htail
    rw [pieces_restore habove hslash] at hkept
    rcases hkept with hsame | ⟨hends, -⟩
    · rw [hjoin, hsame, List.cons_append]
    · -- the last piece stands for a step, so it is not empty
      rw [hinit, ← List.cons_append] at hends
      obtain ⟨-, hlast⟩ := List.append_inj' hends rfl
      rw [List.singleton_inj.1 hlast] at hpiece
      cases hpiece

/-- Going up from pieces, as many levels as the last of them stand for. -/
theorem ancestor?_of_pieces {head : Bytes} {rest more : List Bytes}
    (hmore : more.filterMap Component.ofPiece? ≠ []) {p : Path} {pieces : List Bytes}
    (hp : p.pieces = head :: pieces) (htrim : trimPieces pieces = trimPieces (rest ++ more)) :
    p.ancestor? (more.filterMap Component.ofPiece?).length =
      some (restore head (trimPieces rest)) := by
  -- going up starts at the end, so the induction adds pieces there
  induction more using List.reverseRecOn generalizing p pieces with
  | nil => exact absurd rfl hmore
  | append_singleton more piece ih =>
    rw [← List.append_assoc, trimPieces_append_singleton] at htrim
    rw [List.filterMap_append] at hmore ⊢
    cases hpiece : Component.ofPiece? piece with
    | none =>
      have hlast : [piece].filterMap Component.ofPiece? = [] := by simp [hpiece]
      rw [hpiece, Option.isNone_none, if_pos rfl] at htrim
      rw [hlast, List.append_nil] at hmore ⊢
      exact ih hmore hp htrim
    | some c =>
      have hlast : [piece].filterMap Component.ofPiece? = [c] := by simp [hpiece]
      rw [hpiece, Option.isNone_some, if_neg (by simp)] at htrim
      rw [hlast, List.length_append, List.length_singleton, ancestor?,
        parent?_of_pieces hp htrim, Option.bind_some]
      by_cases hnone : more.filterMap Component.ofPiece? = []
      · rw [hnone, trimPieces_append_of_idle rest hnone]
        rfl
      · -- the path above is written down again, and there is more to go up
        have hkept : trimPieces (rest ++ more) ≠ [] :=
          trimPieces_ne_nil (by simp [hnone])
        have hslash : ∀ x ∈ head :: trimPieces (rest ++ more), slash ∉ x := by
          have hsub : trimPieces (rest ++ more) ⊆ pieces := by
            intro x hx
            apply trimPieces_subset pieces
            rw [htrim]
            exact List.mem_append_left _ (trimPieces_subset _ hx)
          exact fun x hx => slash_not_mem_pieces (hp ▸ List.cons_subset_cons head hsub hx)
        exact ih hnone (pieces_restore hkept hslash) (trimPieces_trimPieces _)

/-- **Going up from a joined path** leads to the base, less its loose end. -/
theorem ancestor?_join {base tail : Path} (hbase : base.isEmpty = false)
    (htail : tail.isAbsolute = false) (hsteps : tail.steps ≠ []) :
    (base.join tail).ancestor? tail.steps.length = some base.trimmed := by
  obtain ⟨head, rest, hp⟩ := List.exists_cons_of_ne_nil base.pieces_ne_nil
  obtain ⟨kept, hjoin, hkept⟩ := exists_pieces_join_cons hbase htail hp
  rw [trimmed_of_pieces hp, ← hkept]
  exact ancestor?_of_pieces hsteps hjoin rfl

end LayeredRoots.Path
