import LayeredRoots.Proofs.Path.Steps

/-! # What lies above a path

    Going up is partial: nothing lies above the root or the empty path.  Where
    it succeeds it has taken away one step, and never the root.  So an absolute
    path stays absolute on the way up, and a relative one relative.

    * `components_of_parent?`: going up takes away the last step.
    * `components_of_ancestor?`: the same for several levels.
    * `isAbsolute_parent?`, `isAbsolute_join`, `isAbsolute_absoluteFrom`: which of
      the paths made from others are absolute. -/

namespace LayeredRoots.Path

/-! ### The root -/

/-- A path is absolute if the root is its first step. -/
theorem isAbsolute_iff_head? {p : Path} :
    p.isAbsolute = true ↔ p.components.head? = some .root := by
  constructor
  · intro h
    obtain ⟨head, rest, hp⟩ := List.exists_cons_of_ne_nil p.pieces_ne_nil
    have hlead : leadOf head rest = some .root := if_pos ((isAbsolute_iff hp).1 h)
    rw [components_of_pieces hp, hlead]
    rfl
  · intro h
    cases habsolute : p.isAbsolute with
    | true => rfl
    | false => exact absurd (List.mem_of_mem_head? h) (root_not_mem_components habsolute)

/-- The root is no step but the first. -/
theorem root_not_mem_tail (p : Path) : Component.root ∉ p.components.tail := by
  obtain ⟨head, rest, hp⟩ := List.exists_cons_of_ne_nil p.pieces_ne_nil
  have hrest := Component.root_not_mem_filterMap rest
  rw [components_of_pieces hp]
  cases leadOf head rest with
  | none => exact fun hmem => hrest (List.mem_of_mem_tail hmem)
  | some c => exact hrest

/-- More steps below a path leave it absolute or relative, unless they begin
    with the root. -/
theorem isAbsolute_of_components {p q : Path} {below : List Component}
    (h : p.components = q.components ++ below) (hbelow : Component.root ∉ below) :
    q.isAbsolute = p.isAbsolute := by
  rw [Bool.eq_iff_iff, isAbsolute_iff_head?, isAbsolute_iff_head?, h]
  cases q.components with
  | nil =>
    constructor
    · intro hroot
      cases hroot
    · intro hroot
      exact absurd (List.mem_of_mem_head? hroot) hbelow
  | cons c rest => rfl

/-! ### Going up -/

theorem parent?_of_nil {p : Path} (h : p.components = []) : p.parent? = none := by
  obtain ⟨bytes⟩ := p
  have hbytes : bytes = [] := by simpa [isEmpty] using components_eq_nil_iff.1 h
  rw [hbytes]
  rfl

/-- Nothing lies above the root, however it is written. -/
theorem parent?_of_root {p : Path} (h : p.components = [.root]) : p.parent? = none := by
  obtain ⟨head, rest, hp⟩ := List.exists_cons_of_ne_nil p.pieces_ne_nil
  have habsolute : p.isAbsolute = true := isAbsolute_iff_head?.2 (by rw [h]; rfl)
  obtain ⟨hhead, hrest⟩ := (isAbsolute_iff hp).1 habsolute
  have hlead : leadOf head rest = some .root := if_pos ⟨hhead, hrest⟩
  have hnothing : rest.filterMap Component.ofPiece? = [] := by
    simpa [components_of_pieces hp, hlead] using h
  have htrim : trimPieces rest = [] := by
    by_contra hne
    obtain ⟨init, piece, c, hkept, hpiece⟩ := exists_of_trimPieces_ne_nil hne
    rw [← filterMap_trimPieces, hkept] at hnothing
    simp [hpiece] at hnothing
  simp [parent?, hp, htrim, hhead]

/-- **Going up** takes away the last step, and never the root. -/
theorem components_of_parent? {p q : Path} (h : p.parent? = some q) :
    ∃ last, last ≠ .root ∧ p.components = q.components ++ [last] := by
  have hsome : p.parent? ≠ none := by simp [h]
  rcases List.eq_nil_or_concat' p.components with hnil | ⟨above, last, hsteps⟩
  · exact absurd (parent?_of_nil hnil) hsome
  · have hlast : last ≠ .root := by
      rintro rfl
      -- the root can only be the one step there is
      cases above with
      | nil => exact hsome (parent?_of_root hsteps)
      | cons c rest =>
        have htail := root_not_mem_tail p
        simp [hsteps] at htail
    obtain ⟨parent, hparent, habove⟩ := exists_parent? hsteps hlast
    obtain rfl : parent = q := Option.some.inj (hparent.symm.trans h)
    exact ⟨last, hlast, by rw [habove, hsteps]⟩

/-- **Going up several levels** takes away as many steps. -/
theorem components_of_ancestor? {n : Nat} {p q : Path} (h : p.ancestor? n = some q) :
    ∃ below, below.length = n ∧ p.components = q.components ++ below := by
  induction n generalizing p with
  | zero =>
    obtain rfl : p = q := Option.some.inj h
    exact ⟨[], rfl, by simp⟩
  | succ n ih =>
    obtain ⟨parent, hparent, habove⟩ := Option.bind_eq_some_iff.1 h
    obtain ⟨last, -, hsteps⟩ := components_of_parent? hparent
    obtain ⟨below, hlength, hrest⟩ := ih habove
    refine ⟨below ++ [last], by simp [hlength], ?_⟩
    rw [hsteps, hrest, List.append_assoc]

/-- The paths above a path are collected from the nearest one on. -/
theorem mem_nearestParents {n m : Nat} {p q : Path} (h : p.ancestor? (n + 1) = some q)
    (hm : n < m) : q ∈ p.nearestParents m := by
  induction n generalizing p m with
  | zero =>
    obtain ⟨m, rfl⟩ := Nat.exists_eq_succ_of_ne_zero (Nat.ne_of_gt hm)
    obtain ⟨parent, hparent, habove⟩ := Option.bind_eq_some_iff.1 h
    obtain rfl : parent = q := Option.some.inj habove
    rw [nearestParents, hparent]
    exact List.mem_cons_self
  | succ n ih =>
    obtain ⟨m, rfl⟩ := Nat.exists_eq_succ_of_ne_zero (Nat.ne_of_gt (Nat.zero_lt_of_lt hm))
    obtain ⟨parent, hparent, habove⟩ := Option.bind_eq_some_iff.1 h
    rw [nearestParents, hparent]
    exact List.mem_cons_of_mem _ (ih habove (Nat.lt_of_succ_lt_succ hm))

/-- **All paths above a path** are among its parents: one for each number of
    steps that can go away. -/
theorem exists_mem_parents {p : Path} {above below : List Component}
    (h : p.components = above ++ below) (hbelow : Component.root ∉ below) (hne : below ≠ []) :
    ∃ q ∈ p.parents, q.components = above := by
  obtain ⟨q, hq, habove⟩ := exists_ancestor? h hbelow
  obtain ⟨n, hn⟩ := Nat.exists_eq_succ_of_ne_zero (List.length_eq_zero_iff.not.2 hne)
  have hlength : below.length ≤ p.components.length := by simp [h]
  have hbound := p.length_components_le
  rw [hn] at hq
  exact ⟨q, mem_nearestParents hq (by omega), habove⟩

theorem isAbsolute_parent? {p q : Path} (h : p.parent? = some q) :
    q.isAbsolute = p.isAbsolute := by
  obtain ⟨last, hlast, hsteps⟩ := components_of_parent? h
  exact isAbsolute_of_components hsteps (by simpa using hlast.symm)

/-! ### Joining -/

/-- A path seen from another is absolute if one of the two is. -/
theorem isAbsolute_join (base tail : Path) :
    (base.join tail).isAbsolute = (tail.isAbsolute || base.isAbsolute) := by
  obtain ⟨bytes⟩ := base
  cases htail : tail.isAbsolute with
  | true => rw [join_of_isAbsolute htail, htail, Bool.true_or]
  | false =>
    rw [Bool.false_or, join, htail, if_neg (by simp)]
    -- what is joined comes behind the first byte of the base
    cases bytes with
    | nil => exact htail
    | cons b rest =>
      split
      · rfl
      · rfl

/-- What is made absolute from an absolute base is absolute. -/
theorem isAbsolute_absoluteFrom {base : Path} (h : base.isAbsolute = true) (p : Path) :
    (base.absoluteFrom p).isAbsolute = true := by
  have hsteps : ∀ (steps : List Component) (q : Path), q.isAbsolute = true →
      (steps.foldl (fun q c => q.join ⟨c.bytes⟩) q).isAbsolute = true := by
    intro steps
    induction steps with
    | nil => exact fun q hq => hq
    | cons c rest ih =>
      intro q hq
      exact ih _ (by rw [isAbsolute_join, hq, Bool.or_true])
  unfold absoluteFrom
  dsimp only
  split
  · rw [isAbsolute_join, hsteps _ _ h, Bool.or_true]
  · exact hsteps _ _ h

end LayeredRoots.Path
