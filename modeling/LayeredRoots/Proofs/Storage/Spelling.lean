import LayeredRoots.Proofs.Storage.Trimming

/-! # However a root is written

    Separators that are repeated, and `.` past the start, can stand anywhere in
    the path of a root without leading elsewhere.  So two ways to write a root
    that have the same steps lead to the same below it.  On a disk there is one
    exception: a path that is too long leads nowhere.

    * `Path.exists_pieces_join_of_steps`: a joined path, as far as its base matters.
    * `Disk.follow_steps`: only the pieces that stand for a step count.
    * `Disk.find_join_congr`: **what lies below a root** does not depend on how the
      root is written, within the limit.
    * `Disk.alikeAt_view`: the same as a promise about files. -/

namespace LayeredRoots

namespace Component

/-- A piece is written like the step that it stands for. -/
theorem bytes_of_ofPiece? {piece : Bytes} {c : Component} (h : ofPiece? piece = some c) :
    c.bytes = piece := by
  unfold ofPiece? at h
  split at h
  · cases h
  · split at h
    · next hup =>
      obtain rfl := Option.some.inj h
      exact hup.symm
    · obtain rfl := Option.some.inj h
      rfl

/-- A piece that stands for no step has no byte in it but `.`. -/
theorem mem_piece_iff {piece : Bytes} {b : UInt8} (hb : b ≠ dot) :
    b ∈ piece ↔ ∃ c ∈ ofPiece? piece, b ∈ c.bytes := by
  cases hpiece : ofPiece? piece with
  | some c => simp [bytes_of_ofPiece? hpiece]
  | none =>
    rcases ofPiece?_eq_none_iff.1 hpiece with rfl | rfl
    · simp
    · simp [hb]

end Component

namespace Path

/-! ### Bytes of a path -/

/-- What is no separator stands in a piece. -/
theorem mem_intercalate_iff {b : UInt8} (hb : b ≠ slash) (pieces : List Bytes) :
    b ∈ [slash].intercalate pieces ↔ ∃ piece ∈ pieces, b ∈ piece := by
  induction pieces with
  | nil => simp [List.intercalate]
  | cons piece rest ih =>
    by_cases hrest : rest = []
    · subst hrest
      simp [List.intercalate]
    · rw [List.intercalate_cons_of_ne_nil hrest]
      simp [ih, hb]

theorem mem_bytes_iff {p : Path} {b : UInt8} (hb : b ≠ slash) :
    b ∈ p.bytes ↔ ∃ piece ∈ p.pieces, b ∈ piece := by
  have hbytes : [slash].intercalate p.pieces = p.bytes := List.intercalate_splitOn slash
  rw [← hbytes]
  exact mem_intercalate_iff hb p.pieces

/-! ### Steps of a root -/

/-- An absolute path has the root in front of the steps of its pieces. -/
theorem components_of_isAbsolute {p : Path} (h : p.isAbsolute = true) :
    p.components = .root :: p.steps := by
  obtain ⟨head, rest, hp⟩ := List.exists_cons_of_ne_nil p.pieces_ne_nil
  obtain ⟨rfl, hrest⟩ := (isAbsolute_iff hp).1 h
  have hlead : leadOf [] rest = some .root := if_pos ⟨rfl, hrest⟩
  rw [components_of_pieces hp, hlead, steps, hp]
  rfl

/-- Two ways to write a root have the same pieces, as far as these stand for
    steps. -/
theorem steps_congr {base other : Path} (habsolute : base.isAbsolute = true)
    (hsame : base.components = other.components) :
    other.isAbsolute = true ∧ base.steps = other.steps := by
  have hother : other.isAbsolute = true := by
    rw [isAbsolute_iff_head?, ← hsame]
    exact isAbsolute_iff_head?.1 habsolute
  rw [components_of_isAbsolute habsolute, components_of_isAbsolute hother] at hsame
  exact ⟨hother, (List.cons.inj hsame).2⟩

/-- The pieces of a joined path begin with the steps of its base, apart from
    pieces that stand for none. -/
theorem exists_pieces_join_of_steps {base tail : Path} (hbase : base.isEmpty = false)
    (htail : tail.isAbsolute = false) :
    ∃ front, (base.join tail).pieces = front ++ tail.pieces ∧
      front.filterMap Component.ofPiece? = base.steps := by
  obtain ⟨kept, hjoin, hkept⟩ := exists_pieces_join hbase htail
  refine ⟨kept, hjoin, ?_⟩
  rcases hkept with hsame | ⟨hends, -⟩
  · rw [steps, hsame]
  · rw [steps, hends, List.filterMap_append]
    simp

/-- What bytes a joined path has, separators and `.` apart. -/
theorem mem_bytes_join_iff {base tail : Path} (hbase : base.isEmpty = false)
    (htail : tail.isAbsolute = false) {b : UInt8} (hslash : b ≠ slash) (hdot : b ≠ dot) :
    b ∈ (base.join tail).bytes ↔ (∃ c ∈ base.steps, b ∈ c.bytes) ∨ b ∈ tail.bytes := by
  obtain ⟨front, hjoin, hfront⟩ := exists_pieces_join_of_steps hbase htail
  have hsteps : (∃ piece ∈ front, b ∈ piece) ↔ ∃ c ∈ base.steps, b ∈ c.bytes := by
    rw [← hfront]
    constructor
    · rintro ⟨piece, hpiece, hb⟩
      obtain ⟨c, hc, hmem⟩ := (Component.mem_piece_iff hdot).1 hb
      exact ⟨c, List.mem_filterMap.2 ⟨piece, hpiece, hc⟩, hmem⟩
    · rintro ⟨c, hc, hmem⟩
      obtain ⟨piece, hpiece, hstep⟩ := List.mem_filterMap.1 hc
      exact ⟨piece, hpiece, (Component.mem_piece_iff hdot).2 ⟨c, hstep, hmem⟩⟩
  rw [mem_bytes_iff hslash, mem_bytes_iff hslash, hjoin, ← hsteps]
  simp only [List.mem_append, or_and_right, exists_or]

end Path

/-! ### Following -/

namespace Disk

variable {d : Disk} {o : Origin} {base other tail : Path} {front more back : List Bytes}

/-- **Following** depends on the steps that pieces stand for, unless they come
    last. -/
theorem follow_steps (hback : back ≠ []) (d : Disk) (links : Nat) (here : Place)
    (before front : List Bytes) :
    d.follow links here (before ++ (front ++ back)) =
      d.follow links here
        (before ++ ((front.filterMap Component.ofPiece?).map Component.bytes ++ back)) := by
  -- the pieces that were looked at already wait in front
  induction front generalizing before with
  | nil => rfl
  | cons piece rest ih =>
    cases hpiece : Component.ofPiece? piece with
    | none =>
      have hidle : ∀ x ∈ [piece], Component.ofPiece? x = none := by simp [hpiece]
      have hrest : rest ++ back ≠ [] := by simp [hback]
      have hskip := follow_append_idle hidle hrest d links here before
      rw [List.filterMap_cons_none hpiece, ← ih, ← hskip]
      rfl
    | some c =>
      have hshift := ih (before ++ [piece])
      rw [List.append_assoc, List.append_assoc] at hshift
      rw [List.filterMap_cons_some hpiece, List.map_cons, Component.bytes_of_ofPiece? hpiece]
      exact hshift

theorem follow_congr (hback : back ≠ [])
    (hsame : front.filterMap Component.ofPiece? = more.filterMap Component.ofPiece?)
    (d : Disk) (links : Nat) (here : Place) :
    d.follow links here (front ++ back) = d.follow links here (more ++ back) := by
  have hfront := follow_steps hback d links here [] front
  have hmore := follow_steps hback d links here [] more
  rw [List.nil_append, List.nil_append] at hfront hmore
  rw [hfront, hmore, hsame]

/-- Where an absolute path starts that is not too long. -/
theorem start_of_isAbsolute {p : Path} (habsolute : p.isAbsolute = true)
    (hshort : p.bytes.length < pathLimit) :
    o.start p = if (0 : UInt8) ∈ p.bytes then .error .containsNul else .ok (some ([], p.pieces)) := by
  have hempty := Path.isEmpty_of_isAbsolute habsolute
  simp only [Origin.start, hempty, habsolute, Nat.not_le.2 hshort, Bool.false_eq_true, if_true,
    if_false]

/-- **What lies below a root** is the same however the root is written, unless
    one of the paths is too long. -/
theorem find_join_congr (habsolute : base.isAbsolute = true)
    (hsame : base.components = other.components)
    (hbase : (base.join tail).bytes.length < pathLimit)
    (hother : (other.join tail).bytes.length < pathLimit) :
    d.find o (base.join tail) = d.find o (other.join tail) := by
  cases htail : tail.isAbsolute with
  | true => rw [Path.join_of_isAbsolute htail, Path.join_of_isAbsolute htail]
  | false =>
    obtain ⟨habsolute', hsteps⟩ := Path.steps_congr habsolute hsame
    obtain ⟨front, hjoin, hfront⟩ :=
      Path.exists_pieces_join_of_steps (Path.isEmpty_of_isAbsolute habsolute) htail
    obtain ⟨more, hjoin', hmore⟩ :=
      Path.exists_pieces_join_of_steps (Path.isEmpty_of_isAbsolute habsolute') htail
    have hfollow (links : Nat) (here : Place) :=
      follow_congr tail.pieces_ne_nil (hfront.trans (hsteps.trans hmore.symm)) d links here
    have hbytes : (0 : UInt8) ∈ (base.join tail).bytes ↔ (0 : UInt8) ∈ (other.join tail).bytes := by
      rw [Path.mem_bytes_join_iff (Path.isEmpty_of_isAbsolute habsolute) htail (by decide)
          (by decide), hsteps,
        Path.mem_bytes_join_iff (Path.isEmpty_of_isAbsolute habsolute') htail (by decide) (by decide)]
    rw [find, find, start_of_isAbsolute (by rw [Path.isAbsolute_join, habsolute]; simp) hbase,
      start_of_isAbsolute (by rw [Path.isAbsolute_join, habsolute']; simp) hother, hjoin, hjoin']
    by_cases hnul : (0 : UInt8) ∈ (other.join tail).bytes
    · rw [if_pos hnul, if_pos (hbytes.2 hnul)]
    · rw [if_neg hnul, if_neg (mt hbytes.1 hnul)]
      simp only [bind, Except.bind, hfollow]

/-- A disk answers for two ways to write a root alike, within the limit. -/
theorem alikeAt_view {text : String} (habsolute : base.isAbsolute = true)
    (hsame : base.same other = true) (hbase : (base.joinText text).bytes.length < pathLimit)
    (hother : (other.joinText text).bytes.length < pathLimit) :
    (d.view o).toFiles.AlikeAt base other text := by
  have hfind : d.find o (base.joinText text) = d.find o (other.joinText text) :=
    find_join_congr habsolute (of_decide_eq_true hsame) hbase hother
  constructor
  · simp only [view, Storage.ofEntries, hfind]
  · simp only [view, Storage.ofEntries, hfind]

end Disk
end LayeredRoots
