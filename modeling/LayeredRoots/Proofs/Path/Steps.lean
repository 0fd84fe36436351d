import LayeredRoots.Config.Validity
import LayeredRoots.Path.Component
import Mathlib.Data.List.Basic
import Mathlib.Data.List.Induction

/-! # Steps of a path

    Joining adds steps at the end of a path, and going up takes them away.
    Both work on what stands between the separators, so both are put here in
    terms of pieces first and of steps afterwards.

    * `components_join`: what a relative path adds to a base.
    * `exists_parent?`: the path above a path has all steps but the last.
    * `exists_ancestor?`: the same for several levels at once. -/

namespace LayeredRoots

/-! ### Bytes of a text -/

namespace Text

/-- Texts with the same bytes are the same. -/
theorem encode_inj {s t : String} : encode s = encode t ↔ s = t := by
  constructor
  · intro h
    have hdecode : decode? (encode s) = decode? (encode t) := by rw [h]
    simpa using hdecode
  · rintro rfl
    rfl

/-- A byte below 128 stands in the form of one character only. -/
theorem mem_utf8EncodeChar_of_lt {b : UInt8} (hb : b.toNat < 128) (c : Char) :
    b ∈ String.utf8EncodeChar c ↔ c.toNat = b.toNat := by
  have hofNat (n : Nat) : b = UInt8.ofNat n ↔ b.toNat = n % 256 := by
    rw [← UInt8.toNat_inj, UInt8.toNat_ofNat']
  have hc : c.toNat = c.val.toNat := rfl
  -- every byte of a form with several bytes is 128 or more
  unfold String.utf8EncodeChar
  dsimp only
  split
  · simp only [List.mem_singleton, hofNat]
    omega
  · split
    · simp only [List.mem_cons, List.not_mem_nil, or_false, hofNat]
      omega
    · split
      · simp only [List.mem_cons, List.not_mem_nil, or_false, hofNat]
        omega
      · simp only [List.mem_cons, List.not_mem_nil, or_false, hofNat]
        omega

end Text

namespace Component

@[simp] theorem ofPiece?_nil : ofPiece? [] = none := rfl

theorem ofPiece?_ne_root (piece : Bytes) : ofPiece? piece ≠ some root := by
  unfold ofPiece?
  split
  · simp
  · split <;> simp

theorem root_not_mem_filterMap (pieces : List Bytes) :
    root ∉ pieces.filterMap ofPiece? := by
  intro hmem
  obtain ⟨piece, -, hpiece⟩ := List.mem_filterMap.1 hmem
  exact ofPiece?_ne_root piece hpiece

theorem ofPiece?_eq_none_iff {piece : Bytes} :
    ofPiece? piece = none ↔ piece = [] ∨ piece = [dot] := by
  unfold ofPiece?
  split
  · next h => simp [h]
  · next h =>
    simp only [h, iff_false]
    split <;> simp

end Component

namespace Path

/-! ### Pieces -/

theorem pieces_ne_nil (p : Path) : p.pieces ≠ [] := List.splitOn_ne_nil slash p.bytes

theorem pieces_append_slash (base tail : Bytes) :
    pieces ⟨base ++ slash :: tail⟩ = pieces ⟨base⟩ ++ pieces ⟨tail⟩ :=
  List.splitOn_append_cons_self base tail

theorem slash_not_mem_pieces {p : Path} {piece : Bytes} (h : piece ∈ p.pieces) :
    slash ∉ piece := by
  obtain ⟨bytes⟩ := p
  induction bytes generalizing piece with
  | nil =>
    have hpiece : piece = [] := by simpa [pieces] using h
    simp [hpiece]
  | cons b rest ih =>
    obtain ⟨first, more, hrest⟩ := List.exists_cons_of_ne_nil (pieces_ne_nil ⟨rest⟩)
    have hfirst : slash ∉ first := ih (by simp [hrest])
    have hmore : ∀ x ∈ more, slash ∉ x := fun x hx => ih (by simp [hrest, hx])
    have hpieces : pieces ⟨b :: rest⟩ =
        if b == slash then [] :: first :: more else (b :: first) :: more := by
      have hsplit : rest.splitOn slash = first :: more := hrest
      simp [pieces, List.splitOn_cons_eq_if_modifyHead, hsplit]
    -- the first byte ends an empty piece, or it goes in front of the first piece
    rw [hpieces] at h
    split at h
    · rcases List.mem_cons.1 h with rfl | h
      · simp
      · exact ih (by rw [hrest]; exact h)
    · next hb =>
      have hb' : slash ≠ b := by simpa using fun heq : slash = b => hb (by simp [heq])
      rcases List.mem_cons.1 h with rfl | h
      · simp [hb', hfirst]
      · exact hmore _ h

/-- There are no more pieces than bytes and one. -/
theorem length_pieces_le (p : Path) : p.pieces.length ≤ p.bytes.length + 1 := by
  obtain ⟨bytes⟩ := p
  induction bytes with
  | nil => simp [pieces]
  | cons b rest ih =>
    simp only [pieces, List.splitOn_cons_eq_if_modifyHead] at ih ⊢
    split <;> simp <;> omega

/-- Pieces that were written down with separators in between are read back. -/
theorem pieces_intercalate {ps : List Bytes} (hps : ps ≠ []) (h : ∀ piece ∈ ps, slash ∉ piece) :
    pieces ⟨[slash].intercalate ps⟩ = ps :=
  List.splitOn_intercalate slash h hps

theorem isEmpty_of_isAbsolute {p : Path} (h : p.isAbsolute = true) : p.isEmpty = false := by
  obtain ⟨bytes⟩ := p
  cases bytes with
  | nil => simp [isAbsolute] at h
  | cons b rest => rfl

theorem isAbsolute_iff {p : Path} {head : Bytes} {rest : List Bytes}
    (h : p.pieces = head :: rest) : p.isAbsolute = true ↔ head = [] ∧ rest ≠ [] := by
  obtain ⟨bytes⟩ := p
  cases bytes with
  | nil =>
    have hrest : [] = rest := (List.cons.inj (show [[]] = head :: rest from h)).2
    simp [isAbsolute, ← hrest]
  | cons b bs =>
    obtain ⟨first, more, hbs⟩ := List.exists_cons_of_ne_nil (pieces_ne_nil ⟨bs⟩)
    have hsplit : bs.splitOn slash = first :: more := hbs
    simp only [pieces, List.splitOn_cons_eq_if_modifyHead, hsplit] at h
    by_cases hb : b = slash
    · obtain ⟨rfl, rfl⟩ : [] = head ∧ first :: more = rest := by simpa [hb] using h
      simp [isAbsolute, hb]
    · obtain ⟨rfl, rfl⟩ : b :: first = head ∧ more = rest := by simpa [hb] using h
      simp [isAbsolute, hb]

/-! ### Steps -/

/-- The steps that the pieces of a path stand for, its start apart. -/
def steps (p : Path) : List Component := p.pieces.filterMap Component.ofPiece?

/-- Only `..` and names are steps of pieces. -/
theorem exists_name_of_mem_steps {p : Path} {step : Component} (h : step ∈ p.steps)
    (hup : step ≠ .up) : ∃ bytes, step = .name bytes := by
  obtain ⟨piece, -, hpiece⟩ := List.mem_filterMap.1 h
  unfold Component.ofPiece? at hpiece
  split at hpiece
  · cases hpiece
  · split at hpiece
    · exact absurd (Option.some.inj hpiece).symm hup
    · exact ⟨piece, (Option.some.inj hpiece).symm⟩

/-- The first step of a path with the given first piece and further ones. -/
def leadOf (head : Bytes) (rest : List Bytes) : Option Component :=
  if head = [] ∧ rest ≠ [] then some .root
  else if head = [dot] then some .here
  else Component.ofPiece? head

theorem components_of_pieces {p : Path} {head : Bytes} {rest : List Bytes}
    (h : p.pieces = head :: rest) :
    p.components = (leadOf head rest).toList ++ rest.filterMap Component.ofPiece? := by
  have hlead : p.leading = leadOf head rest := by
    unfold leading leadOf
    simp only [isAbsolute_iff h, h, List.head?_cons]
  rw [components, hlead, h, List.tail_cons]

/-- More pieces at the end leave the start of a path as it is. -/
theorem length_components_le (p : Path) : p.components.length ≤ p.bytes.length + 1 := by
  obtain ⟨head, rest, hp⟩ := List.exists_cons_of_ne_nil p.pieces_ne_nil
  have hpieces := p.length_pieces_le
  have hlead : (leadOf head rest).toList.length ≤ 1 := by cases leadOf head rest <;> simp
  have hsteps := List.length_filterMap_le Component.ofPiece? rest
  rw [hp, List.length_cons] at hpieces
  rw [components_of_pieces hp, List.length_append]
  omega

theorem leadOf_congr {head : Bytes} {rest more : List Bytes}
    (h : head = [] → (rest = [] ↔ more = [])) : leadOf head rest = leadOf head more := by
  unfold leadOf
  by_cases hhead : head = []
  · simp [hhead, h hhead]
  · simp [hhead]

theorem isEmpty_eq_false_iff {p : Path} {head : Bytes} {rest : List Bytes}
    (h : p.pieces = head :: rest) : p.isEmpty = false ↔ head ≠ [] ∨ rest ≠ [] := by
  obtain ⟨bytes⟩ := p
  cases bytes with
  | nil =>
    obtain ⟨rfl, rfl⟩ : [] = head ∧ [] = rest := by simpa [pieces] using h
    simp [isEmpty]
  | cons b bs =>
    have hne : ¬(head = [] ∧ rest = []) := by
      rintro ⟨rfl, rfl⟩
      have hbytes : [slash].intercalate (pieces ⟨b :: bs⟩) = b :: bs :=
        List.intercalate_splitOn slash
      rw [h] at hbytes
      simp at hbytes
    simp only [isEmpty, List.isEmpty_cons, true_iff]
    tauto

theorem components_eq_nil_iff {p : Path} : p.components = [] ↔ p.isEmpty = true := by
  obtain ⟨head, rest, h⟩ := List.exists_cons_of_ne_nil p.pieces_ne_nil
  have hempty := isEmpty_eq_false_iff h
  rw [components_of_pieces h]
  by_cases hhead : head = []
  · by_cases hrest : rest = []
    · subst hhead hrest
      simpa [leadOf] using hempty
    · have : p.isEmpty = false := hempty.2 (.inr hrest)
      simp [leadOf, hhead, hrest, this]
  · have : p.isEmpty = false := hempty.2 (.inl hhead)
    by_cases hdot : head = [dot]
    · simp [leadOf, hdot, this]
    · have hsome : Component.ofPiece? head ≠ none := by
        simp [Component.ofPiece?_eq_none_iff, hhead, hdot]
      obtain ⟨c, hc⟩ := Option.ne_none_iff_exists'.1 hsome
      simp [leadOf, hhead, hdot, hc, this]

/-- A relative path that does not start with `.` has no steps but those of its
    pieces. -/
theorem components_eq_steps {p : Path} (habsolute : p.isAbsolute = false)
    (hhere : p.components.head? ≠ some .here) : p.components = p.steps := by
  obtain ⟨head, rest, h⟩ := List.exists_cons_of_ne_nil p.pieces_ne_nil
  have hroot : ¬(head = [] ∧ rest ≠ []) := by
    rw [← isAbsolute_iff h, habsolute]
    simp
  rw [components_of_pieces h] at hhere ⊢
  have hdot : head ≠ [dot] := by
    rintro rfl
    simp [leadOf] at hhere
  have hlead : leadOf head rest = Component.ofPiece? head := by
    rw [leadOf, if_neg hroot, if_neg hdot]
  rw [hlead, steps, h, List.filterMap_cons]
  cases Component.ofPiece? head <;> rfl

/-- The root is a step of absolute paths only. -/
theorem root_not_mem_components {p : Path} (h : p.isAbsolute = false) :
    Component.root ∉ p.components := by
  obtain ⟨head, rest, hp⟩ := List.exists_cons_of_ne_nil p.pieces_ne_nil
  have hroot : ¬(head = [] ∧ rest ≠ []) := by
    rw [← isAbsolute_iff hp, h]
    simp
  rw [components_of_pieces hp]
  intro hmem
  rcases List.mem_append.1 hmem with hlead | hrest
  · rw [leadOf, if_neg hroot, Option.mem_toList] at hlead
    split at hlead
    · simp at hlead
    · exact Component.ofPiece?_ne_root head hlead
  · exact Component.root_not_mem_filterMap rest hrest

/-! ### Joining -/

theorem components_append_slash (base tail : Bytes) :
    components ⟨base ++ slash :: tail⟩ = components ⟨base ++ [slash]⟩ ++ steps ⟨tail⟩ := by
  obtain ⟨head, rest, hbase⟩ := List.exists_cons_of_ne_nil (pieces_ne_nil ⟨base⟩)
  have hlong : pieces ⟨base ++ slash :: tail⟩ = head :: (rest ++ pieces ⟨tail⟩) := by
    rw [pieces_append_slash, hbase, List.cons_append]
  have hshort : pieces ⟨base ++ [slash]⟩ = head :: (rest ++ [[]]) := by
    rw [pieces_append_slash, hbase, List.cons_append]
    rfl
  have hlead : leadOf head (rest ++ pieces ⟨tail⟩) = leadOf head (rest ++ [[]]) :=
    leadOf_congr fun _ => by simp [pieces_ne_nil]
  rw [components_of_pieces hlong, components_of_pieces hshort, hlead]
  simp [steps]

/-- A separator at the end is no step. -/
theorem components_append_singleton {base : Bytes} (h : base ≠ []) :
    components ⟨base ++ [slash]⟩ = components ⟨base⟩ := by
  obtain ⟨head, rest, hbase⟩ := List.exists_cons_of_ne_nil (pieces_ne_nil ⟨base⟩)
  have hslash : pieces ⟨base ++ [slash]⟩ = head :: (rest ++ [[]]) := by
    rw [pieces_append_slash, hbase, List.cons_append]
    rfl
  have hnonempty : head ≠ [] ∨ rest ≠ [] :=
    (isEmpty_eq_false_iff hbase).1 (by simpa [isEmpty] using h)
  have hlead : leadOf head (rest ++ [[]]) = leadOf head rest :=
    leadOf_congr fun hhead => by simpa [hhead] using hnonempty
  rw [components_of_pieces hslash, components_of_pieces hbase, hlead]
  simp

/-- **Joining.**  A relative path adds its steps at the end of a base. -/
theorem components_join {base tail : Path} (hbase : base.isEmpty = false)
    (htail : tail.isAbsolute = false) :
    (base.join tail).components = base.components ++ tail.steps := by
  have hne : base.bytes ≠ [] := by simpa [isEmpty] using hbase
  have habsolute : ¬tail.isAbsolute = true := by simp [htail]
  unfold join
  rw [if_neg habsolute]
  -- the separator in between is the one at the end of the base, or a new one
  by_cases hlast : base.bytes.getLast? = some slash
  · rw [if_pos (.inr hlast)]
    obtain ⟨init, hinit⟩ := List.getLast?_eq_some_iff.1 hlast
    have hbase' : base = ⟨init ++ [slash]⟩ := congrArg Path.mk hinit
    rw [hbase', List.append_assoc]
    exact components_append_slash init tail.bytes
  · have hsplit : ¬(base.isEmpty = true ∨ base.bytes.getLast? = some slash) := by
      simp [hbase, hlast]
    rw [if_neg hsplit, components_append_slash, components_append_singleton hne]

/-- Joining respects the steps of the base, however it is written. -/
theorem components_join_congr {base other : Path} (h : base.components = other.components)
    (tail : Path) : (base.join tail).components = (other.join tail).components := by
  cases htail : tail.isAbsolute with
  | true => rw [join_of_isAbsolute htail, join_of_isAbsolute htail]
  | false =>
    cases hbase : base.isEmpty with
    | true =>
      have hother : other.isEmpty = true := by
        rw [← components_eq_nil_iff, ← h, components_eq_nil_iff, hbase]
      simp only [isEmpty, List.isEmpty_iff] at hbase hother
      rw [join, join, isEmpty, isEmpty, hbase, hother]
    | false =>
      have hother : other.isEmpty = false := by
        rw [← Bool.not_eq_true, ← components_eq_nil_iff, ← h, components_eq_nil_iff, hbase]
        simp
      rw [components_join hbase htail, components_join hother htail, h]

/-! ### Going up -/

theorem trimPieces_append_singleton (ps : List Bytes) (piece : Bytes) :
    trimPieces (ps ++ [piece]) =
      if (Component.ofPiece? piece).isNone then trimPieces ps else ps ++ [piece] := by
  simp only [trimPieces, List.reverse_append, List.reverse_singleton, List.singleton_append,
    List.dropWhile_cons]
  split <;> simp

/-- What is trimmed off stands for no step. -/
theorem filterMap_trimPieces (ps : List Bytes) :
    (trimPieces ps).filterMap Component.ofPiece? = ps.filterMap Component.ofPiece? := by
  induction ps using List.reverseRecOn with
  | nil => rfl
  | append_singleton ps piece ih =>
    rw [trimPieces_append_singleton]
    split
    · next hnone =>
      rw [ih, List.filterMap_append, List.filterMap_cons, Option.isNone_iff_eq_none.1 hnone]
      simp
    · rfl

theorem trimPieces_subset (ps : List Bytes) : trimPieces ps ⊆ ps := by
  induction ps using List.reverseRecOn with
  | nil => exact List.Subset.refl _
  | append_singleton ps piece ih =>
    rw [trimPieces_append_singleton]
    split
    · exact List.Subset.trans ih (List.subset_append_left ps [piece])
    · exact List.Subset.refl _

/-- What remains ends in a step. -/
theorem exists_of_trimPieces_ne_nil {ps : List Bytes} (h : trimPieces ps ≠ []) :
    ∃ init piece c, trimPieces ps = init ++ [piece] ∧ Component.ofPiece? piece = some c := by
  induction ps using List.reverseRecOn with
  | nil => exact absurd rfl h
  | append_singleton ps piece ih =>
    rw [trimPieces_append_singleton] at h ⊢
    cases hpiece : Component.ofPiece? piece with
    | none => exact ih (by simpa [hpiece] using h)
    | some c => exact ⟨ps, piece, c, by simp, hpiece⟩

/-- The path with a first piece and the pieces kept behind it. -/
def restore (head : Bytes) : List Bytes → Path
  | [] => if head.isEmpty then ⟨[slash]⟩ else ⟨head⟩
  | above => ⟨[slash].intercalate (head :: above)⟩

theorem parent?_of_pieces {p : Path} {head piece : Bytes} {rest init : List Bytes}
    (hp : p.pieces = head :: rest) (htrim : trimPieces rest = init ++ [piece]) :
    p.parent? = some (restore head (trimPieces init)) := by
  unfold parent?
  rw [hp]
  dsimp only
  rw [htrim]
  split
  · next hnil => simp at hnil
  · rw [List.dropLast_concat]
    cases trimPieces init <;> rfl

theorem components_restore {head : Bytes} {above rest : List Bytes} (hrest : rest ≠ [])
    (hslash : ∀ piece ∈ head :: above, slash ∉ piece) :
    (restore head above).components =
      (leadOf head rest).toList ++ above.filterMap Component.ofPiece? := by
  cases above with
  | nil =>
    by_cases hhead : head = []
    · subst hhead
      simp only [leadOf, ne_eq, hrest, not_false_eq_true, and_self, if_true]
      rfl
    · have hlone : pieces ⟨head⟩ = [head] :=
        List.splitOn_eq_singleton (hslash head List.mem_cons_self)
      have hlead : leadOf head [] = leadOf head rest :=
        leadOf_congr fun hnil => absurd hnil hhead
      have hwritten : restore head [] = ⟨head⟩ := by simp [restore, hhead]
      rw [hwritten, components_of_pieces hlone, hlead]
  | cons piece more =>
    have hpieces : pieces (restore head (piece :: more)) = head :: piece :: more :=
      pieces_intercalate (by simp) hslash
    have hlead : leadOf head (piece :: more) = leadOf head rest :=
      leadOf_congr fun _ => by simp [hrest]
    rw [components_of_pieces hpieces, hlead]

/-- The one step of a path with nothing behind its first piece, if that is not
    the root, has the empty path above it. -/
theorem parent?_of_one_step {p : Path} {head : Bytes} {rest : List Bytes}
    {above : List Component} {last : Component} (hp : p.pieces = head :: rest)
    (htrim : trimPieces rest = []) (h : (leadOf head rest).toList = above ++ [last])
    (hlast : last ≠ .root) : p.parent? = some ⟨[]⟩ ∧ above = [] := by
  have hlead : leadOf head rest = some last ∧ above = [] := by
    cases hlead : leadOf head rest with
    | none => simp [hlead] at h
    | some c =>
      have hsingle : [] ++ [c] = above ++ [last] := by simpa [hlead] using h
      obtain ⟨habove, hc⟩ := List.append_inj' hsingle rfl
      exact ⟨congrArg some (List.singleton_inj.1 hc), habove.symm⟩
  have hhead : head ≠ [] := by
    rintro rfl
    have hroot : leadOf [] rest = none ∨ leadOf [] rest = some .root := by
      unfold leadOf
      split <;> simp
    rcases hroot with hroot | hroot
    · simp [hlead.1] at hroot
    · exact hlast (Option.some.inj (hlead.1.symm.trans hroot))
  exact ⟨by simp [parent?, hp, htrim, hhead], hlead.2⟩

/-- **Going up.**  The path above a path has all its steps but the last. -/
theorem exists_parent? {p : Path} {above : List Component} {last : Component}
    (h : p.components = above ++ [last]) (hlast : last ≠ .root) :
    ∃ q, p.parent? = some q ∧ q.components = above := by
  obtain ⟨head, rest, hp⟩ := List.exists_cons_of_ne_nil p.pieces_ne_nil
  rw [components_of_pieces hp, ← filterMap_trimPieces] at h
  by_cases htrim : trimPieces rest = []
  · rw [htrim, List.filterMap_nil, List.append_nil] at h
    obtain ⟨hparent, rfl⟩ := parent?_of_one_step hp htrim h hlast
    exact ⟨⟨[]⟩, hparent, rfl⟩
  · obtain ⟨init, piece, c, hkept, hpiece⟩ := exists_of_trimPieces_ne_nil htrim
    have hrest : rest ≠ [] := by
      rintro rfl
      exact htrim rfl
    have hslash : ∀ x ∈ head :: trimPieces init, slash ∉ x := by
      have hkeeps : init ++ [piece] ⊆ rest := hkept ▸ trimPieces_subset rest
      have hinit : init ⊆ rest := List.Subset.trans (List.subset_append_left init [piece]) hkeeps
      have hsub : trimPieces init ⊆ rest := List.Subset.trans (trimPieces_subset init) hinit
      exact fun x hx => slash_not_mem_pieces (hp ▸ List.cons_subset_cons head hsub hx)
    refine ⟨_, parent?_of_pieces hp hkept, ?_⟩
    rw [components_restore hrest hslash, filterMap_trimPieces]
    -- the piece that is dropped stands for the last step
    have hconcat : ((leadOf head rest).toList ++ init.filterMap Component.ofPiece?) ++ [c] =
        above ++ [last] := by simpa [hkept, hpiece] using h
    exact (List.append_inj' hconcat rfl).1

/-- **Going up several levels.**  Steps at the end of a path go away one by one;
    the root is none of them. -/
theorem exists_ancestor? {p : Path} {above below : List Component}
    (h : p.components = above ++ below) (hbelow : Component.root ∉ below) :
    ∃ q, p.ancestor? below.length = some q ∧ q.components = above := by
  -- the steps go away from the end, so the induction adds them there
  induction below using List.reverseRecOn generalizing p with
  | nil => exact ⟨p, rfl, by simpa using h⟩
  | append_singleton below last ih =>
    have hlast : last ≠ .root := by
      rintro rfl
      simp at hbelow
    obtain ⟨q, hq, hsteps⟩ := exists_parent? (h.trans (List.append_assoc ..).symm) hlast
    obtain ⟨top, htop, habove⟩ := ih hsteps (by
      intro hmem
      exact hbelow (List.mem_append_left _ hmem))
    refine ⟨top, ?_, habove⟩
    rw [List.length_append, List.length_singleton, ancestor?, hq]
    exact htop

/-! ### Paths written by texts -/

theorem utf8EncodeChar_ne_nil (c : Char) : String.utf8EncodeChar c ≠ [] := by simp

theorem slash_mem_utf8EncodeChar (c : Char) : slash ∈ String.utf8EncodeChar c ↔ c = '/' := by
  rw [Text.mem_utf8EncodeChar_of_lt (by decide) c]
  constructor
  · intro h
    exact Char.ext (UInt32.toNat_inj.1 h)
  · rintro rfl
    rfl

theorem isEmpty_ofText (s : String) : (ofText s).isEmpty = s.isEmpty := by
  have hempty : Text.encode s = [] ↔ s = "" := by
    rw [← Text.encode_empty]
    exact Text.encode_inj
  rw [Bool.eq_iff_iff, isEmpty, List.isEmpty_iff, String.isEmpty_iff]
  exact hempty

/-- A path is absolute if its text starts with a separator. -/
theorem isAbsolute_ofText (s : String) : (ofText s).isAbsolute = Text.hasPrefix "/" s := by
  unfold ofText isAbsolute Text.hasPrefix Text.encode
  cases s.toList with
  | nil => rfl
  | cons c cs =>
    have hwritten : "/".toList.isPrefixOf (c :: cs) = decide (c = '/') := by
      by_cases hc : c = '/'
      · simp [List.isPrefixOf, hc]
      · simp [List.isPrefixOf, hc, Ne.symm hc]
    obtain ⟨b, bs, hbytes⟩ := List.exists_cons_of_ne_nil
      (utf8EncodeChar_ne_nil c)
    rw [hwritten, List.flatMap_cons, hbytes, List.cons_append, List.head?_cons]
    by_cases hc : c = '/'
    · subst hc
      have hb : b = slash := (List.cons.inj (show b :: bs = [slash] from hbytes.symm)).1
      simp [hb]
    · have hb : b ≠ slash := by
        rintro rfl
        exact hc ((slash_mem_utf8EncodeChar c).1 (hbytes ▸ List.mem_cons_self))
      simp [hc, hb]

/-- The path of a text ends in a separator if the text does. -/
theorem getLast?_ofText (s : String) :
    (ofText s).bytes.getLast? = some slash ↔ Text.endsIn '/' s = true := by
  unfold ofText Text.endsIn Text.encode
  induction s.toList using List.reverseRecOn with
  | nil => simp
  | append_singleton init c ih =>
    have hlast : ((init ++ [c]).flatMap String.utf8EncodeChar).getLast? =
        (String.utf8EncodeChar c).getLast? := by
      rw [List.flatMap_append, List.flatMap_singleton,
        List.getLast?_append_of_ne_nil _ (utf8EncodeChar_ne_nil c)]
    rw [hlast, List.getLast?_concat, decide_eq_true_iff, Option.some_inj]
    constructor
    · intro h
      exact (slash_mem_utf8EncodeChar c).1 (List.mem_of_getLast? h)
    · rintro rfl
      rfl

/-- A text as seen from another, where both write paths. -/
def joined (base tail : String) : String :=
  if Text.hasPrefix "/" tail then tail
  else if base.isEmpty || Text.endsIn '/' base then base ++ tail
  else base ++ "/" ++ tail

theorem joinText_ofText (base tail : String) :
    (ofText base).joinText tail = ofText (joined base tail) := by
  have hslash : Text.encode "/" = [slash] := by decide +kernel
  unfold joinText join joined
  rw [isAbsolute_ofText, isEmpty_ofText]
  simp only [getLast?_ofText, ← Bool.or_eq_true]
  split
  · rfl
  · split
    · simp [ofText, Text.encode_append]
    · simp [ofText, Text.encode_append, hslash]

end Path
end LayeredRoots
