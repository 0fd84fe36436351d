import LayeredRoots.Proofs.Path.Endings

/-! # Paths that start like others

    The steps of a path say little about how it is written: separators may be
    repeated, and a piece `.` may stand between any two others.  In a text
    without such pieces every piece is a step, and no two pieces are the same
    step.  There the steps start like those of another text exactly if the text
    itself does, up to its end or up to a separator.

    * `pieces_ofText`: the pieces of a path are those of its text.
    * `pieces_prefix_iff`: which texts have the pieces of another in front.
    * `startsWith_ofText_iff`: which paths start like another. -/

namespace LayeredRoots

/-! ### Pieces of a text -/

namespace Text

/-- What stands between the separators of a text. -/
def pieces (s : String) : List (List Char) := s.toList.splitOn '/'

/-- No piece of the text is empty or `.`. -/
def Plain (s : String) : Prop := ∀ piece ∈ pieces s, piece ≠ [] ∧ piece ≠ ['.']

instance : DecidablePred Plain :=
  fun s => inferInstanceAs (Decidable (∀ piece ∈ pieces s, piece ≠ [] ∧ piece ≠ ['.']))

theorem pieces_ne_nil (s : String) : pieces s ≠ [] := List.splitOn_ne_nil '/' s.toList

theorem pieces_append_slash (s t : String) : pieces (s ++ "/" ++ t) = pieces s ++ pieces t := by
  unfold pieces
  rw [String.toList_append, String.toList_append, List.append_assoc]
  exact List.splitOn_append_cons_self s.toList t.toList

/-- There is one piece more than separators. -/
theorem length_pieces (s : String) : (pieces s).length = s.toList.count '/' + 1 := by
  unfold pieces
  induction s.toList with
  | nil => rfl
  | cons c cs ih =>
    rw [List.splitOn_cons_eq_if_modifyHead, List.count_cons]
    split <;> simp [ih]

theorem ne_empty_of_plain {s : String} (h : Plain s) : s ≠ "" := by
  intro hempty
  subst hempty
  exact (h [] List.mem_cons_self).1 rfl

/-- What two texts have between their separators tells them apart. -/
theorem pieces_inj {s t : String} (h : pieces s = pieces t) : s = t := by
  have hs : ['/'].intercalate (pieces s) = s.toList := List.intercalate_splitOn '/'
  have ht : ['/'].intercalate (pieces t) = t.toList := List.intercalate_splitOn '/'
  rw [← String.toList_inj, ← hs, ← ht, h]

theorem intercalate_append {sep : List Char} {ps qs : List (List Char)} (hps : ps ≠ [])
    (hqs : qs ≠ []) :
    sep.intercalate (ps ++ qs) = sep.intercalate ps ++ sep ++ sep.intercalate qs := by
  induction ps with
  | nil => exact absurd rfl hps
  | cons piece more ih =>
    by_cases hmore : more = []
    · subst hmore
      rw [List.singleton_append, List.intercalate_cons_of_ne_nil hqs, List.intercalate_singleton]
    · have hlong : more ++ qs ≠ [] := by simp [hmore]
      rw [List.cons_append, List.intercalate_cons_of_ne_nil hlong,
        List.intercalate_cons_of_ne_nil hmore, ih hmore]
      simp

/-- **Pieces in front.**  A text that begins with the pieces of another is that
    text, or goes on with a separator. -/
theorem pieces_prefix_iff {s t : String} :
    pieces s <+: pieces t ↔ t = s ∨ ∃ rest, t = s ++ "/" ++ rest := by
  constructor
  · intro h
    obtain ⟨more, hmore⟩ := h
    by_cases hnone : more = []
    · rw [hnone, List.append_nil] at hmore
      exact .inl (pieces_inj hmore.symm)
    · refine .inr ⟨String.ofList (['/'].intercalate more), ?_⟩
      have hs : ['/'].intercalate (pieces s) = s.toList := List.intercalate_splitOn '/'
      have ht : ['/'].intercalate (pieces t) = t.toList := List.intercalate_splitOn '/'
      rw [← hmore, intercalate_append (pieces_ne_nil s) hnone, hs] at ht
      rw [← String.toList_inj, ← ht]
      simp
  · intro h
    rcases h with rfl | ⟨rest, rfl⟩
    · exact List.prefix_refl _
    · rw [pieces_append_slash]
      exact List.prefix_append _ _

end Text

/-! ### Pieces of a path -/

namespace Path

theorem splitOn_append_of_not_mem {front : Bytes} (h : slash ∉ front) (rest : Bytes) :
    (front ++ rest).splitOn slash = (rest.splitOn slash).modifyHead (front ++ ·) := by
  induction front with
  | nil =>
    rw [List.nil_append]
    cases rest.splitOn slash <;> rfl
  | cons b bs ih =>
    have hb : (b == slash) = false := by
      have hne : slash ≠ b := fun heq => h (heq ▸ List.mem_cons_self)
      simpa using hne.symm
    have hbs : slash ∉ bs := fun hmem => h (List.mem_cons_of_mem _ hmem)
    rw [List.cons_append, List.splitOn_cons_eq_if_modifyHead, hb, ih hbs]
    cases rest.splitOn slash <;> rfl

/-- The pieces of a path are the encoded pieces of its text. -/
theorem pieces_ofText (s : String) :
    (ofText s).pieces = (Text.pieces s).map fun piece => Text.encode (String.ofList piece) := by
  unfold pieces ofText Text.pieces Text.encode
  induction s.toList with
  | nil => simp
  | cons c cs ih =>
    rw [List.flatMap_cons, List.splitOn_cons_eq_if_modifyHead]
    by_cases hc : c = '/'
    · -- the separator is a single byte, the one that separates pieces of a path
      subst hc
      have hslash : String.utf8EncodeChar '/' = [slash] := rfl
      rw [hslash, List.singleton_append, List.splitOn_cons_eq_if_modifyHead, ih]
      simp
    · have hfront : slash ∉ String.utf8EncodeChar c := by
        rw [slash_mem_utf8EncodeChar]
        exact hc
      rw [splitOn_append_of_not_mem hfront, ih]
      cases cs.splitOn '/' <;> simp [hc]

theorem encode_ofList_injective :
    Function.Injective fun piece : List Char => Text.encode (String.ofList piece) := by
  intro p q h
  exact String.ofList_injective (Text.encode_inj.1 h)

/-- Every piece of a plain text is a step. -/
theorem ofPiece?_of_plain {s : String} (h : Text.Plain s) {piece : Bytes}
    (hpiece : piece ∈ (ofText s).pieces) : Component.ofPiece? piece ≠ none := by
  rw [pieces_ofText] at hpiece
  obtain ⟨chars, hchars, rfl⟩ := List.mem_map.1 hpiece
  obtain ⟨hempty, hdot⟩ := h chars hchars
  rw [Ne, Component.ofPiece?_eq_none_iff]
  intro hidle
  rcases hidle with hnil | hone
  · exact hempty (encode_ofList_injective hnil)
  · exact hdot (encode_ofList_injective hone)

/-! ### Steps of a path -/

/-- A step shows which piece it stands for. -/
theorem bytes_of_ofPiece? {piece : Bytes} {c : Component}
    (h : Component.ofPiece? piece = some c) : c.bytes = piece := by
  unfold Component.ofPiece? at h
  split at h
  · cases h
  · split at h
    · next hup =>
      cases h
      exact hup.symm
    · cases h
      rfl

/-- The steps of a plain text are its pieces. -/
theorem components_of_plain {s : String} (h : Text.Plain s) :
    (ofText s).components = (ofText s).pieces.filterMap Component.ofPiece? := by
  obtain ⟨head, rest, hp⟩ := List.exists_cons_of_ne_nil (ofText s).pieces_ne_nil
  have hhead : Component.ofPiece? head ≠ none :=
    ofPiece?_of_plain h (by rw [hp]; exact List.mem_cons_self)
  have hwritten : ¬(head = [] ∨ head = [dot]) := by
    rw [← Component.ofPiece?_eq_none_iff]
    exact hhead
  have hlead : leadOf head rest = Component.ofPiece? head := by
    have hroot : ¬(head = [] ∧ rest ≠ []) := fun hnil => hwritten (.inl hnil.1)
    rw [leadOf, if_neg hroot, if_neg fun hdot => hwritten (.inr hdot)]
  rw [components_of_pieces hp, hp, hlead, List.filterMap_cons]
  cases Component.ofPiece? head <;> rfl

theorem pieces_of_plain {s : String} (h : Text.Plain s) :
    (ofText s).pieces = (ofText s).components.map Component.bytes := by
  rw [components_of_plain h, List.map_filterMap]
  have hsteps : ∀ piece ∈ (ofText s).pieces,
      (Component.ofPiece? piece).map Component.bytes = some piece := by
    intro piece hpiece
    obtain ⟨c, hc⟩ := Option.ne_none_iff_exists'.1 (ofPiece?_of_plain h hpiece)
    rw [hc, Option.map_some, bytes_of_ofPiece? hc]
  rw [List.filterMap_congr hsteps, List.filterMap_some]

/-- **Plain texts.**  The path of a plain text starts like that of another
    exactly if the text is the other, or goes on with a separator. -/
theorem startsWith_ofText_iff {s t : String} (hs : Text.Plain s) (ht : Text.Plain t) :
    (ofText t).startsWith (ofText s) = true ↔ t = s ∨ ∃ rest, t = s ++ "/" ++ rest := by
  unfold startsWith
  rw [List.isPrefixOf_iff_prefix, ← Text.pieces_prefix_iff,
    ← List.prefix_map_iff_of_injective encode_ofList_injective, ← pieces_ofText, ← pieces_ofText]
  constructor
  · intro h
    rw [pieces_of_plain hs, pieces_of_plain ht]
    exact h.map _
  · intro h
    rw [components_of_plain hs, components_of_plain ht]
    exact h.filterMap _

/-- A separator at the end of a text is no step. -/
theorem components_ofText_append_slash {s : String} (h : s ≠ "") :
    (ofText (s ++ "/")).components = (ofText s).components := by
  have hbytes : Text.encode s ≠ [] := by
    rw [← Text.encode_empty, Ne, Text.encode_inj]
    exact h
  unfold ofText
  rw [Text.encode_append]
  exact components_append_singleton hbytes

/-- **Partial names.**  No path starts like a plain text that ends within one of
    its names. -/
theorem startsWith_partial_name {s more : String} (hs : Text.Plain s)
    (hlong : Text.Plain (s ++ more)) (hmore : more ≠ "") (hslash : '/' ∉ more.toList)
    (rest : String) : (ofText (s ++ more ++ "/" ++ rest)).startsWith (ofText s) = false := by
  have hsteps : (ofText (s ++ more ++ "/" ++ rest)).components =
      (ofText (s ++ more)).components ++ (ofText rest).steps := by
    rw [← components_ofText_append_slash (Text.ne_empty_of_plain hlong)]
    unfold ofText
    rw [Text.encode_append, Text.encode_append _ "/", List.append_assoc]
    exact components_append_slash _ _
  have hlength : (ofText s).components.length = (ofText (s ++ more)).components.length := by
    have hcount (t : String) (ht : Text.Plain t) :
        (ofText t).components.length = t.toList.count '/' + 1 := by
      rw [← List.length_map Component.bytes, ← pieces_of_plain ht, pieces_ofText,
        List.length_map, Text.length_pieces]
    rw [hcount s hs, hcount _ hlong, String.toList_append, List.count_append,
      List.count_eq_zero.2 hslash, Nat.add_zero]
  rw [Bool.eq_false_iff]
  intro hstarts
  unfold startsWith at hstarts
  rw [hsteps, List.isPrefixOf_iff_prefix] at hstarts
  -- as many steps as the longer text has, so the rest plays no part
  have hshort : (ofText s).components <+: (ofText (s ++ more)).components :=
    List.prefix_of_prefix_length_le hstarts (List.prefix_append _ _) (Nat.le_of_eq hlength)
  rcases (startsWith_ofText_iff hs hlong).1 (List.isPrefixOf_iff_prefix.2 hshort) with hsame | hgoes
  · exact hmore (by simpa using hsame)
  · obtain ⟨other, hother⟩ := hgoes
    rw [String.append_assoc, String.append_right_inj] at hother
    exact hslash (by simp [hother])

end Path
end LayeredRoots
