import LayeredRoots.Marker
import LayeredRoots.Proofs.Path.Above
import LayeredRoots.Proofs.Path.Prefixes
import Mathlib.Data.List.TakeWhile

/-! # The directory of a mapped library

    A line of the table of mapped files shows a path if it has a `/` in it, and
    whatever stands from there on is the path, blanks included.  A library is
    mapped where the last step of such a path is its name.  The path may go on
    behind the name with what is no step, and no other name will do, however much
    it looks alike.

    * `mappedPath?_eq_some_iff`: which path a line shows.
    * `Path.EndsInName.exists_parent?`: the name joined to the directory above is the mapped
      path again.
    * `mapped_library_found_iff`: **the first line that shows the name settles the
      search.** -/

namespace LayeredRoots

/-! ### Lines of the table -/

/-- The line shows a path: it stands from the first `/` on. -/
def ShowsFile (line : String) (path : Path) : Prop :=
  ∃ front rest, line = front ++ "/" ++ rest ∧ '/' ∉ front.toList ∧ path = Path.ofText ("/" ++ rest)

/-- The last step of the path is the name. -/
def Path.EndsInName (p : Path) (name : String) : Prop :=
  p.components.getLast? = some (.name (Text.encode name))

/-- The line shows a path with the name at its end. -/
def ShowsNamed (name line : String) : Prop := ∃ path, ShowsFile line path ∧ path.EndsInName name

theorem mappedPath?_of_no_slash {line : String} (h : '/' ∉ line.toList) :
    mappedPath? line = none := by
  have hnone : line.toList.dropWhile (· ≠ '/') = [] := by
    rw [List.dropWhile_eq_nil_iff]
    intro c hc
    simpa using fun heq : c = '/' => h (heq ▸ hc)
  rw [mappedPath?, hnone]

theorem mappedPath?_append {front : String} (h : '/' ∉ front.toList) (rest : String) :
    mappedPath? (front ++ "/" ++ rest) = some (Path.ofText ("/" ++ rest)) := by
  have hrest : (front ++ "/" ++ rest).toList.dropWhile (· ≠ '/') = ("/" ++ rest).toList := by
    rw [String.append_assoc, String.toList_append, List.dropWhile_append_of_pos]
    · rw [String.toList_append]
      rfl
    · intro c hc
      simpa using fun heq : c = '/' => h (heq ▸ hc)
  have hne : ("/" ++ rest).toList ≠ [] := by simp
  rw [mappedPath?, hrest]
  split
  · next hnil => exact absurd hnil hne
  · rw [String.ofList_toList]

theorem mappedPath?_eq_some_iff {line : String} {path : Path} :
    mappedPath? line = some path ↔ ShowsFile line path := by
  constructor
  · intro h
    by_cases hslash : '/' ∈ line.toList
    · obtain ⟨front, rest, hline, hfront⟩ := List.eq_append_cons_of_mem hslash
      have hsplit : line = String.ofList front ++ "/" ++ String.ofList rest := by
        rw [← String.toList_inj, hline]
        simp
      have hfront' : '/' ∉ (String.ofList front).toList := by rwa [String.toList_ofList]
      rw [hsplit, mappedPath?_append hfront'] at h
      exact ⟨_, _, hsplit, hfront', (Option.some.inj h).symm⟩
    · rw [mappedPath?_of_no_slash hslash] at h
      cases h
  · rintro ⟨front, rest, rfl, hfront, rfl⟩
    exact mappedPath?_append hfront rest

theorem isAbsolute_of_showsFile {line : String} {path : Path} (h : ShowsFile line path) :
    path.isAbsolute = true := by
  obtain ⟨front, rest, -, -, rfl⟩ := h
  have hslash : Text.encode "/" = [slash] := by decide +kernel
  simp [Path.isAbsolute, Path.ofText, Text.encode_append, hslash]

/-- A line shows one path at most. -/
theorem ShowsFile.unique {line : String} {path other : Path} (h : ShowsFile line path)
    (hother : ShowsFile line other) : path = other :=
  Option.some.inj ((mappedPath?_eq_some_iff.2 h).symm.trans (mappedPath?_eq_some_iff.2 hother))

/-! ### Names -/

namespace Path

theorem fileName?_eq_some_iff {p : Path} {bytes : Bytes} :
    p.fileName? = some bytes ↔ p.components.getLast? = some (.name bytes) := by
  unfold fileName?
  split
  · next other hlast => simp [hlast]
  · next hlast =>
    refine iff_of_false (by simp) ?_
    intro h
    exact hlast bytes h

/-- A step that is a name is a piece of the path. -/
theorem mem_pieces_of_name {p : Path} {bytes : Bytes} (h : .name bytes ∈ p.components) :
    bytes ∈ p.pieces ∧ Component.ofPiece? bytes = some (.name bytes) := by
  obtain ⟨head, rest, hp⟩ := List.exists_cons_of_ne_nil p.pieces_ne_nil
  have hpiece : ∃ piece ∈ p.pieces, Component.ofPiece? piece = some (.name bytes) := by
    rw [components_of_pieces hp] at h
    rcases List.mem_append.1 h with hlead | hrest
    · refine ⟨head, by rw [hp]; exact List.mem_cons_self, ?_⟩
      rw [Option.mem_toList, leadOf] at hlead
      split at hlead
      · cases hlead
      · split at hlead
        · cases hlead
        · exact hlead
    · obtain ⟨piece, hpiece, hstep⟩ := List.mem_filterMap.1 hrest
      exact ⟨piece, by rw [hp]; exact List.mem_cons_of_mem _ hpiece, hstep⟩
  obtain ⟨piece, hmem, hstep⟩ := hpiece
  obtain rfl : bytes = piece := bytes_of_ofPiece? hstep
  exact ⟨hmem, hstep⟩

section name

variable {p : Path} {name : String} (h : p.EndsInName name)
include h

theorem EndsInName.mem : .name (Text.encode name) ∈ p.components := List.mem_of_getLast? h

/-- The name at the end of a path is none of the pieces that mean something else. -/
theorem EndsInName.ne : name ≠ "" ∧ name ≠ "." ∧ name ≠ ".." := by
  have hstep := (mem_pieces_of_name h.mem).2
  refine ⟨?_, ?_, ?_⟩ <;>
  · rintro rfl
    exact absurd hstep (by decide +kernel)

/-- The name at the end of a path is the only piece of its own path. -/
theorem EndsInName.pieces : (ofText name).pieces = [Text.encode name] :=
  List.splitOn_eq_singleton (slash_not_mem_pieces (mem_pieces_of_name h.mem).1)

theorem EndsInName.no_slash : '/' ∉ name.toList := by
  intro hmem
  have hslash : slash ∈ Text.encode name :=
    List.mem_flatMap.2 ⟨'/', hmem, (slash_mem_utf8EncodeChar '/').2 rfl⟩
  exact slash_not_mem_pieces (mem_pieces_of_name h.mem).1 hslash

theorem EndsInName.steps : (ofText name).steps = [.name (Text.encode name)] := by
  rw [Path.steps, h.pieces, List.filterMap_cons_some (mem_pieces_of_name h.mem).2]
  rfl

theorem EndsInName.isAbsolute : (ofText name).isAbsolute = false := by
  rw [Bool.eq_false_iff]
  intro habsolute
  obtain ⟨-, hrest⟩ := (isAbsolute_iff h.pieces).1 habsolute
  exact hrest rfl

/-- **Up and down again.**  The name joined to what lies above an absolute path is
    the same path. -/
theorem EndsInName.exists_parent? (habsolute : p.isAbsolute = true) :
    ∃ dir, p.parent? = some dir ∧ dir.isAbsolute = true ∧ (dir.joinText name).same p = true := by
  obtain ⟨above, habove⟩ := List.getLast?_eq_some_iff.1 h
  obtain ⟨dir, hdir, hsteps⟩ := Path.exists_parent? habove (by simp)
  have hroot : dir.isAbsolute = true := (isAbsolute_parent? hdir).trans habsolute
  refine ⟨dir, hdir, hroot, decide_eq_true ?_⟩
  rw [joinText, components_join (isEmpty_of_isAbsolute hroot) h.isAbsolute, h.steps, hsteps, habove]

end name
end Path

/-! ### The first line -/

section name

variable {maps name : String}

theorem not_showsNamed_of_no_slash {line : String} (h : '/' ∉ line.toList) :
    ¬ ShowsNamed name line := by
  rintro ⟨path, hpath, -⟩
  rw [← mappedPath?_eq_some_iff, mappedPath?_of_no_slash h] at hpath
  cases hpath

/-- A line that shows a path with another last step does not show the name. -/
theorem not_showsNamed_of_last {line : String} {path : Path} {last : Component}
    (hline : ShowsFile line path) (hlast : path.components.getLast? = some last)
    (hne : last ≠ .name (Text.encode name)) : ¬ ShowsNamed name line := by
  rintro ⟨other, hother, hname⟩
  obtain rfl := hline.unique hother
  exact hne (Option.some.inj (hlast.symm.trans hname))

/-- The test that a search puts a line to. -/
def showsNamed? (name line : String) : Bool :=
  (mappedPath? line).any fun path => path.fileName? = some (Text.encode name)

theorem showsNamed?_iff {line : String} : showsNamed? name line = true ↔ ShowsNamed name line := by
  unfold showsNamed?
  cases hpath : mappedPath? line with
  | none =>
    refine iff_of_false (by simp) ?_
    rintro ⟨path, hline, -⟩
    rw [← mappedPath?_eq_some_iff, hpath] at hline
    cases hline
  | some path =>
    have hline := mappedPath?_eq_some_iff.1 hpath
    rw [Option.any_some, decide_eq_true_iff, Path.fileName?_eq_some_iff]
    constructor
    · intro hname
      exact ⟨path, hline, hname⟩
    · rintro ⟨other, hother, hname⟩
      rwa [hline.unique hother]

instance (name line : String) : Decidable (ShowsNamed name line) :=
  decidable_of_iff _ showsNamed?_iff

theorem mappedDirectory?_eq_bind :
    mappedDirectory? maps name =
      ((Text.lines maps).find? (showsNamed? name)).bind
        fun line => (mappedPath? line).bind Path.parent? := by
  rw [mappedDirectory?, List.find?_filterMap, Option.bind_assoc]
  rfl

theorem mappedDirectory?_of_first {before after : List String} {line : String} {path : Path}
    (hlines : Text.lines maps = before ++ line :: after)
    (hbefore : ∀ other ∈ before, ¬ ShowsNamed name other) (hline : ShowsFile line path)
    (hname : path.EndsInName name) : mappedDirectory? maps name = path.parent? := by
  have hfirst : (Text.lines maps).find? (showsNamed? name) = some line := by
    rw [List.find?_eq_some_iff_append]
    refine ⟨showsNamed?_iff.2 ⟨path, hline, hname⟩, before, after, hlines, ?_⟩
    intro other hother
    rw [Bool.not_eq_true', Bool.eq_false_iff, Ne, showsNamed?_iff]
    exact hbefore other hother
  rw [mappedDirectory?_eq_bind, hfirst, Option.bind_some, mappedPath?_eq_some_iff.2 hline,
    Option.bind_some]

theorem mappedDirectory?_eq_none (h : ∀ line ∈ Text.lines maps, ¬ ShowsNamed name line) :
    mappedDirectory? maps name = none := by
  have hnone : (Text.lines maps).find? (showsNamed? name) = none := by
    rw [List.find?_eq_none]
    intro line hline
    rw [showsNamed?_iff]
    exact h line hline
  rw [mappedDirectory?_eq_bind, hnone, Option.bind_none]

/-- Of the lines that show the name one is the first. -/
theorem exists_first_showsNamed {lines : List String} (h : ∃ line ∈ lines, ShowsNamed name line) :
    ∃ before line after path, lines = before ++ line :: after ∧
      (∀ other ∈ before, ¬ ShowsNamed name other) ∧ ShowsFile line path ∧ path.EndsInName name := by
  cases hfind : lines.find? (showsNamed? name) with
  | none =>
    obtain ⟨line, hline, hshows⟩ := h
    exact absurd (showsNamed?_iff.2 hshows) (List.find?_eq_none.1 hfind line hline)
  | some line =>
    obtain ⟨htaken, before, after, hlines, hbefore⟩ := List.find?_eq_some_iff_append.1 hfind
    obtain ⟨path, hline, hname⟩ := showsNamed?_iff.1 htaken
    refine ⟨before, line, after, path, hlines, ?_, hline, hname⟩
    intro other hother hshows
    have hpassed := hbefore other hother
    rw [showsNamed?_iff.2 hshows] at hpassed
    cases hpassed

/-- A library lies in an absolute directory. -/
theorem isAbsolute_mappedDirectory? {dir : Path} (h : mappedDirectory? maps name = some dir) :
    dir.isAbsolute = true := by
  obtain ⟨path, hnamed, hparent⟩ := Option.bind_eq_some_iff.1 h
  obtain ⟨line, -, hpath⟩ := List.mem_filterMap.1 (List.mem_of_find?_eq_some hnamed)
  rw [Path.isAbsolute_parent? hparent]
  exact isAbsolute_of_showsFile (mappedPath?_eq_some_iff.1 hpath)

end name

/-- **The directory of a mapped library.**  There is one exactly if a line shows a
    path with the name at its end.  It is what lies above the path on the first such
    line, an absolute path, and the name joined to it leads back to that path.  Lines
    without a `/` do not count, nor do those whose path has another last step,
    whatever it has in common with the name.  What is no name at all is never found. -/
theorem mapped_library_found_iff (maps name : String) :
    ((∃ dir, mappedDirectory? maps name = some dir) ↔
      ∃ line ∈ Text.lines maps, ShowsNamed name line) ∧
    (∀ dir, mappedDirectory? maps name = some dir →
      ∃ before line after path, Text.lines maps = before ++ line :: after ∧
        (∀ other ∈ before, ¬ ShowsNamed name other) ∧
        ShowsFile line path ∧ path.EndsInName name ∧ path.parent? = some dir ∧
        dir.isAbsolute = true ∧ (dir.joinText name).same path = true) ∧
    (∀ line, '/' ∉ line.toList → ¬ ShowsNamed name line) ∧
    (∀ line path last, ShowsFile line path → path.components.getLast? = some last →
      last ≠ .name (Text.encode name) → ¬ ShowsNamed name line) ∧
    (name = "" ∨ name = "." ∨ name = ".." ∨ '/' ∈ name.toList →
      mappedDirectory? maps name = none) := by
  have hfound : (∃ dir, mappedDirectory? maps name = some dir) →
      ∃ line ∈ Text.lines maps, ShowsNamed name line := by
    rintro ⟨dir, hdir⟩
    by_contra hnone
    push Not at hnone
    rw [mappedDirectory?_eq_none hnone] at hdir
    cases hdir
  refine ⟨⟨hfound, ?_⟩, ?_, fun line => not_showsNamed_of_no_slash,
    fun line path last => not_showsNamed_of_last, ?_⟩
  · intro hshows
    obtain ⟨before, line, after, path, hlines, hbefore, hline, hname⟩ :=
      exists_first_showsNamed hshows
    obtain ⟨dir, hdir, -⟩ := hname.exists_parent? (isAbsolute_of_showsFile hline)
    exact ⟨dir, (mappedDirectory?_of_first hlines hbefore hline hname).trans hdir⟩
  · intro dir hdir
    obtain ⟨before, line, after, path, hlines, hbefore, hline, hname⟩ :=
      exists_first_showsNamed (hfound ⟨dir, hdir⟩)
    obtain ⟨above, habove, hproperties⟩ := hname.exists_parent? (isAbsolute_of_showsFile hline)
    have hfirst := mappedDirectory?_of_first hlines hbefore hline hname
    obtain rfl : above = dir := Option.some.inj (habove.symm.trans (hfirst.symm.trans hdir))
    exact ⟨before, line, after, path, hlines, hbefore, hline, hname, habove, hproperties⟩
  · intro hname
    apply mappedDirectory?_eq_none
    rintro line - ⟨path, -, hends⟩
    obtain ⟨hempty, hhere, hup⟩ := hends.ne
    rcases hname with h | h | h | h
    · exact hempty h
    · exact hhere h
    · exact hup h
    · exact hends.no_slash h

/-- A table with a longer name, a name within a name, a removed file and no path at
    all in front of the library, which is written with loose ends and blanks. -/
theorem mapped_library_found_iff_nearMisses :
    let maps := "1 /a/xlib.so\n2 /lib.so/b\n3 /c/lib.so (deleted)\n4 lib.so\n5 /d  e/./lib.so/.\n6 /f/lib.so"
    mappedDirectory? maps "lib.so" = some (Path.ofText "/d  e") ∧
    (∃ line ∈ Text.lines maps, ShowsNamed "lib.so" line) ∧ mappedDirectory? maps ".." = none := by
  intro maps
  have hdir : mappedDirectory? maps "lib.so" = some (Path.ofText "/d  e") := by decide +kernel
  refine ⟨hdir, (mapped_library_found_iff maps "lib.so").1.1 ⟨_, hdir⟩, ?_⟩
  exact (mapped_library_found_iff maps "..").2.2.2.2 (by simp)

end LayeredRoots
