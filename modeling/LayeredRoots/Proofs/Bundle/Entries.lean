import LayeredRoots.Proofs.Bundle.Manifest
import Mathlib.Data.List.Nodup

/-! # What a manifest says

    A line of a manifest says where one resource is: the resource ends at the
    first space, and its path is all that follows, spaces included.  A line
    without a space names a resource that is its own path.  Blank lines say
    nothing, and of several lines about one resource the last counts.

    * `mem_ofText_iff`: the entries of a text are what its last lines say.
    * `get?_ofText_append`: a second manifest behind a first one overrides it.
    * `get?_ofText_of_prints`: a manifest printed from a map is read back as
      that map. -/

namespace LayeredRoots
namespace Entries

/-! ### One line -/

/-- What a line says. -/
inductive Says : String → String → Path → Prop where
  /-- A resource, the first space of the line, and a path. -/
  | pair (resource path : String) (hplain : ' ' ∉ resource.toList) :
      Says (entryLine resource path) resource (Path.ofText path)
  /-- A resource that is its own path. -/
  | alone (resource : String) (hplain : ' ' ∉ resource.toList) :
      Says resource resource (Path.ofText resource)

theorem ofLine_of_no_space {line : String} (h : ' ' ∉ line.toList) :
    ofLine line = (line, Path.ofText line) := by
  have hplain : ∀ c ∈ line.toList, decide (c ≠ ' ') = true := by
    intro c hc
    simpa using fun heq : c = ' ' => h (heq ▸ hc)
  have hspan : line.toList.span (· ≠ ' ') = (line.toList, []) := by
    rw [← List.append_nil line.toList, List.span_eq_takeWhile_dropWhile,
      List.takeWhile_append_of_pos hplain, List.dropWhile_append_of_pos hplain]
    simp
  unfold ofLine
  rw [hspan]

/-- A line is read as what it says. -/
theorem says_iff {line resource : String} {path : Path} :
    Says line resource path ↔ ofLine line = (resource, path) := by
  constructor
  · intro h
    cases h with
    | pair _ path hplain => exact ofLine_entryLine hplain path
    | alone _ hplain => exact ofLine_of_no_space hplain
  · intro h
    by_cases hspace : ' ' ∈ line.toList
    · -- the first space divides the line
      obtain ⟨before, after, hline, hbefore⟩ := List.eq_append_cons_of_mem hspace
      have hplain : ' ' ∉ (String.ofList before).toList := by rwa [String.toList_ofList]
      have hentry : line = entryLine (String.ofList before) (String.ofList after) := by
        rw [← String.toList_inj, hline]
        simp [entryLine]
      rw [hentry, ofLine_entryLine hplain, Prod.mk.injEq] at h
      obtain ⟨hresource, hpath⟩ := h
      rw [hentry, ← hresource, ← hpath]
      exact Says.pair _ _ hplain
    · rw [ofLine_of_no_space hspace, Prod.mk.injEq] at h
      obtain ⟨hresource, hpath⟩ := h
      rw [← hresource, ← hpath]
      exact Says.alone line hspace

/-! ### All lines -/

/-- What the last line about a resource says. -/
def LastSays (lines : List String) (resource : String) (path : Path) : Prop :=
  ∃ before line after, lines = before ++ line :: after ∧ Says line resource path ∧
    ∀ later ∈ after, ∀ other, ¬Says later resource other

theorem lookup_reverse_iff {lines : List String} {resource : String} {path : Path} :
    (lines.map ofLine).reverse.lookup resource = some path ↔ LastSays lines resource path := by
  unfold LastSays
  rw [List.lookup_eq_some_iff]
  constructor
  · intro h
    obtain ⟨back, front, hlines, hback⟩ := h
    rw [List.reverse_eq_append_iff, List.reverse_cons, List.append_assoc,
      List.singleton_append] at hlines
    obtain ⟨before, rest, hsplit, -, hrest⟩ := List.map_eq_append_iff.1 hlines
    obtain ⟨line, after, hcons, hline, hafter⟩ := List.map_eq_cons_iff.1 hrest
    refine ⟨before, line, after, by rw [hsplit, hcons], says_iff.2 hline, ?_⟩
    intro later hlater other hsays
    have hmem : ofLine later ∈ back := by
      rw [← List.mem_reverse, ← hafter]
      exact List.mem_map_of_mem hlater
    have hne := hback _ hmem
    rw [says_iff.1 hsays] at hne
    simp at hne
  · intro h
    obtain ⟨before, line, after, hlines, hline, hafter⟩ := h
    refine ⟨(after.map ofLine).reverse, (before.map ofLine).reverse, ?_, ?_⟩
    · rw [hlines, List.map_append, List.map_cons, says_iff.1 hline]
      simp
    · intro row hrow
      obtain ⟨later, hlater, hread⟩ := List.mem_map.1 (List.mem_reverse.1 hrow)
      have hother : resource ≠ row.1 := by
        intro heq
        exact hafter later hlater row.2 (says_iff.2 (by rw [hread, heq]))
      simpa using hother

/-- A resource is where the last line about it says. -/
theorem get?_ofText_iff {contents resource : String} {path : Path} :
    (ofText contents).get? resource = some path ↔
      LastSays (Text.contentLines contents) resource path := by
  rw [get?_ofText]
  exact lookup_reverse_iff

/-! ### One entry for each resource -/

theorem nodup_insert {es : Entries} (h : (es.map Prod.fst).Nodup) (resource : String)
    (path : Path) : ((es.insert resource path).map Prod.fst).Nodup := by
  unfold insert
  rw [List.map_cons, List.nodup_cons]
  constructor
  · intro hmem
    obtain ⟨e, he, hname⟩ := List.mem_map.1 hmem
    have hne := (List.mem_filter.1 he).2
    simp [hname] at hne
  · exact h.sublist (List.filter_sublist.map Prod.fst)

theorem nodup_ofText (contents : String) : ((ofText contents).map Prod.fst).Nodup := by
  have hfold : ∀ (lines : List String) (es : Entries), (es.map Prod.fst).Nodup →
      ((lines.foldl (fun es line => es.insert (ofLine line).1 (ofLine line).2) es).map
        Prod.fst).Nodup := by
    intro lines
    induction lines with
    | nil => exact fun es h => h
    | cons line rest ih =>
      intro es h
      exact ih _ (nodup_insert h _ _)
  exact hfold (Text.contentLines contents) [] List.nodup_nil

/-- With one entry for each resource, entries and look-ups are the same. -/
theorem mem_iff_get? {es : Entries} (h : (es.map Prod.fst).Nodup) {resource : String}
    {path : Path} : (resource, path) ∈ es ↔ es.get? resource = some path := by
  unfold get?
  rw [List.lookup_eq_some_iff]
  constructor
  · intro hmem
    obtain ⟨front, back, hes⟩ := List.append_of_mem hmem
    refine ⟨front, back, hes, ?_⟩
    intro e he
    rw [hes, List.map_append, List.map_cons, List.nodup_append] at h
    have hne : e.1 ≠ resource := h.2.2 e.1 (List.mem_map_of_mem he) resource List.mem_cons_self
    simpa using hne.symm
  · intro hfound
    obtain ⟨front, back, hes, -⟩ := hfound
    rw [hes]
    simp

/-- **Entries of a text** are what the last lines about resources say. -/
theorem mem_ofText_iff {contents resource : String} {path : Path} :
    (resource, path) ∈ ofText contents ↔
      LastSays (Text.contentLines contents) resource path := by
  rw [mem_iff_get? (nodup_ofText contents), get?_ofText_iff]

/-! ### Two manifests -/

/-- **A second manifest** behind a first one overrides it. -/
theorem get?_ofText_append {a : String} (h : a.toList.getLast? ≠ some '\r') (b resource : String) :
    (ofText (a ++ "\n" ++ b)).get? resource =
      ((ofText b).get? resource).or ((ofText a).get? resource) := by
  have hlookup : ∀ contents, (ofText contents).get? resource =
      ((Text.contentLines contents).map ofLine).reverse.lookup resource :=
    fun contents => get?_ofText contents resource
  rw [hlookup, hlookup, hlookup, Text.contentLines_append h, List.map_append, List.reverse_append,
    List.lookup_append]

/-! ### Printed manifests -/

/-- A resource and a path that a line can hold. -/
structure Listable (resource path : String) : Prop where
  plain    : Plain resource
  noFeed   : '\n' ∉ path.toList
  noReturn : path.toList.getLast? ≠ some '\r'
  /-- The line is not blank. -/
  content  : ¬(Text.isBlank resource = true ∧ Text.isBlank path = true)

theorem isBlank_entryLine_iff (resource path : String) :
    Text.isBlank (entryLine resource path) = true ↔
      Text.isBlank resource = true ∧ Text.isBlank path = true := by
  unfold Text.isBlank entryLine
  have hspace : " ".toList.all Text.isBlankChar = true := by decide
  simp only [String.toList_append, List.all_append, Bool.and_eq_true, hspace, and_true]

theorem getLast?_entryLine_ne {resource path : String}
    (h : path.toList.getLast? ≠ some '\r') :
    (entryLine resource path).toList.getLast? ≠ some '\r' := by
  unfold entryLine
  rw [String.toList_append, List.getLast?_append, String.toList_append, List.getLast?_append]
  cases hlast : path.toList.getLast? with
  | none => simp
  | some c =>
    rw [hlast] at h
    simpa using h

/-- The line of an entry is not blank, and it is read back as it was written. -/
theorem Listable.line_kept {resource path : String} (h : Listable resource path) :
    '\n' ∉ (entryLine resource path).toList ∧
      (entryLine resource path).toList.getLast? ≠ some '\r' ∧
      Text.isBlank (entryLine resource path) = false := by
  refine ⟨?_, getLast?_entryLine_ne h.noReturn, ?_⟩
  · simp [entryLine, h.plain.noFeed, h.noFeed]
  · rw [← Bool.not_eq_true, isBlank_entryLine_iff]
    exact h.content

/-- A text with one line for each entry, in any order and with any line ends,
    and blank lines anywhere. -/
def Prints (listed : List (String × String)) (contents : String) : Prop :=
  ∃ rows blanks, Text.Written rows contents ∧
    rows.Perm ((listed.map fun e => entryLine e.1 e.2) ++ blanks) ∧
    ∀ row ∈ blanks, Text.isBlank row = true ∧ '\n' ∉ row.toList

/-- Where every name is given once, the order of the entries does not matter. -/
theorem lookup_of_perm {es others : List (String × Path)} (h : es.Perm others)
    (hnodup : (es.map Prod.fst).Nodup) (resource : String) :
    es.lookup resource = others.lookup resource := by
  induction h with
  | nil => rfl
  | cons e h ih =>
    rw [List.map_cons, List.nodup_cons] at hnodup
    rw [List.lookup_cons, List.lookup_cons, ih hnodup.2]
  | swap e other rest =>
    obtain ⟨name, path⟩ := e
    obtain ⟨another, place⟩ := other
    simp only [List.map_cons, List.nodup_cons, List.mem_cons, not_or] at hnodup
    have hne : another ≠ name := hnodup.1.1
    simp only [List.lookup_cons]
    by_cases hname : resource = name
    · subst hname
      have hother : (resource == another) = false := by simpa using hne.symm
      simp [hother]
    · have hb : (resource == name) = false := by simpa using hname
      simp [hb]
  | trans h _ ih ih' =>
    have hmiddle := (h.map Prod.fst).nodup_iff.1 hnodup
    rw [ih hnodup, ih' hmiddle]

theorem lookup_map_ofText (listed : List (String × String)) (resource : String) :
    (listed.map fun e => (e.1, Path.ofText e.2)).lookup resource =
      (listed.lookup resource).map Path.ofText := by
  induction listed with
  | nil => rfl
  | cons e rest ih =>
    rw [List.map_cons, List.lookup_cons, List.lookup_cons, ih]
    cases resource == e.1 <;> rfl

section printed

variable {listed : List (String × String)} {contents : String}
    (hlistable : ∀ e ∈ listed, Listable e.1 e.2) (hprints : Prints listed contents)
include hlistable hprints

/-- The lines that count are those of the entries. -/
theorem contentLines_of_prints :
    (Text.contentLines contents).Perm (listed.map fun e => entryLine e.1 e.2) := by
  obtain ⟨rows, blanks, hwritten, hperm, hblanks⟩ := hprints
  have hentries : ∀ row ∈ listed.map fun e => entryLine e.1 e.2, '\n' ∉ row.toList ∧
      row.toList.getLast? ≠ some '\r' ∧ Text.isBlank row = false := by
    intro row hrow
    obtain ⟨e, he, hline⟩ := List.mem_map.1 hrow
    rw [← hline]
    exact (hlistable e he).line_kept
  have hfeed : ∀ row ∈ rows, '\n' ∉ row.toList := by
    intro row hrow
    rcases List.mem_append.1 (hperm.mem_iff.1 hrow) with hentry | hblank
    · exact (hentries row hentry).1
    · exact (hblanks row hblank).2
  have hreturn : ∀ row ∈ rows, Text.isBlank row = false → row.toList.getLast? ≠ some '\r' := by
    intro row hrow hcontent
    rcases List.mem_append.1 (hperm.mem_iff.1 hrow) with hentry | hblank
    · exact (hentries row hentry).2.1
    · rw [(hblanks row hblank).1] at hcontent
      cases hcontent
  have hkept : (listed.map fun e => entryLine e.1 e.2).filter (!Text.isBlank ·) =
      listed.map fun e => entryLine e.1 e.2 := by
    rw [List.filter_eq_self]
    intro row hrow
    simp [(hentries row hrow).2.2]
  have hdropped : blanks.filter (!Text.isBlank ·) = [] := by
    rw [List.filter_eq_nil_iff]
    intro row hrow
    simp [(hblanks row hrow).1]
  rw [Text.contentLines_of_written hwritten hfeed hreturn]
  have hrows := hperm.filter (!Text.isBlank ·)
  rw [List.filter_append, hkept, hdropped, List.append_nil] at hrows
  exact hrows

/-- **Reading back a map.**  A manifest that was printed from a map holds that
    map. -/
theorem get?_ofText_of_prints (hnodup : (listed.map Prod.fst).Nodup) (resource : String) :
    (ofText contents).get? resource = (listed.lookup resource).map Path.ofText := by
  have hlines := contentLines_of_prints hlistable hprints
  -- each line is read as the entry that it was printed from
  have hread : (listed.map fun e => entryLine e.1 e.2).map ofLine =
      listed.map fun e => (e.1, Path.ofText e.2) := by
    rw [List.map_map]
    apply List.map_congr_left
    intro e he
    exact ofLine_entryLine (hlistable e he).plain.noSpace e.2
  have hentries : ((Text.contentLines contents).map ofLine).reverse.Perm
      (listed.map fun e => (e.1, Path.ofText e.2)) := by
    rw [← hread]
    exact (List.reverse_perm _).trans (hlines.map ofLine)
  have hnames : (((Text.contentLines contents).map ofLine).reverse.map Prod.fst).Nodup := by
    rw [(hentries.map Prod.fst).nodup_iff, List.map_map]
    exact hnodup
  calc (ofText contents).get? resource
      = ((Text.contentLines contents).map ofLine).reverse.lookup resource :=
        get?_ofText contents resource
    _ = (listed.map fun e => (e.1, Path.ofText e.2)).lookup resource :=
        lookup_of_perm hentries hnames resource
    _ = (listed.lookup resource).map Path.ofText := lookup_map_ofText listed resource

end printed

/-- **What a manifest says.**  Its entries are what the last lines about
    resources say, one for each resource.  A line feed and another manifest
    override it.  Printed from a map, it holds that map. -/
theorem manifest_says_what_last_lines_say :
    (∀ contents resource path,
      ((resource, path) ∈ ofText contents ↔
        LastSays (Text.contentLines contents) resource path) ∧
      ((ofText contents).get? resource = some path ↔ (resource, path) ∈ ofText contents)) ∧
    (∀ a b : String, a.toList.getLast? ≠ some '\r' → ∀ resource,
      (ofText (a ++ "\n" ++ b)).get? resource =
        ((ofText b).get? resource).or ((ofText a).get? resource)) ∧
    (∀ (listed : List (String × String)) (contents : String), (listed.map Prod.fst).Nodup →
      (∀ e ∈ listed, Listable e.1 e.2) → Prints listed contents → ∀ resource,
      (ofText contents).get? resource = (listed.lookup resource).map Path.ofText) := by
  refine ⟨?_, ?_, ?_⟩
  · intro contents resource path
    exact ⟨mem_ofText_iff, (mem_iff_get? (nodup_ofText contents)).symm⟩
  · intro a b h resource
    exact get?_ofText_append h b resource
  · intro listed contents hnodup hlistable hprints resource
    exact get?_ofText_of_prints hlistable hprints hnodup resource

/-- A path with a space in it, and a resource that a second manifest moves. -/
def twoEntries : List (String × String) := [("p/a", "/b/a c"), ("p/d", "")]

/-- The two entries in the other order, with both line ends and blank lines. -/
def twoEntriesText : String := "\t\r\n" ++ ("p/d " ++ "\r\n" ++ ("" ++ "\n" ++ "p/a /b/a c"))

theorem listable_twoEntries : ∀ e ∈ twoEntries, Listable e.1 e.2 := by
  intro e he
  simp only [twoEntries, List.mem_cons, List.not_mem_nil, or_false] at he
  rcases he with he | he
  · subst he
    exact ⟨⟨by decide, by decide, by decide⟩, by decide, by decide, by decide +kernel⟩
  · subst he
    exact ⟨⟨by decide, by decide, by decide⟩, by decide, by decide, by decide +kernel⟩

theorem prints_twoEntries : Prints twoEntries twoEntriesText := by
  refine ⟨["\t", "p/d ", "", "p/a /b/a c"], ["\t", ""], ?_, by decide, by decide +kernel⟩
  exact .returnFeed _ (.returnFeed _ (.feed _ (.last _)))

/-- The text is read back as its two entries; a line behind it moves one of
    them and leaves the other, which is there on its last line only. -/
theorem manifest_says_what_last_lines_say_twoEntries :
    ((twoEntries.map Prod.fst).Nodup ∧ (∀ e ∈ twoEntries, Listable e.1 e.2) ∧
      Prints twoEntries twoEntriesText ∧ twoEntriesText.toList.getLast? ≠ some '\r') ∧
    (ofText (twoEntriesText ++ "\n" ++ "p/d")).get? "p/a" = some (Path.ofText "/b/a c") ∧
    (ofText (twoEntriesText ++ "\n" ++ "p/d")).get? "p/d" = some (Path.ofText "p/d") ∧
    LastSays (Text.contentLines twoEntriesText) "p/a" (Path.ofText "/b/a c") := by
  obtain ⟨hentries, happend, hprinted⟩ := manifest_says_what_last_lines_say
  have hlast : twoEntriesText.toList.getLast? ≠ some '\r' := by decide
  have hread := hprinted twoEntries twoEntriesText (by decide) listable_twoEntries prints_twoEntries
  have hsecond : (ofText "p/d").get? "p/a" = none ∧
      (ofText "p/d").get? "p/d" = some (Path.ofText "p/d") := by decide +kernel
  have hfound : (ofText twoEntriesText).get? "p/a" = some (Path.ofText "/b/a c") := hread "p/a"
  obtain ⟨hmem, hget⟩ := hentries twoEntriesText "p/a" (Path.ofText "/b/a c")
  refine ⟨⟨by decide, listable_twoEntries, prints_twoEntries, hlast⟩, ?_, ?_, ?_⟩
  · rw [happend twoEntriesText "p/d" hlast, hsecond.1, hfound]
    rfl
  · rw [happend twoEntriesText "p/d" hlast, hsecond.2]
    rfl
  · exact hmem.1 (hget.1 hfound)

end Entries
end LayeredRoots
