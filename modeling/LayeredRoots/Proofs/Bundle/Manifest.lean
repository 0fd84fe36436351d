import LayeredRoots.Bundle.Runfiles
import LayeredRoots.Proofs.Config.Valid
import LayeredRoots.Proofs.Text.Lines
import Mathlib.Data.List.TakeDrop
import Mathlib.Data.Set.Defs

/-! # Manifests of a directory

    A manifest can list what lies in a directory: for each resource of a set
    that is a regular file there, a line with its name and its path.  The names
    are plain, so that the first space and the line end are found again.

    * `get?_ofText`: of the entries for a resource the last counts.
    * `ofLine_entryLine`: an entry is read back from its line.
    * `locate_of_lists`: such a manifest has what the directory has. -/

namespace LayeredRoots

namespace Entries

/-! ### Entries of a text -/

theorem get?_foldl_insert (rows : List (String × Path)) (es : Entries) (resource : String) :
    (rows.foldl (fun es row => es.insert row.1 row.2) es).get? resource =
      (rows.reverse.lookup resource).or (es.get? resource) := by
  induction rows generalizing es with
  | nil => simp
  | cons row rest ih =>
    obtain ⟨name, path⟩ := row
    rw [List.foldl_cons, ih, get?_insert, List.reverse_cons, List.lookup_append,
      List.lookup_cons, List.lookup_nil, Option.or_assoc]
    by_cases h : resource = name
    · simp [h]
    · have hb : (resource == name) = false := by simpa using h
      simp [h, hb]

/-- Of the entries for a resource the last counts. -/
theorem get?_ofText (contents resource : String) :
    (ofText contents).get? resource =
      (((Text.lines contents).filter (!Text.isBlank ·)).map ofLine).reverse.lookup resource := by
  have hfold : ofText contents =
      (((Text.lines contents).filter (!Text.isBlank ·)).map ofLine).foldl
        (fun es row => Entries.insert es row.1 row.2) [] := by
    rw [List.foldl_map]
    rfl
  rw [hfold, get?_foldl_insert]
  simp

/-- What is looked up where a name has one value or none. -/
theorem lookup_of_mem_iff {rows : List (String × Path)} {resource : String} {path : Path}
    {present : Bool} (h : ∀ other, (resource, other) ∈ rows ↔ present = true ∧ other = path) :
    rows.lookup resource = if present then some path else none := by
  cases hlookup : rows.lookup resource with
  | none =>
    have habsent : present ≠ true := by
      intro hpresent
      have hmem : (resource, path) ∈ rows := (h path).2 ⟨hpresent, rfl⟩
      have hne := List.lookup_eq_none_iff.1 hlookup _ hmem
      simp at hne
    rw [if_neg habsent]
  | some other =>
    obtain ⟨before, after, rfl, -⟩ := List.lookup_eq_some_iff.1 hlookup
    obtain ⟨hpresent, hother⟩ := (h other).1 (by simp)
    rw [if_pos hpresent, hother]

/-! ### One entry -/

/-- A name that leaves the first space and the end of a line alone. -/
structure Plain (resource : String) : Prop where
  noSpace  : ' ' ∉ resource.toList
  noReturn : '\r' ∉ resource.toList
  noFeed   : '\n' ∉ resource.toList

/-- The line of an entry. -/
def entryLine (resource path : String) : String := resource ++ " " ++ path

theorem ofLine_entryLine {resource : String} (h : ' ' ∉ resource.toList) (path : String) :
    ofLine (entryLine resource path) = (resource, Path.ofText path) := by
  have hspan : (entryLine resource path).toList.span (· ≠ ' ') =
      (resource.toList, ' ' :: path.toList) := by
    have hchars : (entryLine resource path).toList = resource.toList ++ ' ' :: path.toList := by
      simp [entryLine]
    have hplain : ∀ c ∈ resource.toList, decide (c ≠ ' ') = true := by
      intro c hc
      simpa using fun heq : c = ' ' => h (heq ▸ hc)
    rw [hchars, List.span_eq_takeWhile_dropWhile, List.takeWhile_append_of_pos hplain,
      List.dropWhile_append_of_pos hplain]
    simp
  unfold ofLine
  rw [hspan]
  simp

end Entries

/-! ### Paths below a directory -/

namespace Path

theorem mem_joined {base tail : String} {c : Char} (h : c ∈ (joined base tail).toList) :
    c ∈ base.toList ∨ c = '/' ∨ c ∈ tail.toList := by
  unfold joined at h
  split at h
  · exact .inr (.inr h)
  · split at h
    · simp only [String.toList_append, List.mem_append] at h
      tauto
    · simp only [String.toList_append, List.mem_append] at h
      have hslash : "/".toList = ['/'] := rfl
      rw [hslash, List.mem_singleton] at h
      tauto

theorem mem_slash_of_hasPrefix {s : String} (h : Text.hasPrefix "/" s = true) :
    '/' ∈ s.toList := by
  obtain ⟨rest, rfl⟩ := Text.hasPrefix_iff.1 h
  simp

section joined

variable {base : String} (hbase : Text.hasPrefix "/" base = true)
include hbase

theorem slash_mem_joined (tail : String) : '/' ∈ (joined base tail).toList := by
  have hmem := mem_slash_of_hasPrefix hbase
  unfold joined
  split
  · next h => exact mem_slash_of_hasPrefix h
  · split
    · simp [hmem]
    · simp [hmem]

/-- A path below a directory ends as the resource does, or in a separator. -/
theorem getLast?_joined (tail : String) :
    (joined base tail).toList.getLast? =
      if tail.isEmpty then some '/' else tail.toList.getLast? := by
  have hnonempty : base.isEmpty = false := by
    obtain ⟨rest, rfl⟩ := Text.hasPrefix_iff.1 hbase
    simp
  by_cases htail : tail = ""
  · subst htail
    have hrelative : Text.hasPrefix "/" "" = false := rfl
    unfold joined
    rw [hrelative, if_neg (by simp)]
    split
    · next h =>
      have hends : base.toList.getLast? = some '/' := by
        simpa [hnonempty, Text.endsIn] using h
      simpa using hends
    · simp
  · have hchars : tail.toList ≠ [] := by simpa using htail
    have hwritten : tail.isEmpty = false := by simpa using htail
    rw [hwritten, if_neg (by simp)]
    unfold joined
    split
    · rfl
    · split
      · rw [String.toList_append, List.getLast?_append_of_ne_nil _ hchars]
      · rw [String.toList_append, List.getLast?_append_of_ne_nil _ hchars]

end joined

end Path

/-! ### A manifest of a directory -/

namespace Entries

/-- The line of a plain name and of its path below a directory is a row. -/
theorem isRow_entryLine {base resource : String} (hbase : Text.hasPrefix "/" base = true)
    (hfeed : '\n' ∉ base.toList) (hplain : Plain resource) :
    Text.IsRow (entryLine resource (Path.joined base resource)) where
  nonempty := by simp [entryLine]
  noFeed := by
    intro h
    simp only [entryLine, String.toList_append, List.mem_append] at h
    rcases h with (h | h) | h
    · exact hplain.noFeed h
    · simp at h
    · rcases Path.mem_joined h with h | h | h
      · exact hfeed h
      · simp at h
      · exact hplain.noFeed h
  noReturn := by
    have hslash := Path.slash_mem_joined hbase resource
    have hne : (Path.joined base resource).toList ≠ [] := List.ne_nil_of_mem hslash
    rw [entryLine, String.toList_append, List.getLast?_append_of_ne_nil _ hne,
      Path.getLast?_joined hbase]
    split
    · simp
    · intro h
      exact hplain.noReturn (List.mem_of_getLast? h)

theorem isBlank_entryLine {base : String} (hbase : Text.hasPrefix "/" base = true)
    (resource : String) : Text.isBlank (entryLine resource (Path.joined base resource)) = false := by
  -- the path is absolute and has a separator at least
  rw [Text.isBlank, List.all_eq_false]
  refine ⟨'/', ?_, by decide⟩
  rw [entryLine, String.toList_append]
  exact List.mem_append_right _ (Path.slash_mem_joined hbase resource)

end Entries

namespace Runfiles

/-- A manifest of the regular files that a directory has for a set of
    resources: one line for each of them, in any order, with any line ends. -/
def Lists (files : Files) (dir : Path) (resources : Set String) (contents : String) : Prop :=
  ∃ rows, Text.Written rows contents ∧
    ∀ row, row ∈ rows ↔ ∃ resource ∈ resources, files.isFile (dir.joinText resource) = true ∧
      ∃ path, (dir.joinText resource).text? = some path ∧ row = Entries.entryLine resource path

section lists

variable {files : Files} {base contents : String} {resources : Set String}
    (hbase : Text.hasPrefix "/" base = true) (hfeed : '\n' ∉ base.toList)
    (hplain : ∀ resource ∈ resources, Entries.Plain resource)
    (hlists : Lists files (Path.ofText base) resources contents)
include hbase hfeed hplain hlists

/-- The entries of such a manifest are the resources that are regular files. -/
theorem mem_entries_of_lists (resource : String) (target : Path) :
    (resource, target) ∈ ((Text.lines contents).filter (!Text.isBlank ·)).map Entries.ofLine ↔
      resource ∈ resources ∧ files.isFile target = true ∧
        target = (Path.ofText base).joinText resource := by
  obtain ⟨rows, hwritten, hrows⟩ := hlists
  have hrow {row : String} (h : row ∈ rows) :
      ∃ name ∈ resources, files.isFile ((Path.ofText base).joinText name) = true ∧
        row = Entries.entryLine name (Path.joined base name) := by
    obtain ⟨name, hname, hfile, path, hpath, rfl⟩ := (hrows row).1 h
    rw [Path.joinText_ofText, Path.text?_ofText, Option.some_inj] at hpath
    exact ⟨name, hname, hfile, by rw [hpath]⟩
  have hlines : Text.lines contents = rows := Text.lines_of_written hwritten fun row h => by
    obtain ⟨name, hname, -, rfl⟩ := hrow h
    exact Entries.isRow_entryLine hbase hfeed (hplain name hname)
  have hkept : rows.filter (!Text.isBlank ·) = rows := by
    rw [List.filter_eq_self]
    intro row h
    obtain ⟨name, -, -, rfl⟩ := hrow h
    rw [Entries.isBlank_entryLine hbase name]
    rfl
  -- the rows are the lines, and what is left is to read each of them
  rw [hlines, hkept, List.mem_map]
  constructor
  · rintro ⟨row, h, hentry⟩
    obtain ⟨name, hname, hfile, rfl⟩ := hrow h
    rw [Entries.ofLine_entryLine (hplain name hname).noSpace, ← Path.joinText_ofText,
      Prod.mk.injEq] at hentry
    obtain ⟨rfl, rfl⟩ := hentry
    exact ⟨hname, hfile, rfl⟩
  · rintro ⟨hname, hfile, rfl⟩
    refine ⟨Entries.entryLine resource (Path.joined base resource), (hrows _).2 ?_, ?_⟩
    · exact ⟨resource, hname, hfile, Path.joined base resource,
        by rw [Path.joinText_ofText, Path.text?_ofText], rfl⟩
    · rw [Entries.ofLine_entryLine (hplain resource hname).noSpace, Path.joinText_ofText]

/-- **A manifest of a directory** has a resource of its set exactly where the
    directory has it. -/
theorem locate_of_lists {resource : String} (hresource : resource ∈ resources) (listing : Path) :
    ((ofManifest listing contents).locate files resource).toOption =
      ((directory (Path.ofText base)).locate files resource).toOption := by
  have hentries := mem_entries_of_lists hbase hfeed hplain hlists resource
  have hget : (Entries.ofText contents).get? resource =
      if files.isFile ((Path.ofText base).joinText resource) then
        some ((Path.ofText base).joinText resource)
      else none := by
    rw [Entries.get?_ofText]
    refine Entries.lookup_of_mem_iff fun target => ?_
    rw [List.mem_reverse, hentries target]
    constructor
    · rintro ⟨-, hfile, rfl⟩
      exact ⟨hfile, rfl⟩
    · rintro ⟨hfile, rfl⟩
      exact ⟨hresource, hfile, rfl⟩
  simp only [ofManifest, locate, hget]
  cases hfile : files.isFile ((Path.ofText base).joinText resource) with
  | true => simp [hfile]
  | false => rfl

end lists

end Runfiles
end LayeredRoots
