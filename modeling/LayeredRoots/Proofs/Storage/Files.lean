import LayeredRoots.Proofs.Path.Above
import LayeredRoots.Storage.Disk

/-! # What files promise

    A resolver takes any answers about paths.  Some properties of a search need
    answers that fit together, as those of a disk and of files in memory do:

    - nothing is both a directory and a regular file (`Files.Separate`);
    - what lies below a root does not depend on how the root is written, for two
      given roots (`Files.AlikeAt`) or for all (`Files.AlikeBelow`). -/

namespace LayeredRoots

/-- Nothing is both a directory and a regular file. -/
structure Files.Separate (files : Files) : Prop where
  isFile_of_isDir : ∀ path, files.isDir path = true → files.isFile path = false

theorem Files.Separate.isDir_of_isFile {files : Files} (h : files.Separate) {path : Path}
    (hfile : files.isFile path = true) : files.isDir path = false := by
  cases hdir : files.isDir path with
  | false => rfl
  | true => exact absurd hfile (by simp [h.isFile_of_isDir path hdir])

/-- A text leads to the same from two ways to write a root. -/
structure Files.AlikeAt (files : Files) (root other : Path) (text : String) : Prop where
  isDir  : files.isDir (root.joinText text) = files.isDir (other.joinText text)
  isFile : files.isFile (root.joinText text) = files.isFile (other.joinText text)

/-- What is joined to a root is answered for alike, however the root is
    written. -/
structure Files.AlikeBelow (files : Files) : Prop where
  isDir  : ∀ root other : Path, root.same other = true → ∀ resource,
    files.isDir (root.joinText resource) = files.isDir (other.joinText resource)
  isFile : ∀ root other : Path, root.same other = true → ∀ resource,
    files.isFile (root.joinText resource) = files.isFile (other.joinText resource)

theorem Files.AlikeBelow.alikeAt {files : Files} (h : files.AlikeBelow) {root other : Path}
    (hsame : root.same other = true) (text : String) : files.AlikeAt root other text :=
  ⟨h.isDir root other hsame text, h.isFile root other hsame text⟩

/-! ### Files in memory -/

namespace MemoryFiles

/-- Files in memory are separate if nothing was added as both. -/
theorem separate_view {m : MemoryFiles}
    (h : ∀ d ∈ m.dirs, ∀ f ∈ m.files, d.components ≠ f.components) : m.view.Separate where
  isFile_of_isDir path hdir := by
    simp only [view, holds, List.any_eq_true, decide_eq_true_eq] at hdir
    obtain ⟨d, hd, hpath⟩ := hdir
    simp only [view, holds, List.any_eq_false, decide_eq_true_eq]
    intro f hf hsame
    exact h d hd f hf (hpath.trans hsame.symm)

theorem holds_congr (paths : List Path) {p q : Path} (h : p.components = q.components) :
    holds paths p = holds paths q := by
  simp only [holds, h]

theorem alikeBelow_view (m : MemoryFiles) : m.view.AlikeBelow where
  isDir root other h resource := by
    have hsteps : root.components = other.components := of_decide_eq_true h
    exact holds_congr m.dirs (Path.components_join_congr hsteps _)
  isFile root other h resource := by
    have hsteps : root.components = other.components := of_decide_eq_true h
    exact holds_congr m.files (Path.components_join_congr hsteps _)

/-- A new file brings along the directories above it. -/
theorem isDir_addFile {m : MemoryFiles} {p q : Path} {below : List Component}
    (h : p.components = q.components ++ below) (hbelow : Component.root ∉ below)
    (hne : below ≠ []) (hq : q.isEmpty = false) : (m.addFile p).view.isDir q = true := by
  obtain ⟨parent, hparent, hsteps⟩ := Path.exists_mem_parents h hbelow hne
  have hnonempty : parent.isEmpty = false := by
    rw [← Bool.not_eq_true, ← Path.components_eq_nil_iff, hsteps, Path.components_eq_nil_iff, hq]
    simp
  have hmem : parent ∈ above p ++ m.dirs := by
    simp [above, hparent, hnonempty]
  exact List.any_eq_true.2 ⟨parent, hmem, decide_eq_true hsteps⟩

theorem isFile_addFile (m : MemoryFiles) (p : Path) : (m.addFile p).view.isFile p = true := by
  simp [addFile, view, holds]

end MemoryFiles

/-! ### Files on disk -/

namespace Disk

/-- **One piece** with others behind it is refused, or it is gone and the others
    are followed from another place.  A link puts pieces in front of them, and
    leaves fewer links. -/
theorem follow_cons (d : Disk) (links : Nat) (here : Place) (piece : Bytes) :
    (∃ fault, ∀ rest, rest ≠ [] → d.follow links here (piece :: rest) = .error fault) ∨
    ∃ left next more, (left < links ∨ left = links ∧ more = []) ∧
      ∀ rest, rest ≠ [] → d.follow links here (piece :: rest) = d.follow left next (more ++ rest) := by
  by_cases hdir : d.entry? here = some .dir
  · by_cases hidle : piece = [] ∨ piece = [dot]
    · refine .inr ⟨links, here, [], .inr ⟨rfl, rfl⟩, fun rest _ => ?_⟩
      rw [follow, if_neg (not_not_intro hdir), if_pos hidle, List.nil_append]
    by_cases hup : piece = [dot, dot]
    · refine .inr ⟨links, here.tail, [], .inr ⟨rfl, rfl⟩, fun rest _ => ?_⟩
      rw [follow, if_neg (not_not_intro hdir), if_neg hidle, if_pos hup, List.nil_append]
    by_cases hlong : maxName < piece.length
    · refine .inl ⟨.nameTooLong, fun rest _ => ?_⟩
      rw [follow, if_neg (not_not_intro hdir), if_neg hidle, if_neg hup, if_pos hlong]
    cases hentry : d.entry? (piece :: here) with
    | none =>
      refine .inl ⟨.notFound, fun rest hrest => ?_⟩
      rw [follow, if_neg (not_not_intro hdir), if_neg hidle, if_neg hup, if_neg hlong, hentry]
      exact if_neg (by simpa using hrest)
    | some entry =>
      cases entry with
      | dir | file | device =>
        refine .inr ⟨links, piece :: here, [], .inr ⟨rfl, rfl⟩, fun rest _ => ?_⟩
        rw [follow, if_neg (not_not_intro hdir), if_neg hidle, if_neg hup, if_neg hlong, hentry]
        rfl
      | link target =>
        cases links with
        | zero =>
          refine .inl ⟨.tooManyLinks, fun rest _ => ?_⟩
          rw [follow, if_neg (not_not_intro hdir), if_neg hidle, if_neg hup, if_neg hlong, hentry]
        | succ left =>
          refine .inr ⟨left, if target.isAbsolute then [] else here, target.pieces,
            .inl (Nat.lt_succ_self left), fun rest _ => ?_⟩
          rw [follow, if_neg (not_not_intro hdir), if_neg hidle, if_neg hup, if_neg hlong, hentry]
  · refine .inl ⟨.notADirectory, fun rest _ => ?_⟩
    rw [follow, if_pos hdir]

/-- The place that pieces lead to, if no link is on the way. -/
def walk? (d : Disk) (here : Place) : List Bytes → Option Place
  | [] => some here
  | piece :: rest =>
    if d.entry? here ≠ some .dir then none
    else if piece = [] ∨ piece = [dot] then d.walk? here rest
    else if piece = [dot, dot] then d.walk? here.tail rest
    else if maxName < piece.length then none
    else
      match d.entry? (piece :: here) with
      | none | some (.link _) => none
      | some _ => d.walk? (piece :: here) rest

/-- Following pieces goes the same way if no link is there. -/
theorem follow_of_walk? {d : Disk} {here place : Place} {pieces : List Bytes} (links : Nat)
    (h : d.walk? here pieces = some place) : d.follow links here pieces = .ok place := by
  induction pieces generalizing here with
  | nil =>
    rw [follow]
    exact congrArg Except.ok (Option.some.inj h)
  | cons piece rest ih =>
    rw [walk?] at h
    rw [follow]
    by_cases hdir : d.entry? here = some .dir
    · rw [if_neg (not_not_intro hdir)] at h ⊢
      by_cases hidle : piece = [] ∨ piece = [dot]
      · rw [if_pos hidle] at h ⊢
        exact ih h
      rw [if_neg hidle] at h ⊢
      by_cases hup : piece = [dot, dot]
      · rw [if_pos hup] at h ⊢
        exact ih h
      rw [if_neg hup] at h ⊢
      by_cases hlong : maxName < piece.length
      · rw [if_pos hlong] at h
        cases h
      rw [if_neg hlong] at h ⊢
      cases hentry : d.entry? (piece :: here) with
      | none =>
        rw [hentry] at h
        cases h
      | some e =>
        rw [hentry] at h
        cases e with
        | link target => cases h
        | dir | file | device => exact ih h
    · rw [if_pos hdir] at h
      cases h

/-- The entry that a path leads to without any link. -/
def direct? (d : Disk) (o : Origin) (p : Path) : Option Entry :=
  match o.start p with
  | .ok (some (here, pieces)) => (d.walk? here pieces).bind d.entry?
  | _ => none

theorem find_of_direct? {d : Disk} {o : Origin} {p : Path} {e : Entry}
    (h : d.direct? o p = some e) : d.find o p = .ok e := by
  unfold direct? at h
  split at h
  · next here pieces hstart =>
    obtain ⟨place, hplace, he⟩ := Option.bind_eq_some_iff.1 h
    have hfollow := follow_of_walk? maxLinks hplace
    simp only [find, hstart, hfollow, he, bind, Except.bind, pure, Except.pure]
  · cases h

theorem isDir_of_direct? {d : Disk} {o : Origin} {p : Path} (h : d.direct? o p = some .dir) :
    (d.view o).isDir p = true := by
  simp only [view, Storage.ofEntries, find_of_direct? h]

theorem isFile_of_direct? {d : Disk} {o : Origin} {p : Path} (content : Bytes)
    (h : d.direct? o p = some (.file content)) : (d.view o).isFile p = true := by
  simp only [view, Storage.ofEntries, find_of_direct? h]

theorem read_of_direct? {d : Disk} {o : Origin} {p : Path} {content : Bytes}
    (h : d.direct? o p = some (.file content)) : (d.view o).read p = .ok content := by
  simp only [view, Storage.ofEntries, find_of_direct? h]

end Disk

/-- A disk has one entry at a place. -/
theorem Disk.separate_view (d : Disk) (o : Origin) : (d.view o).toFiles.Separate where
  isFile_of_isDir path h := by
    simp only [Disk.view, Storage.ofEntries] at h ⊢
    cases hfind : d.find o path with
    | error fault => rfl
    | ok entry => cases entry <;> simp_all

end LayeredRoots
