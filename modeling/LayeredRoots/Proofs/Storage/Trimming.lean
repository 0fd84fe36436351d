import LayeredRoots.Proofs.Path.Trimming
import LayeredRoots.Proofs.Storage.Files

/-! # What lies below a trimmed base

    Whoever recovers a directory by going up gets it without the separators and
    `.` at its end.  On a disk that makes no difference to what lies below: such
    pieces ask for a directory, and so does every piece behind them.  Only the
    path becomes shorter, so a place that was within the limit stays there.

    * `Files.TrimsBases`: the promise.
    * `Disk.follow_append_idle`: pieces that stand for no step lead nowhere else.
    * `Disk.trimsBases_view`, `MemoryFiles.trimsBases_view`: a disk and files in
      memory keep the promise. -/

namespace LayeredRoots

/-- A directory below a base is there below the trimmed base, too. -/
structure Files.TrimsBases (files : Files) : Prop where
  isDir : ∀ base : Path, base.isEmpty = false → ∀ resource,
    files.isDir (base.joinText resource) = true →
      files.isDir (base.trimmed.joinText resource) = true

/-- Files that do not mind how a base is written do not mind its end. -/
theorem Files.AlikeBelow.trimsBases {files : Files} (h : files.AlikeBelow) : files.TrimsBases where
  isDir base hbase resource hdir := by
    have hsame : base.same base.trimmed = true :=
      decide_eq_true (Path.components_trimmed hbase).symm
    rw [← h.isDir base base.trimmed hsame resource]
    exact hdir

theorem MemoryFiles.trimsBases_view (m : MemoryFiles) : m.view.TrimsBases :=
  m.alikeBelow_view.trimsBases

/-! ### Shorter paths -/

namespace Path

/-- Fewer pieces are fewer bytes. -/
theorem intercalate_sublist {sep : Bytes} {few many : List Bytes} (h : few.Sublist many) :
    (sep.intercalate few).Sublist (sep.intercalate many) := by
  induction h with
  | slnil => exact List.Sublist.refl _
  | @cons few many piece h ih =>
    by_cases hmany : many = []
    · subst hmany
      rw [List.sublist_nil.1 h]
      exact List.nil_sublist _
    · rw [List.intercalate_cons_of_ne_nil hmany]
      exact ih.trans (List.sublist_append_right _ _)
  | @cons_cons few many piece h ih =>
    by_cases hfew : few = []
    · subst hfew
      by_cases hmany : many = []
      · rw [hmany]
      · rw [List.intercalate_cons_of_ne_nil hmany]
        simp
    · have hmany : many ≠ [] := by
        intro hnil
        exact hfew (List.sublist_nil.1 (hnil ▸ h))
      rw [List.intercalate_cons_of_ne_nil hmany, List.intercalate_cons_of_ne_nil hfew]
      exact ih.append_left _

theorem bytes_sublist {p q : Path} (h : q.pieces.Sublist p.pieces) : q.bytes.Sublist p.bytes := by
  have hq : [slash].intercalate q.pieces = q.bytes := List.intercalate_splitOn slash
  have hp : [slash].intercalate p.pieces = p.bytes := List.intercalate_splitOn slash
  rw [← hq, ← hp]
  exact intercalate_sublist h

end Path

/-! ### Pieces that stand for no step -/

namespace Disk

/-- What a path has to be to be followed at all. -/
theorem checks_of_start {o : Origin} {p : Path} {start : Option (Place × List Bytes)}
    (h : o.start p = .ok start) :
    (0 : UInt8) ∉ p.bytes ∧ ¬p.isEmpty = true ∧ ¬pathLimit ≤ p.bytes.length := by
  unfold Origin.start at h
  by_cases hzero : (0 : UInt8) ∈ p.bytes
  · rw [if_pos hzero] at h
    cases h
  · rw [if_neg hzero] at h
    by_cases hempty : p.isEmpty = true
    · rw [if_pos hempty] at h
      cases h
    · rw [if_neg hempty] at h
      by_cases hlimit : pathLimit ≤ p.bytes.length
      · rw [if_pos hlimit] at h
        cases h
      · exact ⟨hzero, hempty, hlimit⟩

section idle

variable {idle : List Bytes} (hidle : ∀ piece ∈ idle, Component.ofPiece? piece = none)
include hidle

/-- A directory that was removed is left by the first piece that stands for a
    step. -/
theorem dropWhile_idle (front back : List Bytes) :
    let isIdle : Bytes → Bool := fun piece => piece = [] ∨ piece = [dot]
    ((front ++ (idle ++ back)).dropWhile isIdle = (front ++ back).dropWhile isIdle) ∨
      ∃ piece rest, (front ++ (idle ++ back)).dropWhile isIdle = piece :: (rest ++ (idle ++ back)) ∧
        (front ++ back).dropWhile isIdle = piece :: (rest ++ back) := by
  intro isIdle
  have hdrop : (idle ++ back).dropWhile isIdle = back.dropWhile isIdle := by
    apply List.dropWhile_append_of_pos
    intro piece hpiece
    exact decide_eq_true (Component.ofPiece?_eq_none_iff.1 (hidle piece hpiece))
  have happend : ∀ more, (front ++ more).dropWhile isIdle =
      if (front.dropWhile isIdle).isEmpty then more.dropWhile isIdle
      else front.dropWhile isIdle ++ more := fun more => List.dropWhile_append
  rw [happend, happend]
  cases hfront : front.dropWhile isIdle with
  | nil =>
    left
    simpa using hdrop
  | cons piece rest =>
    right
    exact ⟨piece, rest, by simp, by simp⟩

variable {back : List Bytes} (hback : back ≠ [])
include hback

/-- In front of further pieces they lead nowhere. -/
theorem follow_idle_append (d : Disk) (links : Nat) (here : Place) :
    d.follow links here (idle ++ back) = d.follow links here back := by
  induction idle with
  | nil => rfl
  | cons piece rest ih =>
    have hpiece : piece = [] ∨ piece = [dot] :=
      Component.ofPiece?_eq_none_iff.1 (hidle piece List.mem_cons_self)
    have hrest := ih fun x hx => hidle x (List.mem_cons_of_mem _ hx)
    rw [List.cons_append, follow]
    by_cases hdir : d.entry? here = some .dir
    · rw [if_neg (by simp [hdir]), if_pos hpiece]
      exact hrest
    · -- whatever comes behind asks for the same directory
      obtain ⟨next, more, hnext⟩ := List.exists_cons_of_ne_nil hback
      rw [if_pos hdir, hnext, follow, if_pos hdir]

/-- **Following** is not changed by pieces that stand for no step, unless they
    come last. -/
theorem follow_append_idle (d : Disk) (links : Nat) (here : Place) (front : List Bytes) :
    d.follow links here (front ++ (idle ++ back)) = d.follow links here (front ++ back) := by
  -- a link starts anew with fewer links left, all other pieces get fewer
  induction links using Nat.strongRecOn generalizing here front with
  | _ links fewer =>
    induction front generalizing here with
    | nil => exact follow_idle_append hidle hback d links here
    | cons piece rest ih =>
      have hlong : rest ++ (idle ++ back) ≠ [] := by simp [hback]
      have hshort : rest ++ back ≠ [] := by simp [hback]
      rcases follow_cons d links here piece with ⟨fault, hfault⟩ | ⟨left, next, more, hleft, hnext⟩
      · rw [List.cons_append, List.cons_append, hfault _ hlong, hfault _ hshort]
      · rw [List.cons_append, List.cons_append, hnext _ hlong, hnext _ hshort]
        rcases hleft with hleft | ⟨rfl, rfl⟩
        · simpa only [List.append_assoc] using fewer left hleft next (more ++ rest)
        · exact ih next

section find

variable {p q : Path} {head : Bytes} {front : List Bytes}
    (hp : p.pieces = (head :: front) ++ (idle ++ back)) (hq : q.pieces = (head :: front) ++ back)
include hp hq

omit hidle in
theorem isAbsolute_of_idle : q.isAbsolute = p.isAbsolute := by
  have hlong : front ++ (idle ++ back) ≠ [] := by simp [hback]
  have hshort : front ++ back ≠ [] := by simp [hback]
  rw [Bool.eq_iff_iff, Path.isAbsolute_iff hp, Path.isAbsolute_iff hq]
  constructor
  · intro h
    exact ⟨h.1, hlong⟩
  · intro h
    exact ⟨h.1, hshort⟩

/-- Following starts at the same place, with the pieces in question still to
    come or dropped already. -/
theorem start_of_idle {o : Origin} {start : Option (Place × List Bytes)}
    (h : o.start p = .ok start) :
    o.start q = .ok start ∨ ∃ here rest, start = some (here, rest ++ (idle ++ back)) ∧
      o.start q = .ok (some (here, rest ++ back)) := by
  have hsub : q.bytes.Sublist p.bytes := by
    apply Path.bytes_sublist
    rw [hp, hq]
    exact (List.sublist_append_right _ _).append_left _
  have hempty : ¬q.isEmpty = true := by
    rw [Bool.not_eq_true]
    exact (Path.isEmpty_eq_false_iff hq).2 (.inr (by simp [hback]))
  obtain ⟨hzero, hnonempty, hlimit⟩ := checks_of_start h
  have hzero' : (0 : UInt8) ∉ q.bytes := fun hmem => hzero (hsub.subset hmem)
  have hlimit' : ¬pathLimit ≤ q.bytes.length := by
    have hlength := hsub.length_le
    omega
  have habsolute := isAbsolute_of_idle hback hp hq
  unfold Origin.start at h ⊢
  rw [if_neg hzero, if_neg hnonempty, if_neg hlimit] at h
  rw [if_neg hzero', if_neg hempty, if_neg hlimit', habsolute]
  by_cases hroot : p.isAbsolute = true
  · rw [if_pos hroot] at h ⊢
    right
    exact ⟨[], head :: front, by rw [← hp]; exact (Except.ok.inj h).symm, by rw [hq]⟩
  · rw [if_neg hroot] at h ⊢
    cases o with
    | dir place =>
      right
      exact ⟨place, head :: front, by rw [← hp]; exact (Except.ok.inj h).symm, by rw [hq]⟩
    | removed above =>
      rw [hp] at h
      rw [hq]
      rcases dropWhile_idle hidle (head :: front) back with hsame | ⟨piece, rest, hlong, hshort⟩
      · left
        simpa only [hsame] using h
      · simp only [hlong] at h
        simp only [hshort]
        by_cases hup : piece = [dot, dot]
        · rw [if_pos hup] at h ⊢
          right
          exact ⟨above, rest, (Except.ok.inj h).symm, rfl⟩
        · rw [if_neg hup] at h
          cases h

/-- **What a path leads to** is found without those pieces as well. -/
theorem find_of_idle {d : Disk} {o : Origin} {e : Entry} (h : d.find o p = .ok e) :
    d.find o q = .ok e := by
  unfold find at h ⊢
  cases hstart : o.start p with
  | error fault =>
    rw [hstart] at h
    cases h
  | ok start =>
    rw [hstart] at h
    rcases start_of_idle hidle hback hp hq hstart with hsame | ⟨here, rest, hsome, hother⟩
    · rw [hsame]
      exact h
    · rw [hsome] at h
      rw [hother]
      simp only [bind, Except.bind, follow_append_idle hidle hback] at h ⊢
      exact h

end find

end idle

/-- **A disk** has below a trimmed base what it has below the base. -/
theorem find_join_trimmed {d : Disk} {o : Origin} {base tail : Path} {e : Entry}
    (hbase : base.isEmpty = false) (h : d.find o (base.join tail) = .ok e) :
    d.find o (base.trimmed.join tail) = .ok e := by
  cases htail : tail.isAbsolute with
  | true =>
    rw [Path.join_of_isAbsolute htail] at h ⊢
    exact h
  | false =>
    obtain ⟨head, rest, hp⟩ := List.exists_cons_of_ne_nil base.pieces_ne_nil
    obtain ⟨kept, hjoin, hkept⟩ := Path.exists_pieces_join_cons hbase htail hp
    obtain ⟨idle, hsplit, hidle⟩ := Path.exists_append_of_trimPieces kept
    have hlong : (base.join tail).pieces =
        (head :: Path.trimPieces rest) ++ (idle ++ tail.pieces) := by
      rw [hjoin, hsplit, hkept, List.append_assoc, List.cons_append]
    have hshort : (base.trimmed.join tail).pieces =
        (head :: Path.trimPieces rest) ++ tail.pieces :=
      Path.pieces_join_trimmed hbase htail hp
    exact find_of_idle hidle tail.pieces_ne_nil hlong hshort h

theorem trimsBases_view (d : Disk) (o : Origin) : (d.view o).toFiles.TrimsBases where
  isDir base hbase resource hdir := by
    simp only [view, Storage.ofEntries] at hdir ⊢
    cases hfind : d.find o (base.joinText resource) with
    | error fault => simp [hfind] at hdir
    | ok entry =>
      have htrimmed : d.find o (base.trimmed.joinText resource) = .ok entry :=
        find_join_trimmed hbase hfind
      rw [hfind] at hdir
      rw [htrimmed]
      exact hdir

end Disk
end LayeredRoots
