import LayeredRoots.Text.Blank
import LayeredRoots.Text.Lines

/-! # Texts written line by line

    Lines are read back as they were written, whichever line ends were used and
    whether the last line has one.  The rows must not end in what belongs to a
    line end, and the last must not be empty.

    Where blank lines do not count, less is asked of the rows: a blank one may
    be anything without a line feed in it.

    * `lines_of_written`: all lines are read back.
    * `contentLines_of_written`: so are the lines with something on them.
    * `contentLines_append`: a line feed between two texts divides their lines. -/

namespace LayeredRoots.Text

/-! ### One line -/

theorem lineChars_cons {row : List Char} (hrow : '\n' ∉ row) (rest : List Char) :
    lineChars (row ++ '\n' :: rest) = dropReturn row :: lineChars rest := by
  have hsplit : (row ++ '\n' :: rest).splitOn '\n' = row :: rest.splitOn '\n' :=
    List.splitOn_append_cons_self_of_not_mem hrow rest
  -- there is a piece behind the line feed, so the first is not the last
  obtain ⟨piece, more, hrest⟩ := List.exists_cons_of_ne_nil (List.splitOn_ne_nil '\n' rest)
  unfold lineChars
  rw [hsplit, hrest]
  dsimp only
  rw [List.dropLast_cons_cons, List.map_cons, List.cons_append]
  rfl

theorem lineChars_last {row : List Char} (hrow : '\n' ∉ row) (hne : row ≠ []) :
    lineChars row = [row] := by
  unfold lineChars
  rw [List.splitOn_eq_singleton hrow]
  simp [hne]

theorem dropReturn_of_getLast?_ne {row : List Char} (h : row.getLast? ≠ some '\r') :
    dropReturn row = row := by
  rw [dropReturn, if_neg h]

theorem dropReturn_append_return (row : List Char) : dropReturn (row ++ ['\r']) = row := by
  simp [dropReturn]

theorem lines_empty : lines "" = [] := rfl

section row

variable {row : String} (hfeed : '\n' ∉ row.toList)
include hfeed

/-- The first line of a text with a line feed in it. -/
theorem lines_cons (rest : String) :
    lines (row ++ "\n" ++ rest) = String.ofList (dropReturn row.toList) :: lines rest := by
  have hchars : (row ++ "\n" ++ rest).toList = row.toList ++ '\n' :: rest.toList := by simp
  unfold lines
  rw [hchars, lineChars_cons hfeed, List.map_cons]

theorem lines_feed (hreturn : row.toList.getLast? ≠ some '\r') (rest : String) :
    lines (row ++ "\n" ++ rest) = row :: lines rest := by
  rw [lines_cons hfeed, dropReturn_of_getLast?_ne hreturn, String.ofList_toList]

theorem lines_returnFeed (rest : String) : lines (row ++ "\r\n" ++ rest) = row :: lines rest := by
  have hchars : (row ++ "\r\n" ++ rest).toList = (row.toList ++ ['\r']) ++ '\n' :: rest.toList := by
    simp
  have hfeed' : '\n' ∉ row.toList ++ ['\r'] := by simp [hfeed]
  unfold lines
  rw [hchars, lineChars_cons hfeed', dropReturn_append_return, List.map_cons,
    String.ofList_toList]

theorem lines_last (hne : row ≠ "") : lines row = [row] := by
  have hchars : row.toList ≠ [] := by simpa using hne
  unfold lines
  rw [lineChars_last hfeed hchars, List.map_singleton, String.ofList_toList]

end row

/-! ### All lines -/

/-- A text that is written row by row.  Each row has a line end of either kind
    behind it, except that the last may do without. -/
inductive Written : List String → String → Prop where
  | nil : Written [] ""
  | last (row : String) : Written [row] row
  | feed (row : String) {rows : List String} {rest : String} (h : Written rows rest) :
      Written (row :: rows) (row ++ "\n" ++ rest)
  | returnFeed (row : String) {rows : List String} {rest : String} (h : Written rows rest) :
      Written (row :: rows) (row ++ "\r\n" ++ rest)

/-- A row that is read back as it was written. -/
structure IsRow (row : String) : Prop where
  nonempty : row ≠ ""
  noFeed   : '\n' ∉ row.toList
  noReturn : row.toList.getLast? ≠ some '\r'

/-- **Reading back.**  The lines of a text are the rows that it was written in. -/
theorem lines_of_written {rows : List String} {text : String} (h : Written rows text)
    (hrows : ∀ row ∈ rows, IsRow row) : lines text = rows := by
  induction h with
  | nil => exact lines_empty
  | last row =>
    have hrow := hrows row List.mem_cons_self
    exact lines_last hrow.noFeed hrow.nonempty
  | feed row h ih =>
    have hrow := hrows row List.mem_cons_self
    have hrest := ih fun other hmem => hrows other (List.mem_cons_of_mem _ hmem)
    rw [lines_feed hrow.noFeed hrow.noReturn, hrest]
  | returnFeed row h ih =>
    have hrow := hrows row List.mem_cons_self
    have hrest := ih fun other hmem => hrows other (List.mem_cons_of_mem _ hmem)
    rw [lines_returnFeed hrow.noFeed, hrest]

/-! ### Lines with something on them -/

/-- The lines of a text that are not blank. -/
def contentLines (s : String) : List String := (lines s).filter (!isBlank ·)

/-- A blank line stays blank without a carriage return at its end. -/
theorem isBlank_dropReturn {row : String} (h : isBlank row = true) :
    isBlank (String.ofList (dropReturn row.toList)) = true := by
  unfold isBlank at h ⊢
  rw [String.toList_ofList, List.all_eq_true]
  intro c hc
  have hmem : c ∈ row.toList := by
    unfold dropReturn at hc
    split at hc
    · exact List.dropLast_subset _ hc
    · exact hc
  exact List.all_eq_true.1 h c hmem

section content

variable {row : String} (hfeed : '\n' ∉ row.toList)
include hfeed

/-- The first line comes before those of the rest. -/
theorem contentLines_cons (rest : String) :
    contentLines (row ++ "\n" ++ rest) =
      [String.ofList (dropReturn row.toList)].filter (!isBlank ·) ++ contentLines rest := by
  unfold contentLines
  rw [lines_cons hfeed, ← List.filter_append, List.singleton_append]

theorem contentLines_last : contentLines row = [row].filter (!isBlank ·) := by
  unfold contentLines
  by_cases hrow : row = ""
  · subst hrow
    rfl
  · rw [lines_last hfeed hrow]

theorem contentLines_feed (hreturn : isBlank row = false → row.toList.getLast? ≠ some '\r')
    (rest : String) :
    contentLines (row ++ "\n" ++ rest) = [row].filter (!isBlank ·) ++ contentLines rest := by
  rw [contentLines_cons hfeed]
  -- a blank row may lose a carriage return, but it does not count either way
  cases hblank : isBlank row with
  | true => simp [hblank, isBlank_dropReturn hblank]
  | false => rw [dropReturn_of_getLast?_ne (hreturn hblank), String.ofList_toList]

theorem contentLines_returnFeed (rest : String) :
    contentLines (row ++ "\r\n" ++ rest) = [row].filter (!isBlank ·) ++ contentLines rest := by
  unfold contentLines
  rw [lines_returnFeed hfeed, ← List.filter_append, List.singleton_append]

end content

/-- **Reading back what counts.**  The lines of a text that are not blank are
    the rows that are not. -/
theorem contentLines_of_written {rows : List String} {text : String} (h : Written rows text)
    (hfeed : ∀ row ∈ rows, '\n' ∉ row.toList)
    (hreturn : ∀ row ∈ rows, isBlank row = false → row.toList.getLast? ≠ some '\r') :
    contentLines text = rows.filter (!isBlank ·) := by
  induction h with
  | nil => rfl
  | last row => exact contentLines_last (hfeed row List.mem_cons_self)
  | @feed row rows rest h ih =>
    have hrest := ih (fun other hmem => hfeed other (List.mem_cons_of_mem _ hmem))
      (fun other hmem => hreturn other (List.mem_cons_of_mem _ hmem))
    rw [contentLines_feed (hfeed row List.mem_cons_self) (hreturn row List.mem_cons_self), hrest,
      ← List.filter_append, List.singleton_append]
  | @returnFeed row rows rest h ih =>
    have hrest := ih (fun other hmem => hfeed other (List.mem_cons_of_mem _ hmem))
      (fun other hmem => hreturn other (List.mem_cons_of_mem _ hmem))
    rw [contentLines_returnFeed (hfeed row List.mem_cons_self), hrest, ← List.filter_append,
      List.singleton_append]

/-! ### Two texts -/

/-- Induction on the line feeds of a text. -/
theorem induction_on_feeds {motive : String → Prop}
    (last : ∀ row : String, '\n' ∉ row.toList → motive row)
    (feed : ∀ row rest : String, '\n' ∉ row.toList → motive rest → motive (row ++ "\n" ++ rest))
    (text : String) : motive text := by
  by_cases h : '\n' ∈ text.toList
  · obtain ⟨row, rest, htext, hrow⟩ := List.eq_append_cons_of_mem h
    have hsplit : text = String.ofList row ++ "\n" ++ String.ofList rest := by
      rw [← String.toList_inj, htext]
      simp
    have hshort : rest.length < text.toList.length := by
      rw [htext, List.length_append, List.length_cons]
      omega
    have hrest : motive (String.ofList rest) := induction_on_feeds last feed (String.ofList rest)
    rw [hsplit]
    exact feed _ _ (by rwa [String.toList_ofList]) hrest
  · exact last text h
termination_by text.toList.length
decreasing_by simpa using hshort

/-- **Two texts.**  The lines on both sides of a line feed are those of either
    side, unless a carriage return in front of it is taken for a line end. -/
theorem contentLines_append {a : String} (h : a.toList.getLast? ≠ some '\r') (b : String) :
    contentLines (a ++ "\n" ++ b) = contentLines a ++ contentLines b := by
  induction a using induction_on_feeds with
  | last row hfeed =>
    rw [contentLines_feed hfeed (fun _ => h), contentLines_last hfeed]
  | feed row rest hfeed ih =>
    have hrest : rest.toList.getLast? ≠ some '\r' := by
      intro hlast
      apply h
      rw [String.toList_append, List.getLast?_append, hlast]
      rfl
    have hassoc : row ++ "\n" ++ rest ++ "\n" ++ b = row ++ "\n" ++ (rest ++ "\n" ++ b) := by
      simp only [String.append_assoc]
    rw [hassoc, contentLines_cons hfeed, contentLines_cons hfeed, ih hrest, List.append_assoc]

end LayeredRoots.Text
