import LayeredRoots.Command.Sink

/-! # Room in a sink

    A sink counts the line feeds in it, and takes no more text once there are as
    many as it has room for.  Whether it takes a line to its end is a matter of
    its line feeds alone, however the line is cut into pieces:

    - it does if there is room for all of them (`takes`);
    - otherwise it breaks the line off (`BreaksOff`): from the start if it was full
      before, else behind a line feed that stands in the line itself.

    * `exists_writeAll`: pieces are taken until the sink is full.
    * `writeLine_of_takes`, `exists_writeLine`: the two ways a line can go. -/

namespace LayeredRoots.Command.Sink

variable {s t : Sink} {piece text cut : String} {pieces : List String}

/-! ### Line feeds -/

/-- How many line feeds there are in a text. -/
def feeds (text : String) : Nat := text.toList.count '\n'

@[simp] theorem feeds_append (a b : String) : feeds (a ++ b) = feeds a + feeds b := by
  simp [feeds]

@[simp] theorem feeds_lineFeed : feeds "\n" = 1 := by decide

theorem feeds_pos_iff : 0 < feeds text ↔ '\n' ∈ text.toList := List.count_pos_iff

/-- There is room as long as fewer line feeds are in the sink than its limit
    says. -/
theorem hasRoom_iff : s.hasRoom = true ↔ ∀ n, s.limit = some n → s.lines < n := by
  unfold hasRoom
  cases s.limit <;> simp

/-! ### More text -/

/-- The sink with more text in it, whether there was room for it or not. -/
def more (s : Sink) (text : String) : Sink := { s with text := s.text ++ text }

@[simp] theorem more_empty (s : Sink) : s.more "" = s := by
  simp [more]

theorem more_more (s : Sink) (a b : String) : (s.more a).more b = s.more (a ++ b) := by
  simp [more, String.append_assoc]

@[simp] theorem limit_more (s : Sink) (text : String) : (s.more text).limit = s.limit := rfl

@[simp] theorem lines_more (s : Sink) (text : String) :
    (s.more text).lines = s.lines + feeds text := by
  simp [more, lines, feeds]

/-- A sink with room had room before. -/
theorem hasRoom_of_more (h : (s.more text).hasRoom = true) : s.hasRoom = true := by
  rw [hasRoom_iff] at h ⊢
  intro n hn
  have hlines := h n hn
  rw [lines_more] at hlines
  omega

/-- What fills a sink has a line feed in it. -/
theorem feed_mem_of_full (hroom : s.hasRoom = true) (hfull : (s.more text).hasRoom = false) :
    '\n' ∈ text.toList := by
  rw [← feeds_pos_iff, Nat.pos_iff_ne_zero]
  intro hfeeds
  have hstill : (s.more text).hasRoom = true := by
    rw [hasRoom_iff] at hroom ⊢
    simpa [hfeeds] using hroom
  rw [hstill] at hfull
  cases hfull

/-! ### Whole lines -/

/-- Whether there is room for a text with all its line feeds.  There is always
    room for nothing. -/
def takes (s : Sink) (text : String) : Bool :=
  text.isEmpty || s.limit.all (s.lines + feeds text ≤ ·)

@[simp] theorem takes_empty (s : Sink) : s.takes "" = true := rfl

theorem takes_iff :
    s.takes text = true ↔ text = "" ∨ ∀ n, s.limit = some n → s.lines + feeds text ≤ n := by
  unfold takes
  cases s.limit <;> simp

theorem takes_of_unlimited (h : s.limit = none) (text : String) : s.takes text = true := by
  rw [takes_iff]
  simp [h]

/-- There is room for two texts if there is for the first, and then for the
    second. -/
theorem takes_append (s : Sink) (a b : String) :
    s.takes (a ++ b) = (s.takes a && (s.more a).takes b) := by
  rw [Bool.eq_iff_iff, Bool.and_eq_true, takes_iff, takes_iff, takes_iff, limit_more, lines_more,
    feeds_append, String.append_eq_empty_iff]
  by_cases ha : a = ""
  · simp [ha, feeds]
  · by_cases hb : b = ""
    · simp [ha, hb, feeds]
    · simp only [ha, hb, false_or, false_and]
      constructor
      · intro h
        refine ⟨fun n hn => ?_, fun n hn => ?_⟩
        · have hlines := h n hn
          omega
        · have hlines := h n hn
          omega
      · rintro ⟨-, h⟩ n hn
        have hlines := h n hn
        omega

/-- A line is taken if there is room in front of its end. -/
theorem takes_line (s : Sink) (body : String) :
    s.takes (body ++ "\n") = (s.more body).hasRoom := by
  have hne : body ++ "\n" ≠ "" := by simp
  rw [Bool.eq_iff_iff, takes_iff, hasRoom_iff, limit_more, lines_more, feeds_append, feeds_lineFeed]
  simp only [hne, false_or]
  rfl

/-- What a sink holds of a line that it does not take to its end: what was
    taken until it was full.  The end of the line is not in it. -/
structure BreaksOff (s : Sink) (line cut : String) : Prop where
  front   : ∃ rest, line = cut ++ rest ++ "\n"
  full    : (s.more cut).hasRoom = false
  /-- A sink that was full before the line takes nothing of it. -/
  nothing : s.hasRoom = false → cut = ""
  /-- A sink with room is filled by a line feed in the line itself. -/
  feed    : s.hasRoom = true → '\n' ∈ cut.toList

/-- A line without line feeds of its own is refused from the start. -/
theorem BreaksOff.eq_empty {body : String} (h : s.BreaksOff (body ++ "\n") cut)
    (hbody : '\n' ∉ body.toList) : cut = "" := by
  obtain ⟨rest, hrest⟩ := h.front
  obtain rfl : body = cut ++ rest := (String.append_left_inj "\n").1 hrest
  by_cases hroom : s.hasRoom = true
  · -- then the cut would bring a line feed into the line
    refine absurd ?_ hbody
    rw [String.toList_append]
    exact List.mem_append_left _ (h.feed hroom)
  · exact h.nothing (by simpa using hroom)

/-! ### Pieces -/

theorem write?_eq_none_iff : s.write? piece = none ↔ piece ≠ "" ∧ s.hasRoom = false := by
  unfold write?
  by_cases hempty : piece = ""
  · simp [hempty]
  · simp [hempty]

/-- A piece is taken whole, and only where there is room for it. -/
theorem eq_more_of_write? (h : s.write? piece = some t) :
    t = s.more piece ∧ (piece = "" ∨ s.hasRoom = true) := by
  unfold write? at h
  split at h
  · next hempty =>
    have hpiece : piece = "" := by simpa using hempty
    obtain rfl := Option.some.inj h
    simp [hpiece]
  · split at h
    · next hroom => exact ⟨(Option.some.inj h).symm, .inr hroom⟩
    · cases h

/-- **Pieces are taken until the sink is full.**  A sink that is full from the
    start takes no text at all. -/
theorem exists_writeAll (s : Sink) (pieces : List String) :
    ∃ front back, pieces = front ++ back ∧
      s.writeAll pieces = (s.more (String.join front), back.isEmpty) ∧
      (back ≠ [] → (s.more (String.join front)).hasRoom = false) ∧
      (s.hasRoom = false → String.join front = "") := by
  induction pieces generalizing s with
  | nil => exact ⟨[], [], rfl, by simp [writeAll], by simp, by simp⟩
  | cons piece rest ih =>
    cases hwrite : s.write? piece with
    | none =>
      have hfull : s.hasRoom = false := (write?_eq_none_iff.1 hwrite).2
      exact ⟨[], piece :: rest, rfl, by simp [writeAll, hwrite], by simpa using hfull, by simp⟩
    | some t =>
      obtain ⟨rfl, hpiece⟩ := eq_more_of_write? hwrite
      obtain ⟨front, back, rfl, hfront, hfull, hnothing⟩ := ih (s.more piece)
      have hmore : (s.more piece).more (String.join front) =
          s.more (String.join (piece :: front)) := by
        rw [more_more, String.join_cons]
      rw [hmore] at hfront hfull
      refine ⟨piece :: front, back, rfl, ?_, hfull, ?_⟩
      · rw [writeAll, hwrite]
        exact hfront
      · -- without room only empty pieces are taken
        intro hroom
        obtain rfl : piece = "" := hpiece.resolve_right (by simp [hroom])
        rw [String.join_cons, hnothing (by simpa using hroom), String.append_empty]

theorem writeAll_append (s : Sink) (front back : List String) :
    s.writeAll (front ++ back) =
      if (s.writeAll front).2 then (s.writeAll front).1.writeAll back else s.writeAll front := by
  induction front generalizing s with
  | nil => simp [writeAll]
  | cons piece rest ih =>
    rw [List.cons_append, writeAll, writeAll]
    cases s.write? piece with
    | none => rfl
    | some t => exact ih t

/-! ### Lines in pieces -/

/-- The end of a line is taken if there is room for it. -/
theorem writeAll_lineFeed (s : Sink) :
    s.writeAll ["\n"] = if s.hasRoom then (s.more "\n", true) else (s, false) := by
  have hne : "\n".isEmpty = false := by decide
  cases hroom : s.hasRoom <;> simp [writeAll, write?, hroom, hne, more]

/-- A line that there is room for is written. -/
theorem writeLine_of_takes (h : s.takes (String.join pieces ++ "\n") = true) :
    s.writeLine pieces = (s.more (String.join pieces ++ "\n"), true) := by
  rw [takes_line] at h
  rw [writeLine, writeAll_append]
  obtain ⟨front, back, rfl, hfront, hfull, -⟩ := exists_writeAll s pieces
  cases back with
  | nil =>
    rw [List.append_nil] at h hfront ⊢
    simp [hfront, writeAll_lineFeed, h, more_more]
  | cons =>
    -- the sink would have been full before the end
    rw [String.join_append, ← more_more] at h
    rw [hasRoom_of_more h] at hfull
    cases hfull (by simp)

/-- A line that there is no room for is broken off. -/
theorem exists_writeLine (h : s.takes (String.join pieces ++ "\n") = false) :
    ∃ cut, s.writeLine pieces = (s.more cut, false) ∧
      s.BreaksOff (String.join pieces ++ "\n") cut := by
  rw [takes_line] at h
  rw [writeLine, writeAll_append]
  obtain ⟨front, back, rfl, hfront, hfull, hnothing⟩ := exists_writeAll s pieces
  have hbreaks : (s.more (String.join front)).hasRoom = false := by
    cases back with
    | nil => rwa [List.append_nil] at h
    | cons => exact hfull (by simp)
  refine ⟨String.join front, ?_, ⟨String.join back, by rw [String.join_append]⟩, hbreaks,
    hnothing, fun hroom => feed_mem_of_full hroom hbreaks⟩
  rw [hfront]
  cases back with
  | nil => simp [writeAll_lineFeed, hbreaks]
  | cons => simp

end LayeredRoots.Command.Sink
