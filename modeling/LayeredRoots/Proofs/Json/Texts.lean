import LayeredRoots.Proofs.Json.Quoting

/-! # Objects of strings

    An object whose values are strings is one line of text, and reading the line
    gives back its members as they were, in their order:

    - no control character of a string gets into its written form, so no line
      feed does (`isPlain_writeTexts`);
    - a reader that takes such objects undoes the writer (`reads_texts`).

    * `readDocument_writeTexts`: **what is written is read back.**
    * `writeTexts_inj`: so different members have different written forms. -/

namespace LayeredRoots.Json

variable {fields fields' : List (String × String)}

/-! ### Reading -/

/-- The members behind the first, up to the end of their object. -/
def readMoreTexts : Reader (List (String × String))
  | .closeObject :: ts => .ok ([], ts)
  | .comma :: .text key :: .colon :: .text value :: ts =>
    match unitText? key, unitText? value with
    | some key, some value =>
      (readMoreTexts ts).map fun (fields, rest) => ((key, value) :: fields, rest)
    | _, _ => .error .malformed
  | .comma :: .text _ :: .colon :: ts => .error (wrongShape "a string" ts)
  | _ => .error .malformed

/-- An object of strings, member by member.  Nothing is skipped. -/
def readTexts : Reader (List (String × String))
  | .openObject :: .closeObject :: ts => .ok ([], ts)
  -- the first member is one that has no comma in front
  | .openObject :: ts => readMoreTexts (.comma :: ts)
  | ts => .error (wrongShape "an object of strings" ts)

/-- A member that gives a name a string. -/
structure Member.Says (m : Member) (field : String × String) : Prop where
  key   : unitText? m.key = some field.1
  value : WritesText field.2 m.value

/-- An object of strings, member by member. -/
def WritesTexts (fields : List (String × String)) (ts : List Token) : Prop :=
  ∃ members, List.Forall₂ Member.Says members fields ∧ ts = objectTokens members

theorem WritesTexts.isValue {ts : List Token} (h : WritesTexts fields ts) : IsValue ts := by
  obtain ⟨members, hmembers, rfl⟩ := h
  refine .object ?_
  induction hmembers with
  | nil => simp
  | cons hfield _ ih => exact List.forall_mem_cons.2 ⟨hfield.value.isValue, ih⟩

theorem readMoreTexts_of_members {members : List Member}
    (h : List.Forall₂ Member.Says members fields) (rest : List Token) :
    readMoreTexts (moreTokens (members.map Member.tokens) ++ .closeObject :: rest) =
      .ok (fields, rest) := by
  induction h with
  | nil => simp [readMoreTexts]
  | @cons m field members fields hfield _ ih =>
    obtain ⟨units, hunits, hvalue⟩ := hfield.value
    rw [moreTokens_map_cons, hvalue, List.singleton_append, readMoreTexts]
    simp only [hfield.key, hunits, ih, Except.map]

theorem reads_texts : Reads readTexts WritesTexts := by
  rintro fields - ⟨members, hmembers, rfl⟩ rest
  have hmore := readMoreTexts_of_members hmembers rest
  rw [objectTokens_append]
  cases hmembers with
  | nil => simp [readTexts]
  | @cons m field members fields hfield hrest =>
    -- without the comma in front the members are those of an object
    rw [moreTokens_map_cons] at hmore
    rw [rowTokens_map_cons]
    exact hmore

/-! ### Writing -/

theorem laidOut_texts (fields : List (String × String)) :
    LaidOut (WritesTexts fields) (writeTexts fields) := by
  have hmembers : ∃ members, List.Forall₂ Member.Says members fields ∧
      List.Forall₂ (fun (m : Member) field =>
        Lexeme (.text m.key) (quote field.1).toList ∧ Laid m.value field.2.toList)
        members (fields.map fun field => (field.1, quote field.2)) := by
    induction fields with
    | nil => exact ⟨[], .nil, .nil⟩
    | cons field fields ih =>
      obtain ⟨members, hfield, hlaid⟩ := ih
      obtain ⟨units, hunits, hlexeme⟩ := exists_lexeme_quote field.1
      obtain ⟨value, hvalue, hquote⟩ := laidOut_quote field.2
      exact ⟨⟨units, value⟩ :: members, .cons ⟨hunits, hvalue⟩ hfield,
        .cons ⟨hlexeme, hquote⟩ hlaid⟩
  obtain ⟨members, hfield, hlaid⟩ := hmembers
  exact ⟨objectTokens members, ⟨members, hfield, rfl⟩, laid_writeObject hlaid⟩

/-- **Reading back.**  Whatever characters are in its keys and values, an object
    of strings is read as it was written. -/
theorem readDocument_writeTexts (fields : List (String × String)) :
    readDocument readTexts (writeTexts fields) = .ok fields := by
  obtain ⟨ts, hts, hlaid⟩ := laidOut_texts fields
  have hread : readTexts ts = .ok (fields, []) := by simpa using reads_texts hts []
  rw [readDocument, tokens_of_laid hlaid hts.isValue.apart, hread]
  rfl

theorem writeTexts_inj (h : writeTexts fields = writeTexts fields') : fields = fields' := by
  -- the reader gets the same text and gives back what was written
  have hread := readDocument_writeTexts fields
  rw [h, readDocument_writeTexts] at hread
  exact (Except.ok.inj hread).symm

/-! ### One line -/

/-- A text without control characters. -/
def IsPlain (s : String) : Prop := ∀ c ∈ s.toList, 0x20 ≤ c.toNat

theorem IsPlain.append {a b : String} (ha : IsPlain a) (hb : IsPlain b) : IsPlain (a ++ b) := by
  intro c hc
  rw [String.toList_append, List.mem_append] at hc
  exact hc.elim (ha c) (hb c)

theorem IsPlain.intercalate {separator : String} (hseparator : IsPlain separator)
    {parts : List String} (hparts : ∀ part ∈ parts, IsPlain part) :
    IsPlain (separator.intercalate parts) := by
  induction parts with
  | nil => simp [IsPlain]
  | cons part parts ih =>
    obtain ⟨hpart, hrest⟩ := List.forall_mem_cons.1 hparts
    cases parts with
    | nil => simpa using hpart
    | cons next parts =>
      rw [String.intercalate_cons_cons]
      exact (hpart.append hseparator).append (ih hrest)

theorem hexDigit_plain {n : Nat} (hn : n < 16) : 0x20 ≤ (hexDigit n).toNat := by
  revert n
  decide

theorem escape_plain (c : Char) : ∀ d ∈ escape c, 0x20 ≤ d.toNat := by
  have hletter {letter : Char} (h : 0x20 ≤ letter.toNat) :
      ∀ d ∈ ['\\', letter], 0x20 ≤ d.toNat := by simp [h]
  unfold escape
  split_ifs with hquote hslash hback htab hfeed hform hreturn hcontrol
  any_goals exact hletter (by decide)
  · have hhigh := hexDigit_plain (by omega : c.toNat / 16 < 16)
    have hlow := hexDigit_plain (by omega : c.toNat % 16 < 16)
    simp [hhigh, hlow]
  · simpa using hcontrol

/-- No control character gets into a quoted string. -/
theorem isPlain_quote (s : String) : IsPlain (quote s) := by
  intro d hd
  rw [quote, String.toList_ofList, quoteChars, List.mem_cons, List.mem_append,
    List.mem_flatMap] at hd
  rcases hd with rfl | ⟨c, -, hd⟩ | hd
  · decide
  · exact escape_plain c d hd
  · obtain rfl := List.mem_singleton.1 hd
    decide

theorem isPlain_writeTexts (fields : List (String × String)) : IsPlain (writeTexts fields) := by
  have hopen : IsPlain "\x7b" := by simp [IsPlain]
  have hclose : IsPlain "\x7d" := by simp [IsPlain]
  have hcolon : IsPlain ":" := by simp [IsPlain]
  have hcomma : IsPlain "," := by simp [IsPlain]
  refine (hopen.append (hcomma.intercalate ?_)).append hclose
  intro part hpart
  obtain ⟨written, hwritten, rfl⟩ := List.mem_map.1 hpart
  obtain ⟨field, -, rfl⟩ := List.mem_map.1 hwritten
  exact ((isPlain_quote _).append hcolon).append (isPlain_quote _)

end LayeredRoots.Json
