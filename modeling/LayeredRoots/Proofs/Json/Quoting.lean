import LayeredRoots.Json.Writer
import LayeredRoots.Proofs.Json.Records

/-! # What the writers write

    The text that a writer makes is laid out in tokens that say what it was
    given (`LaidOut`): a string in one token, whatever characters are in it, and
    lists and objects in those of their parts.  So whatever reads these tokens
    undoes the writer. -/

namespace LayeredRoots.Json

/-- A text that is laid out in tokens of some kind. -/
def LaidOut (writes : List Token → Prop) (s : String) : Prop :=
  ∃ ts, writes ts ∧ Laid ts s.toList

theorem LaidOut.imp {writes writes' : List Token → Prop} (h : ∀ {ts}, writes ts → writes' ts)
    {s : String} (hs : LaidOut writes s) : LaidOut writes' s := by
  obtain ⟨ts, hts, hlaid⟩ := hs
  exact ⟨ts, h hts, hlaid⟩

/-! ### Strings -/

theorem hexDigit?_hexDigit {n : Nat} (hn : n < 16) : hexDigit? (hexDigit n) = some n := by
  revert n
  decide

/-- A control character in four digits. -/
theorem code?_of_lt {n : Nat} (hn : n < 0x20) :
    code? '0' '0' (hexDigit (n / 16)) (hexDigit (n % 16)) = some n := by
  have hzero : hexDigit? '0' = some 0 := by decide
  simp only [code?, hzero, hexDigit?_hexDigit (by omega : n / 16 < 16),
    hexDigit?_hexDigit (by omega : n % 16 < 16), Option.bind_eq_bind, Option.bind_some,
    Option.pure_def, Option.some.injEq]
  omega

theorem unitChars?_char (c : Char) (units : List TextUnit) :
    unitChars? (.char c :: units) = (unitChars? units).map (c :: ·) := by
  rw [unitChars?]

theorem unitChars?_code {c : Char} (hc : c.toNat < 0x20) (units : List TextUnit) :
    unitChars? (.code c.toNat :: units) = (unitChars? units).map (c :: ·) := by
  have hplain : c.toNat < 0xD800 ∨ 0xDFFF < c.toNat := .inl (by omega)
  rw [unitChars?.eq_def]
  simp only [if_pos hplain, Char.ofNat_toNat]

/-- A character is written as one element, which says this character. -/
theorem exists_spells_escape (c : Char) {units : List TextUnit} {cs : List Char}
    (h : Spells units cs) :
    ∃ unit, Spells (unit :: units) (escape c ++ cs) ∧
      unitChars? (unit :: units) = (unitChars? units).map (c :: ·) := by
  have hletter {letter : Char} (hl : unescape? letter = some c) :
      ∃ unit, Spells (unit :: units) ('\\' :: letter :: cs) ∧
        unitChars? (unit :: units) = (unitChars? units).map (c :: ·) :=
    ⟨.char c, .letter hl h, unitChars?_char c units⟩
  have hchar {n : Nat} (hn : c.toNat = n) : some (Char.ofNat n) = some c := by
    rw [← hn, Char.ofNat_toNat]
  unfold escape
  split_ifs with hquote hslash hback htab hfeed hform hreturn hcontrol
  · exact hletter (by rw [hquote]; decide)
  · exact hletter (by rw [hslash]; decide)
  · exact hletter (hchar hback)
  · exact hletter (hchar htab)
  · exact hletter (hchar hfeed)
  · exact hletter (hchar hform)
  · exact hletter (hchar hreturn)
  · exact ⟨.code c.toNat, .code (code?_of_lt hcontrol) h, unitChars?_code hcontrol units⟩
  · exact ⟨.char c, .plain hquote hslash (Nat.le_of_not_lt hcontrol) h, unitChars?_char c units⟩

theorem exists_spells_flatMap_escape (cs : List Char) :
    ∃ units, Spells units (cs.flatMap escape) ∧ unitChars? units = some cs := by
  induction cs with
  | nil => exact ⟨[], .nil, rfl⟩
  | cons c cs ih =>
    obtain ⟨units, hspells, hchars⟩ := ih
    obtain ⟨unit, hspells, hunit⟩ := exists_spells_escape c hspells
    exact ⟨unit :: units, hspells, by rw [hunit, hchars]; rfl⟩

/-- A quoted string is one token that says this string. -/
theorem exists_lexeme_quote (s : String) :
    ∃ units, unitText? units = some s ∧ Lexeme (.text units) (quote s).toList := by
  obtain ⟨units, hspells, hchars⟩ := exists_spells_flatMap_escape s.toList
  refine ⟨units, ?_, ?_⟩
  · rw [unitText?, hchars, Option.map_some, String.ofList_toList]
  · rw [quote, String.toList_ofList]
    exact .text hspells

theorem laidOut_quote (s : String) : LaidOut (WritesText s) (quote s) := by
  obtain ⟨units, hunits, hlexeme⟩ := exists_lexeme_quote s
  exact ⟨[.text units], ⟨units, hunits, rfl⟩, .one hlexeme⟩

theorem laidOut_optionalText (o : Option String) :
    LaidOut (WritesOptionalText o) ((o.map quote).getD "null") := by
  cases o with
  | none => exact ⟨[.null], .none, .one .null⟩
  | some s => exact (laidOut_quote s).imp .some

theorem laidOut_bool (b : Bool) : LaidOut (WritesBool b) (if b then "true" else "false") := by
  cases b with
  | true => exact ⟨[.bool true], rfl, .one .isTrue⟩
  | false => exact ⟨[.bool false], rfl, .one .isFalse⟩

theorem laidOut_name {α : Type} {known : List (String × α)} {a : α} {name : String}
    (h : known.lookup name = some a) : LaidOut (WritesName known a) (quote name) :=
  (laidOut_quote name).imp fun hname => ⟨name, h, hname⟩

/-! ### Lists and objects -/

/-- Texts with commas between them are laid out in rows with commas between
    them. -/
theorem laid_intercalate {items : List (List Token)} {values : List String}
    (h : List.Forall₂ (fun ts s => Laid ts s.toList) items values) :
    Laid (rowTokens items) (",".intercalate values).toList := by
  have hcomma : Laid [.comma] ",".toList := .one .comma
  rw [String.toList_intercalate, rowTokens]
  induction h with
  | nil => exact .gap (by simp [IsGap])
  | @cons ts s items values hfirst hrest ih =>
    cases hrest with
    | nil => simpa [List.intercalate_singleton] using hfirst
    | cons =>
      rw [List.map_cons, List.map_cons, List.intercalate_cons_cons, List.intercalate_cons_cons]
      exact (hfirst.append hcomma).append ih

/-- A list is laid out in the tokens of its elements. -/
theorem laidOut_list {α : Type} {writes : α → List Token → Prop} {write : α → String} {as : List α}
    (h : ∀ a ∈ as, LaidOut (writes a) (write a)) :
    LaidOut (WritesList writes as) (writeList (as.map write)) := by
  have hitems : ∃ items, List.Forall₂ writes as items ∧
      List.Forall₂ (fun ts s => Laid ts s.toList) items (as.map write) := by
    induction as with
    | nil => exact ⟨[], .nil, .nil⟩
    | cons a as ih =>
      obtain ⟨ha, has⟩ := List.forall_mem_cons.1 h
      obtain ⟨ts, hts, hlaid⟩ := ha
      obtain ⟨items, hwrites, hitems⟩ := ih has
      exact ⟨ts :: items, .cons hts hwrites, .cons hlaid hitems⟩
  obtain ⟨items, hwrites, hitems⟩ := hitems
  refine ⟨listTokens items, ⟨items, hwrites, rfl⟩, ?_⟩
  have hopen : Laid [.openList] "[".toList := .one .openList
  have hclose : Laid [.closeList] "]".toList := .one .closeList
  rw [writeList, String.toList_append, String.toList_append]
  exact (hopen.append (laid_intercalate hitems)).append hclose

/-- An object is laid out in the tokens of its members. -/
theorem laid_writeObject {members : List Member} {fields : List (String × String)}
    (h : List.Forall₂ (fun (m : Member) field =>
      Lexeme (.text m.key) (quote field.1).toList ∧ Laid m.value field.2.toList) members fields) :
    Laid (objectTokens members) (writeObject fields).toList := by
  have hcolon : Laid [.colon] ":".toList := .one .colon
  have hmembers : List.Forall₂ (fun ts s => Laid ts s.toList) (members.map Member.tokens)
      (fields.map fun field => quote field.1 ++ ":" ++ field.2) := by
    rw [List.forall₂_map_left_iff, List.forall₂_map_right_iff]
    refine h.imp ?_
    rintro m field ⟨hkey, hvalue⟩
    rw [String.toList_append, String.toList_append]
    exact ((Laid.one hkey).append hcolon).append hvalue
  have hopen : Laid [.openObject] "\x7b".toList := .one .openObject
  have hclose : Laid [.closeObject] "\x7d".toList := .one .closeObject
  rw [writeObject, String.toList_append, String.toList_append]
  exact (hopen.append (laid_intercalate hmembers)).append hclose

/-- A record is laid out in an object that gives its fields. -/
theorem laidOut_object {α : Type} {layout : Layout α} {writes : String → List Token → Prop}
    {fields : List (String × String)}
    (h : ∀ field ∈ fields, field.1 ∈ layout.names ∧ LaidOut (writes field.1) field.2)
    (honce : (fields.map (·.1)).Nodup) :
    LaidOut (fun ts => ∃ members, layout.Gives writes members ∧
      layout.given members = fields.map (·.1) ∧ ts = objectTokens members) (writeObject fields) := by
  have hmembers : ∃ members : List Member, (∀ m ∈ members, layout.Entry writes m) ∧
      layout.given members = fields.map (·.1) ∧
      List.Forall₂ (fun (m : Member) field =>
        Lexeme (.text m.key) (quote field.1).toList ∧ Laid m.value field.2.toList)
        members fields := by
    clear honce
    induction fields with
    | nil => exact ⟨[], by simp, rfl, .nil⟩
    | cons field fields ih =>
      obtain ⟨⟨hknown, ts, hts, hlaid⟩, hfields⟩ := List.forall_mem_cons.1 h
      obtain ⟨members, hentries, hgiven, hmembers⟩ := ih hfields
      obtain ⟨units, hunits, hlexeme⟩ := exists_lexeme_quote field.1
      refine ⟨⟨units, ts⟩ :: members, ?_, ?_, .cons ⟨hlexeme, hlaid⟩ hmembers⟩
      · exact List.forall_mem_cons.2 ⟨.known hunits hknown hts, hentries⟩
      · rw [given_cons, given_of_known hunits hknown, hgiven]
        rfl
  obtain ⟨members, hentries, hgiven, hmembers⟩ := hmembers
  exact ⟨objectTokens members, ⟨members, ⟨hentries, hgiven ▸ honce⟩, hgiven, rfl⟩,
    laid_writeObject hmembers⟩

end LayeredRoots.Json
