import LayeredRoots.Json.Token

/-! # The grammar of JSON

    What a JSON text is, apart from any reader.  The grammar has two levels:

    - a text is a row of lexemes with white space between them (`Laid`), and a
      lexeme is one of the ways to write a token (`Lexeme`);
    - a value is a row of tokens (`IsValue`): a single one, or a list or an
      object of values.

    Strings are rows of characters and 16-bit codes (`Spells`); nothing is said
    here about whether the codes pair up.  Nor is anything said about the size
    of a number. -/

namespace LayeredRoots.Json

/-! ### Strings -/

/-- How a row of characters and codes is written between quotes. -/
inductive Spells : List TextUnit → List Char → Prop where
  | nil : Spells [] []
  /-- A character that stands for itself. -/
  | plain {c : Char} (hquote : c ≠ '"') (hslash : c ≠ '\\') (hcontrol : 0x20 ≤ c.toNat)
      {units : List TextUnit} {cs : List Char} (h : Spells units cs) :
      Spells (.char c :: units) (c :: cs)
  /-- A character that a letter stands for. -/
  | letter {letter c : Char} (hletter : unescape? letter = some c)
      {units : List TextUnit} {cs : List Char} (h : Spells units cs) :
      Spells (.char c :: units) ('\\' :: letter :: cs)
  /-- A code in four hexadecimal digits. -/
  | code {a b c d : Char} {n : Nat} (hcode : code? a b c d = some n)
      {units : List TextUnit} {cs : List Char} (h : Spells units cs) :
      Spells (.code n :: units) ('\\' :: 'u' :: a :: b :: c :: d :: cs)

/-! ### Numbers -/

/-- Decimal digits, at least one. -/
structure Digits (ds : List Nat) : Prop where
  nonempty : ds ≠ []
  decimal  : ∀ d ∈ ds, d < 10

/-- How decimal digits are written. -/
def digitChars (ds : List Nat) : List Char := ds.map fun d => Char.ofNat (48 + d)

/-- How an exponent is written, if there is one. -/
inductive SpellsExponent : Option Exponent → List Char → Prop where
  | none : SpellsExponent none []
  | plain {mark : Char} (hmark : mark = 'e' ∨ mark = 'E') {ds : List Nat} (hds : Digits ds) :
      SpellsExponent (some ⟨false, ds⟩) (mark :: digitChars ds)
  | plus {mark : Char} (hmark : mark = 'e' ∨ mark = 'E') {ds : List Nat} (hds : Digits ds) :
      SpellsExponent (some ⟨false, ds⟩) (mark :: '+' :: digitChars ds)
  | minus {mark : Char} (hmark : mark = 'e' ∨ mark = 'E') {ds : List Nat} (hds : Digits ds) :
      SpellsExponent (some ⟨true, ds⟩) (mark :: '-' :: digitChars ds)

/-- How the digits behind the point are written, with the point. -/
inductive SpellsFraction : List Nat → List Char → Prop where
  | none : SpellsFraction [] []
  | point {ds : List Nat} (hds : Digits ds) : SpellsFraction ds ('.' :: digitChars ds)

/-- How the sign of a number is written. -/
def signChars (negative : Bool) : List Char := if negative then ['-'] else []

/-- How a number is written.  A zero in front stands alone. -/
inductive SpellsNumber : Numeral → List Char → Prop where
  | number (negative : Bool) {whole fraction : List Nat} {exponent : Option Exponent}
      {point scale : List Char} (hwhole : Digits whole)
      (hleading : whole = [0] ∨ whole.head? ≠ some 0) (hpoint : SpellsFraction fraction point)
      (hscale : SpellsExponent exponent scale) :
      SpellsNumber ⟨negative, whole, fraction, exponent⟩
        (signChars negative ++ (digitChars whole ++ (point ++ scale)))

/-! ### Texts -/

/-- How a token is written. -/
inductive Lexeme : Token → List Char → Prop where
  | openObject : Lexeme .openObject ['{']
  | closeObject : Lexeme .closeObject ['}']
  | openList : Lexeme .openList ['[']
  | closeList : Lexeme .closeList [']']
  | colon : Lexeme .colon [':']
  | comma : Lexeme .comma [',']
  | null : Lexeme .null ['n', 'u', 'l', 'l']
  | isTrue : Lexeme (.bool true) ['t', 'r', 'u', 'e']
  | isFalse : Lexeme (.bool false) ['f', 'a', 'l', 's', 'e']
  | text {units : List TextUnit} {cs : List Char} (h : Spells units cs) :
      Lexeme (.text units) ('"' :: (cs ++ ['"']))
  | number {n : Numeral} {cs : List Char} (h : SpellsNumber n cs) : Lexeme (.number n) cs

/-- White space, or nothing. -/
def IsGap (cs : List Char) : Prop := ∀ c ∈ cs, isSpace c = true

/-- A text that is a row of tokens, with white space anywhere around them. -/
inductive Laid : List Token → List Char → Prop where
  | gap {gap : List Char} (hgap : IsGap gap) : Laid [] gap
  | token {gap : List Char} (hgap : IsGap gap) {t : Token} {lexeme : List Char}
      (hlexeme : Lexeme t lexeme) {ts : List Token} {rest : List Char} (h : Laid ts rest) :
      Laid (t :: ts) (gap ++ (lexeme ++ rest))

/-! ### Values -/

/-- Rows of tokens with commas between them. -/
def rowTokens (items : List (List Token)) : List Token := [Token.comma].intercalate items

def listTokens (items : List (List Token)) : List Token :=
  .openList :: (rowTokens items ++ [.closeList])

/-- A member of an object. -/
structure Member where
  key   : List TextUnit
  value : List Token

def Member.tokens (m : Member) : List Token := .text m.key :: .colon :: m.value

def objectTokens (members : List Member) : List Token :=
  .openObject :: (rowTokens (members.map Member.tokens) ++ [.closeObject])

/-- A row of tokens that is one value. -/
inductive IsValue : List Token → Prop where
  | null : IsValue [.null]
  | bool (b : Bool) : IsValue [.bool b]
  | text (units : List TextUnit) : IsValue [.text units]
  | number (n : Numeral) : IsValue [.number n]
  | list {items : List (List Token)} (h : ∀ item ∈ items, IsValue item) :
      IsValue (listTokens items)
  | object {members : List Member} (h : ∀ m ∈ members, IsValue m.value) :
      IsValue (objectTokens members)

/-! ### Small facts -/

/-- What stands behind the first of several rows: each with a comma in front. -/
def moreTokens (items : List (List Token)) : List Token := items.flatMap (Token.comma :: ·)

@[simp] theorem moreTokens_nil : moreTokens [] = [] := rfl

@[simp] theorem moreTokens_cons (item : List Token) (items : List (List Token)) :
    moreTokens (item :: items) = .comma :: (item ++ moreTokens items) := rfl

@[simp] theorem rowTokens_nil : rowTokens [] = [] := rfl

theorem rowTokens_cons (item : List Token) (items : List (List Token)) :
    rowTokens (item :: items) = item ++ moreTokens items := by
  induction items generalizing item with
  | nil => simp [rowTokens, List.intercalate_singleton]
  | cons next rest ih =>
    have hrest : [Token.comma].intercalate (next :: rest) = next ++ moreTokens rest := ih next
    rw [rowTokens, List.intercalate_cons_cons, hrest]
    simp

/-- Rows of which none is the first. -/
theorem comma_rowTokens {items : List (List Token)} (h : items ≠ []) :
    .comma :: rowTokens items = moreTokens items := by
  obtain ⟨item, items, rfl⟩ := List.exists_cons_of_ne_nil h
  rw [rowTokens_cons, moreTokens_cons]

theorem moreTokens_concat (items : List (List Token)) (last : List Token) :
    moreTokens (items ++ [last]) = moreTokens items ++ .comma :: last := by
  simp [moreTokens]

/-- Several rows end in the last of them. -/
theorem exists_rowTokens_concat (items : List (List Token)) (last : List Token) :
    ∃ front, rowTokens (items ++ [last]) = front ++ last := by
  cases items with
  | nil => exact ⟨[], by simp [rowTokens_cons]⟩
  | cons item items =>
    refine ⟨item ++ moreTokens items ++ [.comma], ?_⟩
    rw [List.cons_append, rowTokens_cons, moreTokens_concat]
    simp

/-- What follows a list follows its bracket. -/
theorem listTokens_append (items : List (List Token)) (rest : List Token) :
    listTokens items ++ rest = .openList :: (rowTokens items ++ .closeList :: rest) := by
  simp [listTokens]

theorem objectTokens_append (members : List Member) (rest : List Token) :
    objectTokens members ++ rest =
      .openObject :: (rowTokens (members.map Member.tokens) ++ .closeObject :: rest) := by
  simp [objectTokens]

theorem moreTokens_map_cons (m : Member) (members : List Member) (rest : List Token) :
    moreTokens ((m :: members).map Member.tokens) ++ rest =
      .comma :: .text m.key :: .colon ::
        (m.value ++ (moreTokens (members.map Member.tokens) ++ rest)) := by
  simp [Member.tokens]

theorem rowTokens_map_cons (m : Member) (members : List Member) (rest : List Token) :
    rowTokens ((m :: members).map Member.tokens) ++ rest =
      .text m.key :: .colon ::
        (m.value ++ (moreTokens (members.map Member.tokens) ++ rest)) := by
  simp [rowTokens_cons, Member.tokens]

/-- White space in front of a text goes unnoticed. -/
theorem Laid.gap_append {gap : List Char} (hgap : IsGap gap) {ts : List Token} {cs : List Char}
    (h : Laid ts cs) : Laid ts (gap ++ cs) := by
  have hjoin {front : List Char} (hfront : IsGap front) : IsGap (gap ++ front) := by
    intro c hc
    rcases List.mem_append.1 hc with hc | hc
    · exact hgap c hc
    · exact hfront c hc
  cases h with
  | gap hfront => exact .gap (hjoin hfront)
  | token hfront hlexeme hrest =>
    rw [← List.append_assoc]
    exact .token (hjoin hfront) hlexeme hrest

theorem Laid.append {ts us : List Token} {cs ds : List Char} (h : Laid ts cs) (h' : Laid us ds) :
    Laid (ts ++ us) (cs ++ ds) := by
  induction h with
  | gap hgap => exact h'.gap_append hgap
  | token hgap hlexeme _ ih =>
    rw [List.cons_append, List.append_assoc, List.append_assoc]
    exact .token hgap hlexeme ih

/-- A token alone. -/
theorem Laid.one {t : Token} {lexeme : List Char} (h : Lexeme t lexeme) : Laid [t] lexeme := by
  have hnone : IsGap [] := by simp [IsGap]
  simpa using Laid.token hnone h (.gap hnone)

/-- A value starts with a token that neither ends nor divides anything. -/
theorem IsValue.exists_cons {ts : List Token} (h : IsValue ts) :
    ∃ t more, ts = t :: more ∧ t ≠ .closeList ∧ t ≠ .closeObject := by
  cases h with
  | null | bool | text | number => exact ⟨_, [], rfl, by simp, by simp⟩
  | list | object => exact ⟨_, _, rfl, by simp, by simp⟩

end LayeredRoots.Json
