import LayeredRoots.Proofs.Json.Grammar
import Mathlib.Data.List.Chain

/-! # Texts are read token by token

    The tokens of a text that is laid out in lexemes are the tokens that the
    lexemes write, however much white space there is (`tokens_of_laid`).  Each
    scanner stops exactly where its lexeme ends.  A number alone needs help for
    this: it ends where no character that could belong to it follows, so two
    numbers must not stand side by side (`Apart`). -/

namespace LayeredRoots.Json

/-! ### Strings -/

theorem unescape?_u : unescape? 'u' = none := by decide

/-- A string is scanned up to its closing quote. -/
theorem scanText_of_spells {units : List TextUnit} {cs : List Char} (h : Spells units cs)
    (rest : List Char) : scanText (cs ++ '"' :: rest) = some (units, rest) := by
  induction h with
  | nil => simp [scanText]
  | plain hquote hslash hcontrol _ ih =>
    have hplain : ¬(_ = '\\' ∨ _ < 0x20) := not_or.2 ⟨hslash, Nat.not_lt.2 hcontrol⟩
    rw [List.cons_append, scanText, if_neg hplain, ih]
    · rfl
    all_goals grind
  | @letter letter c hletter units cs _ ih =>
    have hne : letter ≠ 'u' := by
      rintro rfl
      rw [unescape?_u] at hletter
      cases hletter
    rw [List.cons_append, List.cons_append, scanText, hletter]
    · simp [ih]
    all_goals grind
  | code hcode _ ih =>
    simp only [List.cons_append, scanText, hcode, ih]
    rfl

/-! ### Numbers -/

/-- Whether a character behind a number would still belong to it. -/
def extendsNumber (c : Char) : Bool := (digit? c).isSome || c = '.' || c = 'e' || c = 'E'

/-- A text that does not go on with a digit. -/
def EndsDigits (rest : List Char) : Prop := ∀ c ∈ rest.head?, digit? c = none

/-- A text in front of which a number ends. -/
def EndsNumber (rest : List Char) : Prop := ∀ c ∈ rest.head?, extendsNumber c = false

theorem endsNumber_cons {c : Char} (hc : extendsNumber c = false) (rest : List Char) :
    EndsNumber (c :: rest) := by
  simpa [EndsNumber] using hc

section numbers

variable {rest : List Char}

theorem EndsNumber.digits (h : EndsNumber rest) : EndsDigits rest := by
  intro c hc
  have hno := h c hc
  simp only [extendsNumber, Bool.or_eq_false_iff] at hno
  simpa using hno.1.1.1

theorem digit?_ofNat {d : Nat} (hd : d < 10) : digit? (Char.ofNat (48 + d)) = some d := by
  revert d
  decide

theorem scanDigits_of_endsDigits (h : EndsDigits rest) : scanDigits rest = ([], rest) := by
  cases rest with
  | nil => rfl
  | cons c rest => simp [scanDigits, h c rfl]

theorem scanDigits_digitChars {ds : List Nat} (hds : ∀ d ∈ ds, d < 10) (h : EndsDigits rest) :
    scanDigits (digitChars ds ++ rest) = (ds, rest) := by
  induction ds with
  | nil => exact scanDigits_of_endsDigits h
  | cons d ds ih =>
    obtain ⟨hd, hds⟩ := List.forall_mem_cons.1 hds
    have hrest : scanDigits (digitChars ds ++ rest) = (ds, rest) := ih hds
    have hcons : digitChars (d :: ds) ++ rest = Char.ofNat (48 + d) :: (digitChars ds ++ rest) :=
      rfl
    simp only [hcons, scanDigits, digit?_ofNat hd, hrest]

theorem scanFraction_of_spells {ds : List Nat} {point : List Char} (h : SpellsFraction ds point)
    (hdigits : EndsDigits rest) (hpoint : rest.head? ≠ some '.') :
    scanFraction (point ++ rest) = some (ds, rest) := by
  cases h with
  | none =>
    rw [List.nil_append, scanFraction]
    rintro more rfl
    exact hpoint rfl
  | point hds =>
    obtain ⟨d, more, rfl⟩ := List.exists_cons_of_ne_nil hds.nonempty
    simp only [List.cons_append, scanFraction, scanDigits_digitChars hds.decimal hdigits]

/-- Digits do not start with a sign. -/
theorem head?_digitChars_ne {ds : List Nat} (hds : Digits ds) {c : Char} (hc : digit? c = none)
    (rest : List Char) : (digitChars ds ++ rest).head? ≠ some c := by
  obtain ⟨d, more, rfl⟩ := List.exists_cons_of_ne_nil hds.nonempty
  intro hhead
  have hfirst : Char.ofNat (48 + d) = c := Option.some.inj hhead
  rw [← hfirst, digit?_ofNat (hds.decimal d List.mem_cons_self)] at hc
  cases hc

theorem scanExponent_of_spells {e : Option Exponent} {scale : List Char}
    (h : SpellsExponent e scale) (hrest : EndsNumber rest) :
    scanExponent (scale ++ rest) = some (e, rest) := by
  cases h with
  | none =>
    cases rest with
    | nil => rfl
    | cons c rest =>
      have hno := hrest c rfl
      simp only [extendsNumber, Bool.or_eq_false_iff, decide_eq_false_iff_not] at hno
      simp only [List.nil_append, scanExponent, hno.1.2, hno.2, or_self, if_false]
  | @plain mark hmark ds hds =>
    have hscan := scanDigits_digitChars hds.decimal hrest.digits
    have hplus := head?_digitChars_ne hds (by decide : digit? '+' = none) rest
    have hminus := head?_digitChars_ne hds (by decide : digit? '-' = none) rest
    obtain ⟨d, more, rfl⟩ := List.exists_cons_of_ne_nil hds.nonempty
    rw [List.cons_append, scanExponent, if_pos hmark]
    · split <;> grind
    all_goals grind
  | plus hmark hds | minus hmark hds =>
    have hscan := scanDigits_digitChars hds.decimal hrest.digits
    obtain ⟨d, more, rfl⟩ := List.exists_cons_of_ne_nil hds.nonempty
    simp only [List.cons_append, scanExponent, if_pos hmark, hscan]

/-- What may stand behind the digits of a number is no digit. -/
theorem endsDigits_scale {e : Option Exponent} {scale : List Char} (h : SpellsExponent e scale)
    (hrest : EndsNumber rest) :
    EndsDigits (scale ++ rest) ∧ (scale ++ rest).head? ≠ some '.' := by
  cases h with
  | none =>
    refine ⟨hrest.digits, fun hpoint => ?_⟩
    exact absurd (hrest '.' hpoint) (by decide)
  | plain hmark | plus hmark | minus hmark =>
    obtain rfl | rfl := hmark <;> simp [EndsDigits, digit?]

theorem endsDigits_point {ds : List Nat} {point : List Char} (h : SpellsFraction ds point)
    {scale : List Char} (hscale : EndsDigits scale) : EndsDigits (point ++ scale) := by
  cases h with
  | none => exact hscale
  | point hds => simp [EndsDigits, digit?]

/-- A number is scanned up to where it ends. -/
theorem scanNumeral_of_spells {n : Numeral} {cs : List Char} (h : SpellsNumber n cs)
    (hrest : EndsNumber rest) : scanNumeral (cs ++ rest) = some (n, rest) := by
  obtain @⟨negative, whole, fraction, exponent, point, scale, hwhole, hleading, hpoint, hscale⟩ := h
  obtain ⟨hends, hnopoint⟩ := endsDigits_scale hscale hrest
  have hwholes := scanDigits_digitChars hwhole.decimal (endsDigits_point hpoint hends)
  have hfraction := scanFraction_of_spells hpoint hends hnopoint
  have hexponent := scanExponent_of_spells hscale hrest
  have hminus := head?_digitChars_ne hwhole (by decide : digit? '-' = none)
    (point ++ (scale ++ rest))
  rw [List.append_assoc, List.append_assoc, List.append_assoc]
  unfold scanNumeral
  split
  next sign digits hsplit =>
  -- digits never start with a sign, so only a written sign is taken off
  have hsign : sign = negative ∧ digits = digitChars whole ++ (point ++ (scale ++ rest)) := by
    cases negative with
    | true =>
      obtain ⟨rfl, rfl⟩ := Prod.mk.inj hsplit
      exact ⟨rfl, rfl⟩
    | false =>
      rw [signChars, if_neg Bool.false_ne_true, List.nil_append] at hsplit
      split at hsplit
      · next hhead => exact absurd (congrArg List.head? hhead) hminus
      · obtain ⟨rfl, rfl⟩ := Prod.mk.inj hsplit
        exact ⟨rfl, rfl⟩
  obtain ⟨rfl, rfl⟩ := hsign
  rw [hwholes]
  split
  · next hnone => exact absurd (Prod.mk.inj hnone).1 hwhole.nonempty
  · next hzero =>
    obtain ⟨rfl, -⟩ := Prod.mk.inj hzero
    simp at hleading
  · next hall =>
    obtain ⟨rfl, rfl⟩ := Prod.mk.inj hall
    simp only [hfraction, hexponent]

end numbers

/-! ### Lexemes -/

/-- Whether a token is a number. -/
def Token.isNumber : Token → Bool
  | .number _ => true
  | _ => false

section lexemes

variable {rest : List Char}

theorem tokens_gap_append {gap : List Char} (hgap : IsGap gap) (rest : List Char) :
    tokens (gap ++ rest) = tokens rest := by
  induction gap with
  | nil => rfl
  | cons c gap ih =>
    obtain ⟨hc, hgap⟩ := List.forall_mem_cons.1 hgap
    rw [List.cons_append, tokens.eq_def]
    simp only [if_pos hc]
    exact ih hgap

/-- How a number starts. -/
theorem SpellsNumber.exists_cons {n : Numeral} {cs : List Char} (h : SpellsNumber n cs) :
    ∃ c more, cs = c :: more ∧ (c = '-' ∨ (digit? c).isSome = true) := by
  obtain @⟨negative, whole, fraction, exponent, point, scale, hwhole, -, -, -⟩ := h
  cases negative with
  | true => exact ⟨'-', _, rfl, .inl rfl⟩
  | false =>
    obtain ⟨d, ds, rfl⟩ := List.exists_cons_of_ne_nil hwhole.nonempty
    refine ⟨Char.ofNat (48 + d), _, rfl, .inr ?_⟩
    rw [digit?_ofNat (hwhole.decimal d List.mem_cons_self)]
    rfl

/-- White space, and how every token but a number starts. -/
def otherStarts : List Char :=
  [' ', '\t', '\n', '\r', '{', '}', '[', ']', ':', ',', '"', 'n', 't', 'f']

theorem not_mem_otherStarts {c : Char} (hc : c = '-' ∨ (digit? c).isSome = true) :
    c ∉ otherStarts := by
  have hall : otherStarts.all (fun d => d != '-' && (digit? d).isNone) = true := by decide
  intro hmem
  have hno := List.all_eq_true.1 hall c hmem
  rw [Bool.and_eq_true, bne_iff_ne, Option.isNone_iff_eq_none] at hno
  simp [hno.1, hno.2] at hc

/-- No other token starts like a number. -/
theorem tokens_of_scanNumeral {c : Char} (hc : c = '-' ∨ (digit? c).isSome = true)
    {more : List Char} {n : Numeral} (h : scanNumeral (c :: more) = some (n, rest)) :
    tokens (c :: more) = .number n :: tokens rest := by
  have hother := not_mem_otherStarts hc
  simp only [otherStarts, List.mem_cons, List.not_mem_nil, or_false, not_or] at hother
  rw [tokens.eq_def]
  simp only [isSpace, hother, decide_false, Bool.or_self, Bool.false_eq_true, if_false]
  split
  · next hnone => simp [h] at hnone
  · next hsome =>
    obtain ⟨rfl, rfl⟩ := Prod.mk.inj (Option.some.inj (h.symm.trans hsome))
    rfl

/-- Every lexeme is read as the token that it writes. -/
theorem tokens_lexeme_append {t : Token} {lexeme : List Char} (h : Lexeme t lexeme)
    (hrest : t.isNumber = true → EndsNumber rest) :
    tokens (lexeme ++ rest) = t :: tokens rest := by
  cases h with
  | number hnumber =>
    obtain ⟨c, more, rfl, hc⟩ := hnumber.exists_cons
    exact tokens_of_scanNumeral hc (scanNumeral_of_spells hnumber (hrest rfl))
  | text hspells =>
    have hscan := scanText_of_spells hspells rest
    rw [List.cons_append, List.append_assoc, List.singleton_append, tokens.eq_def]
    simp only [isSpace, Char.reduceEq, decide_false, Bool.or_self, Bool.false_eq_true, if_false,
      if_true]
    split
    · next hnone => simp [hscan] at hnone
    · next hsome =>
      obtain ⟨rfl, rfl⟩ := Prod.mk.inj (Option.some.inj (hscan.symm.trans hsome))
      rfl
  | openObject | closeObject | openList | closeList | colon | comma | null | isTrue | isFalse =>
    rw [List.cons_append, tokens.eq_def]
    simp [isSpace]

/-- Only a number starts with a character that would extend a number. -/
theorem Lexeme.endsNumber {t : Token} {lexeme : List Char} (h : Lexeme t lexeme)
    (ht : t.isNumber = false) (rest : List Char) : EndsNumber (lexeme ++ rest) := by
  cases h with
  | number => cases ht
  | _ => exact endsNumber_cons (by decide) _

end lexemes

/-! ### Texts -/

/-- No two numbers stand side by side. -/
def Apart (ts : List Token) : Prop :=
  ts.IsChain fun t u => t.isNumber = true → u.isNumber = false

/-- A number ends where the tokens behind it begin. -/
theorem Laid.endsNumber {ts : List Token} {cs rest : List Char} (h : Laid ts cs)
    (hts : ∀ t ∈ ts.head?, t.isNumber = false) (hrest : ts = [] → EndsNumber rest) :
    EndsNumber (cs ++ rest) := by
  have hgapped {gap : List Char} (hgap : IsGap gap) {more : List Char} (hmore : EndsNumber more) :
      EndsNumber (gap ++ more) := by
    cases gap with
    | nil => exact hmore
    | cons c gap =>
      have hc : isSpace c = true := hgap c List.mem_cons_self
      refine endsNumber_cons ?_ _
      simp only [isSpace, Bool.or_eq_true, decide_eq_true_eq] at hc
      obtain ((rfl | rfl) | rfl) | rfl := hc <;> decide
  cases h with
  | gap hgap => exact hgapped hgap (hrest rfl)
  | token hgap hlexeme _ =>
    rw [List.append_assoc, List.append_assoc]
    exact hgapped hgap (hlexeme.endsNumber (hts _ rfl) _)

/-- A text is read token by token, and what follows it after that. -/
theorem tokens_append_of_laid {ts : List Token} {cs : List Char} (h : Laid ts cs) (hapart : Apart ts)
    {rest : List Char} (hrest : ∀ t ∈ ts.getLast?, t.isNumber = true → EndsNumber rest) :
    tokens (cs ++ rest) = ts ++ tokens rest := by
  induction h with
  | gap hgap => exact tokens_gap_append hgap rest
  | @token gap hgap t lexeme hlexeme ts cs hlaid ih =>
    rw [Apart, List.isChain_cons] at hapart
    -- if this is a number, the next token is none, and it stops the scan
    have hmore : tokens (cs ++ rest) = ts ++ tokens rest := by
      refine ih hapart.2 fun u hu => hrest u ?_
      obtain ⟨front, rfl⟩ := List.getLast?_eq_some_iff.1 hu
      exact List.getLast?_eq_some_iff.2 ⟨t :: front, rfl⟩
    have hends : t.isNumber = true → EndsNumber (cs ++ rest) := by
      intro ht
      refine hlaid.endsNumber (fun u hu => hapart.1 u hu ht) ?_
      rintro rfl
      exact hrest t rfl ht
    rw [List.append_assoc, List.append_assoc, tokens_gap_append hgap,
      tokens_lexeme_append hlexeme hends, hmore, List.cons_append]

/-- A text has the tokens that it is laid out in. -/
theorem tokens_of_laid {ts : List Token} {cs : List Char} (h : Laid ts cs) (hapart : Apart ts) :
    tokens cs = ts := by
  have hend : EndsNumber [] := by simp [EndsNumber]
  have hall := tokens_append_of_laid h hapart fun _ _ _ => hend
  rwa [List.append_nil, tokens, List.append_nil] at hall

end LayeredRoots.Json
