import LayeredRoots.Json.Quoted

/-! # JSON tokens

    A document is read as a row of tokens.  Two kinds of token keep what they
    were written with instead of a value, because a document may skip over them
    without asking for one:

    - a string is a row of characters and 16-bit codes, and is a text only if
      the codes pair up (`Units.text?`);
    - a number keeps its digits.

    Reading stops at the first place where no token starts.  It is marked by the
    token `bad`, which fits nowhere, so that a reader which goes through the
    tokens from the left meets the first offence of any kind first. -/

namespace LayeredRoots.Json

/-- One element of a string: a character, or a code written as `\uXXXX`. -/
inductive TextUnit where
  | char (c : Char)
  | code (n : Nat)
  deriving DecidableEq, Repr

/-- The digits of an exponent and its sign. -/
structure Exponent where
  negative : Bool
  digits   : List Nat
  deriving DecidableEq, Repr

/-- A number as it was written. -/
structure Numeral where
  negative : Bool
  /-- The digits in front of the point: a zero alone, or no leading zero. -/
  whole    : List Nat
  /-- The digits behind the point, empty if there is no point. -/
  fraction : List Nat
  exponent : Option Exponent
  deriving DecidableEq, Repr

inductive Token where
  | openObject
  | closeObject
  | openList
  | closeList
  | colon
  | comma
  | null
  | bool (b : Bool)
  | text (units : List TextUnit)
  | number (n : Numeral)
  | bad
  deriving DecidableEq, Repr

/-! ### The text of a string -/

/-- The characters of a string.  A code from the lower half of the surrogates
    and the one after it make one character; any other surrogate is refused. -/
def unitChars? : List TextUnit → Option (List Char)
  | [] => some []
  | .char c :: rest => (unitChars? rest).map (c :: ·)
  | .code n :: rest =>
    if n < 0xD800 ∨ 0xDFFF < n then (unitChars? rest).map (Char.ofNat n :: ·)
    else if n ≤ 0xDBFF then
      match rest with
      | .code m :: rest' =>
        if 0xDC00 ≤ m ∧ m ≤ 0xDFFF then
          (unitChars? rest').map
            (Char.ofNat (0x10000 + (n - 0xD800) * 0x400 + (m - 0xDC00)) :: ·)
        else none
      | _ => none
    else none

/-- The text of a string, if its codes pair up. -/
def unitText? (units : List TextUnit) : Option String :=
  (unitChars? units).map String.ofList

/-! ### Scanning -/

/-- White space between tokens. -/
def isSpace (c : Char) : Bool := c = ' ' || c = '\t' || c = '\n' || c = '\r'

/-- The value of a decimal digit. -/
def digit? (c : Char) : Option Nat :=
  if '0' ≤ c ∧ c ≤ '9' then some (c.toNat - 48) else none

/-- The value of a hexadecimal digit in either case. -/
def hexDigit? (c : Char) : Option Nat :=
  if '0' ≤ c ∧ c ≤ '9' then some (c.toNat - 48)
  else if 'a' ≤ c ∧ c ≤ 'f' then some (c.toNat - 87)
  else if 'A' ≤ c ∧ c ≤ 'F' then some (c.toNat - 55)
  else none

/-- The character that an escape letter stands for. -/
def unescape? (c : Char) : Option Char :=
  if c = '"' ∨ c = '\\' ∨ c = '/' then some c
  else if c = 'b' then some (Char.ofNat 0x08)
  else if c = 't' then some (Char.ofNat 0x09)
  else if c = 'n' then some (Char.ofNat 0x0A)
  else if c = 'f' then some (Char.ofNat 0x0C)
  else if c = 'r' then some (Char.ofNat 0x0D)
  else none

/-- The code written by four hexadecimal digits. -/
def code? (a b c d : Char) : Option Nat := do
  let a ← hexDigit? a
  let b ← hexDigit? b
  let c ← hexDigit? c
  let d ← hexDigit? d
  return ((a * 16 + b) * 16 + c) * 16 + d

/-- A string after its opening quote, and what follows its closing quote. -/
def scanText : List Char → Option (List TextUnit × List Char)
  | [] => none
  | '"' :: rest => some ([], rest)
  | '\\' :: 'u' :: a :: b :: c :: d :: rest =>
    match code? a b c d with
    | none => none
    | some n => (scanText rest).map fun (us, r) => (.code n :: us, r)
  | '\\' :: e :: rest =>
    match unescape? e with
    | none => none
    | some c => (scanText rest).map fun (us, r) => (.char c :: us, r)
  | c :: rest =>
    if c = '\\' ∨ c.toNat < 0x20 then none
    else (scanText rest).map fun (us, r) => (.char c :: us, r)

/-- The decimal digits that a text starts with, and what follows them. -/
def scanDigits : List Char → List Nat × List Char
  | [] => ([], [])
  | c :: rest =>
    match digit? c with
    | none => ([], c :: rest)
    | some d => let (ds, r) := scanDigits rest; (d :: ds, r)

/-- The digits behind a point.  There must be one. -/
def scanFraction : List Char → Option (List Nat × List Char)
  | '.' :: rest =>
    match scanDigits rest with
    | ([], _) => none
    | (ds, r) => some (ds, r)
  | cs => some ([], cs)

/-- An exponent.  It must have a digit. -/
def scanExponent : List Char → Option (Option Exponent × List Char)
  | [] => some (none, [])
  | c :: rest =>
    if c = 'e' ∨ c = 'E' then
      let (negative, digits) :=
        match rest with
        | '+' :: r => (false, r)
        | '-' :: r => (true, r)
        | r => (false, r)
      match scanDigits digits with
      | ([], _) => none
      | (ds, r) => some (some ⟨negative, ds⟩, r)
    else some (none, c :: rest)

/-- A number, and what follows it.  A zero in front must stand alone. -/
def scanNumeral (cs : List Char) : Option (Numeral × List Char) :=
  let (negative, cs) :=
    match cs with
    | '-' :: r => (true, r)
    | r => (false, r)
  match scanDigits cs with
  | ([], _) => none
  -- a leading zero
  | (0 :: _ :: _, _) => none
  | (whole, r) =>
    match scanFraction r with
    | none => none
    | some (fraction, r) =>
      match scanExponent r with
      | none => none
      | some (exponent, r) => some (⟨negative, whole, fraction, exponent⟩, r)

/-! ### Scanning consumes text -/

theorem scanText_length {cs : List Char} {us : List TextUnit} {r : List Char}
    (h : scanText cs = some (us, r)) : r.length < cs.length := by
  fun_induction scanText cs generalizing us r with
  | case1 => simp at h
  | case2 rest => simp_all
  | case3 a b c d rest hc => simp at h
  | case4 a b c d rest n hc ih =>
    obtain ⟨⟨us', r'⟩, h₁, h₂⟩ := Option.map_eq_some_iff.1 h
    have := ih h₁
    simp_all
    omega
  | case5 e rest hc => simp at h
  | case6 e rest c hc hu ih =>
    obtain ⟨⟨us', r'⟩, h₁, h₂⟩ := Option.map_eq_some_iff.1 h
    have := ih h₁
    simp_all
    omega
  | case7 c rest => simp at h
  | case8 c rest hc h₁ h₂ h₃ ih =>
    obtain ⟨⟨us', r'⟩, h₁, h₂⟩ := Option.map_eq_some_iff.1 h
    have := ih h₁
    simp_all
    omega

theorem scanDigits_length (cs : List Char) :
    (scanDigits cs).2.length ≤ cs.length := by
  fun_induction scanDigits cs with
  | case1 => simp
  | case2 => simp
  | case3 c rest d hd ds r hr ih => grind

theorem scanDigits_length_lt {cs r : List Char} {d : Nat} {ds : List Nat}
    (h : scanDigits cs = (d :: ds, r)) : r.length < cs.length := by
  cases cs with
  | nil => simp [scanDigits] at h
  | cons c rest =>
    have hrest := scanDigits_length rest
    simp only [scanDigits] at h
    split at h
    · simp at h
    · grind

theorem scanFraction_length {cs r : List Char} {ds : List Nat}
    (h : scanFraction cs = some (ds, r)) : r.length ≤ cs.length := by
  unfold scanFraction at h
  split at h
  · next rest =>
    have hrest := scanDigits_length rest
    split at h <;> grind
  · simp_all

theorem scanExponent_length {cs r : List Char} {e : Option Exponent}
    (h : scanExponent cs = some (e, r)) : r.length ≤ cs.length := by
  unfold scanExponent at h
  split at h
  · simp_all
  · next c rest =>
    split at h
    · split at h
      next negative digits hd =>
      have hlen : digits.length ≤ rest.length := by
        split at hd <;> grind
      have hrest := scanDigits_length digits
      split at h <;> grind
    · simp_all

theorem scanNumeral_length {cs r : List Char} {n : Numeral}
    (h : scanNumeral cs = some (n, r)) : r.length < cs.length := by
  unfold scanNumeral at h
  split at h
  next negative digits hd =>
  have hlen : digits.length ≤ cs.length := by
    split at hd <;> grind
  split at h
  · simp at h
  · simp at h
  · next whole r₁ hne _ hw =>
    cases whole with
    | nil => simp at hne
    | cons d ds =>
      have h₁ := scanDigits_length_lt hw
      split at h
      · simp at h
      · next fraction r₂ hf =>
        have h₂ := scanFraction_length hf
        split at h
        · simp at h
        · next exponent r₃ he =>
          have h₃ := scanExponent_length he
          simp only [Option.some.injEq, Prod.mk.injEq] at h
          obtain ⟨-, rfl⟩ := h
          omega

/-! ### All tokens of a text -/

/-- The tokens of a text, up to the first place where none starts. -/
def tokens (cs : List Char) : List Token :=
  match cs with
  | [] => []
  | c :: rest =>
    if isSpace c then tokens rest
    else if c = '{' then .openObject :: tokens rest
    else if c = '}' then .closeObject :: tokens rest
    else if c = '[' then .openList :: tokens rest
    else if c = ']' then .closeList :: tokens rest
    else if c = ':' then .colon :: tokens rest
    else if c = ',' then .comma :: tokens rest
    else if c = '"' then
      match _hs : scanText rest with
      | none => [.bad]
      | some (us, r) => .text us :: tokens r
    else if c = 'n' then
      match rest with
      | 'u' :: 'l' :: 'l' :: r => .null :: tokens r
      | _ => [.bad]
    else if c = 't' then
      match rest with
      | 'r' :: 'u' :: 'e' :: r => .bool true :: tokens r
      | _ => [.bad]
    else if c = 'f' then
      match rest with
      | 'a' :: 'l' :: 's' :: 'e' :: r => .bool false :: tokens r
      | _ => [.bad]
    else
      match _hs : scanNumeral (c :: rest) with
      | none => [.bad]
      | some (n, r) => .number n :: tokens r
termination_by cs.length
decreasing_by
  all_goals simp_wf
  all_goals first
    | (have h := scanText_length _hs; omega)
    | (have h := scanNumeral_length _hs; simp at h; omega)
    | omega

example : tokens "\x7b\"a\\u0041\" : [-1.50e+2, tru".toList =
    [.openObject, .text [.char 'a', .code 0x41], .colon, .openList,
      .number ⟨true, [1], [5, 0], some ⟨false, [2]⟩⟩, .comma, .bad] := by
  cbv

end LayeredRoots.Json
