/-! # Byte strings and text

    File names and the values of variables are byte strings.  Most of them
    are the UTF-8 form of a text, but nothing guarantees it, so they are kept
    as lists of bytes and turned into text only where text is asked for:

    - `encode` gives the UTF-8 form of a text;
    - `decode?` reads it back and refuses everything else;
    - `lossy` shows any byte string, a replacement character standing for each
      maximal stretch of bytes that starts no character. -/

namespace LayeredRoots

/-- Bytes as the operating system hands them over. -/
abbrev Bytes : Type := List UInt8

namespace Text

/-- The UTF-8 form of a text. -/
def encode (s : String) : Bytes :=
  s.toList.flatMap String.utf8EncodeChar

/-- The text with this UTF-8 form, if there is one. -/
def decode? (bytes : Bytes) : Option String :=
  String.fromUTF8? bytes.toByteArray

@[simp] theorem encode_empty : encode "" = [] := by
  simp [encode]

theorem encode_append (s t : String) : encode (s ++ t) = encode s ++ encode t := by
  simp [encode]

theorem toByteArray_encode (s : String) : (encode s).toByteArray = s.toByteArray := by
  conv => rhs; rw [← String.ofList_toList (s := s), String.toByteArray_ofList]
  rfl

@[simp] theorem decode?_encode (s : String) : decode? (encode s) = some s := by
  unfold decode? String.fromUTF8?
  rw [toByteArray_encode, dif_pos s.isValidUTF8]
  rfl

/-- Only the UTF-8 form of a text is read back as that text. -/
theorem encode_of_decode? {bytes : Bytes} {s : String} (h : decode? bytes = some s) :
    encode s = bytes := by
  unfold decode? String.fromUTF8? at h
  split at h
  · have hs : s.toByteArray = bytes.toByteArray := by
      rw [← Option.some.inj h]; rfl
    rw [← toByteArray_encode] at hs
    have := congrArg (fun b : ByteArray => b.data.toList) hs
    simpa using this
  · exact absurd h (by simp)

/-! ### Showing any byte string -/

/-- What a byte at the start of a character announces: how many bytes follow
    it, and the range in which the first of them must lie. -/
structure Lead where
  following : Nat
  low       : UInt8
  high      : UInt8

/-- The sequences that UTF-8 allows, by their first byte.  The narrowed ranges
    keep out overlong forms, surrogates and values past the last code point. -/
def lead? (b : UInt8) : Option Lead :=
  if 0xC2 ≤ b ∧ b ≤ 0xDF then some ⟨1, 0x80, 0xBF⟩
  else if b = 0xE0 then some ⟨2, 0xA0, 0xBF⟩
  else if b = 0xED then some ⟨2, 0x80, 0x9F⟩
  else if 0xE1 ≤ b ∧ b ≤ 0xEF then some ⟨2, 0x80, 0xBF⟩
  else if b = 0xF0 then some ⟨3, 0x90, 0xBF⟩
  else if 0xF1 ≤ b ∧ b ≤ 0xF3 then some ⟨3, 0x80, 0xBF⟩
  else if b = 0xF4 then some ⟨3, 0x80, 0x8F⟩
  else none

/-- The bytes, at most `n`, that can follow in a character: the first within
    the given range, the others any continuation byte. -/
def following : Nat → UInt8 → UInt8 → Bytes → Bytes
  | 0, _, _, _ => []
  | _, _, _, [] => []
  | n + 1, low, high, b :: rest =>
    if low ≤ b ∧ b ≤ high then b :: following n 0x80 0xBF rest else []

/-- The code point written by a first byte and the bytes that follow it. -/
def codePoint (first : UInt8) (rest : Bytes) : Nat :=
  let payload := first.toNat % (1 <<< (6 - rest.length))
  rest.foldl (fun v b => v * 64 + b.toNat % 64) payload

theorem length_drop_lt (n : Nat) (b : UInt8) (bytes : Bytes) :
    (bytes.drop n).length < (b :: bytes).length := by
  rw [List.length_drop, List.length_cons]
  omega

/-- The characters of a byte string, with nothing for each stretch of bytes
    that starts no character. -/
def scan (bytes : Bytes) : List (Option Char) :=
  match bytes with
  | [] => []
  | b :: rest =>
    if b < 0x80 then some (Char.ofNat b.toNat) :: scan rest
    else
      match lead? b with
      | none => none :: scan rest
      | some l =>
        let more := following l.following l.low l.high rest
        if more.length = l.following then
          some (Char.ofNat (codePoint b more)) :: scan (rest.drop more.length)
        else
          none :: scan (rest.drop more.length)
termination_by bytes.length
decreasing_by
  · exact Nat.lt_succ_self _
  · exact Nat.lt_succ_self _
  · exact length_drop_lt _ _ _
  · exact length_drop_lt _ _ _

/-- The character that stands for bytes which are none. -/
def replacement : Char := '\uFFFD'

/-- A byte string as it is shown in messages. -/
def lossy (bytes : Bytes) : String :=
  String.ofList ((scan bytes).map (·.getD replacement))

/-- The stretches of characters in a row with gaps, a replacement character
    for each gap. -/
def stretches : List Char → List (Option Char) → List String
  | run, [] => [String.ofList run]
  | run, some c :: rest => stretches (run ++ [c]) rest
  | run, none :: rest => String.ofList run :: replacement.toString :: stretches [] rest

/-- The pieces in which a byte string is shown: text, and replacement
    characters, each by itself. -/
def lossyPieces (bytes : Bytes) : List String := stretches [] (scan bytes)

theorem join_stretches (run : List Char) (row : List (Option Char)) :
    String.join (stretches run row) =
      String.ofList (run ++ row.map (·.getD replacement)) := by
  induction row generalizing run with
  | nil => simp [stretches]
  | cons o rest ih =>
    cases o with
    | none => simp [stretches, ih, replacement]
    | some c => simp [stretches, ih]

/-- The pieces make up what is shown. -/
theorem join_lossyPieces (bytes : Bytes) : String.join (lossyPieces bytes) = lossy bytes := by
  simp [lossyPieces, lossy, join_stretches]

end Text
end LayeredRoots
