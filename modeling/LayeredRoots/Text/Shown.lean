import LayeredRoots.Text.Printable

/-! # Texts shown in messages

    A text is shown between quotes with the quotes and backslashes in it
    escaped.  The usual control characters are shown by a letter or a zero and
    every other unprintable character by its code point in braces. -/

namespace LayeredRoots.Text

/-- A number in lower-case hexadecimal digits. -/
def hexadecimal (n : Nat) : List Char := Nat.toDigits 16 n

/-- How one character is shown. -/
def showChar (c : Char) : List Char :=
  if c = '"' then ['\\', '"']
  else if c = '\\' then ['\\', '\\']
  else if c.toNat = 0 then ['\\', '0']
  else if c = '\t' then ['\\', 't']
  else if c = '\n' then ['\\', 'n']
  else if c = '\r' then ['\\', 'r']
  else if isPrintable c then [c]
  else ['\\', 'u', '{'] ++ hexadecimal c.toNat ++ ['}']

/-- How a text is shown. -/
def shown (s : String) : String :=
  String.ofList ('"' :: (s.toList.flatMap showChar ++ ['"']))

example : shown "a\"\\\n'é\u200b" = "\"a\\\"\\\\\\n'é\\u\x7b200b\x7d\"" := by
  decide +kernel

end LayeredRoots.Text
