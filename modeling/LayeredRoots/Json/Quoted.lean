/-! # Quoted JSON strings

    A string is written between quotes.  Quotes, backslashes and the control
    characters below U+0020 are escaped, five of the latter by a letter and the
    others by four hexadecimal digits; every other character stands for
    itself. -/

namespace LayeredRoots.Json

/-- A hexadecimal digit, in lower case. -/
def hexDigit (n : Nat) : Char :=
  if n < 10 then Char.ofNat (48 + n) else Char.ofNat (87 + n)

/-- How a character is written inside a string. -/
def escape (c : Char) : List Char :=
  if c = '"' then ['\\', '"']
  else if c = '\\' then ['\\', '\\']
  else if c.toNat = 0x08 then ['\\', 'b']
  else if c.toNat = 0x09 then ['\\', 't']
  else if c.toNat = 0x0A then ['\\', 'n']
  else if c.toNat = 0x0C then ['\\', 'f']
  else if c.toNat = 0x0D then ['\\', 'r']
  else if c.toNat < 0x20 then
    ['\\', 'u', '0', '0', hexDigit (c.toNat / 16), hexDigit (c.toNat % 16)]
  else [c]

/-- The written form of a string. -/
def quoteChars (cs : List Char) : List Char :=
  '"' :: (cs.flatMap escape ++ ['"'])

/-- The written form of a string, as text. -/
def quote (s : String) : String :=
  String.ofList (quoteChars s.toList)

end LayeredRoots.Json
