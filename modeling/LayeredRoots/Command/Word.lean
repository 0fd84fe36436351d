import LayeredRoots.Path.Basic

/-! # Words of a command line

    What a word is can be told from its first bytes:

    - `--` alone is the divider, behind which every word is plain;
    - `--name` and `--name=value` are long options;
    - `-` with letters behind it is a row of short options;
    - every other word is plain, `-` alone too. -/

namespace LayeredRoots.Command

/-- The byte `-`. -/
def dash : UInt8 := 45

/-- The byte `=`. -/
def equalsSign : UInt8 := 61

inductive Word where
  | divider
  | long (name : Bytes) (value : Option Bytes)
  | short (letters : Bytes)
  | plain (text : Bytes)
  deriving DecidableEq, Repr

namespace Word

/-- The long option written by what follows `--`. -/
def ofLong (text : Bytes) : Word :=
  match text.span (· ≠ equalsSign) with
  | (name, []) => .long name none
  | (name, _ :: value) => .long name (some value)

/-- What a word is. -/
def ofBytes : Bytes → Word
  | [] => .plain []
  | a :: rest =>
    if a ≠ dash then .plain (a :: rest)
    else
      match rest with
      | [] => .plain [a]
      | b :: more =>
        if b ≠ dash then .short (b :: more)
        else if more.isEmpty then .divider
        else ofLong more

example : ofBytes (Text.encode "--a=b=c") =
    .long (Text.encode "a") (some (Text.encode "b=c")) := by decide +kernel

example : ofBytes (Text.encode "-") = .plain (Text.encode "-") := by decide +kernel

end Word
end LayeredRoots.Command
