import LayeredRoots.Decimal.Shortest
import LayeredRoots.Json.Token

/-! # The value of a JSON number

    A number without point and exponent is an integer if it fits in 64 bits,
    signed or unsigned.  Every other number, and a negative zero, is a
    floating-point number.  Of its digits as many are kept as an unsigned
    64-bit significand holds; it is then multiplied or divided by one power of
    ten.  A magnitude past the largest finite number is refused. -/

namespace LayeredRoots.Json

inductive NumberValue where
  | integer (i : Int)
  | float (x : Float)

/-- The largest significand, and the largest integer. -/
def maxSignificand : Nat := 0xFFFFFFFFFFFFFFFF

/-- The magnitude of the least integer. -/
def maxNegative : Nat := 0x8000000000000000

/-- The largest power of ten that is a finite number. -/
def maxPower : Nat := 308

/-- Digits appended to a significand while it holds them, and those left. -/
def absorb : Nat → List Nat → Nat × List Nat
  | s, [] => (s, [])
  | s, d :: ds => if s * 10 + d ≤ maxSignificand then absorb (s * 10 + d) ds else (s, d :: ds)

/-- A power of ten as a floating-point number. -/
def powerOfTen (n : Nat) : Float := Float.ofScientific 1 false n

/-- `x` divided by `10^n`, the largest power at a time. -/
def divide (x : Float) (n : Nat) : Float :=
  if n ≤ maxPower then x / powerOfTen n
  else if x == 0.0 then x
  else divide (x / powerOfTen maxPower) (n - maxPower)
termination_by n
decreasing_by simp [maxPower] at *; omega

/-- `significand · 10^exponent`, unless it is too large. -/
def assemble? (negative : Bool) (significand : Nat) (exponent : Int) : Option Float :=
  let x := Float.ofNat significand
  let magnitude :=
    match exponent with
    | .ofNat n =>
      if n ≤ maxPower then
        let y := x * powerOfTen n
        if y.isInf then none else some y
      else if significand = 0 then some x
      else none
    | .negSucc n => some (divide x (n + 1))
  magnitude.map fun y => if negative then -y else y

/-- Exponents are held in 32 bits. -/
def maxExponent : Nat := 0x7FFFFFFF

namespace Exponent

/-- The number that the digits of an exponent write, if it fits. -/
def magnitude? (e : Exponent) : Option Nat :=
  let n := e.digits.foldl (fun n d => n * 10 + d) 0
  if n ≤ maxExponent then some n else none

end Exponent

namespace Numeral

/-- The significand of a number and the power of ten it is scaled by. -/
def significand (n : Numeral) : Nat × Int :=
  let (s, left) := absorb 0 n.whole
  let (s', left') := absorb s n.fraction
  (s', (left.length : Int) - ((n.fraction.length : Int) - left'.length))

/-- The value of a number, unless it is too large. -/
def value? (n : Numeral) : Option NumberValue :=
  let (s, scale) := n.significand
  match n.exponent with
  | some e =>
    match e.magnitude? with
    | some m =>
      let scale := if e.negative then scale - m else scale + m
      (assemble? n.negative s scale).map .float
    | none =>
      if s ≠ 0 ∧ ¬e.negative then none
      else some (.float (if n.negative then -0.0 else 0.0))
  | none =>
    -- a scale says that the significand did not hold all digits
    if n.fraction.isEmpty ∧ scale = 0 then
      if !n.negative then some (.integer s)
      else if s = 0 ∨ maxNegative < s then some (.float (-Float.ofNat s))
      else some (.integer (-(s : Int)))
    else (assemble? n.negative s scale).map .float

end Numeral

/-! ### The text of a number -/

/-- How floating-point numbers are written: positional from `10^low` up to
    `10^high`, always with a point; outside with a power of ten that has a sign. -/
structure FloatFormat where
  low  : Int
  high : Int

/-- The format used in messages. -/
def messageFormat : FloatFormat := ⟨-5, 15⟩

/-- The digits of a number without zeros at its end, and how many there were. -/
def dropZeros : Nat → List Char → List Char × Nat
  | 0, cs => (cs, 0)
  | n + 1, cs =>
    if cs.length > 1 ∧ cs.getLast? = some '0' then
      let (kept, zeros) := dropZeros n cs.dropLast
      (kept, zeros + 1)
    else (cs, 0)

/-- A decimal in a format. -/
def FloatFormat.write (f : FloatFormat) (s : Decimal.Scaled) : String :=
  let (digits, zeros) := dropZeros 20 (Nat.toDigits 10 s.digits)
  let exponent := s.exponent + zeros
  let order := exponent + digits.length - 1
  let zerosOf (n : Int) := String.ofList (List.replicate n.toNat '0')
  let all := String.ofList digits
  if f.low ≤ order ∧ order ≤ f.high then
    if 0 ≤ exponent then all ++ zerosOf exponent ++ ".0"
    else if 0 ≤ order then
      let (whole, fraction) := digits.splitAt (order + 1).toNat
      String.ofList whole ++ "." ++ String.ofList fraction
    else "0." ++ zerosOf (-order - 1) ++ all
  else
    let fraction := if digits.length > 1 then "." ++ String.ofList digits.tail else ""
    String.ofList (digits.take 1) ++ fraction ++ "e" ++ (if order < 0 then "-" else "+") ++
      toString order.natAbs

/-- A finite floating-point number in the format of messages. -/
def floatText (x : Float) : String :=
  let bits := x.toBits.toNat
  let b := Decimal.Binary.ofBits bits
  let sign := if Decimal.signBit ≤ bits then "-" else ""
  if b.mantissa = 0 then sign ++ "0.0" else sign ++ messageFormat.write b.shortest

end LayeredRoots.Json
