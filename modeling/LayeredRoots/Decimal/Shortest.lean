/-! # Shortest decimals of a floating-point number

    A finite number of 64 bits stands for all reals that round to it: an
    interval around `m · 2^q` that contains its ends if `m` is even.  The
    shortest decimal is the one with the fewest digits in that interval, of
    those the nearest to the number, and of two that are equally near the one
    whose last digit is even.

    All of it is arithmetic on natural numbers.  For a fixed number of digits
    the decimals form a grid, and only the two grid points next to the number
    have to be tried. -/

namespace LayeredRoots.Decimal

/-- The decimal `digits · 10^exponent`. -/
structure Scaled where
  digits   : Nat
  exponent : Int
  deriving DecidableEq, Repr

/-- A positive finite number, `mantissa · 2^exponent`. -/
structure Binary where
  mantissa : Nat
  exponent : Int
  deriving DecidableEq, Repr

/-- The value of the bit that stands for a minus. -/
def signBit : Nat := 0x8000000000000000

/-- The value of the lowest bit of the exponent, which is also the leading bit
    of a mantissa that is as long as can be. -/
def leadingBit : Nat := 0x10000000000000

/-- The magnitude written by the bits of a finite number. -/
def Binary.ofBits (bits : Nat) : Binary :=
  let fraction := bits % leadingBit
  let biased := bits % signBit / leadingBit
  if biased = 0 then ⟨fraction, -1074⟩ else ⟨fraction + leadingBit, (biased : Int) - 1075⟩

/-- `x · 2^q` and `d · 10^k`, scaled by a common factor to natural numbers. -/
def scale (x : Nat) (q : Int) (d : Nat) (k : Int) : Nat × Nat :=
  (x * Nat.pow 2 q.toNat * Nat.pow 10 (-k).toNat, d * Nat.pow 10 k.toNat * Nat.pow 2 (-q).toNat)

/-- Whether a decimal rounds to the number.  In units of a quarter of the last
    place the number is `4 · m`, and its interval reaches two units either way,
    or one unit down where the next smaller number has a finer grid. -/
def Binary.covers (b : Binary) (s : Scaled) : Bool :=
  let down := if b.mantissa = leadingBit ∧ -1074 < b.exponent then 1 else 2
  let q := b.exponent - 2
  let (low, d) := scale (4 * b.mantissa - down) q s.digits s.exponent
  let (high, d') := scale (4 * b.mantissa + 2) q s.digits s.exponent
  if b.mantissa % 2 = 0 then low ≤ d && d' ≤ high else low < d && d' < high

/-- The power of ten of the first digit of a number. -/
def Binary.order (b : Binary) : Int :=
  let (v, one) := scale b.mantissa b.exponent 1 0
  if one ≤ v then (Nat.toDigits 10 (v / one)).length - 1
  else
    match (List.range 400).find? fun t => one ≤ v * Nat.pow 10 t with
    | some t => -(t : Int)
    | none => -400

/-- The grid points with `n` digits next to a number, the nearer one first, and
    of two that are equally near the one that ends in an even digit. -/
def Binary.neighbours (b : Binary) (n : Nat) : List Scaled :=
  let k := b.order - (n : Int) + 1
  let (v, one) := scale b.mantissa b.exponent 1 k
  let d := v / one
  if 2 * (v % one) < one ∨ 2 * (v % one) = one ∧ d % 2 = 0 then [⟨d, k⟩, ⟨d + 1, k⟩]
  else [⟨d + 1, k⟩, ⟨d, k⟩]

/-- The shortest decimal that rounds to a positive number.  Seventeen digits
    always suffice. -/
def Binary.shortest (b : Binary) : Scaled :=
  let grids := (List.range 17).flatMap fun n => b.neighbours (n + 1)
  (grids.find? b.covers).getD ⟨0, 0⟩

example : (Binary.ofBits 0x3FF8000000000000).shortest = ⟨15, -1⟩ := by decide +kernel
example : (Binary.ofBits 1).shortest = ⟨5, -324⟩ := by decide +kernel
example : (Binary.ofBits 0x431FFFFFFFFFFFFF).shortest = ⟨22517998136852478, -1⟩ := by
  decide +kernel
example : (Binary.ofBits 0x43F0000000000000).shortest = ⟨18446744073709552, 3⟩ := by
  decide +kernel

end LayeredRoots.Decimal
