/-!
The 64-bit binary floating point numbers of documents and wire objects, kept as their bit pattern
so that every operation on them is exact natural-number arithmetic. A finite number is
`m · 2 ^ (e - 1074)` for its `significand` `m` and `scale` `e`; `nearest` rounds any positive ratio
to such a number, ties to the even significand, and everything else here is built on those two.
-/

namespace Provisioning

/-- A binary64 number, as its bit pattern. -/
structure Binary64 where
  bits : UInt64
deriving DecidableEq, Inhabited

namespace Binary64

/-! ### Parts of the bit pattern -/

/-- A power of two. -/
def pow2 (n : Nat) : Nat := Nat.pow 2 n

/-- The bit that stands for the sign. -/
def signBit : Nat := 0x8000000000000000

/-- The least magnitude of a number whose significand has all its bits, and that significand. -/
def leastNormal : Nat := 0x10000000000000

/-- Whether the sign bit is set. -/
def negative (x : Binary64) : Bool := signBit ≤ x.bits.toNat

/-- The bit pattern without the sign bit. It orders the numbers of one sign by magnitude. -/
def magnitude (x : Binary64) : Nat := x.bits.toNat % signBit

/-- The magnitude of infinity, and the least that is not a finite number's. -/
def infinite : Nat := 0x7FF0000000000000

/-- Whether the number is neither infinite nor undefined. -/
def isFinite (x : Binary64) : Bool := x.magnitude < infinite

/-- Whether the pattern stands for no number. -/
def isNaN (x : Binary64) : Bool := infinite < x.magnitude

/-- The integer `m` of a finite magnitude `m · 2 ^ (e - 1074)`. -/
def significand (x : Binary64) : Nat :=
  if x.magnitude < leastNormal then x.magnitude else leastNormal + x.magnitude % leastNormal

/-- The exponent `e` of a finite magnitude `m · 2 ^ (e - 1074)`. -/
def scale (x : Binary64) : Nat :=
  x.magnitude / leastNormal - 1

/-- The number of the given sign and magnitude. -/
def ofMagnitude (negative : Bool) (magnitude : Nat) : Binary64 :=
  ⟨UInt64.ofNat (magnitude + if negative then signBit else 0)⟩

/-- The number zero, without a sign. -/
def zero : Binary64 := ⟨0⟩

/-- The number with its sign bit flipped. -/
def neg (x : Binary64) : Binary64 := ofMagnitude (!x.negative) x.magnitude

/-! ### Comparison -/

/-- Equality of the numbers that two patterns stand for: the two zeros are equal, and a pattern
that stands for no number equals nothing. -/
def same (x y : Binary64) : Bool :=
  !x.isNaN && !y.isNaN && (x.bits == y.bits || (x.magnitude == 0 && y.magnitude == 0))

/-- Whether the number is greater than zero. -/
def positive (x : Binary64) : Bool :=
  !x.isNaN && !x.negative && x.magnitude != 0

/-! ### Rounding -/

/-- The nearest integer to `n / d`, a tie going to the even one. -/
def roundDiv (n d : Nat) : Nat :=
  let q := n / d
  let r := n % d
  if 2 * r < d then q else if d < 2 * r then q + 1 else q + q % 2

/-- The exponent `e` at which `n / d` has a 53-bit significand, or zero if it would be less. -/
def scaleOf (n d : Nat) : Nat :=
  let guess := n.log2 + 1074 - d.log2 - 52
  if n * pow2 1074 < d * pow2 (guess + 52) then guess - 1 else guess

/-- The magnitude nearest to the ratio `n / d`, a tie going to the even significand. Ratios beyond
the greatest finite number give infinity. -/
def nearest (n d : Nat) : Nat :=
  if n = 0 then 0
  else
    let e := scaleOf n d
    let m := roundDiv (n * pow2 1074) (d * pow2 e)
    min (e * leastNormal + m) infinite

/-- The number nearest to a natural number. -/
def ofNat (n : Nat) : Binary64 := ofMagnitude false (nearest n 1)

/-- The number nearest to an integer. -/
def ofInt (n : Int) : Binary64 := ofMagnitude (n < 0) (nearest n.natAbs 1)

/-- The numerator of a finite magnitude over `2 ^ 1074`. -/
def numerator (x : Binary64) : Nat := x.significand * pow2 x.scale

/-- The product of two finite magnitudes, rounded. -/
def mulMagnitude (x y : Binary64) : Nat :=
  nearest (x.numerator * y.numerator) (pow2 2148)

/-- The quotient of two finite magnitudes, rounded. -/
def divMagnitude (x y : Binary64) : Nat :=
  nearest x.numerator y.numerator

end Binary64

end Provisioning
