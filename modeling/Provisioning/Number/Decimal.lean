import Provisioning.Number.Binary64

/-!
Decimal numbers and their binary64 neighbours. `Decimal.exact` rounds a decimal correctly;
`Decimal.scaled` rounds it the way JSON texts are read here, by one multiplication or division of
the rounded significand; `Binary64.shortest` goes back, to the decimal with the fewest digits that
is nearer to the number than to any other.
-/

namespace Provisioning

/-- The number `significand · 10 ^ exponent`. -/
structure Decimal where
  significand : Nat
  exponent : Int
deriving DecidableEq

namespace Decimal

/-! ### Reading -/

/-- A power of ten. -/
def pow10 (n : Nat) : Nat := Nat.pow 10 n

/-- The greatest exponent of a power of ten that is a finite number. -/
def maxPower : Nat := 308

/-- The magnitude nearest to the decimal. Exponents far outside the range of finite numbers are
settled without computing the power. -/
def exact (d : Decimal) : Nat :=
  if d.significand = 0 then 0
  else if 0 ≤ d.exponent then
    if 400 < d.exponent then Binary64.infinite
    else Binary64.nearest (d.significand * pow10 d.exponent.toNat) 1
  else
    if (d.significand.log2 : Int) + 3 * d.exponent < -1200 then 0
    else Binary64.nearest d.significand (pow10 (-d.exponent).toNat)

/-- A number divided by a power of ten, by `10 ^ 308` at a time. -/
def divPower (x : Binary64) (power : Nat) : Binary64 :=
  if power ≤ maxPower then
    .ofMagnitude false (x.divMagnitude (.ofNat (pow10 power)))
  else if x.magnitude = 0 then x
  else divPower (.ofMagnitude false (x.divMagnitude (.ofNat (pow10 maxPower)))) (power - maxPower)
termination_by power
decreasing_by simp [maxPower] at *; omega

/-- The number a JSON text with this decimal stands for: the significand is rounded, then scaled
by the power of ten and rounded again. There is none if it would be infinite. -/
def scaled (d : Decimal) : Option Binary64 :=
  let x := Binary64.ofNat d.significand
  if d.exponent < 0 then some (divPower x (-d.exponent).toNat)
  else if x.magnitude = 0 then some x
  else if maxPower < d.exponent.toNat then none
  else
    let m := x.mulMagnitude (.ofNat (pow10 d.exponent.toNat))
    if m < Binary64.infinite then some (.ofMagnitude false m) else none

end Decimal

/-! ### Writing -/

namespace Binary64

/-- The multiple of `unit` nearest to `4 · v` that a reader would round to the number, if there is
a positive one. The numbers that round to it reach `below` under `4 · v` and `above` over it, and
include both ends when `closed`. -/
def multipleIn (v below above unit : Nat) (closed : Bool) : Option Nat :=
  let fits (q : Nat) : Bool :=
    q != 0 && (if closed then v - below ≤ q * unit && q * unit ≤ v + above
      else v - below < q * unit && q * unit < v + above)
  let q := v / unit
  let r := v % unit
  let near := if 2 * r < unit then q else if unit < 2 * r then q + 1 else q + q % 2
  let far := if near = q then q + 1 else q
  if fits near then some near else if fits far then some far else none

/-- The shortest decimal among those with at most the exponent `first`, tried downwards `count`
times. -/
def shortestFrom (x : Binary64) : (count : Nat) → (first : Int) → Decimal
  | 0, first => ⟨0, first⟩
  | count + 1, first =>
    let v := 4 * x.numerator
    let half := 2 * pow2 x.scale
    let below := if x.significand = leastNormal && x.scale != 0 then half / 2 else half
    let closed := x.significand % 2 == 0
    let found :=
      if 0 ≤ first then multipleIn v below half (pow2 1076 * Decimal.pow10 first.toNat) closed
      else
        let p := Decimal.pow10 (-first).toNat
        multipleIn (v * p) (below * p) (half * p) (pow2 1076) closed
    match found with
    | some q => ⟨q, first⟩
    | none => shortestFrom x count (first - 1)

/-- The decimal with the fewest digits that reads back as the magnitude of a finite number, and of
those the nearest one. -/
def shortest (x : Binary64) : Decimal :=
  if x.magnitude = 0 then ⟨0, 0⟩ else shortestFrom x 660 309

/-- The text of an exponent, which always has a sign. -/
def exponentText (n : Int) : List Char :=
  (if 0 ≤ n then "+" ++ toString n else toString n).toList

/-- The text of a finite number: at least one digit on either side of the point, and an exponent
where the point would be more than sixteen places to the right or five to the left. -/
def toText (x : Binary64) : String :=
  let d := x.shortest
  let digits := Nat.toDigits 10 d.significand
  let zeros (n : Int) : List Char := List.replicate n.toNat '0'
  let point : Int := digits.length + d.exponent
  let body : List Char :=
    if x.magnitude = 0 then ['0', '.', '0']
    else if 0 ≤ d.exponent && point ≤ 16 then digits ++ zeros d.exponent ++ ['.', '0']
    else if 0 < point && point ≤ 16 then
      digits.take point.toNat ++ '.' :: digits.drop point.toNat
    else if -5 < point && point ≤ 0 then '0' :: '.' :: zeros (-point) ++ digits
    else
      let whole := digits.take 1
      let fraction := digits.drop 1
      whole ++ (if fraction.isEmpty then [] else '.' :: fraction)
        ++ 'e' :: exponentText (point - 1)
  String.ofList ((if x.negative then ['-'] else []) ++ body)

end Binary64

end Provisioning
