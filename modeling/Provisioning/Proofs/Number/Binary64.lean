import Provisioning.Number.Binary64

/-!
Comparison and rounding of numbers. To a number greater than zero only one pattern is equal, its
own. The integers that fit 64 bits are rounded to finite numbers (`isFinite_ofInt`).
-/

namespace Provisioning.Binary64

/-! ### Comparison -/

theorem isNaN_of_isFinite {x : Binary64} (h : x.isFinite = true) : x.isNaN = false := by
  simp only [isFinite, isNaN, decide_eq_true_eq, decide_eq_false_iff_not] at *
  omega

theorem isNaN_of_positive {x : Binary64} (h : x.positive = true) : x.isNaN = false := by
  simp only [positive, Bool.and_eq_true, Bool.not_eq_true'] at h
  exact h.1.1

theorem same_self {x : Binary64} (h : x.isNaN = false) : x.same x = true := by
  simp [same, h]

theorem eq_of_same {x y : Binary64} (hsame : x.same y = true) (hpositive : y.positive = true) :
    x = y := by
  simp only [same, positive, Bool.and_eq_true, Bool.or_eq_true, beq_iff_eq, bne_iff_ne] at *
  obtain ⟨-, hbits | ⟨-, hzero⟩⟩ := hsame
  · cases x
    cases y
    cases hbits
    rfl
  · exact absurd hzero hpositive.2

/-- Whether two patterns, if they stand for numbers, stand for different ones. The two zeros are one
number. -/
def Differs (x y : Binary64) : Prop := x ≠ y ∧ ¬ (x.magnitude = 0 ∧ y.magnitude = 0)

theorem same_eq_false_iff {x y : Binary64} (hx : x.isNaN = false) (hy : y.isNaN = false) :
    x.same y = false ↔ x.Differs y := by
  have hbits : x.bits = y.bits ↔ x = y := by
    cases x
    cases y
    exact (mk.injEq ..).to_iff.symm
  simp [same, Differs, hx, hy, hbits]

/-! ### Rounding -/

theorem isFinite_ofMagnitude {negative : Bool} {magnitude : Nat} (h : magnitude < infinite) :
    (ofMagnitude negative magnitude).isFinite = true := by
  have hmagnitude : (ofMagnitude negative magnitude).magnitude = magnitude := by
    cases negative <;>
      simp only [ofMagnitude, Binary64.magnitude, UInt64.toNat_ofNat', signBit, infinite,
        Bool.false_eq_true, if_false, if_true] at * <;>
      omega
  rw [isFinite, hmagnitude]
  exact decide_eq_true h

theorem pow2_pos (n : Nat) : 0 < pow2 n := Nat.two_pow_pos n

theorem pow2_add (n k : Nat) : pow2 (n + k) = pow2 n * pow2 k := Nat.pow_add 2 n k

theorem pow2_le_pow2 {n k : Nat} (h : n ≤ k) : pow2 n ≤ pow2 k :=
  Nat.pow_le_pow_right Nat.zero_lt_two h

/-- Of a ratio, the nearest integer is at most one more than the ratio. -/
theorem roundDiv_le (n d : Nat) : roundDiv n d ≤ n / d + 1 := by
  unfold roundDiv
  dsimp only
  split
  · omega
  · split <;> omega

/-- An integer of 64 bits is rounded to a finite number. -/
theorem nearest_lt_infinite {n : Nat} (h : n < 0x10000000000000000) : nearest n 1 < infinite := by
  by_cases hn : n = 0
  · subst hn
    decide
  have hlog : n.log2 < 64 := (Nat.log2_lt hn).mpr h
  have hscale : n.log2 + 1021 ≤ scaleOf n 1 ∧ scaleOf n 1 ≤ 1085 := by
    have hone : Nat.log2 1 = 0 := by decide
    unfold scaleOf
    simp only [hone]
    split <;> omega
  -- The significand has 53 bits, or one more where the scale is off by one.
  have hratio : n * pow2 1074 / (1 * pow2 (scaleOf n 1)) < pow2 54 := by
    rw [Nat.one_mul]
    refine Nat.div_lt_of_lt_mul ?_
    calc n * pow2 1074 < pow2 (n.log2 + 1) * pow2 1074 :=
          Nat.mul_lt_mul_of_pos_right Nat.lt_log2_self (pow2_pos 1074)
      _ = pow2 (n.log2 + 1 + 1074) := (pow2_add _ _).symm
      _ ≤ pow2 (scaleOf n 1 + 54) := pow2_le_pow2 (by omega)
      _ = pow2 (scaleOf n 1) * pow2 54 := pow2_add _ _
  have hsignificand := roundDiv_le (n * pow2 1074) (1 * pow2 (scaleOf n 1))
  unfold nearest
  rw [if_neg hn]
  refine Nat.lt_of_le_of_lt (Nat.min_le_left _ _) ?_
  have hbound : pow2 54 = 0x40000000000000 := rfl
  simp only [leastNormal, infinite]
  omega

/-- The integers that fit 64 bits, with a sign or without, are rounded to finite numbers. -/
theorem isFinite_ofInt {n : Int}
    (h : -0x8000000000000000 ≤ n ∧ n < 0x10000000000000000) : (ofInt n).isFinite = true :=
  isFinite_ofMagnitude (nearest_lt_infinite (by omega))

end Provisioning.Binary64
