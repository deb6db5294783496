/-
# `Proofs.Number.Whole` — whole numbers stored as doubles

Every whole number of at most 53 bits is a double, and nothing is rounded on
the way to it or back.  Such a number `m`, whose leading bit stands at `e`, is
stored as

    coefficient   m · 2 ^ (52 - e)     from 2 ^ 52 on, below 2 ^ 53
    scale         e - 52

so its magnitude is the coefficient on top of `e + 1022` whole steps of the
exponent (`ofRatio_one`).  Read back, the scale takes off the zeros with which
the coefficient was filled up (`toNearestInt_ofInt`).
-/
import Mathlib.Algebra.Group.Nat.Defs
import ProviderRegistry.Number.Double

namespace ProviderRegistry

namespace Double

theorem nearestEven_one (a : Nat) : nearestEven a 1 = a := by
  simp [nearestEven, Nat.mod_one]

/-- Half a step does not change a whole quotient. -/
theorem halved_quotient {m p : Nat} (hp : 0 < p) : (2 * (m * p) + p) / (2 * p) = m := by
  have hsplit : 2 * (m * p) + p = p + 2 * p * m := by
    rw [Nat.add_comm, Nat.mul_comm m, Nat.mul_assoc]
  rw [hsplit, Nat.add_mul_div_left _ _ (by omega), Nat.div_eq_of_lt (by omega), Nat.zero_add]

theorem toNearestInt_of_coefficient {x : Double} (h : x.coefficient = 0) : x.toNearestInt = 0 := by
  have hquotient : ∀ p, 0 < p → (2 * (0 * 2 ^ x.scale.toNat) + p) / (2 * p) = 0 := by
    intro p hp
    rw [Nat.zero_mul]
    exact Nat.div_eq_of_lt (by omega)
  rw [toNearestInt, h, scaledBy]
  dsimp only [Nat.pow_eq]
  rw [Nat.one_mul, hquotient _ (Nat.two_pow_pos _)]
  split <;> rfl

/-! ## Magnitudes with a full coefficient -/

section Magnitude

variable {e c : Nat} (he : e ≤ 52) (hlow : normalUnit ≤ c) (hhigh : c < 2 * normalUnit)

include he hlow hhigh

theorem magnitude_full (negative : Bool) :
    (ofMagnitude negative ((e + 1022) * normalUnit + c)).magnitude.val
      = (e + 1022) * normalUnit + c := by
  refine Nat.mod_eq_of_lt ?_
  unfold normalUnit at *
  omega

theorem isFinite_full (negative : Bool) :
    (ofMagnitude negative ((e + 1022) * normalUnit + c)).isFinite = true := by
  rw [isFinite, magnitude_full he hlow hhigh, decide_eq_true_eq]
  unfold normalUnit infinityMagnitude at *
  omega

theorem coefficient_full (negative : Bool) :
    (ofMagnitude negative ((e + 1022) * normalUnit + c)).coefficient = c := by
  rw [coefficient, magnitude_full he hlow hhigh, if_neg]
  · unfold normalUnit at *
    omega
  · unfold normalUnit at *
    omega

theorem scale_full (negative : Bool) :
    (ofMagnitude negative ((e + 1022) * normalUnit + c)).scale = -((52 - e : Nat) : Int) := by
  rw [scale, magnitude_full he hlow hhigh]
  unfold normalUnit at *
  omega

end Magnitude

/-! ## A positive number below the 54th bit -/

section Positive

variable {m : Nat} (hm : m ≠ 0)

include hm

theorem floorLog2_one : floorLog2 m 1 = Nat.log2 m := by
  have hlog : Nat.log2 1 = 0 := by decide
  have hle : 2 ^ Nat.log2 m ≤ m := Nat.log2_self_le hm
  simp only [floorLog2, scaledBy, hlog]
  simp [hle]

variable (hlog : Nat.log2 m ≤ 52)

include hlog

/-- The number is filled up to 53 bits. -/
theorem filled_bounds :
    normalUnit ≤ m * 2 ^ (52 - Nat.log2 m) ∧ m * 2 ^ (52 - Nat.log2 m) < 2 * normalUnit := by
  have hunit : 2 ^ Nat.log2 m * 2 ^ (52 - Nat.log2 m) = normalUnit := by
    rw [← Nat.pow_add, Nat.add_sub_cancel' hlog]
    rfl
  have hlow : 2 ^ Nat.log2 m ≤ m := Nat.log2_self_le hm
  have hhigh : m < 2 * 2 ^ Nat.log2 m := by
    have hlt : m < 2 ^ (Nat.log2 m + 1) := Nat.lt_log2_self
    rwa [Nat.pow_succ, Nat.mul_comm] at hlt
  rw [← hunit, ← Nat.mul_assoc]
  exact ⟨Nat.mul_le_mul_right _ hlow, Nat.mul_lt_mul_of_pos_right hhigh (Nat.two_pow_pos _)⟩

theorem ofRatio_one (negative : Bool) :
    ofRatio negative m 1
      = ofMagnitude negative ((Nat.log2 m + 1022) * normalUnit + m * 2 ^ (52 - Nat.log2 m)) := by
  obtain ⟨-, hhigh⟩ := filled_bounds hm hlog
  have hunit : max (floorLog2 m 1 - 52) (-1074) = -((52 - Nat.log2 m : Nat) : Int) := by
    rw [floorLog2_one hm]
    omega
  have hsteps : (-((52 - Nat.log2 m : Nat) : Int) + 1074).toNat = Nat.log2 m + 1022 := by omega
  have hscaled : scaledBy m 1 (- -((52 - Nat.log2 m : Nat) : Int))
      = (m * 2 ^ (52 - Nat.log2 m), 1) := by
    rw [Int.neg_neg, scaledBy, Int.toNat_natCast, Int.toNat_neg_natCast]
    rfl
  have hfinite : (Nat.log2 m + 1022) * normalUnit + m * 2 ^ (52 - Nat.log2 m)
      ≤ infinityMagnitude := by
    unfold normalUnit infinityMagnitude at *
    omega
  rw [ofRatio, if_neg (by simpa using hm)]
  dsimp only
  rw [hunit, hscaled, hsteps]
  dsimp only
  rw [nearestEven_one, Nat.min_eq_left hfinite]

/-- The zeros that a number was filled up with are taken off again. -/
theorem toNearestInt_ofRatio_one (negative : Bool) :
    (ofRatio negative m 1).toNearestInt = if negative then -(m : Int) else m := by
  obtain ⟨hlow, hhigh⟩ := filled_bounds hm hlog
  have hnegative : (ofRatio negative m 1).negative = negative := by
    rw [ofRatio_one hm hlog]
    rfl
  have hscaled : scaledBy (ofRatio negative m 1).coefficient 1 (ofRatio negative m 1).scale
      = (m * 2 ^ (52 - Nat.log2 m), 2 ^ (52 - Nat.log2 m)) := by
    rw [ofRatio_one hm hlog, coefficient_full hlog hlow hhigh, scale_full hlog hlow hhigh, scaledBy,
      Int.neg_neg, Int.toNat_natCast, Int.toNat_neg_natCast, Nat.one_mul]
    exact congrArg (·, _) (Nat.mul_one _)
  rw [toNearestInt, hscaled, hnegative]
  dsimp only
  rw [halved_quotient (Nat.two_pow_pos _)]

theorem isFinite_ofRatio_one (negative : Bool) : (ofRatio negative m 1).isFinite = true := by
  obtain ⟨hlow, hhigh⟩ := filled_bounds hm hlog
  rw [ofRatio_one hm hlog]
  exact isFinite_full hlog hlow hhigh negative

end Positive

/-! ## Whole numbers -/

section Whole

variable {n : Int} (h : n.natAbs < 2 ^ 53)

include h

theorem log2_natAbs_le : Nat.log2 n.natAbs ≤ 52 := by
  by_cases hn : n.natAbs = 0
  · rw [hn]
    decide
  · have hlt := (Nat.log2_lt hn).mpr h
    omega

theorem isFinite_ofInt : (ofInt n).isFinite = true := by
  by_cases hn : n.natAbs = 0
  · rw [ofInt, hn]
    cases decide (n < 0) <;> decide
  · exact isFinite_ofRatio_one hn (log2_natAbs_le h) _

/-- A whole number that is stored as a double is read back as it was. -/
theorem toNearestInt_ofInt : (ofInt n).toNearestInt = n := by
  by_cases hn : n.natAbs = 0
  · obtain rfl : n = 0 := Int.natAbs_eq_zero.mp hn
    exact toNearestInt_of_coefficient (by decide)
  · rw [ofInt, toNearestInt_ofRatio_one hn (log2_natAbs_le h)]
    split
    · rename_i hnegative
      have hlt : n < 0 := of_decide_eq_true hnegative
      omega
    · rename_i hnegative
      have hle : ¬ n < 0 := fun hlt => hnegative (decide_eq_true hlt)
      omega

end Whole

/-- In particular every number of 32 bits is. -/
theorem toNearestInt64_ofInt32 (n : Int32) : (ofInt n.toInt).toNearestInt64 = n.toInt64 := by
  have hlow := n.le_toInt
  have hhigh := n.toInt_lt
  have hleast : Int64.minValue.toInt = -2 ^ 63 := by decide
  have hgreatest : Int64.maxValue.toInt = 2 ^ 63 - 1 := by decide
  have hheld : max Int64.minValue.toInt (min Int64.maxValue.toInt n.toInt) = n.toInt64.toInt := by
    rw [Int32.toInt_toInt64]
    omega
  rw [toNearestInt64, toNearestInt_ofInt (by omega), hheld, Int64.ofInt_toInt]

end Double

end ProviderRegistry
