/-
# The integer part of a double

The exponent field of a finite double is not all ones. So its integer part is at most the greatest
double, and never too large to become a double again.
-/

import Mathlib.Tactic.NormNum
import FlowGraph.Schema

namespace FlowGraph

open Decimal

/-- The exponent field of a finite double is not all ones. -/
theorem Schema.exponentField_lt {x : Float} (hfinite : x.isFinite = true) :
    ((x.toBits >>> 52) &&& 0x7FF).toNat < 2047 := by
  obtain ⟨⟨bits, hvalid⟩⟩ := x
  obtain ⟨field, hunpack⟩ : ∃ field, @Float.Model.UnpackedFloat.unpackExponent
      Float.Model.Format.binary64 bits.toBitVec = field := ⟨_, rfl⟩
  have hfield : field.toNat = ((bits >>> 52) &&& 0x7FF).toNat := by
    rw [← hunpack]
    change (bits.toNat >>> 52) % 2 ^ 11 = (bits.toNat >>> 52) &&& (2 ^ 11 - 1)
    rw [Nat.and_two_pow_sub_one_eq_mod]
  have hmodel : (Float.Model.UnpackedFloat.unpack Float.Model.Format.binary64
      bits.toBitVec).isFinite = true := hfinite
  have hones : field ≠ -1#11 := by
    rintro rfl
    have hspecial : Float.Model.UnpackedFloat.unpack Float.Model.Format.binary64
        bits.toBitVec = _ := if_pos hunpack
    rw [hspecial] at hmodel
    split at hmodel <;> cases hmodel
  have hlt : field.toNat < 2048 := BitVec.isLt _
  have hne : field.toNat ≠ 2047 := fun hall => hones (BitVec.eq_of_toNat_eq hall)
  change ((bits >>> 52) &&& 0x7FF).toNat < 2047
  omega

/-- The mantissa of a double has at most 53 bits. -/
theorem Decimal.Dyadic.mantissa_ofBits_lt (bits : UInt64) : (ofBits bits).mantissa < 2 ^ 53 := by
  have hfraction : (bits &&& 0xFFFFFFFFFFFFF).toNat < 2 ^ 52 := by
    rw [UInt64.toNat_and]
    exact Nat.lt_of_le_of_lt Nat.and_le_right (by decide)
  simp only [ofBits]
  split
  · exact Nat.lt_trans hfraction (by decide)
  · change 0x10000000000000 + (bits &&& 0xFFFFFFFFFFFFF).toNat < 2 ^ 53
    omega

/-- The exponent of a finite double is at most that of the greatest one. -/
theorem Decimal.Dyadic.exponent_ofBits_le {x : Float} (hfinite : x.isFinite = true) :
    (ofBits x.toBits).exponent ≤ 971 := by
  have hfield := Schema.exponentField_lt hfinite
  simp only [ofBits]
  split
  · change (-1074 : Int) ≤ 971
    decide
  · change (((x.toBits >>> 52) &&& 0x7FF).toNat : Int) - 1075 ≤ 971
    omega

/-- A mantissa of 53 bits is scaled to less than halfway beyond the greatest one. The limit is
left open, so that no power of it is ever worked out. -/
theorem Decimal.lt_halfway {n mantissa exponent limit : Nat} (hn : n ≤ mantissa * 2 ^ exponent)
    (hmantissa : mantissa < 2 ^ 53) (hexponent : exponent ≤ limit + 1) :
    n < (Nat.pow 2 54 - 1) * Nat.pow 2 limit := by
  calc
    n ≤ mantissa * 2 ^ exponent := hn
    _ ≤ (2 ^ 53 - 1) * 2 ^ (limit + 1) :=
      Nat.mul_le_mul (Nat.le_sub_one_of_lt hmantissa) (Nat.pow_le_pow_right (by decide) hexponent)
    _ = (2 ^ 54 - 2) * 2 ^ limit := by
      rw [pow_succ' 2 limit, ← Nat.mul_assoc]
      norm_num
    _ < (Nat.pow 2 54 - 1) * Nat.pow 2 limit :=
      Nat.mul_lt_mul_of_pos_right (by decide) (Nat.two_pow_pos limit)

/-- The integer part of a finite double can become a double again. -/
theorem Schema.fitsDouble_truncate {x : Float} (hfinite : x.isFinite = true) :
    fitsDouble (truncate x) = true := by
  obtain ⟨dyadic, hdyadic⟩ : ∃ dyadic, Dyadic.ofBits x.toBits = dyadic := ⟨_, rfl⟩
  have hexponent : dyadic.exponent.toNat ≤ 970 + 1 := by
    have hle := Dyadic.exponent_ofBits_le hfinite
    rw [hdyadic] at hle
    omega
  have hnatAbs : (truncate x).natAbs =
      dyadic.mantissa * (scale 2 dyadic.exponent).1 / (scale 2 dyadic.exponent).2 := by
    simp only [truncate, hdyadic]
    split
    · rw [Int.natAbs_neg, Int.natAbs_natCast]
    · rw [Int.natAbs_natCast]
  have hbound : (truncate x).natAbs ≤ dyadic.mantissa * 2 ^ dyadic.exponent.toNat :=
    hnatAbs ▸ Nat.div_le_self _ _
  have hmantissa : dyadic.mantissa < 2 ^ 53 := hdyadic ▸ Dyadic.mantissa_ofBits_lt x.toBits
  unfold fitsDouble
  generalize 970 = limit at hexponent ⊢
  exact decide_eq_true (lt_halfway hbound hmantissa hexponent)

end FlowGraph
