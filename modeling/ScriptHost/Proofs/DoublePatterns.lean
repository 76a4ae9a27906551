import Mathlib
import ScriptHost.Binary.Double

/-!
# Doubles by their patterns

A double that is made of a sign and a magnitude up to infinity keeps its pattern, and is a number.
What the library knows of doubles, that their equality is symmetric and transitive and how their
patterns are taken apart, comes with Mathlib as a whole only; so this module imports it, for all
modules that compare doubles.

## Main results

* `Double.toBits_ofPattern`: the pattern of a number is kept.
* `Double.ofPattern_ne_nan`, `Double.beq_ofInt`: the double of an integer is a number, so it is equal
  to itself.
-/

namespace ScriptHost.Double

open Binary (Format)
open Float.Model (UnpackedFloat)
open Float.Model.UnpackedFloat (isNaNBits)

theorem toNat_signed {magnitude : ℕ} (h : magnitude ≤ Format.double.infinity) (negative : Bool) :
    (UInt64.ofNat (Format.double.signed negative magnitude)).toBitVec.toNat =
      negative.toNat * 2 ^ 63 + magnitude := by
  have hinfinity : Format.double.infinity = 2047 * 2 ^ 52 := rfl
  have hweight : Format.double.signWeight = 2 ^ 63 := rfl
  rw [UInt64.toNat_toBitVec, UInt64.toNat_ofNat']
  cases negative with
  | false =>
    simp only [Format.signed, Bool.false_eq_true, if_false, Bool.toNat_false]
    omega
  | true =>
    simp only [Format.signed, if_true, Bool.toNat_true]
    omega

/-- With all bits of the exponent set, a magnitude up to infinity leaves none for the rest. -/
theorem not_isNaNBits_signed {magnitude : ℕ} (h : magnitude ≤ Format.double.infinity)
    (negative : Bool) :
    @isNaNBits .binary64 (UInt64.ofNat (Format.double.signed negative magnitude)).toBitVec =
      false := by
  have hsign := Bool.toNat_le negative
  have hbits := toNat_signed h negative
  generalize (UInt64.ofNat (Format.double.signed negative magnitude)).toBitVec = b at hbits ⊢
  have hinfinity : Format.double.infinity = 2047 * 2 ^ 52 := rfl
  rw [hinfinity] at h
  unfold isNaNBits
  rw [decide_eq_false_iff_not]
  rintro ⟨hexponent, hmantissa⟩
  apply hmantissa
  have hall : (@UnpackedFloat.unpackExponent .binary64 b).toNat = 2047 := by
    rw [hexponent]
    rfl
  rw [UnpackedFloat.unpackExponent_def, BitVec.extractLsb'_toNat, hbits, Nat.shiftRight_eq_div_pow]
    at hall
  apply BitVec.eq_of_toNat_eq
  rw [UnpackedFloat.unpackMantissa_def, BitVec.extractLsb'_toNat, hbits]
  simp only [Nat.reducePow, Nat.shiftRight_zero, BitVec.toNat_ofNat, Nat.zero_mod] at hall ⊢
  omega

/-- The pattern of a number is kept as it is. -/
theorem toBits_ofPattern {magnitude : ℕ} (h : magnitude ≤ Format.double.infinity)
    (negative : Bool) :
    (ofPattern (Format.double.signed negative magnitude)).toBits.toBitVec =
      (UInt64.ofNat (Format.double.signed negative magnitude)).toBitVec := by
  refine (UnpackedFloat.pack_unpack _).trans ?_
  rw [not_isNaNBits_signed h negative]
  rfl

/-- A pattern up to infinity is a number. -/
theorem ofPattern_ne_nan {magnitude : ℕ} (h : magnitude ≤ Format.double.infinity)
    (negative : Bool) : ofPattern (Format.double.signed negative magnitude) ≠ Float.nan := by
  have hnumber := not_isNaNBits_signed h negative
  intro hnan
  -- It would be the one pattern kept for no number.
  have hbits := toBits_ofPattern h negative
  have hpacked : Float.nan.toBits.toBitVec = UnpackedFloat.packedNaN .binary64 := rfl
  rw [hnan, hpacked] at hbits
  rw [← hbits, UnpackedFloat.isNaNBits_packedNaN] at hnumber
  cases hnumber

theorem nearest_le_infinity (f : Format) (n d : ℕ) : f.nearest n d ≤ f.infinity := by
  unfold Format.nearest
  split_ifs
  · exact Nat.zero_le _
  · exact Nat.min_le_right _ _

/-- The double of an integer is equal to itself. -/
theorem beq_ofInt (i : ℤ) : (ofInt i == ofInt i) = true :=
  Float.beq_self_iff.mpr (ofPattern_ne_nan (nearest_le_infinity _ _ _) _)

end ScriptHost.Double
