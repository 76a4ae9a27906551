import Mathlib.Data.Nat.Cast.Field
import ScriptHost.Proofs.ExactConversion

/-!
# Checked rounding of numbers

A number given for an integer of a host kind is rounded to the nearest integer, which goes through a
double and a decimal before its range is checked. A double stands for a rational, and none of these
steps loses anything of it but the rounding: the nearest integer of a double is again a double, an
integral double is equal to its decimal as long as that has room for it, and a decimal has room for
every integer of every kind.

## Main definitions

* `Double.value?`: the rational a double stands for.
* `Decimal.IsOf`: the decimal of an integer.
* `Primitive.ofRounded`: what an integer kind makes of a rounded number.

## Main results

* `Double.exists_roundEven?_of_value?`, `Double.integer?_eq_some_iff`: the integers next to a
  double.
* `Double.value?_ofInt_of_roundEven?`: the nearest integer of a double is a double.
* `Decimal.isOf_ofDouble?`: the decimal of an integral double.
* `Primitive.checked_rounding_exact`: checked rounding.
-/

namespace ScriptHost

open Binary (numerator denominator roundHalfEven Parts Format)

/-! ## What a double stands for -/

/-- The rational that a sign, a significand and an exponent stand for. -/
def Binary.Parts.value? : Parts → Option ℚ
  | .finite negative m q => some ((if negative then -1 else 1) * m * 2 ^ q)
  | _ => none

/-- **The rational a double stands for**, if it is finite. -/
def Double.value? (x : Float) : Option ℚ := (parts x).value?

namespace Binary

theorem denominator_pos (q : ℤ) : 0 < denominator q := Nat.two_pow_pos _

theorem numerator_div_denominator (m : ℕ) (q : ℤ) :
    (numerator m q : ℚ) / denominator q = m * 2 ^ q := by
  have hnumerator : (numerator m q : ℚ) = m * 2 ^ q.toNat := by
    simp [numerator]
  have hdenominator : (denominator q : ℚ) = 2 ^ (-q).toNat := by
    simp [denominator]
  rw [hnumerator, hdenominator]
  rcases le_total 0 q with hq | hq
  · obtain ⟨n, rfl⟩ := Int.eq_ofNat_of_zero_le hq
    simp
  · obtain ⟨n, hn⟩ := Int.eq_ofNat_of_zero_le (neg_nonneg.mpr hq)
    obtain rfl : q = -(n : ℤ) := by omega
    simp [div_eq_mul_inv]

/-- The significand of a double has 53 bits, and its exponent is bounded. -/
theorem parts_bounds {bits : ℕ} {negative : Bool} {m : ℕ} {q : ℤ}
    (h : Format.double.parts bits = .finite negative m q) : m < 2 ^ 53 ∧ q ≤ 971 := by
  have hinfinity : Format.double.infinity = 2047 * 2 ^ 52 := rfl
  have hmin : Format.double.minExponent = -1074 := rfl
  have hpow : Nat.pow 2 Format.double.fractionBits = 2 ^ 52 := rfl
  unfold Format.parts at h
  simp only [hinfinity, hmin, hpow] at h
  split_ifs at h with hnan hinfinite hbiased
  · cases h
    omega
  · cases h
    omega

end Binary

namespace Double

variable {x : Float} {v : ℚ} {n i : ℤ}

theorem signedInt_value (negative : Bool) (n : ℕ) :
    ((signedInt negative n : ℤ) : ℚ) = (if negative then -1 else 1) * n := by
  cases negative <;> simp [signedInt]

theorem signedInt_natAbs (i : ℤ) : signedInt (decide (i < 0)) i.natAbs = i := by
  simp only [signedInt, decide_eq_true_eq]
  split_ifs <;> omega

theorem exists_parts_of_value? (h : value? x = some v) :
    ∃ negative m q, parts x = .finite negative m q ∧
      v = (if negative then -1 else 1) * ((numerator m q : ℚ) / denominator q) := by
  unfold value? Parts.value? at h
  split at h
  · rename_i negative m q hparts
    refine ⟨negative, m, q, hparts, ?_⟩
    rw [Binary.numerator_div_denominator, ← Option.some.inj h, mul_assoc]
  · cases h

theorem roundEven?_of_value?_eq_none (h : value? x = none) : roundEven? x = none := by
  unfold value? Parts.value? at h
  unfold roundEven?
  cases hparts : parts x with
  | finite negative m q =>
    rw [hparts] at h
    cases h
  | _ => rfl

/-- Rounding a double gives the integer nearest to what it stands for. -/
theorem exists_roundEven?_of_value? (h : value? x = some v) :
    ∃ n, roundEven? x = some n ∧ NearestEven v n := by
  obtain ⟨negative, m, q, hparts, rfl⟩ := exists_parts_of_value? h
  have hround := nearestEven_roundHalfEven (numerator m q) (Binary.denominator_pos q)
  refine ⟨_, by rw [roundEven?, hparts], ?_⟩
  cases negative with
  | false => simpa [signedInt] using hround
  | true => simpa [signedInt, neg_div] using hround.neg

/-- The magnitude of an integral double is a quotient without a rest. -/
theorem exists_parts_of_integral (h : value? x = some (i : ℚ)) :
    ∃ negative m q, parts x = .finite negative m q ∧
      numerator m q = i.natAbs * denominator q ∧ signedInt negative i.natAbs = i := by
  obtain ⟨negative, m, q, hparts, hi⟩ := exists_parts_of_value? h
  have hpos : (0 : ℚ) < denominator q := by exact_mod_cast Binary.denominator_pos q
  have hmagnitude : (numerator m q : ℚ) = i.natAbs * denominator q := by
    have habs : |(i : ℚ)| = (numerator m q : ℚ) / denominator q := by
      rw [hi, abs_mul, abs_of_nonneg (by positivity : (0 : ℚ) ≤ numerator m q / denominator q)]
      cases negative <;> simp
    rw [Nat.cast_natAbs, Int.cast_abs, habs, div_mul_cancel₀ _ hpos.ne']
  refine ⟨negative, m, q, hparts, by exact_mod_cast hmagnitude, ?_⟩
  have hsigned : ((signedInt negative i.natAbs : ℤ) : ℚ) = i := by
    rw [signedInt_value, hi, hmagnitude, mul_div_cancel_right₀ _ hpos.ne']
  exact_mod_cast hsigned

/-- Integral doubles are those that are equal to an integer. -/
theorem integer?_eq_some_iff : integer? x = some i ↔ value? x = some (i : ℚ) := by
  constructor
  · intro h
    unfold integer? at h
    split at h
    · rename_i negative m q hparts
      split_ifs at h with hrest
      have hquotient : (numerator m q : ℚ) / denominator q =
          ((numerator m q / denominator q : ℕ) : ℚ) := by
        rw [Nat.cast_div (Nat.dvd_of_mod_eq_zero hrest)]
        exact_mod_cast (Binary.denominator_pos q).ne'
      rw [value?, hparts, Parts.value?, mul_assoc, ← Binary.numerator_div_denominator, hquotient,
        ← signedInt_value, Option.some.inj h]
    · cases h
  · intro h
    obtain ⟨negative, m, q, hparts, hmagnitude, hsign⟩ := exists_parts_of_integral h
    have hpos := Binary.denominator_pos q
    rw [integer?, hparts]
    simp only [hmagnitude, Nat.mul_mod_left, if_true, Nat.mul_div_cancel _ hpos, hsign]

theorem saturate_of_integral {low high : ℤ} (h : value? x = some (i : ℚ)) (hlow : low ≤ i)
    (hhigh : i ≤ high) : saturate low high x = i := by
  obtain ⟨negative, m, q, hparts, hmagnitude, hsign⟩ := exists_parts_of_integral h
  have hpos := Binary.denominator_pos q
  rw [saturate, hparts]
  simp only [hmagnitude, Nat.mul_div_cancel _ hpos, hsign]
  omega

end Double

/-! ## The doubles of integers -/

namespace Binary

theorem roundHalfEven_mul {d : ℕ} (hd : 0 < d) (w : ℕ) : roundHalfEven (w * d) d = w := by
  simp [roundHalfEven, hd]

theorem roundHalfEven_le (n d : ℕ) : roundHalfEven n d ≤ n / d + 1 := by
  unfold roundHalfEven
  simp only
  split_ifs <;> omega

theorem ratioLog2_one {n : ℕ} (hn : n ≠ 0) : ratioLog2 n 1 = n.log2 := by
  have hlog : Nat.log2 1 = 0 := by decide
  have hle : Nat.pow 2 n.log2 ≤ n := Nat.log2_self_le hn
  simpa [ratioLog2, hlog] using hle

/-- An integer that is a shifted significand has a normalized one. -/
theorem exists_significand {n m j : ℕ} (hn : n ≠ 0) (hm : m < 2 ^ 53) (h : n = m * 2 ^ j) :
    ∃ w, 2 ^ 52 ≤ w ∧ w < 2 ^ 53 ∧
      numerator w ((n.log2 : ℤ) - 52) = n * denominator ((n.log2 : ℤ) - 52) := by
  have hlow : 2 ^ n.log2 ≤ n := Nat.log2_self_le hn
  have hhigh : n < 2 ^ (n.log2 + 1) := Nat.lt_log2_self
  generalize n.log2 = e at hlow hhigh ⊢
  unfold numerator denominator
  rcases Nat.le_total e 52 with he | he
  · -- A short integer is shifted up.
    obtain ⟨t, ht⟩ := Nat.exists_eq_add_of_le he
    have hup : (-((e : ℤ) - 52)).toNat = t := by omega
    have hdown : ((e : ℤ) - 52).toNat = 0 := by omega
    have hsplit : 2 ^ e * 2 ^ t = 2 ^ 52 := by rw [← pow_add, ht]
    have hnext : 2 ^ (e + 1) * 2 ^ t = 2 ^ 53 := by
      rw [pow_succ, mul_right_comm, hsplit]
      norm_num
    rw [hup, hdown]
    refine ⟨n * 2 ^ t, ?_, ?_, mul_one _⟩
    · exact hsplit ▸ Nat.mul_le_mul_right _ hlow
    · exact hnext ▸ Nat.mul_lt_mul_of_pos_right hhigh (Nat.two_pow_pos t)
  · -- A long integer is shifted down, by no more places than it was shifted up before.
    obtain ⟨t, rfl⟩ := Nat.exists_eq_add_of_le he
    have hup : (-(((52 + t : ℕ) : ℤ) - 52)).toNat = 0 := by omega
    have hdown : (((52 + t : ℕ) : ℤ) - 52).toNat = t := by omega
    have htj : t ≤ j := by
      by_contra hlt
      have hle : 2 ^ (53 + j) ≤ 2 ^ (52 + t) := Nat.pow_le_pow_right (by norm_num) (by omega)
      have hn_lt : n < 2 ^ (53 + j) := by
        rw [h, pow_add]
        exact Nat.mul_lt_mul_of_pos_right hm (Nat.two_pow_pos j)
      omega
    obtain ⟨w, rfl⟩ : 2 ^ t ∣ n := h ▸ Dvd.dvd.mul_left (pow_dvd_pow 2 htj) m
    rw [hup, hdown]
    refine ⟨w, ?_, ?_, (mul_comm _ _).trans (mul_one _).symm⟩
    · rw [pow_add, mul_comm] at hlow
      exact Nat.le_of_mul_le_mul_left hlow (Nat.two_pow_pos t)
    · rw [add_right_comm, pow_add, mul_comm (2 ^ t)] at hhigh
      exact Nat.lt_of_mul_lt_mul_right hhigh

/-- The pattern of a normalized significand stands for it. -/
theorem parts_normalized {w : ℕ} {q : ℤ} (hw : 2 ^ 52 ≤ w) (hw' : w < 2 ^ 53) (hq : -1074 ≤ q)
    (hq' : q ≤ 971) (negative : Bool) :
    (q + 1074).toNat * 2 ^ 52 + w ≤ Format.double.infinity ∧
    Format.double.parts (Format.double.signed negative ((q + 1074).toNat * 2 ^ 52 + w)) =
      .finite negative w q := by
  obtain ⟨a, ha⟩ := Int.eq_ofNat_of_zero_le (show 0 ≤ q + 1074 by omega)
  obtain rfl : q = a - 1074 := by omega
  have hinfinity : Format.double.infinity = 2047 * 2 ^ 52 := rfl
  have hweight : Format.double.signWeight = 2 ^ 63 := rfl
  have hmin : Format.double.minExponent = -1074 := rfl
  have hpow : Nat.pow 2 Format.double.fractionBits = 2 ^ 52 := rfl
  have htoNat : ((a : ℤ) - 1074 + 1074).toNat = a := by omega
  rw [htoNat]
  generalize hmagnitude : a * 2 ^ 52 + w = magnitude
  have hlt : magnitude < 2047 * 2 ^ 52 := by omega
  have hmod : Format.double.signed negative magnitude % 2 ^ 63 = magnitude := by
    cases negative with
    | false => exact Nat.mod_eq_of_lt (show magnitude < 2 ^ 63 by omega)
    | true =>
      rw [Format.signed, if_pos rfl, hweight]
      omega
  have hsign : decide (2 ^ 63 ≤ Format.double.signed negative magnitude) = negative := by
    cases negative with
    | false => exact decide_eq_false (show ¬ 2 ^ 63 ≤ magnitude by omega)
    | true =>
      rw [Format.signed, if_pos rfl, hweight]
      exact decide_eq_true (Nat.le_add_right _ _)
  have hbiased : magnitude / 2 ^ 52 = a + 1 := by omega
  have hfraction : magnitude % 2 ^ 52 = w - 2 ^ 52 := by omega
  refine ⟨by omega, ?_⟩
  unfold Format.parts
  simp only [hweight, hmod, hsign, hpow, hbiased, hfraction, hinfinity, hmin]
  rw [if_neg (by omega), if_neg (by omega), if_neg (by omega)]
  have hsignificand : 2 ^ 52 + (w - 2 ^ 52) = w := by omega
  have hexponent : -1074 + ((a + 1 : ℕ) : ℤ) - 1 = a - 1074 := by omega
  rw [hsignificand, hexponent]

end Binary

namespace Double

open Binary

theorem parts_ofPattern {magnitude : ℕ} (h : magnitude ≤ Format.double.infinity)
    (negative : Bool) :
    parts (ofPattern (Format.double.signed negative magnitude)) =
      Format.double.parts (Format.double.signed negative magnitude) := by
  have hbits := congrArg BitVec.toNat (toBits_ofPattern h negative)
  have hlt : Format.double.signed negative magnitude < 2 ^ 64 := by
    have hinfinity : Format.double.infinity = 2047 * 2 ^ 52 := rfl
    have hweight : Format.double.signWeight = 2 ^ 63 := rfl
    rw [Format.signed, hweight]
    split_ifs <;> omega
  rw [UInt64.toNat_toBitVec, UInt64.toNat_toBitVec, UInt64.toNat_ofNat', Nat.mod_eq_of_lt hlt]
    at hbits
  rw [parts, hbits]

/-- The double of an integer that is a shifted significand is equal to it. -/
theorem exists_parts_ofInt {i : ℤ} {m j : ℕ} (hm : m < 2 ^ 53) (hj : j ≤ 971)
    (h : i.natAbs = m * 2 ^ j) :
    ∃ w q, parts (ofInt i) = .finite (i < 0) w q ∧ numerator w q = i.natAbs * denominator q := by
  unfold ofInt ofRatio
  by_cases hi : i.natAbs = 0
  · refine ⟨0, -1074, ?_, ?_⟩
    · rw [hi, Format.nearest_zero, parts_ofPattern (Nat.zero_le _)]
      obtain rfl := Int.natAbs_eq_zero.mp hi
      rfl
    · simp [numerator, hi]
  · obtain ⟨w, hw, hw', hvalue⟩ := exists_significand hi hm h
    refine ⟨w, (i.natAbs.log2 : ℤ) - 52, ?_, hvalue⟩
    have hlog : i.natAbs.log2 < 1024 := by
      rw [Nat.log2_lt hi, h]
      calc m * 2 ^ j < 2 ^ 53 * 2 ^ j := Nat.mul_lt_mul_of_pos_right hm (Nat.two_pow_pos j)
        _ = 2 ^ (53 + j) := (pow_add 2 53 j).symm
        _ ≤ 2 ^ 1024 := Nat.pow_le_pow_right (by norm_num) (by omega)
    have hlow : -1074 ≤ (i.natAbs.log2 : ℤ) - 52 := by omega
    obtain ⟨hle, hparts⟩ := parts_normalized hw hw' hlow (by omega) (decide (i < 0))
    have hnearest : Format.double.nearest i.natAbs 1 =
        ((i.natAbs.log2 : ℤ) - 52 + 1074).toNat * 2 ^ 52 + w := by
      have hmin : Format.double.minExponent = -1074 := rfl
      have hbits : Format.double.fractionBits = 52 := rfl
      have hpow : Nat.pow 2 52 = 2 ^ 52 := rfl
      have hmax : max ((i.natAbs.log2 : ℤ) - (52 : ℕ)) (-1074) = i.natAbs.log2 - 52 := by omega
      -- The integer is a multiple of the last place, so nothing is rounded off.
      have hround : roundHalfEven
          (i.natAbs * Nat.pow 2 (-((i.natAbs.log2 : ℤ) - 52)).toNat)
          (1 * Nat.pow 2 ((i.natAbs.log2 : ℤ) - 52).toNat) = w := by
        rw [one_mul, ← denominator, ← hvalue]
        exact roundHalfEven_mul (Nat.two_pow_pos _) w
      unfold Format.nearest
      simp only [if_neg hi, ratioLog2_one hi, hmin, hbits, hmax, hround, sub_neg_eq_add, hpow]
      exact min_eq_left hle
    rw [hnearest, parts_ofPattern hle, hparts]

theorem value?_ofInt {i : ℤ} {m j : ℕ} (hm : m < 2 ^ 53) (hj : j ≤ 971)
    (h : i.natAbs = m * 2 ^ j) : value? (ofInt i) = some (i : ℚ) := by
  obtain ⟨w, q, hparts, hvalue⟩ := exists_parts_ofInt hm hj h
  have hpos : (denominator q : ℚ) ≠ 0 := by exact_mod_cast (denominator_pos q).ne'
  rw [value?, hparts, Parts.value?, mul_assoc, ← numerator_div_denominator, hvalue, Nat.cast_mul,
    mul_div_cancel_right₀ _ hpos, ← signedInt_value, signedInt_natAbs]

/-- **The nearest integer of a double is a double**: a shifted significand if the double has no
places after the point, and one of fewer bits otherwise. -/
theorem value?_ofInt_of_roundEven? {x : Float} {n : ℤ} (h : roundEven? x = some n) :
    value? (ofInt n) = some (n : ℚ) := by
  unfold roundEven? at h
  split at h
  · rename_i negative m q hparts
    obtain ⟨hm, hq⟩ := parts_bounds hparts
    have hmagnitude : n.natAbs = roundHalfEven (numerator m q) (denominator q) := by
      rw [← Option.some.inj h]
      cases negative <;> simp [signedInt]
    rcases lt_or_ge q 0 with hneg | hpos
    · have hsmall : n.natAbs < 2 ^ 53 := by
        have hnumerator : numerator m q = m := by
          rw [numerator, Int.toNat_of_nonpos hneg.le]
          exact mul_one m
        have hdenominator : 2 ≤ denominator q := Nat.le_pow (by omega)
        have hround := roundHalfEven_le (numerator m q) (denominator q)
        have hhalf : numerator m q / denominator q ≤ numerator m q / 2 :=
          Nat.div_le_div_left hdenominator (by norm_num)
        omega
      exact value?_ofInt hsmall (Nat.zero_le 971) (by rw [pow_zero, mul_one])
    · have hwhole : (-q).toNat = 0 := by omega
      refine value?_ofInt hm (j := q.toNat) (by omega) ?_
      rw [hmagnitude, denominator, hwhole]
      exact roundHalfEven_one _
  · cases h

end Double

/-! ## The decimal of an integral double -/

namespace Decimal

namespace Scaling

theorem halve_of_dvd {n m : ℕ} (h : 2 ^ n ∣ m) (e : ℤ) :
    halve n ⟨m, e⟩ = ⟨m / 2 ^ n, e + n⟩ := by
  induction n generalizing m e with
  | zero => simp [halve]
  | succ n ih =>
    obtain ⟨k, rfl⟩ := h
    have heven : 2 ^ (n + 1) * k = 2 * (2 ^ n * k) := by ring
    have hpos : 0 < 2 ^ n := Nat.two_pow_pos n
    rw [halve, heven, if_pos (by simp)]
    simp only [Nat.mul_div_cancel_left _ (by norm_num : 0 < 2)]
    rw [ih (Dvd.intro k rfl), ← heven, Nat.mul_div_cancel_left _ hpos,
      Nat.mul_div_cancel_left _ (Nat.two_pow_pos _)]
    simp only [mk.injEq, true_and]
    push_cast
    ring

/-- Doubling a mantissa to the end, if it stays below 96 bits. -/
theorem double?_eq {n m : ℕ} (h : m < 2 ^ 96) :
    double? n ⟨m, n⟩ = if m * 2 ^ n < 2 ^ 96 then some ⟨m * 2 ^ n, 0⟩ else none := by
  induction n generalizing m with
  | zero =>
    rw [pow_zero, mul_one, if_pos h]
    rfl
  | succ n ih =>
    have hpow : Nat.pow 2 95 = 2 ^ 95 := rfl
    have hassoc : m * 2 ^ (n + 1) = m * 2 * 2 ^ n := by ring
    rw [double?, hassoc]
    simp only [hpow]
    by_cases hm : m < 2 ^ 95
    · have hexponent : ((n + 1 : ℕ) : ℤ) - 1 = n := by omega
      rw [if_pos hm, hexponent, ih (by omega)]
    · -- The mantissa has 96 bits already, and one more doubling is to come.
      have hover : ¬ m * 2 * 2 ^ n < 2 ^ 96 := by
        have := Nat.le_mul_of_pos_right (m * 2) (Nat.two_pow_pos n)
        omega
      rw [if_neg hm, if_neg hover, if_pos (by push_cast; omega)]

end Scaling

/-- A binary number that is an integer becomes the decimal equal to it, or none if it is too
large. -/
theorem ofBinary?_of_integral {bound m n : ℕ} {q : ℤ} (hm : m < 2 ^ 96)
    (h : numerator m q = n * denominator q) (negative : Bool) :
    ofBinary? bound negative m q = ofParts? negative n 0 := by
  have hscaled : (if q < 0 then some (Scaling.halve (-q).toNat ⟨m, q⟩)
      else Scaling.double? q.toNat ⟨m, q⟩) = if n < 2 ^ 96 then some ⟨n, 0⟩ else none := by
    rcases lt_or_ge q 0 with hq | hq
    · have hmul : m = n * 2 ^ (-q).toNat := by
        have hzero : q.toNat = 0 := by omega
        simpa [numerator, denominator, hzero] using h
      have hpos : 0 < 2 ^ (-q).toNat := Nat.two_pow_pos _
      have hle : n ≤ m := hmul ▸ Nat.le_mul_of_pos_right n hpos
      rw [if_pos hq, if_pos (by omega), Scaling.halve_of_dvd (hmul ▸ Dvd.intro_left n rfl), hmul,
        Nat.mul_div_cancel _ hpos]
      simp only [Option.some.injEq, Scaling.mk.injEq, true_and]
      omega
    · have hmul : m * 2 ^ q.toNat = n := by
        have hzero : (-q).toNat = 0 := by omega
        simpa [numerator, denominator, hzero] using h
      have hexponent : q = (q.toNat : ℤ) := by omega
      rw [if_neg (not_lt.mpr hq)]
      conv_lhs => rw [hexponent, Int.toNat_natCast]
      rw [Scaling.double?_eq hm, hmul]
  unfold ofBinary?
  simp only [hscaled]
  split_ifs with hzero hn
  · subst hzero
    obtain rfl : n = 0 := by
      have hpos := Binary.denominator_pos q
      simpa [numerator, hpos.ne'] using h.symm
    rfl
  · rfl
  · have hout : ¬ (n < Nat.pow 2 96 ∧ 0 ≤ 28) := fun hbounds => hn hbounds.1
    rw [ofParts?, dif_neg hout]
    rfl

/-- **The decimal of an integer**, or none if the integer has more than 96 bits. -/
def IsOf (n : ℤ) (o : Option Decimal) : Prop :=
  if n.natAbs < 2 ^ 96 then ∃ d, o = some d ∧ d.value = n else o = none

theorem isOf_ofParts? {negative : Bool} {n : ℤ} (hsign : Double.signedInt negative n.natAbs = n) :
    IsOf n (ofParts? negative n.natAbs 0) := by
  unfold IsOf ofParts?
  split_ifs with hlt hbounds hbounds
  · exact ⟨_, rfl, by simp [value, signedMantissa, hsign]⟩
  · exact absurd ⟨hlt, Nat.zero_le 28⟩ hbounds
  · exact absurd hbounds.1 hlt
  · rfl

theorem isOf_ofInt? (n : ℤ) : IsOf n (ofInt? n) := isOf_ofParts? (Double.signedInt_natAbs n)

/-- **The decimal of an integral double** is that of its integer. -/
theorem isOf_ofDouble? {x : Float} {n : ℤ} (h : Double.value? x = some (n : ℚ)) :
    IsOf n (ofDouble? x) := by
  obtain ⟨negative, m, q, hparts, hmagnitude, hsign⟩ := Double.exists_parts_of_integral h
  have hm : m < 2 ^ 96 := by
    have hlt := (Binary.parts_bounds hparts).1
    omega
  rw [ofDouble?, hparts]
  simp only [ofBinary?_of_integral hm hmagnitude negative]
  exact isOf_ofParts? hsign

end Decimal

/-! ## Checked rounding -/

namespace Primitive

open ScriptError (ofNumeric)
open Numeric (Fault)

variable {k : IntegerKind} {x : Float} {n : ℤ} {d : Decimal}

/-- The error of a number that an integer kind does not have. -/
def beyond (k : IntegerKind) (x : Float) : Fault := .overflow "Number" (.integer k) (Double.text x)

/-- What an integer kind makes of the decimal that a number was rounded to. -/
def ofRounded (k : IntegerKind) (x : Float) (rounded : Option Decimal) : Except Fault Primitive :=
  rounded.elim (.error (beyond k x)) fun d =>
    ((decimal d).convert (.integer k)).mapError fun _ => beyond k x

theorem ofNumberChecked_integer (k : IntegerKind) (x : Float) :
    ofNumberChecked (.integer k) x = ofRounded k x ((Double.roundEven? x).bind Decimal.ofInt?) := by
  simp only [ofNumberChecked, NumericKind.isInteger, if_true]
  cases (Double.roundEven? x).bind Decimal.ofInt? with
  | none => rfl
  | some d =>
    simp only [ofRounded, Option.elim_some]
    cases (decimal d).convert (.integer k) <;> rfl

/-- An integer kind takes the decimal of an integer if it has the integer. -/
theorem ofRounded_of_isOf {rounded : Option Decimal} (h : Decimal.IsOf n rounded) (k : IntegerKind)
    (x : Float) :
    ofRounded k x rounded =
      if hn : k.Holds n then .ok (.integer k n hn) else .error (beyond k x) := by
  unfold Decimal.IsOf at h
  split_ifs at h with hlt
  · obtain ⟨d, rfl, hd⟩ := h
    have hvalue : (decimal d).value? = some (n : ℚ) := congrArg some hd
    rw [ofRounded, Option.elim_some]
    by_cases hn : k.Holds n
    · rw [convert_of_integral hvalue hn, dif_pos hn, mapError_ok]
    · obtain ⟨m, hm, hnearest⟩ := exists_integral? hvalue
      obtain rfl := hnearest.unique (nearestEven_intCast n)
      rw [convert_of_not_holds hm hn, dif_neg hn, mapError_error]
  · -- An integer of more than 96 bits is beyond every kind.
    have hn : ¬ k.Holds n := fun hn => hlt hn.natAbs_lt
    rw [h, dif_neg hn, ofRounded, Option.elim_none]

/-- Checked rounding takes the nearest integer if the kind has it. -/
theorem ofNumberChecked_of_roundEven? (hn : Double.roundEven? x = some n) (k : IntegerKind) :
    ofNumberChecked (.integer k) x =
      if h : k.Holds n then .ok (.integer k n h) else .error (beyond k x) := by
  rw [ofNumberChecked_integer, hn, Option.bind_some, ofRounded_of_isOf (Decimal.isOf_ofInt? n)]

theorem ofNumberChecked_of_integral {i : ℤ} (h : Double.value? x = some (i : ℚ)) (hi : k.Holds i) :
    ofNumberChecked (.integer k) x = .ok (.integer k i hi) := by
  obtain ⟨n, hround, hnearest⟩ := Double.exists_roundEven?_of_value? h
  obtain rfl := hnearest.unique (nearestEven_intCast i)
  rw [ofNumberChecked_of_roundEven? hround, dif_pos hi]

theorem ofNumberChecked_of_value?_eq_none (h : Double.value? x = none) (k : IntegerKind) :
    ofNumberChecked (.integer k) x = .error (beyond k x) := by
  rw [ofNumberChecked_integer, Double.roundEven?_of_value?_eq_none h]
  rfl

/-- **Checked rounding is exact.** A number becomes an integer of a kind if it is finite and the
nearest integer, a half going to the even one, is in the range of the kind; in every other case it
is an overflow that names numbers and the kind. An integral number in range becomes what
construction by truncation makes of it. On the way the nearest integer is a double and then a
decimal, and no double that is equal to it gives anything else. -/
theorem checked_rounding_exact (k : IntegerKind) (x : Float) :
    (∀ p, ofNumberChecked (.integer k) x = .ok p ↔
      ∃ v n, Double.value? x = some v ∧ NearestEven v n ∧ ∃ h : k.Holds n, p = .integer k n h) ∧
    ((∀ v n, Double.value? x = some v → NearestEven v n → ¬ k.Holds n) →
      (ofNumberChecked (.integer k) x).mapError ofNumeric =
        .error (.overflow "Number" (NumericKind.integer k).name (Double.text x))) ∧
    (∀ i : ℤ, Double.value? x = some (i : ℚ) → k.Holds i →
      ofNumberChecked (.integer k) x = ofNumber (.integer k) x) ∧
    ∀ v n, Double.value? x = some v → NearestEven v n →
      (∃ y, Double.value? y = some (n : ℚ)) ∧
      ∀ y, Double.value? y = some (n : ℚ) →
        ofNumberChecked (.integer k) x = ofRounded k x (Decimal.ofDouble? y) := by
  cases hvalue : Double.value? x with
  | none =>
    rw [ofNumberChecked_of_value?_eq_none hvalue]
    refine ⟨fun p => ⟨fun h => ?_, fun h => ?_⟩, fun _ => rfl, fun i hi => ?_, fun v n hv => ?_⟩
    · cases h
    · obtain ⟨v, n, hv, -⟩ := h
      cases hv
    · cases hi
    · cases hv
  | some v =>
    obtain ⟨n, hround, hnearest⟩ := Double.exists_roundEven?_of_value? hvalue
    rw [ofNumberChecked_of_roundEven? hround]
    refine ⟨fun p => ⟨fun h => ?_, ?_⟩, fun h => ?_, fun i hi hk => ?_, fun v' m hv' hm => ?_⟩
    · split_ifs at h with hn
      exact ⟨v, n, rfl, hnearest, hn, (Except.ok.inj h).symm⟩
    · rintro ⟨v', m, hv', hm, hk, rfl⟩
      obtain rfl := Option.some.inj hv'
      obtain rfl := hm.unique hnearest
      exact dif_pos hk
    · rw [dif_neg (h v n rfl hnearest)]
      rfl
    · obtain rfl := Option.some.inj hi
      obtain rfl := hnearest.unique (nearestEven_intCast i)
      rw [dif_pos hk, ofNumber]
      simp only [Double.saturate_of_integral hvalue hk.1 hk.2]
    · obtain rfl := Option.some.inj hv'
      obtain rfl := hm.unique hnearest
      refine ⟨⟨_, Double.value?_ofInt_of_roundEven? hround⟩, fun y hy => ?_⟩
      rw [ofRounded_of_isOf (Decimal.isOf_ofDouble? hy)]

/-- The number `2 ^ 63` is just beyond the signed integers of 64 bits, and the unsigned ones have
it, as they have it by truncation. -/
theorem checked_rounding_exact_at_bound :
    Double.value? 9223372036854775808 = some ((2 ^ 63 : ℤ) : ℚ) ∧
      (ofNumberChecked (.integer .int64) 9223372036854775808).mapError ofNumeric =
        .error (.overflow "Number" "Int64" (Double.text 9223372036854775808)) ∧
      ofNumberChecked (.integer .uint64) 9223372036854775808 =
        .ok (.integer .uint64 (2 ^ 63) (by decide)) ∧
      ofNumberChecked (.integer .uint64) 9223372036854775808 =
        ofNumber (.integer .uint64) 9223372036854775808 := by
  have hvalue : Double.value? 9223372036854775808 = some ((2 ^ 63 : ℤ) : ℚ) := by
    have hparts : Double.parts 9223372036854775808 = .finite false (2 ^ 52) 11 := by decide +kernel
    rw [Double.value?, hparts, Parts.value?]
    norm_num
  have hnearest := nearestEven_intCast (2 ^ 63)
  refine ⟨hvalue, ?_, ?_, ?_⟩
  · refine (checked_rounding_exact .int64 _).2.1 fun v n hv hn => ?_
    obtain rfl := Option.some.inj (hvalue.symm.trans hv)
    rw [hn.unique hnearest]
    decide
  · exact ((checked_rounding_exact .uint64 _).1 _).mpr ⟨_, _, hvalue, hnearest, by decide, rfl⟩
  · exact (checked_rounding_exact .uint64 _).2.2.1 _ hvalue (by decide)

end Primitive

end ScriptHost
