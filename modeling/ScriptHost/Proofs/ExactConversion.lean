import Mathlib.Tactic.FieldSimp
import Mathlib.Tactic.Linarith
import Mathlib.Tactic.Positivity
import Mathlib.Tactic.Ring
import ScriptHost.Numeric.Conversion
import ScriptHost.Proofs.BoxedComparison

/-!
# Exact change of kind

Integers and decimals stand for rationals. A change of kind among them keeps the rational where the
new kind has it: decimals have every integer, and an integer kind takes the integer nearest to the
rational, a half going to the even one, if it is in range. Otherwise the change is refused, and the
error names both kinds.

## Main definitions

* `NearestEven`: the nearest integer, a half going to the even one.
* `Decimal.value`, `Primitive.value?`: the rational a number stands for.

## Main results

* `NearestEven.unique`, `nearestEven_roundHalfEven`: there is one nearest integer, and rounding a
  ratio gives it.
* `Primitive.conversion_exact`: change of kind, and back.
-/

namespace ScriptHost

open Binary (roundHalfEven)

/-! ## Rounding -/

/-- **The nearest integer** to a rational, a half going to the even one. -/
def NearestEven (q : ℚ) (n : ℤ) : Prop := |q - n| ≤ 1 / 2 ∧ (|q - n| = 1 / 2 → Even n)

theorem nearestEven_intCast (i : ℤ) : NearestEven i i := by
  constructor <;> norm_num

theorem NearestEven.neg {q : ℚ} {n : ℤ} (h : NearestEven q n) : NearestEven (-q) (-n) := by
  have hdist : |(-q) - ((-n : ℤ) : ℚ)| = |q - n| := by
    rw [← abs_neg]
    congr 1
    push_cast
    ring
  unfold NearestEven
  rw [hdist]
  exact ⟨h.1, fun hhalf => (h.2 hhalf).neg⟩

/-- There is only one nearest integer: two of them would be neighbours, both at a half and both
even. -/
theorem NearestEven.unique {q : ℚ} {m n : ℤ} (hm : NearestEven q m) (hn : NearestEven q n) :
    m = n := by
  obtain ⟨hm_near, hm_even⟩ := hm
  obtain ⟨hn_near, hn_even⟩ := hn
  by_contra hne
  wlog hlt : m < n generalizing m n
  · exact this hn_near hn_even hm_near hm_even (Ne.symm hne) (by omega)
  -- The distances add up to at least one, so neither is less than a half.
  have hstep : (m : ℚ) + 1 ≤ n := by exact_mod_cast hlt
  have hm_low := (abs_le.mp hm_near).2
  have hn_high := (abs_le.mp hn_near).1
  have hm_half : q - m = 1 / 2 := by linarith
  have hn_half : q - n = -(1 / 2) := by linarith
  have hnext : n = m + 1 := by
    have hcast : (n : ℚ) = ((m + 1 : ℤ) : ℚ) := by push_cast; linarith
    exact_mod_cast hcast
  have hm_is_even : Even m := hm_even (by rw [hm_half]; norm_num)
  have hn_is_even : Even n := hn_even (by rw [hn_half]; norm_num)
  rw [hnext] at hn_is_even
  exact (Int.not_even_iff_odd.mpr hm_is_even.add_one) hn_is_even

/-- Which integer is nearest to a ratio, said without division. -/
theorem nearestEven_div_iff (n m : ℤ) {d : ℕ} (hd : 0 < d) :
    NearestEven ((n : ℚ) / d) m ↔ |2 * (n - m * d)| ≤ d ∧ (|2 * (n - m * d)| = d → Even m) := by
  have hd' : (0 : ℚ) < d := by exact_mod_cast hd
  have hdist : |(n : ℚ) / d - m| = ((|2 * (n - m * d)| : ℤ) : ℚ) / (2 * d) := by
    have hratio : (n : ℚ) / d - m = (2 * (n - m * d)) / (2 * d) := by field_simp
    rw [hratio, abs_div, abs_of_pos (by positivity : (0 : ℚ) < 2 * d)]
    push_cast
    rfl
  have hhalf : (1 : ℚ) / 2 = ((d : ℤ) : ℚ) / (2 * d) := by
    push_cast
    field_simp
  unfold NearestEven
  rw [hdist, hhalf, div_le_div_iff_of_pos_right (by positivity), div_left_inj' (by positivity)]
  norm_cast

/-- **Rounding a ratio** gives the nearest integer. -/
theorem nearestEven_roundHalfEven (n : ℕ) {d : ℕ} (hd : 0 < d) :
    NearestEven ((n : ℚ) / d) (roundHalfEven n d : ℕ) := by
  have hdivision := Nat.div_add_mod n d
  have hrest := Nat.mod_lt n hd
  have hiff := nearestEven_div_iff n (roundHalfEven n d : ℕ) hd
  rw [Int.cast_natCast] at hiff
  refine hiff.mpr ?_
  unfold roundHalfEven
  simp only
  generalize n / d = q at hdivision ⊢
  generalize n % d = r at hdivision hrest ⊢
  have hn : (n : ℤ) = d * q + r := by exact_mod_cast hdivision.symm
  rw [hn]
  split_ifs with hbelow habove
  · have hdist : 2 * ((d * q + r : ℤ) - (q : ℕ) * d) = 2 * r := by ring
    rw [hdist, abs_of_nonneg (by positivity)]
    constructor
    · omega
    · intro hhalf
      omega
  · have hdist : 2 * ((d * q + r : ℤ) - ((q + 1 : ℕ) : ℤ) * d) = -(2 * (d - r)) := by
      push_cast
      ring
    rw [hdist, abs_neg, abs_of_nonneg (by omega)]
    constructor
    · omega
    · intro hhalf
      omega
  · -- At a half the quotient is taken if it is even and the next integer otherwise.
    have hr : 2 * r = d := by omega
    rcases Nat.even_or_odd q with heven | hodd
    · rw [Nat.even_iff.mp heven]
      have hdist : 2 * ((d * q + r : ℤ) - ((q + 0 : ℕ) : ℤ) * d) = d := by
        push_cast
        linarith [show (2 * r : ℤ) = d by exact_mod_cast hr]
      rw [hdist, abs_of_nonneg (by positivity)]
      exact ⟨le_refl _, fun _ => by exact_mod_cast heven⟩
    · rw [Nat.odd_iff.mp hodd]
      have hdist : 2 * ((d * q + r : ℤ) - ((q + 1 : ℕ) : ℤ) * d) = -d := by
        push_cast
        linarith [show (2 * r : ℤ) = d by exact_mod_cast hr]
      rw [hdist, abs_neg, abs_of_nonneg (by positivity)]
      exact ⟨le_refl _, fun _ => by exact_mod_cast hodd.add_one⟩

/-! ## What a number stands for -/

namespace Decimal

/-- **The rational a decimal stands for.** -/
def value (d : Decimal) : ℚ := d.signedMantissa / 10 ^ d.scale

/-- Rounding a decimal gives the integer nearest to its value. -/
theorem nearestEven_roundEven (d : Decimal) : NearestEven d.value d.roundEven := by
  have hpos : 0 < Nat.pow 10 d.scale := Nat.pow_pos (by norm_num)
  have hround := nearestEven_roundHalfEven d.mantissa hpos
  have hpow : ((Nat.pow 10 d.scale : ℕ) : ℚ) = 10 ^ d.scale := by
    rw [Nat.pow_eq]
    push_cast
    rfl
  rw [hpow] at hround
  unfold value signedMantissa roundEven Double.signedInt
  cases d.negative with
  | false => simpa using hround
  | true => simpa [neg_div] using hround.neg

/-- An integer of at most 96 bits is a decimal. -/
theorem exists_ofInt? {i : ℤ} (h : i.natAbs < Nat.pow 2 96) :
    ∃ d, ofInt? i = some d ∧ d.value = i := by
  refine ⟨⟨decide (i < 0), i.natAbs, 0, h, by norm_num⟩, dif_pos ⟨h, by norm_num⟩, ?_⟩
  simp only [value, signedMantissa, Double.signedInt, pow_zero, div_one, decide_eq_true_eq]
  split_ifs with hsign
  · have habs : -(i.natAbs : ℤ) = i := by omega
    rw [habs]
  · have habs : (i.natAbs : ℤ) = i := by omega
    rw [habs]

end Decimal

theorem IntegerKind.Holds.natAbs_lt {k : IntegerKind} {i : ℤ} (h : k.Holds i) :
    i.natAbs < Nat.pow 2 96 := by
  have hlow : -(Nat.pow 2 64 : ℕ) ≤ k.min := by cases k <;> decide
  have hhigh : k.max ≤ (Nat.pow 2 64 : ℕ) := by cases k <;> decide
  have hwide : Nat.pow 2 64 < Nat.pow 2 96 := by decide
  obtain ⟨hmin, hmax⟩ := h
  omega

namespace Primitive

open ScriptError (ofNumeric)

/-- The rational a primitive stands for, if it is an integer or a decimal. -/
def value? : Primitive → Option ℚ
  | integer _ i _ => some i
  | decimal d => some d.value
  | single _ => none

section

variable {p r : Primitive} {q : ℚ} {n i : ℤ} {k : IntegerKind}

/-- A primitive has a nearest integer. -/
theorem exists_integral? (hq : p.value? = some q) :
    ∃ n, p.integral? = some n ∧ NearestEven q n := by
  cases p with
  | integer k i hi =>
    obtain rfl := Option.some.inj hq
    exact ⟨i, rfl, nearestEven_intCast i⟩
  | decimal d =>
    obtain rfl := Option.some.inj hq
    exact ⟨d.roundEven, rfl, d.nearestEven_roundEven⟩
  | single x => cases hq

/-- An integer kind takes the nearest integer. -/
theorem convert_of_holds (hn : p.integral? = some n) (h : k.Holds n) :
    p.convert (.integer k) = .ok (.integer k n h) := by
  simp only [convert, hn, Option.bind_some, ofInt?_eq_some h]

/-- An integer kind refuses a nearest integer out of its range. -/
theorem convert_of_not_holds (hn : p.integral? = some n) (h : ¬ k.Holds n) :
    p.convert (.integer k) = .error (.overflow p.kind.name (.integer k) p.text) := by
  simp only [convert, hn, Option.bind_some, ofInt?_eq_none_iff.mpr h]

/-- Decimals have every integer, and so does every change of kind to them. -/
theorem convert_decimal (hq : p.value? = some q) :
    ∃ d, p.convert .decimal = .ok (.decimal d) ∧ d.value = q := by
  cases p with
  | integer k i hi =>
    obtain rfl := Option.some.inj hq
    obtain ⟨d, hd, hvalue⟩ := Decimal.exists_ofInt? hi.natAbs_lt
    refine ⟨d, ?_, hvalue⟩
    simp only [convert, hd, Option.map_some]
  | decimal d =>
    obtain rfl := Option.some.inj hq
    exact ⟨d, rfl, rfl⟩
  | single x => cases hq

/-- An integral value is kept by every integer kind that has it. -/
theorem convert_of_integral (hq : p.value? = some (i : ℚ)) (h : k.Holds i) :
    p.convert (.integer k) = .ok (.integer k i h) := by
  obtain ⟨n, hn, hnearest⟩ := exists_integral? hq
  obtain rfl := hnearest.unique (nearestEven_intCast i)
  exact convert_of_holds hn h

/-- A change of kind keeps an integral value if it succeeds. -/
theorem value?_of_convert {target : NumericKind} (hq : p.value? = some (i : ℚ))
    (htarget : target ≠ .single) (hr : p.convert target = .ok r) : r.value? = some (i : ℚ) := by
  cases target with
  | single => exact absurd rfl htarget
  | decimal =>
    obtain ⟨d, hd, hvalue⟩ := convert_decimal hq
    obtain rfl := Except.ok.inj (hd.symm.trans hr)
    exact congrArg some hvalue
  | integer k =>
    obtain ⟨n, hn, hnearest⟩ := exists_integral? hq
    obtain rfl := hnearest.unique (nearestEven_intCast i)
    by_cases h : k.Holds n
    · obtain rfl := Except.ok.inj ((convert_of_holds hn h).symm.trans hr)
      rfl
    · rw [convert_of_not_holds hn h] at hr
      cases hr

/-- **Change of kind is exact.** An integer or a decimal becomes the decimal with its value, and the
integer nearest to its value in every integer kind that has it; the other integer kinds refuse it
with an error that names both kinds. An integer therefore comes back from every kind that takes it,
and is equal to what it becomes in another integer kind when both are boxed. -/
theorem conversion_exact (hq : p.value? = some q) :
    (∃ d, p.convert .decimal = .ok (.decimal d) ∧ d.value = q) ∧
    (∃ n, (∀ m, NearestEven q m ↔ m = n) ∧ ∀ k : IntegerKind,
      (∀ h : k.Holds n, p.convert (.integer k) = .ok (.integer k n h)) ∧
      (¬ k.Holds n → (p.convert (.integer k)).mapError ofNumeric =
        .error (.overflow p.kind.name (NumericKind.integer k).name p.text))) ∧
    ∀ a i (hi : a.Holds i), p = .integer a i hi →
      (∀ target r, target ≠ .single → p.convert target = .ok r →
        r.convert (.integer a) = .ok p) ∧
      ∀ k r, p.convert (.integer k) = .ok r → r.toDouble = p.toDouble ∧
        ∀ (s : Session) w v entered, s.Boxes w p → s.Boxes v r →
          s.depth.enter? s.capacity = some entered → ∀ fuel,
          (∃ t, (Session.equals (Session.call (fuel + 2)) w v).Ends s (.ok true) t) ∧
            ∃ t, (Session.equals (Session.call (fuel + 2)) v w).Ends s (.ok true) t := by
  refine ⟨convert_decimal hq, ?_, ?_⟩
  · obtain ⟨n, hn, hnearest⟩ := exists_integral? hq
    refine ⟨n, fun m => ⟨fun hm => hm.unique hnearest, fun hm => hm ▸ hnearest⟩, fun k => ?_⟩
    refine ⟨fun h => convert_of_holds hn h, fun h => ?_⟩
    rw [convert_of_not_holds hn h]
    rfl
  · rintro a i hi rfl
    have hvalue : (integer a i hi).value? = some (i : ℚ) := rfl
    refine ⟨fun target r htarget hr => ?_, fun k r hr => ?_⟩
    · exact convert_of_integral (value?_of_convert hvalue htarget hr) hi
    · -- In another integer kind the integer is the same, and so is its double.
      obtain ⟨hk, rfl⟩ : ∃ hk : k.Holds i, r = .integer k i hk := by
        by_cases hk : k.Holds i
        · exact ⟨hk, Except.ok.inj (hr.symm.trans (convert_of_holds rfl hk))⟩
        · rw [convert_of_not_holds rfl hk] at hr
          cases hr
      refine ⟨rfl, fun s w v entered hw hv hentered fuel => ?_⟩
      exact ⟨Session.ends_equals_boxed hw hv hentered fuel (Double.beq_ofInt i),
        Session.ends_equals_boxed hv hw hentered fuel (Double.beq_ofInt i)⟩

end

/-- The decimal `127.5`, a half beyond the greatest signed byte. -/
def beyondSByte : Decimal := ⟨false, 1275, 1, by decide, by decide⟩

theorem value_beyondSByte : beyondSByte.value = 255 / 2 := by
  norm_num [Decimal.value, Decimal.signedMantissa, Double.signedInt, beyondSByte]

theorem conversion_exact_of_half :
    (decimal beyondSByte).value? = some (255 / 2) ∧
    (∃ d, (decimal beyondSByte).convert .decimal = .ok (.decimal d) ∧ d.value = 255 / 2) ∧
    (decimal beyondSByte).convert (.integer .byte) = .ok (.integer .byte 128 (by decide)) ∧
    ((decimal beyondSByte).convert (.integer .sbyte)).mapError ofNumeric =
      .error (.overflow "Decimal" "SByte" (decimal beyondSByte).text) := by
  have hvalue : (decimal beyondSByte).value? = some (255 / 2) := congrArg some value_beyondSByte
  obtain ⟨hdecimal, ⟨n, hnearest, hkinds⟩, -⟩ := conversion_exact hvalue
  -- The half goes up, to the even integer.
  have heven : NearestEven (255 / 2) 128 := by
    constructor
    · norm_num [abs_le]
    · exact fun _ => by decide
  obtain rfl := (hnearest 128).mp heven
  exact ⟨hvalue, hdecimal, (hkinds .byte).1 (by decide), (hkinds .sbyte).2 (by decide)⟩

end Primitive

end ScriptHost
