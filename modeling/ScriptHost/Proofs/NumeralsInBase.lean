import ScriptHost.Proofs.BoxedComparison
import ScriptHost.Proofs.CheckedRounding
import ScriptHost.Proofs.NumeralGrammar

/-!
# Numerals in a base other than ten

A script can have a text read as a numeral in a base. In a base other than ten a minus sign is taken
off first, and the rest is read as an integer that may have a sign of its own. So two signs are
taken where the first is a minus sign, and the number is the opposite of what stands behind it; of
all other texts exactly the integer numerals are taken.

## Main definitions

* `Numeral.TakenInBase`: the texts that are taken, and the integers they stand for.
* `Numeral.signedDouble`: the number that is read for an integer.

## Main results

* `Double.neg_ofInt`: the opposite of the double of an integer.
* `readInBase_of_taken`, `exists_taken_of_readInBase`: which texts are taken.
* `Session.numeral_in_base_with_second_sign`: what a script gets for a text and a base.
-/

namespace ScriptHost

/-! ## Opposite doubles -/

namespace Double

open Binary (Format)
open Float.Model (UnpackedFloat)

/-- Patterns that differ in the sign alone stand for opposite numbers. -/
theorem neg_unpack {magnitude : ℕ} (hmagnitude : magnitude < 2 ^ 63) {negative : Bool}
    {b b' : BitVec 64} (hb : b.toNat = negative.toNat * 2 ^ 63 + magnitude)
    (hb' : b'.toNat = (!negative).toNat * 2 ^ 63 + magnitude) :
    (UnpackedFloat.unpack .binary64 b).neg = UnpackedFloat.unpack .binary64 b' := by
  have hle := Bool.toNat_le negative
  have hle' := Bool.toNat_le (!negative)
  have hsign {c : BitVec 64} {negative : Bool} (hle : negative.toNat ≤ 1)
      (hc : c.toNat = negative.toNat * 2 ^ 63 + magnitude) :
      @UnpackedFloat.unpackSign .binary64 c = BitVec.ofBool negative := by
    apply BitVec.eq_of_toNat_eq
    rw [UnpackedFloat.unpackSign_def, BitVec.extractLsb'_toNat, hc, Nat.shiftRight_eq_div_pow,
      BitVec.toNat_ofBool]
    dsimp only
    omega
  have hexponent : @UnpackedFloat.unpackExponent .binary64 b' =
      @UnpackedFloat.unpackExponent .binary64 b := by
    apply BitVec.eq_of_toNat_eq
    rw [UnpackedFloat.unpackExponent_def, UnpackedFloat.unpackExponent_def,
      BitVec.extractLsb'_toNat, BitVec.extractLsb'_toNat, hb, hb', Nat.shiftRight_eq_div_pow,
      Nat.shiftRight_eq_div_pow]
    dsimp only
    omega
  have hmantissa : @UnpackedFloat.unpackMantissa .binary64 b' =
      @UnpackedFloat.unpackMantissa .binary64 b := by
    apply BitVec.eq_of_toNat_eq
    rw [UnpackedFloat.unpackMantissa_def, UnpackedFloat.unpackMantissa_def,
      BitVec.extractLsb'_toNat, BitVec.extractLsb'_toNat, hb, hb', Nat.shiftRight_zero,
      Nat.shiftRight_zero]
    dsimp only
    omega
  -- The cases of unpacking depend on the exponent and the mantissa only.
  unfold UnpackedFloat.unpack
  simp only [hexponent, hmantissa, hsign hle hb, hsign hle' hb']
  cases negative <;> split_ifs <;> rfl

theorem neg_ofPattern {magnitude : ℕ} (h : magnitude ≤ Format.double.infinity) (negative : Bool) :
    -(ofPattern (Format.double.signed negative magnitude)) =
      ofPattern (Format.double.signed (!negative) magnitude) := by
  have hlt : magnitude < 2 ^ 63 := Nat.lt_of_le_of_lt h (by decide)
  have hneg := neg_unpack hlt (toNat_signed h negative) (toNat_signed h (!negative))
  rw [← toBits_ofPattern h negative] at hneg
  exact congrArg (fun u => Float.ofModel (Float.Model.pack u)) hneg

/-- The opposite of the double of an integer is the double of the opposite, but for zero. -/
theorem neg_ofInt {i : ℤ} (hi : i ≠ 0) : -(ofInt i) = ofInt (-i) := by
  have hsign : (!decide (i < 0)) = decide (-i < 0) := by
    rw [← decide_not]
    exact decide_eq_decide.mpr (by omega)
  unfold ofInt ofRatio
  rw [neg_ofPattern (nearest_le_infinity _ _ _), Int.natAbs_neg, hsign]

end Double

/-! ## Texts that are taken -/

namespace Numeral

variable {base : ℕ} {cs : List Char} {i : ℤ}

/-- **What is taken in a base**: an integer numeral with a magnitude below `2 ^ 63`, and besides a
minus sign before a numeral that has a sign of its own, which stands for the opposite. -/
inductive TakenInBase (base : ℕ) : List Char → ℤ → Prop
  | numeral {cs : List Char} {i : ℤ} (h : SpellsInt base cs i) (hi : |i| ≤ 2 ^ 63 - 1) :
    TakenInBase base cs i
  | opposite {sign : Char} {cs : List Char} {i : ℤ} (hsign : sign = '+' ∨ sign = '-')
    (h : SpellsInt base (sign :: cs) i) (hlow : -2 ^ 63 ≤ i) (hhigh : i ≤ 2 ^ 63 - 1) :
    TakenInBase base ('-' :: sign :: cs) (-i)

/-- The number for an integer that a text stands for: its double, and negative zero for zero
behind a minus sign. -/
def signedDouble (cs : List Char) (i : ℤ) : Float :=
  if i = 0 ∧ cs.head? = some '-' then -0.0 else Double.ofInt i

theorem beq_signedDouble (cs : List Char) (i : ℤ) :
    (signedDouble cs i == Double.ofInt i) = true := by
  unfold signedDouble
  split_ifs with h
  · rw [h.1]
    decide +kernel
  · exact Double.beq_ofInt i

theorem signedDouble_of_ne_zero (cs : List Char) (hi : i ≠ 0) :
    signedDouble cs i = Double.ofInt i := if_neg fun h => hi h.1

theorem neg_ofInt_eq_signedDouble (rest : List Char) (i : ℤ) :
    -(Double.ofInt i) = signedDouble ('-' :: rest) (-i) := by
  by_cases hi : i = 0
  · rw [hi, signedDouble, if_pos ⟨rfl, rfl⟩]
    decide +kernel
  · rw [signedDouble_of_ne_zero _ (neg_ne_zero.mpr hi), Double.neg_ofInt hi]

theorem Spells.head?_ne_minus {n : ℕ} (hbase : base ≤ 36) (h : Spells base cs n) :
    cs.head? ≠ some '-' := by
  intro hhead
  exact h.notMem hbase (digit?_minus base) (List.mem_of_mem_head? hhead)

/-- A signed integer of 64 bits is read exactly from the numerals that fit. -/
theorem toOption_readSigned_eq_some_iff (hbase : base ≤ 36) :
    (readSigned base (Nat.pow 2 63 - 1) cs).toOption = some i ↔
      SpellsInt base cs i ∧ -2 ^ 63 ≤ i ∧ i ≤ 2 ^ 63 - 1 := by
  have hlimit : ((Nat.pow 2 63 - 1 : ℕ) : ℤ) = 2 ^ 63 - 1 := rfl
  constructor
  · intro h
    cases hread : readSigned base (Nat.pow 2 63 - 1) cs with
    | error e =>
      rw [hread] at h
      cases h
    | ok j =>
      rw [hread] at h
      obtain rfl : j = i := Option.some.inj h
      have hspells := spells_of_readSigned hread
      rw [readSigned_of_spells hbase hspells, hlimit] at hread
      split_ifs at hread with hrange
      exact ⟨hspells, by omega, hrange.2⟩
  · rintro ⟨hspells, hlow, hhigh⟩
    rw [readSigned_of_spells hbase hspells, hlimit, if_pos ⟨by omega, hhigh⟩]
    rfl

end Numeral

open Numeral

section Reading

variable {base : ℕ} {cs : List Char} {i : ℤ}

theorem readInBase_minus_eq_some_iff (hbase : base ≤ 36) {x : Float} {rest : List Char} :
    readInBase base ('-' :: rest) = some x ↔
      ∃ i, (SpellsInt base rest i ∧ -2 ^ 63 ≤ i ∧ i ≤ 2 ^ 63 - 1) ∧
        signedDouble ('-' :: rest) (-i) = x := by
  have hread : readInBase base ('-' :: rest) =
      (readSigned base (Nat.pow 2 63 - 1) rest).toOption.map fun i => -(Double.ofInt i) := by
    simp only [readInBase]
    cases readSigned base (Nat.pow 2 63 - 1) rest <;> rfl
  simp only [hread, Option.map_eq_some_iff, toOption_readSigned_eq_some_iff hbase,
    neg_ofInt_eq_signedDouble rest]

theorem readInBase_eq_some_iff_of_head? (hbase : base ≤ 36) (hhead : cs.head? ≠ some '-')
    {x : Float} :
    readInBase base cs = some x ↔
      ∃ i, (SpellsInt base cs i ∧ -2 ^ 63 ≤ i ∧ i ≤ 2 ^ 63 - 1) ∧ signedDouble cs i = x := by
  have hread : readInBase base cs =
      (readSigned base (Nat.pow 2 63 - 1) cs).toOption.map Double.ofInt := by
    have hsplit (rest : List Char) : cs ≠ '-' :: rest := by
      rintro rfl
      exact hhead rfl
    simp only [readInBase]
    cases readSigned base (Nat.pow 2 63 - 1) cs <;> rfl
  have hdouble (i : ℤ) : signedDouble cs i = Double.ofInt i := if_neg fun h => hhead h.2
  simp only [hread, Option.map_eq_some_iff, toOption_readSigned_eq_some_iff hbase, hdouble]

/-- Texts that are taken are read as what they stand for. -/
theorem readInBase_of_taken (hbase : base ≤ 36) (h : TakenInBase base cs i) :
    readInBase base cs = some (signedDouble cs i) := by
  cases h with
  | opposite _ h hlow hhigh =>
    exact (readInBase_minus_eq_some_iff hbase).mpr ⟨_, ⟨h, hlow, hhigh⟩, rfl⟩
  | numeral h hi =>
    obtain ⟨hlow, hhigh⟩ := abs_le.mp hi
    cases h with
    | digits h =>
      have hhead := h.head?_ne_minus hbase
      exact (readInBase_eq_some_iff_of_head? hbase hhead).mpr ⟨_, ⟨.digits h, by omega, hhigh⟩, rfl⟩
    | plus h =>
      exact (readInBase_eq_some_iff_of_head? hbase (by simp)).mpr
        ⟨_, ⟨.plus h, by omega, hhigh⟩, rfl⟩
    | minus h =>
      -- The sign is taken off, and the digits behind it are a numeral of their own.
      exact (readInBase_minus_eq_some_iff hbase).mpr ⟨_, ⟨.digits h, by omega, by omega⟩, rfl⟩

/-- No other text is taken. -/
theorem exists_taken_of_readInBase (hbase : base ≤ 36) {x : Float}
    (hread : readInBase base cs = some x) : ∃ i, TakenInBase base cs i := by
  by_cases hhead : cs.head? = some '-'
  · obtain ⟨rest, rfl⟩ := List.head?_eq_some_iff.mp hhead
    obtain ⟨i, ⟨hspells, hlow, hhigh⟩, -⟩ := (readInBase_minus_eq_some_iff hbase).mp hread
    cases hspells with
    | digits h => exact ⟨_, .numeral (.minus h) (abs_le.mpr ⟨by omega, by omega⟩)⟩
    | plus h => exact ⟨_, .opposite (Or.inl rfl) (.plus h) hlow hhigh⟩
    | minus h => exact ⟨_, .opposite (Or.inr rfl) (.minus h) hlow hhigh⟩
  · obtain ⟨i, ⟨hspells, hlow, hhigh⟩, -⟩ := (readInBase_eq_some_iff_of_head? hbase hhead).mp hread
    cases hspells with
    | digits h => exact ⟨_, .numeral (.digits h) (abs_le.mpr ⟨by omega, hhigh⟩)⟩
    | plus h => exact ⟨_, .numeral (.plus h) (abs_le.mpr ⟨by omega, hhigh⟩)⟩
    | minus h => exact absurd rfl hhead

end Reading

/-! ## What a script gets -/

theorem base?_of_value? {x : Float} {base : ℕ} (h : Double.value? x = some (base : ℚ))
    (hlow : 2 ≤ base) (hhigh : base ≤ 36) : base? x = some base := by
  have hinteger : Double.integer? x = some (base : ℤ) :=
    Double.integer?_eq_some_iff.mpr (by rw [h, Int.cast_natCast])
  have hrange : (2 : ℤ) ≤ base ∧ (base : ℤ) ≤ 36 := by omega
  simp only [base?, hinteger, if_pos hrange, Int.toNat_natCast]

namespace Session

variable {s : Session} {f : Function} {text : String} {x : Float} {base : ℕ}

theorem ends_run_tonumber (hf : f.code = .builtin .tonumber) (hbase : base? x = some base)
    (hten : base ≠ 10) (re : Reentry) :
    (f.run re (.ofList [.string text, .number x] false)).Ends s
      (.ok (numberOrNil (readInBase base (Text.trim text))))
      (s.noted ⟨f, .ofList [.string text, .number x] false⟩) := by
  have hanswer : toNumberIn (.string text) (.number x) =
      .ok (numberOrNil (readInBase base (Text.trim text))) := by
    simp only [toNumberIn, hbase, if_neg hten]
  unfold Function.run Function.perform
  rw [hf]
  refine (Action.ends_bind_of_exec (Action.exec_lift _ _)).mpr ?_
  exact Action.ends_ofExcept.mpr ⟨hanswer.symm, rfl⟩

theorem isFinal_numberOrNil (o : Option Float) : (numberOrNil o).IsFinal := by
  intro r hr
  cases o <;> cases hr

/-- A call with a text and a base answers with what is read, and never with an error. -/
theorem ends_callGlobal_tonumber {entered : CallDepth}
    (hglobal : (s.heap.table s.globals).get (.name "tonumber") = .function f)
    (hf : f.code = .builtin .tonumber) (hentered : s.depth.enter? s.capacity = some entered)
    (hbase : base? x = some base) (hten : base ≠ 10) (fuel : ℕ) (text : String) :
    (callGlobal (reentry (fuel + 2)) "tonumber" [.string text, .number x]).Ends s
      (.ok (numberOrNil (readInBase base (Text.trim text))))
      (s.noted ⟨f, .ofList [.string text, .number x] false⟩) := by
  apply (ends_callGlobal_of_function hglobal).mpr
  refine ends_call_of_ends_run (fun re s => ends_run_tonumber hf hbase hten re) ?_ hentered fuel
  rintro v hv
  obtain rfl := Except.ok.inj hv
  exact isFinal_numberOrNil _

/-- **A text and a base** other than ten. A call that is let in is never an error. It answers with a
number exactly for the texts that are taken, and the number is the double of the integer that the
text stands for; only zero may be negative, which is equal to it. Unless there are two signs in
front, the first of them a minus sign, these are the integer numerals with a magnitude below
`2 ^ 63`. -/
theorem numeral_in_base_with_second_sign {entered : CallDepth}
    (hglobal : (s.heap.table s.globals).get (.name "tonumber") = .function f)
    (hf : f.code = .builtin .tonumber) (hentered : s.depth.enter? s.capacity = some entered)
    (hbase : Double.value? x = some (base : ℚ)) (hlow : 2 ≤ base) (hhigh : base ≤ 36)
    (hten : base ≠ 10) (fuel : ℕ) (text : String) :
    ∃ v, (callGlobal (reentry (fuel + 2)) "tonumber" [.string text, .number x]).Ends s (.ok v)
        (s.noted ⟨f, .ofList [.string text, .number x] false⟩) ∧
      (∀ i, TakenInBase base (Text.trim text) i →
        v = .number (signedDouble (Text.trim text) i) ∧
        (signedDouble (Text.trim text) i == Double.ofInt i) = true ∧
        (i ≠ 0 → signedDouble (Text.trim text) i = Double.ofInt i)) ∧
      ((∀ i, ¬ TakenInBase base (Text.trim text) i) → v = .nil) ∧
      ((∀ rest, Text.trim text ≠ '-' :: '+' :: rest ∧ Text.trim text ≠ '-' :: '-' :: rest) →
        ((∃ y, v = .number y) ↔
          ∃ i, SpellsInt base (Text.trim text) i ∧ |i| ≤ 2 ^ 63 - 1)) := by
  have hends := ends_callGlobal_tonumber hglobal hf hentered (base?_of_value? hbase hlow hhigh) hten
    fuel text
  generalize Text.trim text = cs at hends ⊢
  refine ⟨_, hends, fun i hi => ?_, fun hnone => ?_, fun hone => ⟨?_, ?_⟩⟩
  · rw [readInBase_of_taken hhigh hi]
    exact ⟨rfl, beq_signedDouble cs i, signedDouble_of_ne_zero cs⟩
  · cases hread : readInBase base cs with
    | none => rfl
    | some y =>
      obtain ⟨i, hi⟩ := exists_taken_of_readInBase hhigh hread
      exact absurd hi (hnone i)
  · rintro ⟨y, hy⟩
    cases hread : readInBase base cs with
    | none =>
      rw [hread] at hy
      cases hy
    | some y =>
      obtain ⟨i, hi⟩ := exists_taken_of_readInBase hhigh hread
      cases hi with
      | numeral h hi => exact ⟨i, h, hi⟩
      | opposite hsign =>
        rcases hsign with rfl | rfl
        · exact absurd rfl (hone _).1
        · exact absurd rfl (hone _).2
  · rintro ⟨i, h, hi⟩
    rw [readInBase_of_taken hhigh (.numeral h hi)]
    exact ⟨_, rfl⟩

/-- Digits of base 36 in either case, between blanks and behind a minus sign. -/
theorem numeral_in_base_with_second_sign_of_letters :
    ∃ (s : Session) (f : Function) (t : Session),
      (s.heap.table s.globals).get (.name "tonumber") = .function f ∧
      f.code = .builtin .tonumber ∧ s.depth.enter? s.capacity = some ⟨1, 0⟩ ∧
      Double.value? 36 = some ((36 : ℕ) : ℚ) ∧
      (callGlobal (reentry 2) "tonumber" [.string " -zZ ", .number 36]).Ends s
        (.ok (.number (-1295))) t := by
  let f : Function := ⟨2, "tonumber", .builtin .tonumber⟩
  let s : Session := ((setGlobal "tonumber" (.function f)).run (bare 2)).2
  have hvalue : Double.value? 36 = some ((36 : ℕ) : ℚ) :=
    Double.integer?_eq_some_iff.mp (by decide +kernel)
  have hspells : SpellsInt 36 (Text.trim " -zZ ") (-1295) := by
    have hread : readSigned 36 2000 (Text.trim " -zZ ") = .ok (-1295) := by decide +kernel
    exact spells_of_readSigned hread
  obtain ⟨v, hends, htaken, -⟩ := numeral_in_base_with_second_sign (s := s) (f := f) rfl rfl rfl
    hvalue (by decide) (by decide) (by decide) 0 " -zZ "
  obtain ⟨rfl, -, hdouble⟩ := htaken (-1295) (.numeral hspells (by decide))
  rw [hdouble (by decide)] at hends
  exact ⟨s, f, _, rfl, rfl, rfl, hvalue, hends⟩

/-- **Two signs are taken**: in base two, a text that is no integer numeral is read as three. -/
theorem second_sign_taken_in_base_two :
    ∃ (s : Session) (f : Function) (t : Session),
      (s.heap.table s.globals).get (.name "tonumber") = .function f ∧
      f.code = .builtin .tonumber ∧
      (callGlobal (reentry 2) "tonumber" [.string "--11", .number 2]).Ends s (.ok (.number 3)) t ∧
      ∀ i, ¬ SpellsInt 2 (Text.trim "--11") i := by
  let f : Function := ⟨2, "tonumber", .builtin .tonumber⟩
  let s : Session := ((setGlobal "tonumber" (.function f)).run (bare 2)).2
  have hbase : base? 2 = some 2 := by decide +kernel
  have hends := ends_callGlobal_tonumber (s := s) (f := f) rfl rfl rfl hbase (by decide) 0 "--11"
  have hread : readInBase 2 (Text.trim "--11") = some 3 := by decide +kernel
  rw [hread] at hends
  refine ⟨s, f, _, rfl, rfl, hends, fun i hi => ?_⟩
  have htrim : Text.trim "--11" = ['-', '-', '1', '1'] := by decide +kernel
  rw [htrim] at hi
  cases hi with
  | digits h => exact h.head?_ne_minus (by decide) rfl
  | minus h => exact h.head?_ne_minus (by decide) rfl

end Session

end ScriptHost
