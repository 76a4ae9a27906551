import Mathlib.Data.Nat.Digits.Lemmas
import ScriptHost.Proofs.NumeralGrammar

/-!
# Integers survive as text

An integer is written in base ten by its value and in base 16 by its pattern, and either text is
read back as the integer. What is written is a numeral of the grammar that is read, so the two meet
in the number that the digits stand for.

## Main definitions

* `Numeral.digitsOf`: the digits that are written for a number.

## Main results

* `Numeral.write_eq`, `Numeral.spells_write`: the digits written for a number stand for it.
* `Numeral.head?_write`: there is no leading zero.
* `IntegerKind.decode_ofInt`: an integer is found again by its pattern.
* `Primitive.integer_text_round_trip`: integers of every kind survive in both bases.
-/

namespace ScriptHost

/-! ## Writing -/

namespace Numeral

/-- **The digits written for a number**, the first of which weighs most; zero has one. -/
def digitsOf (base n : Nat) : List Nat := if n = 0 then [0] else (Nat.digits base n).reverse

section

variable {base : Nat}

theorem writeOnto_eq (hbase : 1 < base) {fuel n : Nat} (hpos : 0 < n) (hfuel : n < base ^ fuel)
    (written : List Char) :
    writeOnto base fuel n written = (Nat.digits base n).reverse.map digitChar ++ written := by
  induction fuel generalizing n written with
  | zero =>
    rw [Nat.pow_zero] at hfuel
    omega
  | succ fuel ih =>
    rw [Nat.digits_def' hbase hpos, writeOnto]
    by_cases hlast : n / base = 0
    · simp [hlast]
    · have hless : n / base < base ^ fuel := by
        rw [Nat.pow_succ] at hfuel
        exact Nat.div_lt_of_lt_mul (by rwa [Nat.mul_comm])
      simp [hlast, ih (Nat.pos_of_ne_zero hlast) hless]

/-- Writing a number writes its digits. -/
theorem write_eq (hbase : 1 < base) (n : Nat) :
    write base n = (digitsOf base n).map digitChar := by
  unfold write digitsOf
  by_cases hzero : n = 0
  · subst hzero
    simp [writeOnto]
  · have hfuel : n < base ^ (n.log2 + 1) :=
      calc n < 2 ^ (n.log2 + 1) := Nat.lt_log2_self
        _ ≤ base ^ (n.log2 + 1) := Nat.pow_le_pow_left hbase _
    rw [if_neg hzero, writeOnto_eq hbase (Nat.pos_of_ne_zero hzero) hfuel, List.append_nil]

theorem lt_of_mem_digitsOf (hbase : 1 < base) {n d : Nat} (hd : d ∈ digitsOf base n) :
    d < base := by
  unfold digitsOf at hd
  split at hd
  · rw [List.mem_singleton.mp hd]
    omega
  · exact Nat.digits_lt_base hbase (List.mem_reverse.mp hd)

theorem ofDigits_digitsOf (base n : Nat) : Nat.ofDigits base (digitsOf base n).reverse = n := by
  unfold digitsOf
  split
  · subst n
    simp
  · rw [List.reverse_reverse, Nat.ofDigits_digits]

/-- What is written for a number is a numeral that stands for it. -/
theorem spells_write (hbase : 1 < base) (n : Nat) : Spells base (write base n) n := by
  refine ⟨digitsOf base n, ?_, ?_, ofDigits_digitsOf base n⟩
  · unfold digitsOf
    split
    · simp
    · simpa [Nat.digits_ne_nil_iff_ne_zero]
  · rw [write_eq hbase, List.forall₂_map_left_iff]
    exact List.forall₂_same.mpr fun d hd => ⟨lt_of_mem_digitsOf hbase hd, .inl rfl⟩

theorem exists_of_mem_write (hbase : 1 < base) {n : Nat} {c : Char} (h : c ∈ write base n) :
    ∃ d < base, digitChar d = c := by
  rw [write_eq hbase] at h
  obtain ⟨d, hd, hc⟩ := List.mem_map.mp h
  exact ⟨d, lt_of_mem_digitsOf hbase hd, hc⟩

/-- No leading zero: only the text of zero starts with one. -/
theorem head?_write (hbase : 1 < base) (hsmall : base ≤ 36) {n : Nat}
    (h : (write base n).head? = some '0') : n = 0 := by
  have hall : ∀ d : Fin 36, digitChar d = '0' → d.val = 0 := by decide
  by_contra hzero
  have hdigits : Nat.digits base n ≠ [] := Nat.digits_ne_nil_iff_ne_zero.mpr hzero
  -- The first digit written is the last of the expansion, which is not zero.
  have hfirst : digitChar ((Nat.digits base n).getLast hdigits) = '0' := by
    rw [write_eq hbase, digitsOf, if_neg hzero, List.head?_map, List.head?_reverse,
      List.getLast?_eq_some_getLast hdigits] at h
    exact Option.some.inj h
  have hlt := Nat.digits_lt_base hbase (List.getLast_mem hdigits)
  exact Nat.getLast_digit_ne_zero base hzero (hall ⟨_, by omega⟩ hfirst)

end

/-- The text of an integer is a numeral that stands for it. -/
theorem spellsInt_text (i : Int) : SpellsInt 10 (text i).toList i := by
  have hdigits : Spells 10 (write 10 i.natAbs) i.natAbs := spells_write (by decide) _
  rw [text, String.toList_ofList]
  by_cases hnegative : i < 0
  · have hi : i = -(i.natAbs : Int) := by omega
    rw [if_pos hnegative]
    nth_rewrite 2 [hi]
    exact .minus hdigits
  · have hi : i = (i.natAbs : Int) := by omega
    rw [if_neg hnegative]
    nth_rewrite 2 [hi]
    exact .digits hdigits

end Numeral

/-! ## Blanks -/

namespace Text

theorem trimChars_of_not_blank {cs : List Char} (h : ∀ c ∈ cs, isBlank c = false) :
    trimChars cs = cs :=
  trimChars_of_ends (fun c hc => h c (List.mem_of_mem_head? hc))
    fun c hc => h c (List.mem_of_getLast? hc)

/-- Neither digits nor signs are blank. -/
theorem isBlank_of_spells {base n : Nat} {cs : List Char} (hbase : base ≤ 36)
    (h : Numeral.Spells base cs n) : ∀ c ∈ cs, isBlank c = false := by
  have hall : ∀ d : Fin 36, isBlank (Numeral.digitChar d) = false ∧
      isBlank (Numeral.digitChar d).toLower = false := by decide +kernel
  intro c hc
  obtain ⟨d, hd⟩ := Option.isSome_iff_exists.mp (h.digit?_isSome hbase c hc)
  obtain ⟨hlt, rfl | rfl⟩ := Numeral.isDigit_of_digit? hd
  · exact (hall ⟨d, by omega⟩).1
  · exact (hall ⟨d, by omega⟩).2

/-- A numeral has no blanks to trim. -/
theorem trim_of_spellsInt {base : Nat} {s : String} {i : Int} (hbase : base ≤ 36)
    (h : Numeral.SpellsInt base s.toList i) : trim s = s.toList := by
  apply trimChars_of_not_blank
  generalize s.toList = cs at h
  cases h with
  | digits h => exact isBlank_of_spells hbase h
  | plus h | minus h =>
    intro c hc
    rcases List.mem_cons.mp hc with rfl | hc
    · decide
    · exact isBlank_of_spells hbase h c hc

end Text

/-! ## Patterns -/

namespace IntegerKind

variable {k : IntegerKind} {i : Int}

theorem pattern_eq_toNat (k : IntegerKind) (i : Int) :
    k.pattern i = (BitVec.ofInt k.bits i).toNat := by
  rw [BitVec.toNat_ofInt, pattern]
  push_cast
  rfl

/-- **An integer is found again by its pattern.** -/
theorem decode_ofInt (h : k.Holds i) : k.decode (BitVec.ofInt k.bits i) = i := by
  obtain ⟨hlow, hhigh⟩ := h
  unfold min at hlow
  unfold max at hhigh
  unfold decode
  by_cases hsigned : k.signed = true
  · rw [if_pos hsigned] at hlow hhigh ⊢
    have hlt : i < 2 ^ (k.bits - 1) := Int.lt_of_le_sub_one hhigh
    exact BitVec.toInt_ofInt_eq_self k.bits_pos hlow hlt
  · rw [if_neg hsigned] at hlow hhigh ⊢
    have hlt : i < 2 ^ k.bits := Int.lt_of_le_sub_one hhigh
    rw [BitVec.toNat_ofInt]
    push_cast
    rw [Int.emod_eq_of_lt hlow hlt, Int.toNat_of_nonneg hlow]

end IntegerKind

/-! ## Reading what is written -/

namespace Primitive

open Numeral (Spells SpellsPattern)

variable {k : IntegerKind} {i : Int}

theorem read_text (hi : k.Holds i) : readDecimal k (Numeral.text i) = .ok (.integer k i hi) := by
  have hspells := Numeral.spellsInt_text i
  rw [← Text.trim_of_spellsInt (by decide) hspells] at hspells
  rw [readDecimal_of_spells hspells, dif_pos hi]

/-- A text of digits in base 16 is read as the word they stand for, behind a mark or not. -/
theorem read_hex (hi : k.Holds i) {cs : List Char}
    (h : Spells 16 cs (BitVec.ofInt k.bits i).toNat) {s : String}
    (hs : s.toList = cs ∨ ∃ x, (x = 'x' ∨ x = 'X') ∧ s.toList = '0' :: x :: cs) :
    readPattern k 16 s = .ok (.integer k i hi) := by
  have hblank := Text.isBlank_of_spells (by decide) h
  have hpattern : SpellsPattern 16 (Text.trim s) (BitVec.ofInt k.bits i).toNat := by
    rw [Text.trim]
    rcases hs with hs | ⟨x, hx, hs⟩
    · rw [hs, Text.trimChars_of_not_blank hblank]
      exact .plain (.digits h)
    · have hmarked : ∀ c ∈ '0' :: x :: cs, Text.isBlank c = false := by
        intro c hc
        rcases List.mem_cons.mp hc with rfl | hc
        · decide
        · rcases List.mem_cons.mp hc with rfl | hc
          · rcases hx with rfl | rfl <;> decide
          · exact hblank c hc
      rw [hs, Text.trimChars_of_not_blank hmarked]
      exact .marked rfl hx (.digits h)
  rw [readPattern_of_spells (by decide) hpattern, if_pos (BitVec.isLt _)]
  simp only [BitVec.ofNat_toNat, BitVec.setWidth_eq, IntegerKind.decode_ofInt hi]

/-- **Integers survive as text.** An integer of any kind is read back from its decimal text, with
base ten given or not, and from its hexadecimal text, behind a mark or not. The hexadecimal text is
that of the integer's word in two's complement, in upper case and without leading zeros, and no
other integer of the kind has it. -/
theorem integer_text_round_trip {k : IntegerKind} {i : Int} (hi : k.Holds i) :
    read (.integer k) (integer k i hi).text none = .ok (.integer k i hi) ∧
    read (.integer k) (integer k i hi).text (some 10) = .ok (.integer k i hi) ∧
    ∃ h, (integer k i hi).hex? = some h ∧
      read (.integer k) h (some 16) = .ok (.integer k i hi) ∧
      read (.integer k) ("0x" ++ h) (some 16) = .ok (.integer k i hi) ∧
      read (.integer k) ("0X" ++ h) (some 16) = .ok (.integer k i hi) ∧
      Spells 16 h.toList (BitVec.ofInt k.bits i).toNat ∧
      (∀ c ∈ h.toList, c ∈ "0123456789ABCDEF".toList) ∧
      (h.toList.head? = some '0' → h = "0") ∧
      ∀ j hj, (integer k j hj).hex? = some h → j = i := by
  have hdecimal {base : Option Nat} (h : base = none ∨ base = some 10) :
      read (.integer k) (integer k i hi).text base = .ok (.integer k i hi) := by
    rw [read_decimal h]
    exact read_text hi
  have hspells (j : Int) : Spells 16 (Numeral.write 16 (k.pattern j))
      (BitVec.ofInt k.bits j).toNat := by
    rw [k.pattern_eq_toNat]
    exact Numeral.spells_write (by decide) _
  have hread {j : Int} (hj : k.Holds j) :
      readPattern k 16 (String.ofList (Numeral.write 16 (k.pattern j))) = .ok (.integer k j hj) :=
    read_hex hj (hspells j) (.inl (String.toList_ofList))
  refine ⟨hdecimal (.inl rfl), hdecimal (.inr rfl), _, rfl, ?_, ?_, ?_, ?_, ?_, ?_, ?_⟩
  · rw [read_pattern (by decide), hread hi]
  · rw [read_pattern (by decide)]
    exact read_hex hi (hspells i) (.inr ⟨'x', .inl rfl, by simp⟩)
  · rw [read_pattern (by decide)]
    exact read_hex hi (hspells i) (.inr ⟨'X', .inr rfl, by simp⟩)
  · rw [String.toList_ofList]
    exact hspells i
  · intro c hc
    rw [String.toList_ofList] at hc
    obtain ⟨d, hd, rfl⟩ := Numeral.exists_of_mem_write (by decide) hc
    have hall : ∀ d : Fin 16, Numeral.digitChar d ∈ "0123456789ABCDEF".toList := by decide
    exact hall ⟨d, hd⟩
  · intro hzero
    rw [String.toList_ofList] at hzero
    rw [Numeral.head?_write (by decide) (by decide) hzero]
    rfl
  · intro j hj hhex
    -- The text is read as both integers.
    have hsame : readPattern k 16 _ = .ok (.integer k i hi) := Option.some.inj hhex ▸ hread hi
    rw [hread hj] at hsame
    injection Except.ok.inj hsame

/-- The least integer of the widest kind: its pattern is a one and zeros. -/
theorem integer_text_round_trip_of_least :
    IntegerKind.int64.Holds (-9223372036854775808) ∧
    read (.integer .int64) "-9223372036854775808" none =
      .ok (.integer .int64 (-9223372036854775808) (by decide)) ∧
    read (.integer .int64) "0x8000000000000000" (some 16) =
      .ok (.integer .int64 (-9223372036854775808) (by decide)) := by
  have hi : IntegerKind.int64.Holds (-9223372036854775808) := by decide
  obtain ⟨htext, -, h, hhex, -, hmarked, -⟩ := integer_text_round_trip hi
  have hh : h = "8000000000000000" := by
    rw [← Option.some.inj hhex]
    decide +kernel
  subst hh
  exact ⟨hi, htext, hmarked⟩

end Primitive

end ScriptHost
