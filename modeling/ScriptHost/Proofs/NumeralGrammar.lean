import Mathlib.Data.Nat.Digits.Defs
import ScriptHost.Numeric.Read
import ScriptHost.Proofs.Outcome

/-!
# The grammar of integer numerals

Numerals are read digit by digit under a limit, by way of 128 bits or of the unsigned word of a
width. None of this shows in what is read: a text is taken exactly if it is a numeral of the grammar
whose value the kind has, and a numeral with any other value is too large, however long it is.

## Main definitions

* `Numeral.Spells`: one or more digits of a base, and the number they stand for.
* `Numeral.SpellsNat`, `Numeral.SpellsInt`, `Numeral.SpellsPattern`: digits with a sign or a mark.
* `IntegerKind.decode`: the integer that a word of the kind's width stands for.

## Main results

* `Numeral.read_of_spells`, `Numeral.spells_of_read`: reading digits under a limit.
* `Primitive.readDecimal_of_spells`, `Primitive.readPattern_of_spells`: the two readings of a kind.
* `Primitive.integer_read_exactly`: what an integer kind reads.
-/

namespace ScriptHost

/-! ## Digits -/

namespace Numeral

/-- Digits: the character written for a value below the base, or that character in lower case. -/
def IsDigit (base : Nat) (c : Char) (d : Nat) : Prop :=
  d < base ∧ (c = digitChar d ∨ c = (digitChar d).toLower)

/-- A character is found again by its distance from one before it. -/
theorem ofNat_distance {a c : Char} (h : a ≤ c) :
    Char.ofNat (a.toNat + (c.toNat - a.toNat)) = c := by
  rw [Nat.add_sub_cancel' (show a.toNat ≤ c.toNat from h), Char.ofNat_toNat]

theorem toLower_digitChar : ∀ i : Fin 26,
    (digitChar (i + 10)).toLower = Char.ofNat ('a'.toNat + i) := by
  decide

theorem isDigit_of_digit? {base d : Nat} {c : Char} (h : digit? base c = some d) :
    IsDigit base c d := by
  unfold digit? at h
  simp only [Option.ite_none_right_eq_some, Option.some.injEq] at h
  obtain ⟨hlt, rfl⟩ := h
  refine ⟨hlt, ?_⟩
  split_ifs at hlt ⊢ with hnumber hlower hupper
  · left
    have hle : c.toNat ≤ 57 := hnumber.2
    have hsmall : c.toNat - '0'.toNat < 10 := by
      show c.toNat - 48 < 10
      omega
    rw [digitChar, if_pos hsmall, ofNat_distance hnumber.1]
  · right
    have hle : c.toNat ≤ 122 := hlower.2
    have hsmall : c.toNat - 'a'.toNat < 26 := by
      show c.toNat - 97 < 26
      omega
    rw [toLower_digitChar ⟨_, hsmall⟩, ofNat_distance hlower.1]
  · left
    rw [digitChar, if_neg (by omega), Nat.add_sub_cancel, ofNat_distance hupper.1]
  · omega

/-- There are letters for the values below 36 only, so this is the largest base. -/
theorem digit?_of_isDigit {base d : Nat} {c : Char} (hbase : base ≤ 36) (h : IsDigit base c d) :
    digit? base c = some d := by
  have hall : ∀ d : Fin 36, ∀ base : Fin 37, d.val < base.val →
      digit? base (digitChar d) = some d.val ∧
        digit? base (digitChar d).toLower = some d.val := by
    decide +kernel
  obtain ⟨hd, hc⟩ := h
  obtain ⟨hupper, hlower⟩ := hall ⟨d, by omega⟩ ⟨base, by omega⟩ hd
  rcases hc with rfl | rfl
  · exact hupper
  · exact hlower

/-! ## Digits in a row -/

/-- **Numerals without a sign**: one or more digits, the first of which weighs most, and the number
they stand for. -/
def Spells (base : Nat) (cs : List Char) (n : Nat) : Prop :=
  ∃ ds : List Nat, ds ≠ [] ∧ List.Forall₂ (IsDigit base) cs ds ∧ Nat.ofDigits base ds.reverse = n

/-- The number that digits stand for behind a number already read. -/
def valueFrom (base : Nat) : Nat → List Nat → Nat := List.foldl fun n d => n * base + d

theorem valueFrom_zero (base : Nat) (ds : List Nat) :
    valueFrom base 0 ds = Nat.ofDigits base ds.reverse := by
  rw [Nat.ofDigits_eq_foldr, List.foldr_reverse]
  simp [valueFrom, Nat.add_comm, Nat.mul_comm]

theorem le_valueFrom {base : Nat} (hbase : 0 < base) (n : Nat) (ds : List Nat) :
    n ≤ valueFrom base n ds := by
  induction ds generalizing n with
  | nil => exact le_rfl
  | cons d ds ih =>
    calc n ≤ n * base := Nat.le_mul_of_pos_right n hbase
      _ ≤ n * base + d := Nat.le_add_right _ _
      _ ≤ valueFrom base (n * base + d) ds := ih _

section

variable {base limit : Nat} {cs : List Char}

theorem readFrom_of_digits (hbase : base ≤ 36) {ds : List Nat}
    (h : List.Forall₂ (IsDigit base) cs ds) {n : Nat} (hn : n ≤ limit) :
    readFrom base limit n cs =
      if valueFrom base n ds ≤ limit then .ok (valueFrom base n ds) else .error .tooLarge := by
  induction h generalizing n with
  | nil => exact (if_pos hn).symm
  | @cons c d cs ds hc h ih =>
    have hpos : 0 < base := Nat.zero_lt_of_lt hc.1
    rw [readFrom, digit?_of_isDigit hbase hc]
    by_cases hlimit : limit < n * base + d
    · -- Reading stops here, and the digits behind this one could only make the number larger.
      have hgrows := le_valueFrom hpos (n * base + d) ds
      have hover : ¬ valueFrom base n (d :: ds) ≤ limit := by
        show ¬ valueFrom base (n * base + d) ds ≤ limit
        omega
      simp only [if_pos hlimit, if_neg hover]
    · simp only [if_neg hlimit]
      exact ih (Nat.le_of_not_lt hlimit)

theorem digits_of_readFrom {m n : Nat} (h : readFrom base limit m cs = .ok n) :
    ∃ ds, List.Forall₂ (IsDigit base) cs ds ∧ valueFrom base m ds = n := by
  induction cs generalizing m with
  | nil => exact ⟨[], .nil, Except.ok.inj h⟩
  | cons c cs ih =>
    rw [readFrom] at h
    split at h
    · cases h
    · rename_i d hd
      dsimp only at h
      split at h
      · cases h
      · obtain ⟨ds, hds, hvalue⟩ := ih h
        exact ⟨d :: ds, .cons (isDigit_of_digit? hd) hds, hvalue⟩

/-- Reading a numeral gives the number it stands for, if that is within the limit. -/
theorem read_of_spells {n : Nat} (hbase : base ≤ 36) (h : Spells base cs n) :
    read base limit cs = if n ≤ limit then .ok n else .error .tooLarge := by
  obtain ⟨ds, hne, hds, rfl⟩ := h
  cases hds with
  | nil => exact absurd rfl hne
  | cons hc hds =>
    rw [read_cons, readFrom_of_digits hbase (.cons hc hds) (Nat.zero_le limit), valueFrom_zero]

/-- Only numerals are read. -/
theorem spells_of_read {n : Nat} (h : read base limit cs = .ok n) : Spells base cs n := by
  cases cs with
  | nil => cases h
  | cons c cs =>
    obtain ⟨ds, hds, hvalue⟩ := digits_of_readFrom h
    refine ⟨ds, ?_, hds, ?_⟩
    · rintro rfl
      cases hds
    · rw [← valueFrom_zero, hvalue]

theorem Spells.digit?_isSome {n : Nat} (hbase : base ≤ 36) (h : Spells base cs n) :
    ∀ c ∈ cs, (digit? base c).isSome := by
  obtain ⟨ds, -, hds, -⟩ := h
  induction hds with
  | nil => exact fun c hc => absurd hc List.not_mem_nil
  | cons hc _ ih =>
    intro c' hc'
    rcases List.mem_cons.mp hc' with rfl | hc'
    · rw [digit?_of_isDigit hbase hc]
      rfl
    · exact ih c' hc'

theorem Spells.notMem {n : Nat} (hbase : base ≤ 36) (h : Spells base cs n) {c : Char}
    (hc : digit? base c = none) : c ∉ cs := by
  intro hmem
  have hsome := h.digit?_isSome hbase c hmem
  rw [hc] at hsome
  cases hsome

/-! ## Signs -/

theorem digit?_plus (base : Nat) : digit? base '+' = none := by simp [digit?]

theorem digit?_minus (base : Nat) : digit? base '-' = none := by simp [digit?]

/-- **Natural numerals**: digits after at most one plus sign. -/
inductive SpellsNat (base : Nat) : List Char → Nat → Prop
  | digits {cs : List Char} {n : Nat} (h : Spells base cs n) : SpellsNat base cs n
  | plus {cs : List Char} {n : Nat} (h : Spells base cs n) : SpellsNat base ('+' :: cs) n

/-- Integer numerals: digits after at most one sign. -/
inductive SpellsInt (base : Nat) : List Char → Int → Prop
  | digits {cs : List Char} {n : Nat} (h : Spells base cs n) : SpellsInt base cs n
  | plus {cs : List Char} {n : Nat} (h : Spells base cs n) : SpellsInt base ('+' :: cs) n
  | minus {cs : List Char} {n : Nat} (h : Spells base cs n) : SpellsInt base ('-' :: cs) (-n)

theorem readUnsigned_of_spells {n : Nat} (hbase : base ≤ 36) (h : SpellsNat base cs n) :
    readUnsigned base limit cs = if n ≤ limit then .ok n else .error .tooLarge := by
  cases h with
  | plus h => exact read_of_spells hbase h
  | digits h =>
    -- Digits have no sign in front, so nothing is taken off.
    rw [readUnsigned, read_of_spells hbase h]
    rintro rest rfl
    exact h.notMem hbase (digit?_plus base) List.mem_cons_self

theorem spells_of_readUnsigned {n : Nat} (h : readUnsigned base limit cs = .ok n) :
    SpellsNat base cs n := by
  unfold readUnsigned at h
  split at h
  · exact .plus (spells_of_read h)
  · exact .digits (spells_of_read h)

theorem readSigned_of_spells {i : Int} (hbase : base ≤ 36) (h : SpellsInt base cs i) :
    readSigned base limit cs =
      if -(limit + 1 : Int) ≤ i ∧ i ≤ limit then .ok i else .error .tooLarge := by
  have hread {n : Nat} {ds : List Char} (h : Spells base ds n) :
      (read base limit ds).map Int.ofNat =
        if -(limit + 1 : Int) ≤ n ∧ (n : Int) ≤ limit then .ok (n : Int)
        else .error .tooLarge := by
    have hiff : (-(limit + 1 : Int) ≤ n ∧ (n : Int) ≤ limit) ↔ n ≤ limit := by omega
    rw [read_of_spells hbase h]
    simp only [hiff]
    split <;> rfl
  cases h with
  | plus h => exact hread h
  | @minus ds n h =>
    have hiff : (-(limit + 1 : Int) ≤ -(n : Int) ∧ -(n : Int) ≤ limit) ↔ n ≤ limit + 1 := by
      omega
    rw [readSigned, read_of_spells hbase h]
    simp only [hiff]
    split <;> rfl
  | digits h =>
    rw [readSigned, hread h]
    · rintro rest rfl
      exact h.notMem hbase (digit?_plus base) List.mem_cons_self
    · rintro rest rfl
      exact h.notMem hbase (digit?_minus base) List.mem_cons_self

theorem spells_of_readSigned {i : Int} (h : readSigned base limit cs = .ok i) :
    SpellsInt base cs i := by
  unfold readSigned at h
  split at h
  · rename_i rest
    cases hread : read base limit rest with
    | error e =>
      rw [hread] at h
      cases h
    | ok n =>
      rw [hread] at h
      obtain rfl := Except.ok.inj h
      exact .plus (spells_of_read hread)
  · rename_i rest
    cases hread : read base (limit + 1) rest with
    | error e =>
      rw [hread] at h
      cases h
    | ok n =>
      rw [hread] at h
      obtain rfl := Except.ok.inj h
      exact .minus (spells_of_read hread)
  · cases hread : read base limit cs with
    | error e =>
      rw [hread] at h
      cases h
    | ok n =>
      rw [hread] at h
      obtain rfl := Except.ok.inj h
      exact .digits (spells_of_read hread)

end

/-- Pattern numerals: natural numerals, which in base 16 may stand behind a mark. -/
inductive SpellsPattern (base : Nat) : List Char → Nat → Prop
  | plain {cs : List Char} {n : Nat} (h : SpellsNat base cs n) : SpellsPattern base cs n
  | marked {x : Char} {cs : List Char} {n : Nat} (hbase : base = 16) (hx : x = 'x' ∨ x = 'X')
    (h : SpellsNat base cs n) : SpellsPattern base ('0' :: x :: cs) n

/-- A natural numeral in base 16 does not start with a mark, whose letter is no digit. -/
theorem hexDigits?_of_spells {cs : List Char} {n : Nat} (h : SpellsNat 16 cs n) :
    Number.hexDigits? cs = none := by
  have hbare {x : Char} {rest : List Char} (hx : digit? 16 x = none)
      (h : SpellsNat 16 ('0' :: x :: rest) n) : False := by
    cases h with
    | digits h => exact h.notMem (by decide) hx (by simp)
  unfold Number.hexDigits?
  split
  · exact (hbare (by decide) h).elim
  · exact (hbare (by decide) h).elim
  · rfl

end Numeral

/-! ## Words of a width -/

namespace IntegerKind

/-- Two's complement: the integer that a word of the kind's width stands for. -/
def decode (k : IntegerKind) (w : BitVec k.bits) : Int := if k.signed then w.toInt else w.toNat

theorem bits_pos (k : IntegerKind) : 0 < k.bits := by cases k <;> decide

theorem holds_decode (k : IntegerKind) (w : BitVec k.bits) : k.Holds (k.decode w) := by
  unfold Holds decode min max
  split
  · have hlow := w.le_toInt
    have hhigh := w.toInt_lt
    show -2 ^ (k.bits - 1) ≤ w.toInt ∧ w.toInt ≤ 2 ^ (k.bits - 1) - 1
    omega
  · have hlt := w.isLt
    have hcast : ((2 ^ k.bits : Nat) : Int) = 2 ^ k.bits := by
      push_cast
      rfl
    show (0 : Int) ≤ w.toNat ∧ (w.toNat : Int) ≤ 2 ^ k.bits - 1
    omega

theorem ofPattern_eq_decode {k : IntegerKind} {n : Nat} (hn : n < 2 ^ k.bits) :
    k.ofPattern n = k.decode (BitVec.ofNat k.bits n) := by
  have hpattern : (BitVec.ofNat k.bits n).toNat = n := by
    rw [BitVec.toNat_ofNat, Nat.mod_eq_of_lt hn]
  have hhalf : Nat.pow 2 (k.bits - 1) * 2 = 2 ^ k.bits := Nat.two_pow_pred_mul_two k.bits_pos
  unfold ofPattern decode
  rw [BitVec.toInt_eq_toNat_cond, hpattern]
  by_cases hsigned : k.signed = true
  · by_cases hnegative : Nat.pow 2 (k.bits - 1) ≤ n
    · rw [if_pos ⟨hsigned, hnegative⟩, if_pos hsigned, if_neg (by omega)]
      push_cast
      rfl
    · rw [if_neg (fun h => hnegative h.2), if_pos hsigned, if_pos (by omega)]
  · rw [if_neg (fun h => hsigned h.1), if_neg hsigned]

/-- Every kind has its integers within 128 bits. -/
theorem Holds.within_word {k : IntegerKind} {i : Int} (h : k.Holds i) :
    -((Nat.pow 2 127 - 1 : Nat) + 1 : Int) ≤ i ∧ i ≤ (Nat.pow 2 127 - 1 : Nat) := by
  have hlow : -((Nat.pow 2 127 - 1 : Nat) + 1 : Int) ≤ k.min := by cases k <;> decide
  have hhigh : k.max ≤ (Nat.pow 2 127 - 1 : Nat) := by cases k <;> decide
  exact ⟨hlow.trans h.1, h.2.trans hhigh⟩

end IntegerKind

/-! ## What a kind reads -/

namespace Primitive

open Numeral (SpellsInt SpellsNat SpellsPattern)
open ScriptError (ofNumeric)

variable {k : IntegerKind} {s : String}

theorem eq_integer_of_ofInt? {i : Int} {p : Primitive} (h : ofInt? k i = some p) :
    ∃ hi, p = .integer k i hi := by
  unfold ofInt? at h
  split at h
  · rename_i hi
    exact ⟨hi, (Option.some.inj h).symm⟩
  · cases h

/-- A decimal numeral is read by its value. -/
theorem readDecimal_of_spells {i : Int} (h : SpellsInt 10 (Text.trim s) i) :
    readDecimal k s =
      if hi : k.Holds i then .ok (.integer k i hi)
      else .error (.overflow "String" (.integer k) s) := by
  rw [readDecimal, Numeral.readSigned_of_spells (by decide) h]
  by_cases hi : k.Holds i
  · rw [if_pos hi.within_word, dif_pos hi]
    simp only [ofInt?_eq_some hi]
  · rw [dif_neg hi]
    -- Beyond 128 bits the digits are too large; within them the integer is out of range.
    by_cases hword : -((Nat.pow 2 127 - 1 : Nat) + 1 : Int) ≤ i ∧ i ≤ (Nat.pow 2 127 - 1 : Nat)
    · rw [if_pos hword]
      simp only [ofInt?_eq_none_iff.mpr hi]
    · rw [if_neg hword]
      rfl

theorem readDecimal_eq_ok_iff {p : Primitive} :
    readDecimal k s = .ok p ↔ ∃ i hi, SpellsInt 10 (Text.trim s) i ∧ p = .integer k i hi := by
  constructor
  · intro h
    unfold readDecimal at h
    split at h
    · cases h
    · rename_i i hread
      split at h
      · rename_i q hq
        obtain ⟨hi, rfl⟩ := eq_integer_of_ofInt? hq
        exact ⟨i, hi, Numeral.spells_of_readSigned hread, (Except.ok.inj h).symm⟩
      · cases h
  · rintro ⟨i, hi, hspells, rfl⟩
    rw [readDecimal_of_spells hspells, dif_pos hi]

theorem spellsNat_patternDigits_iff {base n : Nat} {cs : List Char} :
    SpellsNat base (patternDigits base cs) n ↔ SpellsPattern base cs n := by
  constructor
  · intro h
    unfold patternDigits at h
    split at h
    · rename_i h16
      unfold Number.hexDigits? at h
      split at h
      · exact .marked h16 (.inl rfl) h
      · exact .marked h16 (.inr rfl) h
      · exact .plain h
    · exact .plain h
  · intro h
    cases h with
    | marked h16 hx h =>
      rw [patternDigits, if_pos h16]
      rcases hx with rfl | rfl <;> exact h
    | plain h =>
      rw [patternDigits]
      split
      · subst base
        rw [Numeral.hexDigits?_of_spells h]
        exact h
      · exact h

/-- **A pattern numeral** is read as a word of the kind's width. -/
theorem readPattern_of_spells {base n : Nat} (hbase : base ≤ 36)
    (h : SpellsPattern base (Text.trim s) n) :
    readPattern k base s =
      if n < 2 ^ k.bits then
        .ok (.integer k (k.decode (BitVec.ofNat k.bits n)) (k.holds_decode _))
      else .error (.overflow "String" (.integer k) s) := by
  have hiff : n ≤ Nat.pow 2 k.bits - 1 ↔ n < 2 ^ k.bits := by
    have hpos : 0 < Nat.pow 2 k.bits := Nat.two_pow_pos k.bits
    show n ≤ Nat.pow 2 k.bits - 1 ↔ n < Nat.pow 2 k.bits
    omega
  rw [readPattern, Numeral.readUnsigned_of_spells hbase (spellsNat_patternDigits_iff.mpr h)]
  by_cases hn : n < 2 ^ k.bits
  · rw [if_pos (hiff.mpr hn), if_pos hn]
    simp only [IntegerKind.ofPattern_eq_decode hn, ofInt?_eq_some (k.holds_decode _)]
  · rw [if_neg (fun h => hn (hiff.mp h)), if_neg hn]
    rfl

theorem readPattern_eq_ok_iff {base : Nat} (hbase : base ≤ 36) {p : Primitive} :
    readPattern k base s = .ok p ↔
      ∃ n, SpellsPattern base (Text.trim s) n ∧ n < 2 ^ k.bits ∧
        p = .integer k (k.decode (BitVec.ofNat k.bits n)) (k.holds_decode _) := by
  constructor
  · intro h
    have hspells : ∃ n, SpellsPattern base (Text.trim s) n := by
      unfold readPattern at h
      split at h
      · cases h
      · rename_i n hread
        exact ⟨n, spellsNat_patternDigits_iff.mp (Numeral.spells_of_readUnsigned hread)⟩
    obtain ⟨n, hn⟩ := hspells
    rw [readPattern_of_spells hbase hn] at h
    split at h
    · rename_i hlt
      exact ⟨n, hn, hlt, (Except.ok.inj h).symm⟩
    · cases h
  · rintro ⟨n, hspells, hn, rfl⟩
    rw [readPattern_of_spells hbase hspells, if_pos hn]

theorem read_decimal {base : Option Nat} (h : base = none ∨ base = some 10) :
    read (.integer k) s base = readDecimal k s := by
  rcases h with rfl | rfl <;> rfl

theorem read_pattern {base : Nat} (h : base = 2 ∨ base = 8 ∨ base = 16) :
    read (.integer k) s (some base) = readPattern k base s := by
  rcases h with rfl | rfl | rfl <;> rfl

theorem mapError_ofNumeric_eq_ok_iff {r : Except Numeric.Fault Primitive} {p : Primitive} :
    r.mapError ofNumeric = .ok p ↔ r = .ok p := by
  cases r <;> simp

/-- **An integer kind reads exactly its numerals.** In base ten, which is the base if none is given,
a text is read exactly if it is an integer numeral between blanks whose value the kind has. In base
2, 8 and 16 it is read exactly if it is a pattern numeral of at most the kind's width, and it stands
for the integer with that pattern. A numeral with any other value is too large, whatever its length,
and any other base is a bad argument. -/
theorem integer_read_exactly (k : IntegerKind) (s : String) :
    (∀ base, base = none ∨ base = some 10 →
      (∀ p, (read (.integer k) s base).mapError ofNumeric = .ok p ↔
        ∃ i hi, SpellsInt 10 (Text.trim s) i ∧ p = .integer k i hi) ∧
      ∀ i, SpellsInt 10 (Text.trim s) i → ¬ k.Holds i →
        (read (.integer k) s base).mapError ofNumeric =
          .error (.overflow "String" (NumericKind.integer k).name s)) ∧
    (∀ base, base = 2 ∨ base = 8 ∨ base = 16 →
      (∀ p, (read (.integer k) s (some base)).mapError ofNumeric = .ok p ↔
        ∃ n, SpellsPattern base (Text.trim s) n ∧ n < 2 ^ k.bits ∧
          p = .integer k (k.decode (BitVec.ofNat k.bits n)) (k.holds_decode _)) ∧
      ∀ n, SpellsPattern base (Text.trim s) n → 2 ^ k.bits ≤ n →
        (read (.integer k) s (some base)).mapError ofNumeric =
          .error (.overflow "String" (NumericKind.integer k).name s)) ∧
    ∀ base, base ≠ 2 → base ≠ 8 → base ≠ 10 → base ≠ 16 →
      (read (.integer k) s (some base)).mapError ofNumeric =
        .error (.badArgument 3 (NumericKind.integer k).name
          ("invalid base " ++ Numeral.text base ++ ", expected 2, 8, 10 or 16")) := by
  refine ⟨fun base hbase => ?_, fun base hbase => ?_, fun base h2 h8 h10 h16 => ?_⟩
  · rw [read_decimal hbase]
    refine ⟨fun p => mapError_ofNumeric_eq_ok_iff.trans readDecimal_eq_ok_iff, ?_⟩
    intro i hi hout
    rw [readDecimal_of_spells hi, dif_neg hout]
    rfl
  · have hsmall : base ≤ 36 := by omega
    rw [read_pattern hbase]
    refine ⟨fun p => mapError_ofNumeric_eq_ok_iff.trans (readPattern_eq_ok_iff hsmall), ?_⟩
    intro n hn hout
    rw [readPattern_of_spells hsmall hn, if_neg (Nat.not_lt.mpr hout)]
    rfl
  · have hread : read (.integer k) s (some base) =
        .error (.invalidBase (Numeral.text base) (.integer k)) := by
      rw [read, if_neg h10, if_neg (by omega)]
    rw [hread]
    rfl

/-- A marked pattern between blanks is a negative byte, and a negative decimal of more digits than
128 bits have is too large. -/
theorem integer_read_exactly_of_pattern_and_long_text :
    (read (.integer .sbyte) " 0xF0 " (some 16)).mapError ofNumeric =
        .ok (.integer .sbyte (-16) (by decide)) ∧
      (read (.integer .sbyte) "-9999999999999999999999999999999999999999" none).mapError
          ofNumeric =
        .error (.overflow "String" "SByte" "-9999999999999999999999999999999999999999") := by
  have hpattern : SpellsPattern 16 (Text.trim " 0xF0 ") 240 := by
    have hread : Numeral.readUnsigned 16 255 ['F', '0'] = .ok 240 := rfl
    have htrim : Text.trim " 0xF0 " = ['0', 'x', 'F', '0'] := by decide +kernel
    rw [htrim]
    exact .marked rfl (.inl rfl) (Numeral.spells_of_readUnsigned hread)
  have hlong : SpellsInt 10 (Text.trim "-9999999999999999999999999999999999999999")
      (-(10 ^ 40 - 1)) := by
    have hread : Numeral.readSigned 10 (10 ^ 40)
        (Text.trim "-9999999999999999999999999999999999999999") = .ok (-(10 ^ 40 - 1)) := by
      decide +kernel
    exact Numeral.spells_of_readSigned hread
  refine ⟨?_, ?_⟩
  · exact (((integer_read_exactly .sbyte _).2.1 16 (by decide)).1 _).mpr
      ⟨240, hpattern, by decide, rfl⟩
  · exact ((integer_read_exactly .sbyte _).1 none (.inl rfl)).2 _ hlong (by decide)

end Primitive

end ScriptHost
