/-!
# Binary floating-point formats

A format has a number of fraction bits and a number of exponent bits. A bit pattern stands for a
signed multiple of a power of two, an infinity, or no number; a ratio of naturals is rounded to the
nearest pattern, a half going to the even one.

## Main definitions

* `Format.parts`: what a bit pattern stands for.
* `roundHalfEven`: the integer nearest to a ratio.
* `Format.nearest`: the pattern nearest to a ratio.
-/

namespace ScriptHost.Binary

/-- The layout of a binary floating-point format. -/
structure Format where
  /-- Stored bits of the significand. -/
  fractionBits : Nat
  /-- Bits of the biased exponent. -/
  exponentBits : Nat
deriving DecidableEq, Repr

/-- The format of double precision. -/
def Format.double : Format := ⟨52, 11⟩

/-- The format of single precision. -/
def Format.single : Format := ⟨23, 8⟩

/-- What a bit pattern stands for. -/
inductive Parts where
  /-- Not a number. -/
  | nan
  /-- An infinity. -/
  | infinite (negative : Bool)
  /-- The number `significand * 2 ^ exponent` with a sign; zero has one too. -/
  | finite (negative : Bool) (significand : Nat) (exponent : Int)
deriving DecidableEq, Repr

namespace Format

/-- The exponent of the last place of the smallest numbers. -/
def minExponent (f : Format) : Int := 2 - Int.pow 2 (f.exponentBits - 1) - f.fractionBits

/-- The weight of the sign bit in a pattern. -/
def signWeight (f : Format) : Nat := Nat.pow 2 (f.exponentBits + f.fractionBits)

/-- The pattern of positive infinity. -/
def infinity (f : Format) : Nat := (Nat.pow 2 f.exponentBits - 1) * Nat.pow 2 f.fractionBits

/-- The pattern used for a result that is no number. -/
def quietNan (f : Format) : Nat := f.infinity + Nat.pow 2 (f.fractionBits - 1)

/-- The pattern with a given magnitude and sign. -/
def signed (f : Format) (negative : Bool) (magnitude : Nat) : Nat :=
  if negative then f.signWeight + magnitude else magnitude

/-- **Decoding**: the sign, significand and exponent of a pattern. -/
def parts (f : Format) (bits : Nat) : Parts :=
  let negative := decide (f.signWeight ≤ bits)
  let magnitude := bits % f.signWeight
  let biased := magnitude / Nat.pow 2 f.fractionBits
  let fraction := magnitude % Nat.pow 2 f.fractionBits
  if f.infinity < magnitude then .nan
  else if magnitude = f.infinity then .infinite negative
  else if biased = 0 then .finite negative fraction f.minExponent
  else .finite negative (Nat.pow 2 f.fractionBits + fraction) (f.minExponent + biased - 1)

end Format

/-- The numerator of `m * 2 ^ q` over `denominator q`. -/
def numerator (m : Nat) (q : Int) : Nat := m * Nat.pow 2 q.toNat

/-- The power of two under `numerator m q`. -/
def denominator (q : Int) : Nat := Nat.pow 2 (-q).toNat

/-- The integer nearest to `n / d`, a half going to the even one. -/
def roundHalfEven (n d : Nat) : Nat :=
  let q := n / d
  let r := n % d
  if 2 * r < d then q else if d < 2 * r then q + 1 else q + q % 2

/-- The integer nearest to `n / d`, a half going up. -/
def roundHalfUp (n d : Nat) : Nat :=
  if 2 * (n % d) < d then n / d else n / d + 1

/-- The largest `e` with `2 ^ e ≤ n / d`, for positive `n` and `d`. -/
def ratioLog2 (n d : Nat) : Int :=
  let e : Int := n.log2 - d.log2
  if d * Nat.pow 2 e.toNat ≤ n * Nat.pow 2 (-e).toNat then e else e - 1

/-- **Rounding**: the magnitude pattern nearest to `n / d`; infinity from half a unit beyond the
largest number on. Patterns count up with the numbers, so a carry out of the significand is already
the next exponent. -/
def Format.nearest (f : Format) (n d : Nat) : Nat :=
  if n = 0 then 0
  else
    let q := max (ratioLog2 n d - f.fractionBits) f.minExponent
    let m := roundHalfEven (n * Nat.pow 2 (-q).toNat) (d * Nat.pow 2 q.toNat)
    min ((q - f.minExponent).toNat * Nat.pow 2 f.fractionBits + m) f.infinity

@[simp] theorem Format.nearest_zero (f : Format) (d : Nat) : f.nearest 0 d = 0 := rfl

theorem roundHalfEven_one (n : Nat) : roundHalfEven n 1 = n := by
  simp [roundHalfEven, Nat.mod_one]

end ScriptHost.Binary
