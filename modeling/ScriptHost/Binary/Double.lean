import ScriptHost.Binary.Text

/-!
# Doubles and singles

The numbers of scripts are doubles; hosts also use singles. Both are handled through their bit
patterns, so that every conversion is an exact computation followed by one rounding.

## Main definitions

* `Double.ofRatio`, `Double.ofInt`: the nearest double.
* `Double.roundEven?`: the integer nearest to a finite double.
* `Double.floor`, `Double.roundAway`: rounding within the doubles.
* `Single.ofDouble`, `Single.toDouble`: change of width.
-/

namespace ScriptHost

open Binary

namespace Double

/-- What a double stands for. -/
def parts (x : Float) : Parts := Format.double.parts x.toBits.toNat

/-- The double with a given pattern. -/
def ofPattern (bits : Nat) : Float := Float.ofBits (UInt64.ofNat bits)

/-- The double nearest to `n / d`, with a sign. -/
def ofRatio (negative : Bool) (n d : Nat) : Float :=
  ofPattern (Format.double.signed negative (Format.double.nearest n d))

/-- The double nearest to an integer; zero is positive. -/
def ofInt (i : Int) : Float := ofRatio (i < 0) i.natAbs 1

/-- The integer with a sign and a magnitude. -/
def signedInt (negative : Bool) (n : Nat) : Int := if negative then -(n : Int) else n

/-- The integer nearest to a finite double, a half going to the even one. -/
def roundEven? (x : Float) : Option Int :=
  match parts x with
  | .finite negative m q =>
    some (signedInt negative (roundHalfEven (numerator m q) (denominator q)))
  | _ => none

/-- The integer a double is equal to. -/
def integer? (x : Float) : Option Int :=
  match parts x with
  | .finite negative m q =>
    if numerator m q % denominator q = 0 then
      some (signedInt negative (numerator m q / denominator q))
    else none
  | _ => none

/-- Truncation into an integer range: values beyond an end give that end, and what is no number
gives zero. -/
def saturate (low high : Int) (x : Float) : Int :=
  match parts x with
  | .nan => 0
  | .infinite negative => if negative then low else high
  | .finite negative m q =>
    max low (min high (signedInt negative (numerator m q / denominator q)))

theorem saturate_mem {low high : Int} (hl : low ≤ 0) (hh : 0 ≤ high) (x : Float) :
    low ≤ saturate low high x ∧ saturate low high x ≤ high := by
  unfold saturate
  split
  · exact ⟨hl, hh⟩
  · split <;> omega
  · omega

/-- The largest integral double that is not above `x`. -/
def floor (x : Float) : Float :=
  match parts x with
  | .finite negative m q =>
    let n := numerator m q
    let d := denominator q
    ofRatio negative (if negative then (n + d - 1) / d else n / d) 1
  | _ => x

/-- The integral double nearest to `x`, a half going away from zero. -/
def roundAway (x : Float) : Float :=
  match parts x with
  | .finite negative m q => ofRatio negative (roundHalfUp (numerator m q) (denominator q)) 1
  | _ => x

/-- The shortest text of a double, without an exponent. -/
def text (x : Float) : String := Format.double.text x.toBits.toNat

/-- The double denoted by a decimal text. -/
def read? (cs : List Char) : Option Float := (Format.double.read? cs).map ofPattern

end Double

namespace Single

/-- What a single stands for. -/
def parts (x : Float32) : Parts := Format.single.parts x.toBits.toNat

/-- The single with a given pattern. -/
def ofPattern (bits : Nat) : Float32 := Float32.ofBits (UInt32.ofNat bits)

/-- The single nearest to a double. -/
def ofDouble (x : Float) : Float32 :=
  ofPattern <|
    match Double.parts x with
    | .nan => Format.single.quietNan
    | .infinite negative => Format.single.signed negative Format.single.infinity
    | .finite negative m q =>
      Format.single.signed negative (Format.single.nearest (numerator m q) (denominator q))

/-- The double equal to a single. -/
def toDouble (x : Float32) : Float :=
  match parts x with
  | .nan => Double.ofPattern Format.double.quietNan
  | .infinite negative =>
    Double.ofPattern (Format.double.signed negative Format.double.infinity)
  | .finite negative m q => Double.ofRatio negative (numerator m q) (denominator q)

/-- The shortest text of a single, without an exponent. -/
def text (x : Float32) : String := Format.single.text x.toBits.toNat

/-- The single denoted by a decimal text. -/
def read? (cs : List Char) : Option Float32 := (Format.single.read? cs).map ofPattern

end Single

end ScriptHost
