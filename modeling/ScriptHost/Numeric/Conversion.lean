import ScriptHost.Numeric.Primitive
import ScriptHost.Decimal.OfBinary

/-!
# Conversion between numbers and primitives

Script numbers become primitives by truncation (constructors) or by checked rounding (parameters);
primitives of one kind become primitives of another exactly or by rounding a half to even.

## Main definitions

* `Numeric.Fault`: why a number cannot be had in a kind.
* `Primitive.ofNumber`: truncating construction.
* `Primitive.convert`: change of kind.
* `Primitive.ofNumberChecked`: checked rounding of a script number.
* `Primitive.ofWords`: a wide integer from two words.
-/

namespace ScriptHost

/-- Why a number cannot be had in a kind. -/
inductive Numeric.Fault where
  /-- The value is not in the range of the kind. -/
  | overflow (source : String) (target : NumericKind) (value : String)
  /-- The text is no numeral of the kind. -/
  | malformed (input : String) (target : NumericKind)
  /-- The base is none of those the kind can be written in. -/
  | invalidBase (base : String) (target : NumericKind)
  /-- The kind is never written in a base. -/
  | baseNotTaken (base : Nat) (target : NumericKind)
  /-- The kind is not made of two words. -/
  | noHighWord (target : NumericKind)
deriving DecidableEq, Repr

namespace Primitive

open Numeric (Fault)

/-- **Truncating construction.** Integers beyond the range of their kind give its ends. -/
def ofNumber (kind : NumericKind) (x : Float) : Except Fault Primitive :=
  match kind with
  | .integer k =>
    .ok (.integer k (Double.saturate k.min k.max x)
      (Double.saturate_mem k.min_nonpos k.max_nonneg x))
  | .single => .ok (.single (Single.ofDouble x))
  | .decimal =>
    match Decimal.ofDouble? x with
    | some d => .ok (.decimal d)
    | none => .error (.overflow "Number" kind (Double.text x))

/-- The integer nearest to a primitive, a half going to the even one. -/
def integral? : Primitive → Option Int
  | integer _ i _ => some i
  | single x => Double.roundEven? (Single.toDouble x)
  | decimal d => some d.roundEven

/-- **Change of kind.** An integer kind takes the nearest integer if it is in range. -/
def convert (target : NumericKind) (p : Primitive) : Except Fault Primitive :=
  let orOverflow : Option Primitive → Except Fault Primitive
    | some q => .ok q
    | none => .error (.overflow p.kind.name target p.text)
  match target with
  | .integer k => orOverflow (p.integral?.bind (ofInt? k))
  | .single =>
    match p with
    | single x => .ok (.single x)
    | _ => .ok (.single (Single.ofDouble p.toDouble))
  | .decimal =>
    match p with
    | decimal d => .ok (.decimal d)
    | single x => orOverflow ((Decimal.ofSingle? x).map decimal)
    | integer _ i _ => orOverflow ((Decimal.ofInt? i).map decimal)

/-- **Checked rounding** of a script number: to an integer kind by way of the decimal equal to the
nearest integer, and otherwise as in construction. -/
def ofNumberChecked (kind : NumericKind) (x : Float) : Except Fault Primitive :=
  if kind.isInteger then
    match (Double.roundEven? x).bind Decimal.ofInt? with
    | none => .error (.overflow "Number" kind (Double.text x))
    | some d =>
      match convert kind (.decimal d) with
      | .ok p => .ok p
      | .error _ => .error (.overflow "Number" kind (Double.text x))
  else ofNumber kind x

/-- A script number as a word of 32 bits, rounded a half to even. -/
def word (x : Float) : Except Fault Nat :=
  match Double.roundEven? x with
  | some (Int.ofNat n) =>
    if n < Nat.pow 2 32 then .ok n
    else .error (.overflow "Number" (.integer .uint32) (Double.text x))
  | _ => .error (.overflow "Number" (.integer .uint32) (Double.text x))

/-- **A wide integer** from its low and its high word. -/
def ofWords (kind : NumericKind) (low high : Float) : Except Fault Primitive := do
  let l ← word low
  let h ← word high
  match kind with
  | .integer .int64 | .integer .uint64 =>
    let k := if kind = .integer .int64 then IntegerKind.int64 else .uint64
    match ofInt? k (k.ofPattern (l + h * Nat.pow 2 32)) with
    | some p => .ok p
    | none => .error (.noHighWord kind)
  | _ => .error (.noHighWord kind)

end Primitive

end ScriptHost
