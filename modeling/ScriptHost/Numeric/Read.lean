import ScriptHost.Numeric.Conversion
import ScriptHost.Decimal.Read
import ScriptHost.Number

/-!
# Primitives from text

An integer kind reads decimal numerals by value, and numerals in base 2, 8 or 16 as the two's
complement pattern of its width. The other kinds read decimals and take no base.

## Main definitions

* `Primitive.readDecimal`, `Primitive.readPattern`: the two readings of an integer kind.
* `Primitive.read`: the primitive denoted by a text.
-/

namespace ScriptHost.Primitive

open Numeric (Fault)

/-- The fault of an integer numeral, told for a whole text. -/
def numeralFault (target : NumericKind) (s : String) : Numeral.Fault → Fault
  | .malformed => .malformed s target
  | .tooLarge => .overflow "String" target s

/-- **A decimal numeral** of an integer kind, by its value. Values of up to 128 bits are told apart
from the range of the kind. -/
def readDecimal (k : IntegerKind) (s : String) : Except Fault Primitive :=
  match Numeral.readSigned 10 (Nat.pow 2 127 - 1) (Text.trim s) with
  | .error e => .error (numeralFault (.integer k) s e)
  | .ok i =>
    match ofInt? k i with
    | some p => .ok p
    | none => .error (.overflow "String" (.integer k) s)

/-- The digits of a pattern; in base 16 they may follow a mark. -/
def patternDigits (base : Nat) (cs : List Char) : List Char :=
  if base = 16 then (Number.hexDigits? cs).getD cs else cs

/-- **A pattern numeral** of an integer kind, in two's complement. -/
def readPattern (k : IntegerKind) (base : Nat) (s : String) : Except Fault Primitive :=
  match Numeral.readUnsigned base (Nat.pow 2 k.bits - 1) (patternDigits base (Text.trim s)) with
  | .error e => .error (numeralFault (.integer k) s e)
  | .ok n =>
    match ofInt? k (k.ofPattern n) with
    | some p => .ok p
    | none => .error (.overflow "String" (.integer k) s)

/-- **The primitive denoted by a text**, in a base if one is given. -/
def read (kind : NumericKind) (s : String) (base : Option Nat) : Except Fault Primitive :=
  match kind, base with
  | .integer k, none => readDecimal k s
  | .integer k, some b =>
    if b = 10 then readDecimal k s
    else if b = 2 ∨ b = 8 ∨ b = 16 then readPattern k b s
    else .error (.invalidBase (Numeral.text b) kind)
  | _, some b => .error (.baseNotTaken b kind)
  | .single, none =>
    match Single.read? (Text.trim s) with
    | some x => .ok (.single x)
    | none => .error (.malformed s kind)
  | .decimal, none =>
    match Decimal.read? (Text.trim s) with
    | some d => .ok (.decimal d)
    | none => .error (.malformed s kind)

end ScriptHost.Primitive
