import ScriptHost.Numeric.Kind
import ScriptHost.Decimal.Basic

/-!
# Primitives

A primitive is a number of one of the ten kinds. An integer carries the proof that it is in the
range of its kind.

## Main definitions

* `Primitive`: the type.
* `Primitive.text`, `Primitive.hex?`: written forms.
* `Primitive.toDouble`: the script number a primitive is read as.
* `Primitive.same`: equality of primitives of one kind.
-/

namespace ScriptHost

/-- **A number of a host kind.** -/
inductive Primitive where
  | integer (kind : IntegerKind) (value : Int) (inRange : kind.Holds value)
  | single (x : Float32)
  | decimal (d : Decimal)

namespace Primitive

/-- The kind of a primitive. -/
def kind : Primitive → NumericKind
  | integer k _ _ => .integer k
  | single _ => .single
  | decimal _ => .decimal

/-- The primitive of an integer kind with a given value, if it is in range. -/
def ofInt? (k : IntegerKind) (i : Int) : Option Primitive :=
  if h : k.Holds i then some (integer k i h) else none

/-- The value of an integer primitive. -/
def toInt? : Primitive → Option Int
  | integer _ i _ => some i
  | _ => none

/-- The script number a primitive is read as. -/
def toDouble : Primitive → Float
  | integer _ i _ => Double.ofInt i
  | single x => Single.toDouble x
  | decimal d => d.toDouble

/-- The written form. -/
def text : Primitive → String
  | integer _ i _ => Numeral.text i
  | single x => Single.text x
  | decimal d => d.text

/-- The two's complement pattern of an integer primitive in hexadecimal. -/
def hex? : Primitive → Option String
  | integer k i _ => some (String.ofList (Numeral.write 16 (k.pattern i)))
  | _ => none

/-- Whether two primitives are of one kind and equal in it. Decimals are compared by value, singles
as numbers. -/
def same : Primitive → Primitive → Bool
  | integer k i _, integer k' i' _ => k == k' && i == i'
  | single x, single y => x == y
  | decimal d, decimal e => d.sameValue e
  | _, _ => false

@[simp] theorem kind_integer (k : IntegerKind) (i : Int) (h : k.Holds i) :
    (integer k i h).kind = .integer k := rfl

theorem ofInt?_eq_some {k : IntegerKind} {i : Int} (h : k.Holds i) :
    ofInt? k i = some (integer k i h) := dif_pos h

theorem ofInt?_eq_none_iff {k : IntegerKind} {i : Int} : ofInt? k i = none ↔ ¬ k.Holds i := by
  unfold ofInt?
  split <;> simp_all

end Primitive

end ScriptHost
