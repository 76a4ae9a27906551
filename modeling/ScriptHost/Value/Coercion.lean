import ScriptHost.Value.Basic
import ScriptHost.Number

/-!
# Reading and printing values

Values are read as truth values, numbers and texts where an operation asks for one, and printed.

## Main definitions

* `Value.truthy`: everything but nil and false counts as true.
* `Value.toNumber?`, `Value.toText?`: the number and the text a value is read as.
* `Value.print`: the printed form of any value.
-/

namespace ScriptHost

/-- The address a table is printed with. -/
def TableId.address (t : TableId) : String :=
  "0x" ++ String.ofList ((Numeral.write 16 (Nat.pow 2 44 + 64 * t.index)).map Char.toLower)

namespace Value

/-- **Truth**: everything counts as true except nil and false; a tuple counts as its first value, an
empty one as nil. -/
def truthy : Value → Bool
  | nil => false
  | bool b => b
  | tuple [] => false
  | tuple (v :: _) => v.truthy
  | _ => true

/-- **The number** a value is read as: numbers, numerals, boxed numbers, and tuples by their first
value. -/
def toNumber? : Value → Option Float
  | number x => some x
  | string s => Number.parse? s
  | userdata u => u.object.primitive?.map Primitive.toDouble
  | tuple (v :: _) => v.toNumber?
  | _ => none

/-- **The text** a value is read as: strings, numbers, boxed numbers, and tuples by their first
value. -/
def toText? : Value → Option String
  | string s => some s
  | number x => some (Number.text x)
  | userdata u => u.object.primitive?.map Primitive.text
  | tuple (v :: _) => v.toText?
  | _ => none

mutual

/-- **The printed form** of a value. -/
def print : Value → String
  | nil => "nil"
  | bool b => if b then "true" else "false"
  | number x => Number.text x
  | string s => s
  | table t => "table: " ++ t.address
  | function f => "function: " ++ f.name
  | userdata u =>
    match u.object.primitive? with
    | some p => p.text
    | none => "userdata: " ++ u.object.hostType.name
  | tuple items => String.intercalate "\t" (printAll items)
  | request _ => "(tail call request)"

/-- The printed forms of several values. -/
def printAll : List Value → List String
  | [] => []
  | v :: vs => v.print :: printAll vs

end

end Value

end ScriptHost
