import ScriptHost.Session.Basic

/-!
# Host values to script values

A host value becomes a script value by the custom conversion for its type, or else by the standard
rules: numbers of host kinds are boxed, arrays become tables nested as deep as they have dimensions,
and types become values that construct.

## Main definitions

* `ToScriptConverter.apply`: the custom conversions.
* `Session.shape`: values in row-major order as nested tables.
* `Session.toScript`: the whole conversion.
-/

namespace ScriptHost

/-- The name of the form of a host value. -/
def HostValue.formName : HostValue → String
  | void => "Void"
  | null => "Null"
  | bool _ => "Bool"
  | number _ => "Number"
  | primitive _ => "Primitive"
  | text _ => "Str"
  | object _ => "Object"
  | array _ => "Array"
  | type _ => "Type"
  | dynamic _ => "Dyn"
  | script => "Script"
  | context => "Context"
  | arguments _ => "Args"

/-- The 32-bit integer after another one; it wraps around. -/
def successorInt32 (i : Int) : Int :=
  IntegerKind.int32.ofPattern (IntegerKind.int32.pattern (i + 1))

/-- **The answer of a custom conversion** to scripts. -/
def ToScriptConverter.apply (h : HostValue) : ToScriptConverter → Update Value
  | constant v => return v
  | formName => return .string h.formName
  | addHalf =>
    match h.toDouble? with
    | some x => return .number (x + 0.5)
    | none => return .nil
  | typed t =>
    match h.object? with
    | none => return .nil
    | some o =>
      if o.hostType = t then
        match o.payload with
        | .counter c => do
          let state := (← get).heap.counter c
          return .number (Double.ofInt state.toInt * 2)
        | .text s => return .string ("<" ++ s ++ ">")
        | .int32 i =>
          match Primitive.ofInt? .int32 (successorInt32 i) with
          | some p => Session.box p
          | none => return .nil
        | _ => return .nil
      else return .nil

namespace Session

/-- Rows of `width` values each, as many as asked for; the values may run out. -/
def rows (width : Nat) : Nat → List Value → List (List Value)
  | 0, _ => []
  | count + 1, vs => vs.take width :: rows width count (vs.drop width)

/-- **Nested tables** for values in row-major order, one level for each dimension. Widths have no
bound, as positions have none. -/
def shape : List Nat → List Value → Update Value
  | [], vs | [_], vs => return .table (← newTable (.ofList vs))
  | count :: d :: dims, vs => do
    let width := (d :: dims).foldr (· * ·) 1
    let inner ← (rows width count vs).mapM fun row => shape (d :: dims) row
    return .table (← newTable (.ofList inner))

mutual

/-- **Conversion to scripts**: the custom conversion, then the standard rules. -/
def toScript (h : HostValue) : Update Value := do
  match h.hostType?.bind (← get).converters.lookupToScript with
  | some c => c.apply h
  | none =>
    match h with
    | .void | .null => return .nil
    | .bool b => return .bool b
    | .number x => return .number x
    | .primitive p => box p
    | .text s => return .string s
    | .object o => ofObject o
    | .array ⟨_, dims, items⟩ => do
      let vs ← toScriptAll items
      shape dims vs
    | .type t => staticType t
    | .dynamic v => return v
    | .arguments a => return .ofList a.values
    | .script | .context => return .nil

/-- Conversion of several values in order. -/
def toScriptAll : List HostValue → Update (List Value)
  | [] => return []
  | h :: hs => do
    let v ← toScript h
    let vs ← toScriptAll hs
    return v :: vs

end

end Session

end ScriptHost
