import ScriptHost.Session.Basic

/-!
# Script values to host values

A script value becomes a host value of a declared type. A custom conversion for the value's kind and
the declared type comes first; then nil takes the declared default, if there is one; then the
standard rules apply. Nothing in the session changes.

## Main definitions

* `HostValue.natural`: the form the host finds natural for a value.
* `Value.runtimeType?`: the host type a value is taken for as a type argument.
* `Session.standardToHost`: the standard rules.
* `Session.toHost`: the whole conversion.
-/

namespace ScriptHost

/-- Where a value is converted, for error messages: an argument of a function. -/
structure Site where
  function : String
  index : Nat

namespace Value

/-- **The natural form** of a script value for the host. -/
def natural : Value → HostValue
  | nil => .null
  | bool b => .bool b
  | number x => .number x
  | string s => .text s
  | userdata u =>
    match u.object.payload with
    | .primitive p => .primitive p
    | .staticType t => .type t
    | .array a => .array a
    | _ => .object u.object
  | tuple [] => .null
  | tuple (v :: _) => v.natural
  | v => .dynamic v

/-- **The host type** a value is taken for as a type argument. -/
def runtimeType? : Value → Option HostType
  | nil => none
  | bool _ => some .bool
  | number _ => some .double
  | string _ => some .text
  | table _ => some .table
  | function _ => some .function
  | userdata u =>
    match u.object.primitive? with
    | some p => some (.numeric p.kind)
    | none => some u.object.hostType
  | tuple (v :: _) => v.runtimeType?
  | tuple [] => none
  | request _ => none

/-- The type an argument stands for: the type it names, or else the type of its value. -/
def typeArgument? (v : Value) : Option HostType := v.staticType?.or v.runtimeType?

end Value

namespace Session

/-- The answer of the custom conversion for a value and a declared type. -/
def customToHost? (s : Session) (type : ParamType) (v : Value) : Option HostValue :=
  (type.hostType?.bind fun t => s.converters.lookupToHost v t).bind fun c => c.apply v

/-- A result of the numeric rules at a site. -/
def primitiveResult : Except Numeric.Fault Primitive → Except ScriptError HostValue
  | .ok p => .ok (.primitive p)
  | .error e => .error (.ofNumeric e)

/-- **The standard rules** for a single value. The items of an array are converted by all rules,
each at the element type. -/
def standardToHost (s : Session) (site : Site) : ParamType → Value → Except ScriptError HostValue
  | .dynamic, v => .ok (.dynamic v)
  | .any, v | .generic _, v => .ok v.natural
  | .bool, v => .ok (.bool v.truthy)
  | .number, v =>
    match v.toNumber? with
    | some x => .ok (.number x)
    | none => mismatch "number" v
  | .string, v =>
    match v.toText? with
    | some t => .ok (.text t)
    | none => mismatch "string" v
  | .primitive kind, v =>
    match v with
    | .number x => primitiveResult (Primitive.ofNumberChecked kind x)
    | _ =>
      match v.primitive? with
      | some p => primitiveResult (p.convert kind)
      | none => mismatch "number" v
  | .object expected, v =>
    match v with
    | .nil => .ok .null
    | .userdata u =>
      if u.object.hostType = expected then .ok (.object u.object)
      else mismatch ("userdata<" ++ expected.name ++ ">") v
    | _ => mismatch ("userdata<" ++ expected.name ++ ">") v
  | .table, v =>
    match v with
    | .table _ => .ok (.dynamic v)
    | _ => mismatch "table" v
  | .function, v =>
    match v with
    | .function _ => .ok (.dynamic v)
    | _ => mismatch "function" v
  | .typeToken, v =>
    match v.staticType? with
    | some t => .ok (.type t)
    | none => mismatch "type" v
  | .nullable inner, v =>
    match v with
    | .nil => .ok .null
    | _ => standardToHost s site inner v
  | .array element, v =>
    match v with
    | .table t => do
      let items ← (s.heap.table t).arrayValues.mapM fun item =>
        match s.customToHost? element item.first with
        | some h => .ok h
        | none => standardToHost s site element item.first
      return .array (.ofList element items)
    | .userdata u =>
      match u.object.array? with
      | some a => if a.element = element then .ok (.array a) else mismatch "array" v
      | none => mismatch "array" v
    | _ => mismatch "table" v
  | .script, _ | .context, _ | .arguments, _ | .pointer, _ =>
    .error (.badArgument site.index site.function "parameter cannot be bound from a script value")
where
  /-- The error of a value of the wrong type. -/
  mismatch (expected : String) (v : Value) : Except ScriptError HostValue :=
    .error (.badType site.index site.function expected v)

/-- **Conversion to the host**: the custom conversion, then the default for nil, then the standard
rules. -/
def toHost (s : Session) (v : Value) (type : ParamType) (default : Option HostValue) (site : Site) :
    Except ScriptError HostValue :=
  match s.customToHost? type v.first with
  | some h => .ok h
  | none =>
    match v.first, default with
    | .nil, some d => .ok d
    | single, _ => s.standardToHost site type single

section

variable {s : Session} {v : Value} {type : ParamType} {default : Option HostValue} {site : Site}

theorem standardToHost_nullable (hv : v.isNil = false) (site : Site) :
    s.standardToHost site (.nullable type) v = s.standardToHost site type v := by
  cases v with
  | nil => cases hv
  | _ => rfl

theorem toHost_of_custom {h : HostValue} (hcustom : s.customToHost? type v.first = some h) :
    s.toHost v type default site = .ok h := by
  unfold toHost
  rw [hcustom]

theorem toHost_of_default {d : HostValue} (hcustom : s.customToHost? type v.first = none)
    (hnil : v.first = .nil) : s.toHost v type (some d) site = .ok d := by
  unfold toHost
  rw [hcustom, hnil]

theorem toHost_of_standard (hcustom : s.customToHost? type v.first = none)
    (hdefault : v.first = .nil → default = none) :
    s.toHost v type default site = s.standardToHost site type v.first := by
  unfold toHost
  rw [hcustom]
  cases hv : v.first with
  | nil => rw [hdefault hv]
  | _ => rfl

end

end Session

end ScriptHost
