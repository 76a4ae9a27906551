import ScriptHost.Host.Type

/-!
# Parameter types

The types a host method declares for its parameters and its result. A type may be open in the type
arguments of a generic method; substitution closes it.

## Main definitions

* `ParamType`: the types.
* `ParamType.hostType?`: the host type under which a custom conversion is looked up.
* `ParamType.ofHostType`: the parameter type a host type stands for.
* `ParamType.substitute`: type arguments put in place.
-/

namespace ScriptHost

/-- **The types of parameters.** -/
inductive ParamType where
  | bool
  | number
  | string
  | primitive (kind : NumericKind)
  | object (type : HostType)
  /-- Any value, in the form the host finds natural. -/
  | any
  /-- Any value, as the script holds it. -/
  | dynamic
  | table
  | function
  | typeToken
  | nullable (inner : ParamType)
  | array (element : ParamType)
  /-- A type argument of the method. -/
  | generic (index : Nat)
  | script
  | context
  | arguments
  /-- A type that scripts can never supply. -/
  | pointer
deriving DecidableEq, Repr

namespace ParamType

/-- The host type under which a custom conversion for the parameter is looked up. -/
def hostType? : ParamType → Option HostType
  | bool => some .bool
  | number => some .double
  | string => some .text
  | primitive k => some (.numeric k)
  | object t => some t
  | any => some .hostValue
  | dynamic => some .scriptValue
  | table => some .table
  | function => some .function
  | typeToken => some .hostType
  | nullable t => t.hostType?
  | array _ => some .hostArray
  | script => some .script
  | context => some .context
  | arguments => some .arguments
  | generic _ | pointer => none

/-- The parameter type a host type stands for as a type argument. -/
def ofHostType : HostType → ParamType
  | .numeric k => primitive k
  | .bool => bool
  | .double => number
  | .text => string
  | .scriptValue => dynamic
  | .hostValue => any
  | .table => table
  | .function => function
  | .hostType => typeToken
  | .script => script
  | .context => context
  | .arguments => arguments
  | t => object t

/-- **Substitution** of type arguments; an index beyond them stays open. -/
def substitute (typeArgs : List HostType) : ParamType → ParamType
  | generic i =>
    match typeArgs[i]? with
    | some t => ofHostType t
    | none => generic i
  | nullable t => nullable (t.substitute typeArgs)
  | array t => array (t.substitute typeArgs)
  | t => t

/-- Whether a pointer occurs in the type. -/
def hasPointer : ParamType → Bool
  | pointer => true
  | nullable t | array t => t.hasPointer
  | _ => false

/-- The type argument that occurs in the type. -/
def generic? : ParamType → Option Nat
  | generic i => some i
  | nullable t | array t => t.generic?
  | _ => none

/-- Whether a missing argument is taken for nil. -/
def acceptsNil : ParamType → Bool
  | nullable _ | object _ | any | dynamic | bool | generic _ => true
  | _ => false

@[simp] theorem hostType?_ofHostType (t : HostType) : (ofHostType t).hostType? = some t := by
  cases t <;> rfl

end ParamType

end ScriptHost
