import ScriptHost.Program.Expr
import ScriptHost.Numeric.Primitive

/-!
# Script values and host values

Script values are dynamically typed. Tables live in a heap and are held by reference; functions,
objects and call requests carry a stamp that tells them apart from others with the same content.
Host values are what host methods take and return; they may hold script values, and objects of the
host may hold arrays of host values.

## Main definitions

* `Value`: script values.
* `Function`, `Code`: functions and what they do.
* `UserData`, `Object`, `Payload`: host objects in scripts.
* `HostValue`, `HostArray`: host values.
* `Arguments`: the arguments of a call.
* `Request`: a call to be run in place of its answer.
-/

namespace ScriptHost

/-- A reference to a table in the heap. -/
structure TableId where
  index : Nat
deriving DecidableEq, Repr

/-- A reference to a host method. -/
structure MethodId where
  index : Nat
deriving DecidableEq, Repr

/-- A reference to a counter in the heap. -/
structure CounterId where
  index : Nat
deriving DecidableEq, Repr

/-- The kinds of script values. -/
inductive Kind where
  | nil | boolean | number | string | table | function | userdata | tuple | request
deriving DecidableEq, Repr

/-- The comparisons that boxed numbers answer. -/
inductive Comparison where
  | equal | less | lessEqual
deriving DecidableEq, Repr

/-- The functions every script starts with, and those a protected call answers with. -/
inductive Builtin where
  | type
  | tostring
  | tonumber
  | pcall
  | error
  | pcallContinuation
  | pcallHandler
deriving DecidableEq, Repr

mutual

/-- **Script values.** -/
inductive Value where
  | nil
  | bool (b : Bool)
  | number (x : Float)
  | string (s : String)
  | table (t : TableId)
  | function (f : Function)
  | userdata (u : UserData)
  /-- Several values at once. -/
  | tuple (items : List Value)
  | request (r : Request)

/-- A function: its identity, its name and what it does. -/
structure Function where
  stamp : Nat
  name : String
  code : Code

/-- What a function does. -/
inductive Code where
  /-- Evaluates a program on its arguments. -/
  | program (body : Expr)
  /-- An export of an installed module, which may be without a body. -/
  | moduleExport (body : Option Expr)
  | builtin (b : Builtin)
  /-- Compares two operands of which one is a boxed number. -/
  | compare (kind : NumericKind) (c : Comparison)
  /-- Makes a boxed number. -/
  | makeNumber (kind : NumericKind)
  /-- Runs a constructor of a host type. -/
  | construct (type : HostType)
  /-- Runs one of several methods on a receiver. -/
  | method (overloads : List MethodId) (receiver : Option Object)

/-- A host object in a script, with its metatable. -/
structure UserData where
  object : Object
  metatable : Option TableId

/-- A host object: its identity and its content. -/
structure Object where
  stamp : Nat
  payload : Payload

/-- What a host object holds. -/
inductive Payload where
  | counter (c : CounterId)
  | account (balance : Float)
  | accountView (balance : Float)
  | blank
  | text (s : String)
  | int32 (i : Int)
  | array (a : HostArray)
  | primitive (p : Primitive)
  | staticType (t : HostType)
  /-- An object of any other type, known by its type only. -/
  | sealed (type : HostType) (h : type.isSealed = true)

/-- An array of host values: the declared element type, the extents and the items in row-major
order. -/
structure HostArray where
  element : ParamType
  dims : List Nat
  items : List HostValue

/-- **Host values.** -/
inductive HostValue where
  | void
  | null
  | bool (b : Bool)
  | number (x : Float)
  | primitive (p : Primitive)
  | text (s : String)
  | object (o : Object)
  | array (a : HostArray)
  | type (t : HostType)
  /-- A script value handed on as it is. -/
  | dynamic (v : Value)
  | script
  | context
  | arguments (a : Arguments)

/-- The arguments of a call; a method call has its receiver in front. -/
structure Arguments where
  values : List Value
  isMethodCall : Bool

/-- A call for the caller to run in place of the answer: its result goes to the continuation, its
error to the handler. -/
structure Request where
  stamp : Nat
  target : Value
  args : List Value
  continuation : Option Function
  handler : Option Function

end

instance : Inhabited Value := ⟨.nil⟩

instance : Inhabited HostValue := ⟨.null⟩

/-- The name of a kind of values. -/
def Kind.name : Kind → String
  | nil => "nil"
  | boolean => "boolean"
  | number => "number"
  | string => "string"
  | table => "table"
  | function => "function"
  | userdata => "userdata"
  | tuple => "tuple"
  | request => "tailcallrequest"

/-- The kinds in their order. -/
def Kind.all : List Kind :=
  [.nil, .boolean, .number, .string, .table, .function, .userdata, .tuple, .request]

/-- The kind with a given name. -/
def Kind.ofName? (name : String) : Option Kind := all.find? (·.name == name)

/-- Whether a custom conversion may be declared for a kind: tuples and requests never reach a host
parameter. -/
def Kind.isConvertible : Kind → Bool
  | tuple | request => false
  | _ => true

/-- The type of a host object. -/
def Payload.hostType : Payload → HostType
  | counter _ => .counter
  | account _ => .account
  | accountView _ => .accountView
  | blank => .blank
  | text _ => .text
  | int32 _ => .numeric (.integer .int32)
  | array _ => .hostArray
  | primitive _ => .wrapper
  | staticType _ => .staticType
  | sealed t _ => t

/-- The type of a host object. -/
def Object.hostType (o : Object) : HostType := o.payload.hostType

/-- The boxed number in an object. -/
def Object.primitive? (o : Object) : Option Primitive :=
  match o.payload with
  | .primitive p => some p
  | _ => none

/-- The type token in an object. -/
def Object.staticType? (o : Object) : Option HostType :=
  match o.payload with
  | .staticType t => some t
  | _ => none

/-- The array in an object. -/
def Object.array? (o : Object) : Option HostArray :=
  match o.payload with
  | .array a => some a
  | _ => none

/-- The counter in an object. -/
def Object.counter? (o : Object) : Option CounterId :=
  match o.payload with
  | .counter c => some c
  | _ => none

namespace Value

/-- The kind of a value. -/
def kind : Value → Kind
  | nil => .nil
  | bool _ => .boolean
  | number _ => .number
  | string _ => .string
  | table _ => .table
  | function _ => .function
  | userdata _ => .userdata
  | tuple _ => .tuple
  | request _ => .request

/-- Whether the value is nil. -/
def isNil : Value → Bool
  | nil => true
  | _ => false

theorem isNil_iff {v : Value} : v.isNil = true ↔ v = .nil := by
  cases v <;> simp [isNil]

/-- The boxed number a value is. -/
def primitive? : Value → Option Primitive
  | userdata u => u.object.primitive?
  | _ => none

/-- The function a value is. -/
def function? : Value → Option Function
  | function f => some f
  | _ => none

/-- The table a value is. -/
def table? : Value → Option TableId
  | table t => some t
  | _ => none

/-- The host object a value holds. -/
def object? : Value → Option Object
  | userdata u => some u.object
  | _ => none

/-- The type token a value is. -/
def staticType? (v : Value) : Option HostType := v.object?.bind (·.staticType?)

/-- The name of the kind scripts are told; boxed numbers are numbers. -/
def typeName (v : Value) : String :=
  if v.primitive?.isSome then "number" else v.kind.name

/-- **The single value** a value stands for: the first of a tuple, nil for an empty one. -/
def first : Value → Value
  | tuple [] => nil
  | tuple (v :: _) => v
  | v => v

/-- **Tuples**: several values at once, with the values of each tuple among them in its place. -/
def ofList (vs : List Value) : Value :=
  tuple (vs.flatMap fun
    | tuple items => items
    | v => [v])

@[simp] theorem first_tuple_nil : first (tuple []) = nil := rfl

@[simp] theorem first_tuple_cons (v : Value) (vs : List Value) : first (tuple (v :: vs)) = v := rfl

end Value

namespace Arguments

/-- **Arguments of a call**: a tuple at the end stands for its values. -/
def ofList (values : List Value) (isMethodCall : Bool) : Arguments :=
  match values.getLast? with
  | some (.tuple items) => ⟨values.dropLast ++ items, isMethodCall⟩
  | _ => ⟨values, isMethodCall⟩

/-- No arguments. -/
def none : Arguments := ⟨[], false⟩

/-- How many arguments there are, a receiver included. -/
def length (a : Arguments) : Nat := a.values.length

/-- An argument as it was passed. -/
def raw? (a : Arguments) (i : Nat) : Option Value := a.values[i]?

/-- An argument as a single value; nil beyond the last. -/
def get (a : Arguments) (i : Nat) : Value := ((a.raw? i).map Value.first).getD .nil

/-- The arguments without the receiver of a method call. -/
def skipReceiver (a : Arguments) : Arguments :=
  if a.isMethodCall then ⟨a.values.drop 1, false⟩ else a

/-- How many arguments there are without the receiver of a method call. -/
def count (a : Arguments) : Nat := a.length - (if a.isMethodCall then 1 else 0)

end Arguments

namespace HostArray

/-- A one-dimensional array. -/
def ofList (element : ParamType) (items : List HostValue) : HostArray :=
  ⟨element, [items.length], items⟩

/-- The position of an index vector in row-major order, after a position in the dimensions before.
Positions have no bound: the items of an array are fewer than a word can count. -/
def flatIndex? : Nat → List Nat → List Nat → Option Nat
  | flat, [], [] => some flat
  | flat, d :: dims, i :: index => if i < d then flatIndex? (flat * d + i) dims index else none
  | _, _, _ => none

/-- **The item** at an index vector. -/
def get? (a : HostArray) (index : List Nat) : Option HostValue :=
  (flatIndex? 0 a.dims index).bind (a.items[·]?)

end HostArray

namespace HostValue

/-- The type of a host value. -/
def hostType? : HostValue → Option HostType
  | void | null => none
  | bool _ => some .bool
  | number _ => some .double
  | primitive p => some (.numeric p.kind)
  | text _ => some .text
  | object o => some o.hostType
  | array _ => some .hostArray
  | type _ => some .hostType
  | dynamic _ => some .scriptValue
  | script => some .script
  | context => some .context
  | arguments _ => some .arguments

/-- Whether the value is nothing. -/
def isNull : HostValue → Bool
  | void | null => true
  | _ => false

/-- The number a host value is. -/
def toDouble? : HostValue → Option Float
  | number x => some x
  | primitive p => some p.toDouble
  | _ => none

/-- The signed 64-bit integer a host value is. -/
def toInt64? : HostValue → Option Int
  | primitive p => p.toInt?.filter fun i => decide (IntegerKind.int64.Holds i)
  | _ => none

/-- The host object a host value is. -/
def object? : HostValue → Option Object
  | object o => some o
  | _ => none

end HostValue

end ScriptHost
