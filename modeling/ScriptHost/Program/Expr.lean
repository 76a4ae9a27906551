import ScriptHost.Host.ParamType

/-!
# The callback language

Callbacks and host methods are programs in a small expression language. Expressions denote script
values, host expressions denote host values, and fault expressions denote errors to be raised.

## Main definitions

* `Expr`, `HostExpr`, `FaultExpr`: the three kinds of expressions.
* `Body`: what a host method does when it is called.
-/

namespace ScriptHost

/-- The arithmetic operators. -/
inductive Arithmetic where
  | add | sub | mul | div | mod | pow
deriving DecidableEq, Repr

/-- Table keys: integers and strings. -/
inductive Key where
  | index (i : Int)
  | name (s : String)
deriving DecidableEq, Repr

/-- The operators with two operands. -/
inductive BinaryOp where
  | arithmetic (op : Arithmetic)
  | concat
  | equal
  | less
  | lessEqual
  /-- Equality without metamethods. -/
  | rawEqual
deriving DecidableEq, Repr

/-- The operations with one operand. -/
inductive UnaryOp where
  | negate
  /-- The first value of a tuple. -/
  | first
  | truthy
  /-- The number a value is read as. -/
  | toNumber
  /-- The text a value is read as. -/
  | toText
  | print
  | typeName
  | kindName
  | getMetatable
  | metamethod (event : String)
deriving DecidableEq, Repr

/-- New host objects. -/
inductive ObjectExpr where
  | counter (start : Int)
  | account (balance : Float)
  | accountView (balance : Float)
  | blank
  | text (s : String)
  | int32 (i : Int)
  | primitive (kind : NumericKind) (numeral : String)

mutual

/-- **Expressions**: programs that denote script values. -/
inductive Expr where
  | nil
  | bool (b : Bool)
  | number (x : Float)
  | string (s : String)
  | variable (name : String)
  | assign (name : String) (e : Expr)
  | globals
  | global (name : String)
  | assignGlobal (name : String) (e : Expr)
  | tuple (es : List Expr)
  | table (items : List Expr) (fields : List (Key × Expr)) (metatable : Expr)
  | function (name : String) (body : Expr)
  /-- A boxed number of a host kind, from its numeral. -/
  | primitive (kind : NumericKind) (numeral : String)
  /-- A new object, boxed if it is a number. -/
  | object (o : ObjectExpr)
  /-- A new object without a metatable. -/
  | rawObject (o : ObjectExpr)
  /-- A new object with a metatable. -/
  | metaObject (metatable : Expr) (o : ObjectExpr)
  | hostArray (element : ParamType) (dims : Option (List Nat)) (items : List HostExpr)
  /-- A host type as scripts hold it. -/
  | staticType (t : HostType)
  /-- The same, for registered types only. -/
  | registeredType (t : HostType)
  /-- A call for the caller to run, with a continuation and an error handler. -/
  | request (target : Expr) (args : List Expr) (continuation handler : Expr)
  | argument (i : Nat)
  /-- An argument as passed, without taking the first of a tuple. -/
  | rawArgument (i : Nat)
  | arguments
  | argumentCount
  | isMethodCall
  | call (target : Expr) (args : List Expr)
  | callGlobal (name : String) (args : List Expr)
  /-- A call that does not count as an entry into the script. -/
  | process (target : Expr) (args : List Expr)
  | member (target : Expr) (name : String)
  | callMember (target : Expr) (name : String) (args : List Expr)
  | toScript (h : HostExpr)
  /-- The call depth in use. -/
  | depth
  | unary (op : UnaryOp) (e : Expr)
  | binary (op : BinaryOp) (l r : Expr)
  | raise (f : FaultExpr)
  | ite (condition thenE elseE : Expr)
  | seq (es : List Expr)
  | log (e : Expr)
  | getField (table : Expr) (key : Key)
  | setField (table : Expr) (key : Key) (e : Expr)
  | setMetatable (table metatable : Expr)

/-- **Host expressions**: programs that denote host values. -/
inductive HostExpr where
  | void
  | null
  | bool (b : Bool)
  | number (x : Float)
  | text (s : String)
  | primitive (kind : NumericKind) (numeral : String)
  | object (o : ObjectExpr)
  | array (element : ParamType) (dims : Option (List Nat)) (items : List HostExpr)
  | type (t : HostType)
  | dynamic (e : Expr)
  | script
  | context
  | arguments (es : List Expr)

/-- **Fault expressions**: errors to be raised. -/
inductive FaultExpr where
  | runtime (message : String)
  | host (method message : String)
  | value (e : Expr)
  | badArgument (index : Nat) (function message : String)
  | badType (index : Nat) (function expected : String) (e : Expr)
  | valueExpected (index : Nat) (function : String)
  | overflow (source target value : String)
  | format (input target : String)
  | stackOverflow
  | genericBinding (method : String)
  | invalidDescriptor (member reason : String)

end

/-- **Method bodies**: what a host method does with a call. -/
inductive Body where
  | value (h : HostExpr)
  | argument (i : Nat)
  | receiver
  /-- Fails with a text of the host's own. -/
  | fail (message : String)
  /-- Fails with an error of the script. -/
  | throw (f : FaultExpr)
  /-- Writes to parameters, then goes on. -/
  | outs (writes : List (Nat × HostExpr)) (next : Body)
  | sum
  | newCounter
  | addCounter (i : Nat)
  | readCounter
  | balance
  | typeArgument (i : Nat)
  | typeArgumentName (i : Nat)
  | result (e : Expr)
  /-- Calls the script value in an argument. -/
  | callValue (i : Nat) (args : List Expr)

end ScriptHost
