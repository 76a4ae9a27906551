import ScriptHost.Settings

/-!
# Host methods

A host method is declared with its parameters and checked once; after that its declaration tells for
each parameter where its value comes from. Generic methods have a leading slot for each type
argument.

## Main definitions

* `Parameter`, `Declaration`: what the host declares.
* `Method`: a declaration that passed the checks.
* `Declaration.build`: the checks.
* `Binding`, `Method.plan`: where each parameter's value comes from.
* `Method.accepts`: whether a number of arguments can be right.
-/

namespace ScriptHost

/-- A parameter of a host method. -/
structure Parameter where
  name : String
  type : ParamType
  /-- Whether the parameter only carries a result. -/
  isOut : Bool := false
  /-- Whether the parameter carries a result besides its value. -/
  byRef : Bool := false
  /-- Whether the parameter takes all arguments that are left. -/
  variadic : Bool := false
  /-- The value for an argument that is nil. -/
  default : Option HostValue := none

/-- The kinds of members. -/
inductive MemberKind where
  | method
  | constructor
  | arrayConstructor
deriving DecidableEq, Repr

/-- The name of a kind of members. -/
def MemberKind.name : MemberKind → String
  | method => "Method"
  | constructor => "Constructor"
  | arrayConstructor => "ArrayConstructor"

/-- What runs when a method is called. -/
inductive HostCode where
  | body (b : Body)
  /-- Makes an array with the extents given as arguments. -/
  | newArray (element : ParamType)

/-- What a host declares of a method. -/
structure Declaration where
  name : String
  kind : MemberKind := .method
  /-- Whether the host declares the method without a receiver. -/
  isStatic : Bool := false
  /-- The type a method is added to from outside. -/
  extensionOf : Option HostType := none
  /-- The number of type arguments. -/
  genericCount : Nat := 0
  parameters : List Parameter := []
  returns : Option ParamType := none
  mode : AccessMode := .default
  code : HostCode

/-- **A host method** that scripts can call. Its parameters start with a slot for each type
argument. -/
structure Method where
  name : String
  kind : MemberKind
  isStatic : Bool
  extensionOf : Option HostType
  genericCount : Nat
  parameters : List Parameter
  returns : Option ParamType
  mode : AccessMode
  code : HostCode

/-- Where the value of a parameter comes from. -/
inductive Binding where
  /-- An argument stands for a type. -/
  | typeSlot
  /-- The receiver of an extension, or an argument in its place. -/
  | extensionReceiver
  | script
  | context
  | arguments
  /-- Nowhere: the parameter only carries a result. -/
  | out
  /-- All arguments that are left. -/
  | variadic
  /-- An argument, converted to the parameter's type. -/
  | convert
deriving DecidableEq, Repr

namespace Declaration

/-- The slot parameters of a generic method. -/
def typeSlots (count : Nat) : List Parameter :=
  (List.range count).map fun (i : Nat) => { name := "generic" ++ Numeral.text i, type := .any }

/-- Whether a type mentions a type argument that the method does not have. -/
def isOpen (d : Declaration) (t : ParamType) : Bool :=
  match t.generic? with
  | some i => d.genericCount ≤ i
  | none => false

/-- Whether each variadic parameter is the last one and an array. -/
def variadicLast : List Parameter → Bool
  | [] => true
  | p :: rest =>
    (!p.variadic || (rest.isEmpty && (match p.type with | .array _ => true | _ => false))) &&
      variadicLast rest

/-- The reason why a declaration cannot be shown to scripts, in the order of the checks. -/
def problem? (d : Declaration) : Option String :=
  if d.mode = .hideMembers then some "invalid access mode"
  else if d.parameters.any (·.type.hasPointer) then some "pointer parameters are not supported"
  else if d.returns.any ParamType.hasPointer then some "pointer return types are not supported"
  else if d.returns.any d.isOpen then some "unresolved generic return type"
  else if d.parameters.any (d.isOpen ·.type) then some "unresolved generic parameter type"
  else if !variadicLast d.parameters then
    some "only the last parameter can be variadic, and it must be an array"
  else if d.extensionOf.isSome && d.parameters.isEmpty then
    some "extension method without a receiver parameter"
  else none

/-- Whether the host code gets no receiver: constructors make it and extensions take it as an
argument. -/
def takesNoReceiver (d : Declaration) : Bool :=
  d.isStatic || d.kind != .method || d.extensionOf.isSome

/-- **The checks** on a declaration. A method with a parameter that carries a result besides its
value never keeps a plan. -/
def build (d : Declaration) : Except ScriptError Method :=
  match d.problem? with
  | some reason => .error (.invalidDescriptor d.name reason)
  | none =>
    .ok
      { name := d.name
        kind := d.kind
        isStatic := d.takesNoReceiver
        extensionOf := d.extensionOf
        genericCount := d.genericCount
        parameters := typeSlots d.genericCount ++ d.parameters
        returns := d.returns
        mode := if d.parameters.any (·.byRef) then .reflection else d.mode
        code := d.code }

end Declaration

namespace Method

/-- The constructor of arrays with a given element type and number of dimensions. -/
def arrayConstructor (element : ParamType) (rank : Nat) : Method where
  name := "__new[" ++ Numeral.text rank ++ "]"
  kind := .arrayConstructor
  isStatic := true
  extensionOf := none
  genericCount := 0
  parameters := (List.range rank).map fun (i : Nat) =>
    { name := "idx" ++ Numeral.text i, type := .primitive (.integer .int32) }
  returns := some (.array element)
  mode := .default
  code := .newArray element

/-- Whether the member makes new values. -/
def isConstructor (m : Method) : Bool := m.kind != .method

/-- The binding of the parameter at a position. -/
def bindingAt (m : Method) (i : Nat) (p : Parameter) : Binding :=
  if i < m.genericCount then .typeSlot
  else if i = m.genericCount ∧ m.extensionOf.isSome then .extensionReceiver
  else
    match p.type with
    | .script => .script
    | .context => .context
    | .arguments => .arguments
    | _ => if p.isOut then .out else if p.variadic then .variadic else .convert

/-- **The binding plan**: where the value of each parameter comes from. -/
def plan (m : Method) : List Binding := m.parameters.mapIdx fun i p => m.bindingAt i p

/-- Goes through the parameters with the number of arguments needed and the number usable so far. -/
def acceptsFrom (argc : Nat) (hasReceiver : Bool) :
    Nat → Nat → List (Parameter × Binding) → Bool
  | required, usable, [] => required ≤ argc && argc ≤ usable
  | required, usable, (p, b) :: rest =>
    match b with
    | .typeSlot => acceptsFrom argc hasReceiver (usable + 1) (usable + 1) rest
    | .convert =>
      let required := if p.default.isNone && !p.type.acceptsNil then usable + 1 else required
      acceptsFrom argc hasReceiver required (usable + 1) rest
    | .extensionReceiver =>
      if hasReceiver then acceptsFrom argc hasReceiver required usable rest
      else acceptsFrom argc hasReceiver (usable + 1) (usable + 1) rest
    | .variadic | .arguments => required ≤ argc
    | _ => acceptsFrom argc hasReceiver required usable rest

/-- **Whether a number of arguments can be right** for the method. -/
def accepts (m : Method) (argc : Nat) (hasReceiver : Bool) : Bool :=
  acceptsFrom argc hasReceiver 0 0 (m.parameters.zip m.plan)

end Method

end ScriptHost
