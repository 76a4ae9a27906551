import ScriptHost.Method.Binding

/-!
# Members of host objects

A member of an object or of a type is looked up by name and becomes a function that runs one of its
overloads. Objects of a type with a view are looked at through that view; a type has only its static
members.

## Main definitions

* `Session.member`: the member of a value.
* `Session.registeredType`: a registered type as a script value.
* `Session.runMember`, `Session.runConstructor`: running the overload for the arguments.
-/

namespace ScriptHost.Session

/-- Whether a method needs no receiver. -/
def isStaticMethod (s : Session) (id : MethodId) : Bool :=
  match s.method? id with
  | some slot => slot.method.isStatic
  | none => false

/-- The name of a method. -/
def methodName (s : Session) (id : MethodId) : String :=
  match s.method? id with
  | some slot => slot.method.name
  | none => ""

/-- The type whose members a value has, and the receiver they run on. -/
def memberTarget (o : Object) : Update (HostType × Option Object) := do
  match o.staticType? with
  | some t => return (t, none)
  | none =>
    match ← proxy? o with
    | some view => return (view.hostType, some view)
    | none => return (o.hostType, some o)

/-- **The member** of a value with a given name, as a function. -/
def member (target : Value) (name : String) : Action Value := do
  match target.object? with
  | none => Action.fail (.runtime ("attempt to index a " ++ target.typeName ++ " value"))
  | some o =>
    let (t, receiver) ← memberTarget o
    let s ← get
    let resolved := s.types.resolve t name s.settings.spelling
    let overloads := if receiver.isNone then resolved.filter s.isStaticMethod else resolved
    match overloads with
    | [] => Action.fail (.runtime ("cannot find member '" ++ name ++ "' on " ++ t.name))
    | first :: _ =>
      return .function (← newFunction (s.methodName first) (.method overloads receiver))

/-- **A type as a script value**, if it is registered. -/
def registeredType (t : HostType) : Action Value := do
  if (← get).types.isRegistered t then staticType t
  else Action.fail (.runtime ("type " ++ t.name ++ " is not registered"))

section

variable (host : Method → HostCall → Action HostReply)

/-- Runs the overload of a member for the arguments of a call. -/
def runMember (overloads : List MethodId) (receiver : Option Object) (a : Arguments) :
    Action Value := do
  match (← get).selectOverload overloads a.count receiver.isSome with
  | some id => execute host id receiver a
  | none => Action.fail (.runtime "no overload to call")

/-- Runs the constructor of a type for the arguments of a call. -/
def runConstructor (t : HostType) (a : Arguments) : Action Value := do
  let s ← get
  match s.selectOverload (s.types.resolve t "__new" .exact) a.count false with
  | some id => execute host id none a
  | none => Action.fail (.runtime (t.name ++ " has no constructor"))

end

end ScriptHost.Session
