import ScriptHost.Host.ToHost
import ScriptHost.Host.ToScript

/-!
# Calling host methods

The arguments of a call are bound to the parameters of a method in their declared order; only when
all of them are bound does the method run. Its result, and the parameters that carry results, go
back to the script.

## Main definitions

* `HostCall`, `HostReply`: what a method is called with, and what it answers.
* `Session.bindFrom`, `Session.bind`: binding.
* `Session.bindingPlan`: the plan a call uses, kept or made anew.
* `Session.execute`: a whole call.
* `Session.selectOverload`: the method among several that takes a number of arguments.
-/

namespace ScriptHost

/-- What a host method is called with. -/
structure HostCall where
  receiver : Option Object
  typeArgs : List HostType
  args : List HostValue

/-- What a host method answers. -/
inductive HostReply where
  /-- A result, and the arguments as the method left them. -/
  | returned (result : HostValue) (args : List HostValue)
  /-- A failure of the host's own. -/
  | failed (message : String)

namespace HostCall

/-- An argument; null beyond the last. -/
def arg (c : HostCall) (i : Nat) : HostValue := c.args.getD i .null

/-- The call with another value in an argument, if there is such an argument. -/
def setOut (c : HostCall) (i : Nat) (h : HostValue) : HostCall := { c with args := c.args.set i h }

end HostCall

namespace Method

/-- The positions among the declared parameters of those that carry results. -/
def outIndices (m : Method) : List Nat :=
  let declared := m.parameters.drop m.genericCount
  (declared.zipIdx.filter fun (p, _) => p.isOut || p.byRef).map (·.2)

end Method

namespace Session

/-- One argument converted to a parameter's type. -/
def convertArgument (s : Session) (m : Method) (a : Arguments) (cursor : Nat) (p : Parameter)
    (typeArgs : List HostType) : Except ScriptError HostValue :=
  s.toHost ((a.raw? cursor).getD .nil) (p.type.substitute typeArgs) p.default
    ⟨m.name, cursor + 1⟩

/-- Several values converted one after the other, for arguments from a position on. -/
def convertEach (s : Session) (function : String) (element : ParamType) :
    Nat → List Value → Except ScriptError (List HostValue)
  | _, [] => .ok []
  | i, v :: vs => do
    let h ← s.toHost v element none ⟨function, i + 1⟩
    let hs ← convertEach s function element (i + 1) vs
    return h :: hs

/-- All arguments from a position on as one array. A single host array of the right element type is
passed as it is. -/
def collectVariadic (s : Session) (m : Method) (a : Arguments) (cursor : Nat) (p : Parameter)
    (typeArgs : List HostType) : Except ScriptError HostValue := do
  let element :=
    match p.type.substitute typeArgs with
    | .array e => e
    | t => t
  let extra := a.values.drop cursor
  let given? :=
    match extra with
    | [.userdata u] => u.object.array?.filter fun given => given.element = element
    | _ => none
  match given? with
  | some given => return .array given
  | none => return .array (.ofList element (← convertEach s m.name element cursor extra))

/-- **Binding** of the parameters that are left, with the position of the next argument and what is
bound so far, newest first. -/
def bindFrom (s : Session) (m : Method) (receiver : Option Object) (a : Arguments) :
    Nat → List HostType → List HostValue → List (Parameter × Binding) →
      Except ScriptError (List HostType × List HostValue)
  | _, typeArgs, bound, [] => .ok (typeArgs, bound.reverse)
  | cursor, typeArgs, bound, (p, b) :: rest =>
    match b with
    | .typeSlot =>
      match (a.get cursor).typeArgument? with
      | some t => bindFrom s m receiver a (cursor + 1) (typeArgs ++ [t]) bound rest
      | none => .error (.genericBinding m.name)
    | .extensionReceiver =>
      match receiver with
      | some o => bindFrom s m receiver a cursor typeArgs (.object o :: bound) rest
      | none =>
        match s.convertArgument m a cursor p typeArgs with
        | .ok h => bindFrom s m receiver a (cursor + 1) typeArgs (h :: bound) rest
        | .error e => .error e
    | .script => bindFrom s m receiver a cursor typeArgs (.script :: bound) rest
    | .context => bindFrom s m receiver a cursor typeArgs (.context :: bound) rest
    | .arguments =>
      bindFrom s m receiver a cursor typeArgs (.arguments a.skipReceiver :: bound) rest
    | .out => bindFrom s m receiver a cursor typeArgs (.null :: bound) rest
    | .variadic =>
      match s.collectVariadic m a cursor p typeArgs with
      | .ok h => bindFrom s m receiver a a.length typeArgs (h :: bound) rest
      | .error e => .error e
    | .convert =>
      match s.convertArgument m a cursor p typeArgs with
      | .ok h => bindFrom s m receiver a (cursor + 1) typeArgs (h :: bound) rest
      | .error e => .error e

/-- **Binding** of a whole call by a plan. The receiver of a method call is no argument. -/
def bind (s : Session) (m : Method) (plan : List Binding) (receiver : Option Object)
    (a : Arguments) : Except ScriptError HostCall := do
  let start := if a.isMethodCall then 1 else 0
  let (typeArgs, args) ← s.bindFrom m receiver a start [] [] (m.parameters.zip plan)
  return { receiver := if m.isStatic then none else receiver, typeArgs, args }

/-- The mode in force for a method. -/
def accessMode (s : Session) (m : Method) : AccessMode :=
  if m.mode = .default then s.settings.defaultMode else m.mode

/-- **The plan a call uses**: made anew by reflection, and kept from the first call on otherwise. -/
def bindingPlan (id : MethodId) (slot : MethodSlot) : Update (List Binding) := do
  let s ← get
  if s.accessMode slot.method = .reflection then return slot.method.plan
  else
    match slot.kept with
    | some plan => return plan
    | none =>
      set { s with methods := s.methods.setIfInBounds id.index (.optimized slot.method) }
      return slot.method.plan

/-- The script values of the parameters that carry results. -/
def outValues (args : List HostValue) : List Nat → Update (List Value)
  | [] => return []
  | i :: rest => do
    let v ← toScript (args.getD i .null)
    let vs ← outValues args rest
    return v :: vs

/-- **The result** of a method for the script: the result itself, or a tuple of it, unless it is
void, and the parameters that carry results. -/
def assemble (m : Method) (result : HostValue) (args : List HostValue) : Update Value := do
  match m.outIndices with
  | [] => toScript result
  | indices =>
    let primary ←
      match result with
      | .void => pure []
      | _ => do
        let v ← toScript result
        pure [v]
    let outs ← outValues args indices
    return .ofList (primary ++ outs)

/-- **A call of a host method**: binding, then the method itself, then its result. -/
def execute (host : Method → HostCall → Action HostReply) (id : MethodId)
    (receiver : Option Object) (a : Arguments) : Action Value := do
  match (← get).method? id with
  | none => Action.fail (.runtime "no overload to call")
  | some slot =>
    let plan ← bindingPlan id slot
    let call ← Action.ofExcept ((← get).bind slot.method plan receiver a)
    match ← host slot.method call with
    | .failed message => Action.fail (.hostInvocation slot.method.name (.text message))
    | .returned result args => assemble slot.method result args

/-- **The overload** for a number of arguments: the first that takes them, or else the first. -/
def selectOverload (s : Session) (overloads : List MethodId) (argc : Nat) (hasReceiver : Bool) :
    Option MethodId :=
  let takes (id : MethodId) : Bool :=
    match s.method? id with
    | some slot => slot.method.accepts argc hasReceiver
    | none => false
  (overloads.find? takes).or overloads.head?

end Session

end ScriptHost
