import ScriptHost.View
import ScriptHost.Converter
import ScriptHost.TypeRegistry
import ScriptHost.Method.Basic
import ScriptHost.Call.Depth

/-!
# Sessions

A session is everything a script and its host share while programs run: the heap, the globals, the
call depth, the settings, the registries of conversions, types and methods, the variables of
programs, the log and the record of the functions called. Programs are actions on a session that may
stop early with an error; what they changed before stays changed.

## Main definitions

* `Session`: the state.
* `Update`, `Action`: computations on a session, without and with errors.
* `Action.attempt`: the outcome of an action as a value.
* New tables, functions, objects and boxed numbers.
-/

namespace ScriptHost

/-- An entry of the log. -/
inductive LogEntry where
  /-- A value that a program logged. -/
  | value (v : View)
  /-- A call of a host method, before it runs. -/
  | call (method : String) (receiver : Option ObjectView) (typeArgs : List HostType)
    (args : List HostView)

/-- A call of a function: the function and the arguments it runs on. -/
structure Invocation where
  function : Function
  arguments : Arguments

/-- A method and the plan kept for it, if any, which is its own. -/
structure MethodSlot where
  method : Method
  kept : Option (List Binding)
  plan_of_kept : ∀ plan, kept = some plan → plan = method.plan

/-- A method for which no plan is kept yet. -/
def MethodSlot.fresh (m : Method) : MethodSlot := ⟨m, none, nofun⟩

/-- A method with its plan kept. -/
def MethodSlot.optimized (m : Method) : MethodSlot :=
  ⟨m, some m.plan, fun _ h => (Option.some.inj h).symm⟩

/-- **The state** of a script and its host. -/
structure Session where
  heap : Heap
  globals : TableId
  /-- The budget of re-entrant calls and pending frames. -/
  capacity : Nat
  depth : CallDepth
  settings : Settings
  converters : Converters
  types : TypeRegistry
  methods : Array MethodSlot
  /-- The metatables of boxed numbers, made when first needed. -/
  numberTables : Keyed NumericKind TableId
  /-- The variables of programs. -/
  assigned : Keyed String Value
  /-- The entries of the log, newest first. -/
  log : List LogEntry
  /-- The calls of functions so far, newest first. -/
  invocations : List Invocation

/-- Why a program stopped early. -/
inductive Interrupt where
  | error (e : ScriptError)
  /-- The bound on the number of steps was reached. -/
  | exhausted

/-- Computations on a session that always finish. -/
abbrev Update := StateM Session

/-- **Actions**: computations on a session that may stop early. -/
abbrev Action := ExceptT Interrupt Update

namespace Action

variable {α : Type}

/-- Stops with an error. -/
def fail (e : ScriptError) : Action α := throw (.error e)

/-- Goes on with a result or stops with its error. -/
def ofExcept : Except ScriptError α → Action α
  | .ok a => pure a
  | .error e => fail e

/-- **The outcome** of an action as a value: a result or an error. The bound on steps is no outcome.
-/
def attempt (a : Action α) : Action (Except ScriptError α) :=
  ExceptT.mk do
    match ← a.run with
    | .ok x => pure (.ok (.ok x))
    | .error (.error e) => pure (.ok (.error e))
    | .error .exhausted => pure (.error .exhausted)

end Action

namespace Session

/-- Applies a change of the heap that gives a result. -/
def onHeap {α : Type} (f : Heap → α × Heap) : Update α := do
  let s ← get
  let (a, heap) := f s.heap
  set { s with heap }
  return a

/-- Makes a table. -/
def newTable (content : Table) : Update TableId := onHeap (·.newTable content)

/-- Changes the content of a table. -/
def modifyTable (t : TableId) (f : Table → Table) : Update Unit :=
  onHeap fun h => ((), h.setTable t (f (h.table t)))

/-- Makes a function. -/
def newFunction (name : String) (code : Code) : Update Function := do
  let stamp ← onHeap Heap.newStamp
  return { stamp, name, code }

/-- Makes an object. -/
def newObject (payload : Payload) : Update Object := do
  let stamp ← onHeap Heap.newStamp
  return { stamp, payload }

/-- Makes a counter object. -/
def newCounter (start : Int64) : Update Object := do
  let c ← onHeap (·.newCounter start)
  newObject (.counter c)

/-- Moves a counter on. -/
def addCounter (c : CounterId) (n : Int64) : Update Unit :=
  onHeap fun h => ((), h.addCounter c n)

/-- Makes a request. -/
def newRequest (target : Value) (args : List Value) (continuation handler : Option Function) :
    Update Value := do
  let stamp ← onHeap Heap.newStamp
  return .request { stamp, target, args, continuation, handler }

/-- Adds an entry to the log. -/
def addLog (e : LogEntry) : Update Unit := modify fun s => { s with log := e :: s.log }

/-- Notes that a function is called. -/
def noteInvocation (i : Invocation) : Update Unit :=
  modify fun s => { s with invocations := i :: s.invocations }

/-- The event a comparison answers to. -/
def comparisonEvent : Comparison → String
  | .equal => "__eq"
  | .less => "__lt"
  | .lessEqual => "__le"

/-- **The metatable of boxed numbers** of a kind, made when first needed: its functions compare. -/
def numberTable (kind : NumericKind) : Update TableId := do
  match (← get).numberTables.get? kind with
  | some t => return t
  | none =>
    let equal ← comparison .equal
    let less ← comparison .less
    let lessEqual ← comparison .lessEqual
    let content := Table.empty
      |>.set (.name (comparisonEvent .equal)) equal
      |>.set (.name (comparisonEvent .less)) less
      |>.set (.name (comparisonEvent .lessEqual)) lessEqual
    let t ← newTable content
    modify fun s => { s with numberTables := s.numberTables.insert kind t }
    return t
where
  /-- The function for one comparison. -/
  comparison (c : Comparison) : Update Value := do
    return .function (← newFunction (kind.name ++ comparisonEvent c) (.compare kind c))

/-- **Boxes a number**, with the metatable of its kind. -/
def box (p : Primitive) : Update Value := do
  let t ← numberTable p.kind
  let o ← newObject (.primitive p)
  return .userdata ⟨o, some t⟩

/-- An object as a script value; a boxed number is boxed anew. -/
def ofObject (o : Object) : Update Value :=
  match o.primitive? with
  | some p => box p
  | none => return .userdata ⟨o, none⟩

/-- **A host type as a script value**: calling it runs a constructor. -/
def staticType (t : HostType) : Update Value := do
  let f ← newFunction (t.name ++ ".__new") (.construct t)
  let metatable ← newTable (Table.empty.set (.name "__call") (.function f))
  let o ← newObject (.staticType t)
  return .userdata ⟨o, some metatable⟩

/-- The type of a numeric kind as a script value: calling it boxes a number. -/
def numberType (kind : NumericKind) : Update Value := do
  let f ← newFunction (kind.name ++ "__call") (.makeNumber kind)
  let metatable ← newTable (Table.empty.set (.name "__call") (.function f))
  let o ← newObject (.staticType (.numeric kind))
  return .userdata ⟨o, some metatable⟩

/-- The view that scripts are shown of an object, if its type has one. -/
def proxy? (o : Object) : Update (Option Object) := do
  if o.hostType ∈ (← get).types.proxied then
    match o.payload with
    | .account balance => return some (← newObject (.accountView balance))
    | _ => return none
  else return none

/-- Takes a method into the session; a preoptimized one starts with its plan. -/
def addMethod (m : Method) : Update MethodId := do
  let s ← get
  let slot := if m.mode = .preoptimized then MethodSlot.optimized m else .fresh m
  set { s with methods := s.methods.push slot }
  return ⟨s.methods.size⟩

/-- The method a reference stands for. -/
def method? (s : Session) (m : MethodId) : Option MethodSlot := s.methods[m.index]?

end Session

end ScriptHost
