import ScriptHost.Module

/-!
# What a host registers

The host's side of a session: methods it declares, members and views of its types, conversions of
its own, and its settings.

## Main definitions

* `Session.declare`: a method, with programs for the defaults of its parameters.
* `Session.registerType`, `Session.registerMember`, `Session.registerExtension`,
  `Session.registerProxy`: types and their members.
* `Session.setToHost`, `Session.setToScript`: conversions.
* `Session.configure`: settings.
-/

namespace ScriptHost

namespace Session

/-- Parameters with the values of the programs for their defaults. -/
def withDefaults : List (Parameter × Option HostExpr) → Action (List Parameter)
  | [] => return []
  | (p, none) :: rest => return p :: (← withDefaults rest)
  | (p, some h) :: rest => do
    let value ← evaluateHost h
    return { p with default := some value } :: (← withDefaults rest)

/-- **Declares a method**: the defaults are computed, then the declaration is checked. -/
def declare (d : Declaration) (parameters : List (Parameter × Option HostExpr)) :
    Action MethodId := do
  let parameters ← withDefaults parameters
  let m ← Action.ofExcept { d with parameters }.build
  addMethod m

/-- The method a reference stands for, which has to be there. -/
def getMethod (id : MethodId) : Action MethodSlot := do
  match (← get).method? id with
  | some slot => return slot
  | none => Action.fail (.runtime "no overload to call")

/-- Registers a type under a name for scripts. -/
def registerType (t : HostType) (name : String) : Update (Option TypeDescriptor) := do
  modify fun s => { s with types := s.types.registerType t name }
  return (← get).types.types.get? t

/-- Registers a method as a member of a type. -/
def registerMember (t : HostType) (id : MethodId) : Action Unit := do
  let slot ← getMethod id
  let types ← Action.ofExcept ((← get).types.registerMember t slot.method.name id)
  modify fun s => { s with types }

/-- Registers a method as an extension of the type it names. -/
def registerExtension (id : MethodId) : Action Unit := do
  let m := (← getMethod id).method
  let types ← Action.ofExcept ((← get).types.registerExtension m.extensionOf m.name id)
  modify fun s => { s with types }

/-- Registers the view that scripts are shown of accounts. -/
def registerProxy (name : String) : Update (Option TypeDescriptor) := do
  modify fun s => { s with types := s.types.registerProxy .account .accountView name }
  return (← get).types.types.get? .accountView

/-- Forgets all types, extensions and views. -/
def clearTypes : Update Unit := modify fun s => { s with types := .empty }

/-- The position among the members a name stands for of the one that takes a number of arguments. -/
def selectMember (s : Session) (t : HostType) (name : String) (argc : Nat) (hasReceiver : Bool) :
    Option Nat :=
  let ids := s.types.resolve t name .all
  (s.selectOverload ids argc hasReceiver).map ids.idxOf

/-- Registers a conversion to the host, or removes it. -/
def setToHost (kind : Kind) (t : HostType) (c : Option ToHostConverter) (g : Option Guard) :
    Action Unit := do
  let converters ← Action.ofExcept ((← get).converters.setToHost kind t c g)
  modify fun s => { s with converters }

/-- Registers a conversion to scripts, or removes it. -/
def setToScript (t : HostType) (c : Option ToScriptConverter) : Update Unit :=
  modify fun s => { s with converters := s.converters.setToScript t c }

/-- Forgets all conversions. -/
def clearConverters : Update Unit := modify fun s => { s with converters := .empty }

/-- Changes the settings, unless the change is refused. -/
def configure (change : Settings → Except ScriptError Settings) : Action Unit := do
  let settings ← Action.ofExcept (change (← get).settings)
  modify fun s => { s with settings }

/-- Converts a value for the host's own use, outside any call. -/
def toHostDirect (v : Value) (type : ParamType) : Action HostValue := do
  Action.ofExcept ((← get).toHost v type none ⟨"to_host", 1⟩)

end Session

end ScriptHost
