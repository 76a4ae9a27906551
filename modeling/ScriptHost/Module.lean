import ScriptHost.Call.Script

/-!
# Modules

A module exports functions and constants under names; installing it makes them globals. Every script
starts with three modules: value inspection, error handling and the numeric types.

## Main definitions

* `Module`, `Module.standard`: the modules every script starts with.
* `Session.installModule`: a module of a host's own.
* `Session.new`: a new session.
-/

namespace ScriptHost

/-- **A module** of built-in functions and numeric types. -/
structure Module where
  name : String
  functions : List (String × Builtin)
  constants : List NumericKind

namespace Module

/-- Value inspection. -/
def basic : Module :=
  ⟨"basic", [("type", .type), ("tostring", .tostring), ("tonumber", .tonumber)], []⟩

/-- Protected calls and raising errors. -/
def errorHandling : Module := ⟨"error_handling", [("pcall", .pcall), ("error", .error)], []⟩

/-- The numeric types. -/
def primitives : Module := ⟨"primitives", [], NumericKind.all⟩

/-- The modules every script starts with. -/
def standard : List Module := [basic, errorHandling, primitives]

/-- The standard module with a given name. -/
def find? (name : String) : Option Module := standard.find? (·.name = name)

/-- The exported names, each with whether it is a constant. -/
def exports (m : Module) : List (String × Bool) :=
  m.functions.map (fun f => (f.1, false)) ++ m.constants.map fun k => (k.name, true)

/-- Calls an exported function, if there is one with the name. -/
def call? (m : Module) (name : String) (a : Arguments) : Action (Option Value) :=
  match m.functions.lookup name with
  | some b => return some (← b.run a)
  | none => return none

/-- An exported constant, if there is one with the name. -/
def constant? (m : Module) (name : String) : Update (Option Value) :=
  match m.constants.find? (·.name = name) with
  | some kind => return some (← Session.numberType kind)
  | none => return none

end Module

namespace Session

/-- Assigns to a global. -/
def setGlobal (name : String) (v : Value) : Update Unit := do
  modifyTable (← get).globals (·.set (.name name) v)

/-- Makes the exports of a standard module globals. -/
def installStandard (m : Module) : Update Unit := do
  for (name, b) in m.functions do
    setGlobal name (.function (← newFunction name (.builtin b)))
  for kind in m.constants do
    setGlobal kind.name (← numberType kind)

/-- **Makes the exports of a host's own module globals.** A function without a body fails when it is
called; a constant without a program, or with one that fails, is nil. -/
def installModule (functions constants : List (String × Option Expr)) : Action Unit := do
  for (name, body) in functions do
    setGlobal name (.function (← newFunction name (.moduleExport body)))
  for (name, program) in constants do
    match program with
    | none => setGlobal name .nil
    | some e =>
      match ← (evaluate e).attempt with
      | .ok v => setGlobal name v
      | .error _ => setGlobal name .nil

/-- A session before any module is installed: the heap holds only the table of globals. -/
def bare (capacity : Nat) : Session where
  heap := { Heap.empty with tables := #[.empty], nextStamp := firstFreeStamp }
  globals := ⟨0⟩
  capacity := capacity
  depth := .zero
  settings := .initial
  converters := .empty
  types := .empty
  methods := #[]
  numberTables := .empty
  assigned := .empty
  log := []
  invocations := []

/-- The budget of calls a script has if nothing else is said. -/
def defaultCapacity : Nat := 256

/-- **A new session** with the standard modules. -/
def new (capacity : Nat) : Session :=
  ((Module.standard.forM installStandard).run (bare capacity)).2

end Session

end ScriptHost
