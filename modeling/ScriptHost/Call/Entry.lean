import ScriptHost.Session.Basic

/-!
# Entries into the script

A call from the host, or back into the script from a running callback, is an entry: it takes its
share of the call depth while it runs. Callbacks reach the script through their ways of re-entry.

## Main definitions

* `Reentry`: the ways back into the script.
* `Session.enter`: a call that counts as an entry.
-/

namespace ScriptHost

/-- **The ways back into the script**: calls that count as entries, and calls that do not. -/
structure Reentry where
  call : Value → List Value → Action Value
  process : Value → List Value → Action Value

namespace Session

/-- The name an error that leaves the outermost call is reported under. -/
def entryName (target : Value) : String :=
  match target with
  | .function f => f.name
  | _ => "<script>"

/-- The error as it leaves the outermost call when errors are to leave it as failures of the host;
it is wrapped once. -/
def rethrown (target : Value) : ScriptError → ScriptError
  | .hostInvocation method cause => .hostInvocation method cause
  | e => .hostInvocation (entryName target) (.error e)

/-- **An entry**: runs a call while one more entry is counted. -/
def enter (process : Value → List Value → Action Value) (target : Value) (args : List Value) :
    Action Value := do
  let s ← get
  match s.depth.enter? s.capacity with
  | none => Action.fail .stackOverflow
  | some entered =>
    set { s with depth := entered }
    let outcome ← (process target args).attempt
    modify fun s => { s with depth := s.depth.leave }
    match outcome with
    | .ok v => return v
    | .error e =>
      if s.depth.isIdle && (← get).settings.rethrowNested then Action.fail (rethrown target e)
      else Action.fail e

/-- Re-entry by way of a call that does not count as an entry. -/
def reentryOf (process : Value → List Value → Action Value) : Reentry where
  call := enter process
  process := process

/-- Calls the global function with a given name. -/
def callGlobal (re : Reentry) (name : String) (args : List Value) : Action Value := do
  let s ← get
  match (s.heap.table s.globals).get (.name name) with
  | .nil => Action.fail (.runtime ("attempt to call a nil value (global '" ++ name ++ "')"))
  | f => re.call f args

end Session

end ScriptHost
