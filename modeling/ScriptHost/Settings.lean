import ScriptHost.Spelling
import ScriptHost.Error

/-!
# Settings

What a host can choose for its scripts: which failures of host methods a protected call may catch,
whether errors leave the outermost call wrapped, how binding plans are kept, and which spellings of
member names are tried.

## Main definitions

* `CatchRule`: which failures of host methods can be caught, an arbitrary condition on errors.
* `AccessMode`: when a binding plan is made and kept.
* `Settings`: all choices.
-/

namespace ScriptHost

/-- Which failures of host methods a protected call catches. -/
structure CatchRule where
  /-- **Whether an error is caught** by the rule. -/
  catches : ScriptError → Bool

/-- Whether one text stands somewhere in another. -/
def occursIn (needle : List Char) : List Char → Bool
  | [] => needle.isEmpty
  | c :: rest => needle.isPrefixOf (c :: rest) || occursIn needle rest

namespace CatchRule

/-- The same answer for every failure. -/
def constant (answer : Bool) : CatchRule := ⟨fun _ => answer⟩

/-- No failure is caught. -/
def never : CatchRule := constant false

/-- The failures with a given text in their message are caught. -/
def containing (text : String) : CatchRule := ⟨fun e => occursIn text.toList e.message.toList⟩

end CatchRule

/-- When the binding plan of a method is made and kept. -/
inductive AccessMode where
  /-- As the settings say. -/
  | default
  /-- Made anew for every call. -/
  | reflection
  /-- Made by the first call and kept. -/
  | lazyOptimized
  /-- Made with the method. -/
  | preoptimized
  /-- Not allowed for a method. -/
  | hideMembers
deriving DecidableEq, Repr

/-- The name of an access mode. -/
def AccessMode.name : AccessMode → String
  | default => "Default"
  | reflection => "Reflection"
  | lazyOptimized => "LazyOptimized"
  | preoptimized => "Preoptimized"
  | hideMembers => "HideMembers"

/-- The access modes in their order. -/
def AccessMode.all : List AccessMode :=
  [.default, .reflection, .lazyOptimized, .preoptimized, .hideMembers]

/-- The access mode with a given name. -/
def AccessMode.ofName? (name : String) : Option AccessMode := all.find? (·.name == name)

/-- **The choices of the host.** -/
structure Settings where
  catchRule : CatchRule
  /-- Whether an error leaves the outermost call as a failure of the host. -/
  rethrowNested : Bool
  /-- The mode of methods that name none, as it was set. -/
  accessMode : AccessMode
  spelling : Spelling

namespace Settings

/-- The choices a host starts with. -/
def initial : Settings := ⟨.never, false, .lazyOptimized, .all⟩

/-- The mode in force for methods that name none. -/
def defaultMode (s : Settings) : AccessMode :=
  match s.accessMode with
  | .default | .hideMembers => .lazyOptimized
  | m => m

/-- The settings with another mode for methods that name none. -/
def setAccessMode (s : Settings) (m : AccessMode) : Except ScriptError Settings :=
  if m = .default then
    .error (.badArgument 1 "set_default_access_mode" "Default is not a concrete access mode")
  else .ok { s with accessMode := m }

/-- Whether a protected call catches an error. -/
def catches (s : Settings) (e : ScriptError) : Bool := e.recoverable || s.catchRule.catches e

end Settings

end ScriptHost
