import ScriptHost.Value.Coercion
import ScriptHost.Numeric.Conversion

/-!
# Errors

What can go wrong in a script or at its boundary to the host. Every error but the failure of a host
method can be caught by a protected call.

## Main definitions

* `ScriptError`, `HostCause`: the errors, and what a host method failed with.
* `ScriptError.message`: the text of an error.
* `ScriptError.toValue`: the value an error handler receives.
-/

namespace ScriptHost

mutual

/-- **Errors.** -/
inductive ScriptError where
  | badArgument (index : Nat) (function message : String)
  | overflow (source target value : String)
  | format (input target : String)
  | stackOverflow
  /-- A generic method was called without a type argument. -/
  | genericBinding (method : String)
  /-- A host method failed. -/
  | hostInvocation (method : String) (cause : HostCause)
  /-- A method cannot be shown to scripts. -/
  | invalidDescriptor (member reason : String)
  /-- A script raised a value. -/
  | raised (value : Value)
  | runtime (message : String)

/-- What a host method failed with. -/
inductive HostCause where
  | text (message : String)
  | error (e : ScriptError)

end

mutual

/-- **The text of an error.** -/
def ScriptError.message : ScriptError → String
  | .badArgument index function message =>
    "bad argument #" ++ Numeral.text index ++ " to '" ++ function ++ "' (" ++ message ++ ")"
  | .overflow source target value =>
    "value " ++ value ++ " of type " ++ source ++ " cannot be represented as " ++ target
  | .format input target => "'" ++ input ++ "' is not a valid " ++ target
  | .stackOverflow => "stack overflow"
  | .genericBinding method =>
    "tried to call generic method '" ++ method ++ "' without a generic argument"
  | .hostInvocation method cause => "host method '" ++ method ++ "' raised: " ++ cause.message
  | .invalidDescriptor member reason =>
    "member '" ++ member ++ "' cannot be exposed to scripts: " ++ reason
  | .raised value => value.print
  | .runtime message => message

/-- The text of a host failure. -/
def HostCause.message : HostCause → String
  | .text message => message
  | .error e => e.message

end

namespace ScriptError

/-- The code of an error. -/
def code : ScriptError → String
  | badArgument .. => "B001"
  | overflow .. => "N001"
  | format .. => "N002"
  | stackOverflow => "C001"
  | genericBinding _ => "G001"
  | hostInvocation .. => "H001"
  | invalidDescriptor .. => "D001"
  | raised _ => "R001"
  | runtime _ => "R002"

/-- Whether every protected call catches the error. -/
def recoverable : ScriptError → Bool
  | hostInvocation .. => false
  | _ => true

/-- **The value an error handler receives**: the raised value, or the text of the error. -/
def toValue : ScriptError → Value
  | raised v => v
  | e => .string e.message

/-- An argument is missing. -/
def valueExpected (index : Nat) (function : String) : ScriptError :=
  badArgument index function "value expected"

/-- An argument is of the wrong type. -/
def badType (index : Nat) (function expected : String) (got : Value) : ScriptError :=
  badArgument index function (expected ++ " expected, got " ++ got.typeName)

/-- The error of a number that cannot be had in a kind. -/
def ofNumeric : Numeric.Fault → ScriptError
  | .overflow source target value => overflow source target.name value
  | .malformed input target => format input target.name
  | .invalidBase base target =>
    badArgument 3 target.name ("invalid base " ++ base ++ ", expected 2, 8, 10 or 16")
  | .baseNotTaken base target =>
    badArgument 3 target.name
      ("base " ++ Numeral.text base ++ " given, but " ++ target.name ++ " takes no base")
  | .noHighWord target =>
    badArgument 3 target.name "only Int64 and UInt64 take a high word"

end ScriptError

end ScriptHost
