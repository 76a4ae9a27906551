import ScriptHost.Error
import ScriptHost.Keyed

/-!
# Custom conversions

A host can declare its own conversions: from script values of one kind to a host type, under a guard
if it likes, and from values of a host type to script values. What has no conversion, or one whose
guard refuses or which gives no answer, is converted by the standard rules.

## Main definitions

* `ToHostConverter`, `Guard`: conversions to the host and their guards.
* `ToScriptConverter`: conversions to scripts.
* `Converters`: the registry of both.
* `Converters.setToHost`, `Converters.lookupToHost`: registration and look-up.
-/

namespace ScriptHost

/-- A conversion of script values to host values, which may give no answer. -/
structure ToHostConverter where
  apply : Value → Option HostValue

namespace ToHostConverter

/-- The same answer for all values. -/
def constant (h : HostValue) : ToHostConverter := ⟨fun _ => some h⟩

/-- Never answers. -/
def silent : ToHostConverter := ⟨fun _ => none⟩

/-- The printed value after a text. -/
def printed (lead : String) : ToHostConverter := ⟨fun v => some (.text (lead ++ v.print))⟩

/-- The value as a number, multiplied. -/
def scaled (factor : Float) : ToHostConverter :=
  ⟨fun v => v.toNumber?.map fun x => .number (x * factor)⟩

/-- The value itself. -/
def asIs : ToHostConverter := ⟨fun v => some (.dynamic v)⟩

end ToHostConverter

/-- A condition on script values: whether it lets a value pass. -/
structure Guard where
  admits : Value → Bool

namespace Guard

/-- The same answer for all values. -/
def constant (answer : Bool) : Guard := ⟨fun _ => answer⟩

/-- The value as a number is greater than a bound. -/
def greater (bound : Float) : Guard where
  admits v :=
    match v.toNumber? with
    | some x => bound < x
    | none => false

/-- The value counts as true. -/
def truthy : Guard := ⟨Value.truthy⟩

end Guard

/-- A conversion of host values to script values. -/
inductive ToScriptConverter where
  | constant (v : Value)
  /-- The name of the form of the host value. -/
  | formName
  /-- The number, with one half added. -/
  | addHalf
  /-- The conversion for objects of one type: counters are doubled, texts put between angle
  brackets, integers increased by one. -/
  | typed (t : HostType)

/-- A conversion to the host with its guard. -/
structure GuardedConverter where
  converter : ToHostConverter
  guard : Option Guard

/-- **The registry of custom conversions.** -/
structure Converters where
  toHost : Keyed (Kind × HostType) GuardedConverter
  toScript : Keyed HostType ToScriptConverter

namespace Converters

/-- The registry without conversions. -/
def empty : Converters := ⟨.empty, .empty⟩

/-- **Registration** of a conversion to the host; without a conversion, its removal. -/
def setToHost (c : Converters) (kind : Kind) (t : HostType) (converter : Option ToHostConverter)
    (guard : Option Guard) : Except ScriptError Converters :=
  if !kind.isConvertible then
    .error (.badArgument 1 "set_script_to_host" (kind.name ++ " values cannot be converted"))
  else
    match converter, guard with
    | some converter, guard => .ok { c with toHost := c.toHost.insert (kind, t) ⟨converter, guard⟩ }
    | none, some _ =>
      .error (.badArgument 4 "set_script_to_host" "conversion predicate given without a converter")
    | none, none => .ok { c with toHost := c.toHost.erase (kind, t) }

/-- **Look-up** of the conversion of a value to a host type, if its guard admits the value. -/
def lookupToHost (c : Converters) (v : Value) (t : HostType) : Option ToHostConverter :=
  match c.toHost.get? (v.kind, t) with
  | none => none
  | some entry =>
    match entry.guard with
    | none => some entry.converter
    | some g => if g.admits v then some entry.converter else none

/-- Registration of a conversion to scripts; without a conversion, its removal. -/
def setToScript (c : Converters) (t : HostType) : Option ToScriptConverter → Converters
  | some converter => { c with toScript := c.toScript.insert t converter }
  | none => { c with toScript := c.toScript.erase t }

/-- Look-up of the conversion from a host type. -/
def lookupToScript (c : Converters) (t : HostType) : Option ToScriptConverter := c.toScript.get? t

/-- Whether no conversion is registered. -/
def isEmpty (c : Converters) : Bool := c.toHost.isEmpty && c.toScript.isEmpty

end Converters

end ScriptHost
