import ScriptHost.Session.Basic
import ScriptHost.Text.Visible

/-!
# Diagnostic texts

Texts about sessions, types, objects and methods for whoever debugs a host. Structures are written
with their fields in braces, and what is not shown is told by two dots.

## Main definitions

* `Diagnostic.record`: the text of a structure.
* `Diagnostic.session`, `Diagnostic.object`, `Diagnostic.value?`, `Diagnostic.method`: the texts.
-/

namespace ScriptHost

namespace Diagnostic

/-- A structure with its fields; `more` says that fields are left out. -/
def record (name : String) (fields : List (String × String)) (more : Bool) : String :=
  let shown := fields.map fun (field, text) => field ++ ": " ++ text
  name ++ " \x7b " ++ String.intercalate ", " (shown ++ if more then [".."] else []) ++ " \x7d"

/-- A list of texts. -/
def list (texts : List String) : String := "[" ++ String.intercalate ", " texts ++ "]"

/-- A truth value. -/
def bool (b : Bool) : String := if b then "true" else "false"

/-- A character between quotation marks; one without a form of its own is written by its code. -/
def escape (c : Char) : List Char :=
  if c = '"' then ['\\', '"']
  else if c = '\\' then ['\\', '\\']
  else if c = '\n' then ['\\', 'n']
  else if c = '\r' then ['\\', 'r']
  else if c = '\t' then ['\\', 't']
  else if c = '\x00' then ['\\', '0']
  else if Text.isVisible c then [c]
  else "\\u\x7b".toList ++ (Numeral.write 16 c.toNat).map Char.toLower ++ ['\x7d']

/-- A text between quotation marks. -/
def quoted (s : String) : String := String.ofList ('"' :: s.toList.flatMap escape ++ ['"'])

/-- Digits with an exponent, or with a point and at least one place. -/
def digitsText (digits : Nat) (e : Int) : String :=
  let ds := Numeral.write 10 digits
  let leading : Int := ds.length + e
  if -4 < leading ∧ leading ≤ 16 then
    let cs := Numeral.positional digits e
    String.ofList (if 0 ≤ e then cs ++ ['.', '0'] else cs)
  else
    let fraction := if ds.length ≤ 1 then [] else '.' :: ds.drop 1
    String.ofList (ds.take 1 ++ fraction) ++ "e" ++ Numeral.text (leading - 1)

/-- A number of a binary format, with an exponent if it is large or small. -/
def binary (f : Binary.Format) (bits : Nat) : String :=
  let sign (negative : Bool) (s : String) := if negative then "-" ++ s else s
  match f.parts bits with
  | .nan => "NaN"
  | .infinite negative => sign negative "inf"
  | .finite negative 0 _ => sign negative "0.0"
  | .finite negative m q =>
    let (digits, e) := f.shortest m q
    sign negative (digitsText digits e)

/-- A double. -/
def double (x : Float) : String := binary .double x.toBits.toNat

/-- A primitive of a host kind. -/
def primitive (p : Primitive) : String :=
  let content :=
    match p with
    | .single x => binary .single x.toBits.toNat
    | _ => p.text
  p.kind.name ++ "(" ++ content ++ ")"

/-- A parameter type. -/
def paramType : ParamType → String
  | .bool => "Bool"
  | .number => "Number"
  | .string => "String"
  | .primitive kind => "Primitive(" ++ kind.name ++ ")"
  | .object t => "Object(" ++ t.name ++ ")"
  | .any => "Any"
  | .dynamic => "Dyn"
  | .table => "Table"
  | .function => "Function"
  | .typeToken => "TypeToken"
  | .nullable t => "Nullable(" ++ paramType t ++ ")"
  | .array t => "Array(" ++ paramType t ++ ")"
  | .generic i => "Generic(" ++ Numeral.text i ++ ")"
  | .script => "Script"
  | .context => "Context"
  | .arguments => "Arguments"
  | .pointer => "Pointer"

/-- A host object. -/
def object (o : Object) : String := "HostObject<" ++ o.hostType.name ++ ">"

/-- A function. -/
def function (f : Function) : String :=
  record "CallbackFunction" [("name", quoted f.name)] true

/-- A host object in a script. -/
def userdata (u : UserData) : String :=
  record "UserData"
    [("object", object u.object), ("has_metatable", bool u.metatable.isSome)] false

/-- A function or an object in a script. -/
def value? : Value → Option String
  | .userdata u => some (userdata u)
  | .function f => some (function f)
  | _ => none

/-- A session. -/
def session (s : Session) : String :=
  let options :=
    record "ScriptOptions" [("call_stack_capacity", Numeral.text s.capacity)] false
  record "Script" [("options", options)] true

/-- The context a callback runs in. -/
def context : String := "ExecutionContext"

mutual

/-- A script value. -/
def value : Value → String
  | .nil => "Nil"
  | .bool b => "Boolean(" ++ bool b ++ ")"
  | .number x => "Number(" ++ double x ++ ")"
  | .string s => "String(" ++ quoted s ++ ")"
  | .table _ => "Table"
  | .function f => "Function(" ++ function f ++ ")"
  | .userdata u => "UserData(" ++ userdata u ++ ")"
  | .tuple items => "Tuple(" ++ list (values items) ++ ")"
  | .request _ => "TailCallRequest"

/-- Several script values. -/
def values : List Value → List String
  | [] => []
  | v :: vs => value v :: values vs

/-- A host value. -/
def hostValue (s : Session) : HostValue → String
  | .void => "Void"
  | .null => "Null"
  | .bool b => "Bool(" ++ bool b ++ ")"
  | .number x => "Number(" ++ double x ++ ")"
  | .primitive p => "Primitive(" ++ primitive p ++ ")"
  | .text t => "Str(" ++ quoted t ++ ")"
  | .object o => "Object(" ++ object o ++ ")"
  | .array ⟨element, dims, items⟩ =>
    "Array(" ++
      record "HostArray"
        [("element", paramType element), ("dims", list (dims.map fun (d : Nat) => Numeral.text d)),
          ("items", list (hostValues s items))] false ++ ")"
  | .type t => "Type(" ++ t.name ++ ")"
  | .dynamic v => "Dyn(" ++ value v ++ ")"
  | .script => "Script(" ++ session s ++ ")"
  | .context => "Context(" ++ context ++ ")"
  | .arguments ⟨vs, isMethodCall⟩ =>
    "Args(" ++
      record "CallbackArguments"
        [("args", list (values vs)), ("is_method_call", bool isMethodCall)] false ++ ")"

/-- Several host values. -/
def hostValues (s : Session) : List HostValue → List String
  | [] => []
  | h :: hs => hostValue s h :: hostValues s hs

end

/-- A parameter of a method. -/
def parameter (s : Session) (p : Parameter) : String :=
  let default :=
    match p.default with
    | none => "None"
    | some h => "Some(" ++ hostValue s h ++ ")"
  record "Parameter"
    [("name", quoted p.name), ("ty", paramType p.type), ("is_out", bool p.isOut),
      ("is_by_ref", bool p.byRef), ("default", default), ("is_variadic", bool p.variadic)] false

/-- **A method.** -/
def method (s : Session) (m : Method) : String :=
  record "MethodDescriptor"
    [("name", quoted m.name), ("kind", m.kind.name), ("is_static", bool m.isStatic),
      ("generic_count", Numeral.text m.genericCount),
      ("parameters", list (m.parameters.map (parameter s))),
      ("access_mode", m.mode.name)] true

end Diagnostic

end ScriptHost
