import ScriptHost.Heap

/-!
# Views

What an observer is shown of a value at one moment: a tree without references, cut off below a fixed
depth, so that cyclic tables are shown too. Views are taken when something is logged or answered and
do not change afterwards.

## Main definitions

* `View`, `ObjectView`, `HostView`: the trees.
* `Heap.view`, `Heap.viewObject`, `Heap.viewHost`: taking a view.
-/

namespace ScriptHost

mutual

/-- What is shown of a script value. -/
inductive View where
  | nil
  | bool (b : Bool)
  | number (x : Float)
  | string (s : String)
  | table (items : List View) (border : Nat) (isEmpty hasMetatable : Bool)
  | function (name : String)
  | userdata (o : ObjectView) (hasMetatable : Bool)
  | tuple (items : List View)
  | request (target : View) (args : List View) (continuation handler : Option String)
  /-- Something too deep to be shown. -/
  | elided

/-- What is shown of a host object. -/
inductive ObjectView where
  | counter (state : Int)
  | account (balance : Float)
  | accountView (balance : Float)
  /-- An object of which nothing is shown. -/
  | blank
  | text (s : String)
  | int32 (i : Int)
  | array (element : ParamType) (dims : List Nat) (items : List HostView)
  | primitive (p : Primitive)
  | staticType (t : HostType)

/-- What is shown of a host value. -/
inductive HostView where
  | void
  | null
  | bool (b : Bool)
  | number (x : Float)
  | primitive (p : Primitive)
  | text (s : String)
  | object (o : ObjectView)
  | array (element : ParamType) (dims : List Nat) (items : List HostView)
  | type (t : HostType)
  | dynamic (v : View)
  | script
  | context
  | arguments (values : List View) (isMethodCall : Bool)

end

namespace View

/-- The depth up to which values are shown. -/
def maxDepth : Nat := 6

end View

namespace Heap

mutual

/-- The view of a value that stands at a depth; `fuel` bounds the nesting of objects in values. -/
def viewAt (h : Heap) : Nat → Nat → Value → View
  | 0, _, _ => .elided
  | fuel + 1, depth, v =>
    if View.maxDepth < depth then .elided
    else
      match v with
      | .nil => .nil
      | .bool b => .bool b
      | .number x => .number x
      | .string s => .string s
      | .table t =>
        let content := h.table t
        .table (content.arrayValues.map fun x => h.viewAt fuel (depth + 1) x) content.border
          content.isEmpty content.metatable.isSome
      | .function f => .function f.name
      | .userdata u => .userdata (h.viewObjectAt fuel u.object) u.metatable.isSome
      | .tuple items => .tuple (items.map fun x => h.viewAt fuel (depth + 1) x)
      | .request r =>
        .request (h.viewAt fuel (depth + 1) r.target)
          (r.args.map fun x => h.viewAt fuel (depth + 1) x)
          (r.continuation.map (·.name)) (r.handler.map (·.name))

/-- The view of an object. -/
def viewObjectAt (h : Heap) : Nat → Object → ObjectView
  | 0, _ => .blank
  | fuel + 1, o =>
    match o.payload with
    | .counter c => .counter (h.counter c).toInt
    | .account balance => .account balance
    | .accountView balance => .accountView balance
    | .blank | .sealed _ _ => .blank
    | .text s => .text s
    | .int32 i => .int32 i
    | .array a => .array a.element a.dims (a.items.map fun x => h.viewHostAt fuel x)
    | .primitive p => .primitive p
    | .staticType t => .staticType t

/-- The view of a host value. -/
def viewHostAt (h : Heap) : Nat → HostValue → HostView
  | 0, _ => .null
  | fuel + 1, v =>
    match v with
    | .void => .void
    | .null => .null
    | .bool b => .bool b
    | .number x => .number x
    | .primitive p => .primitive p
    | .text s => .text s
    | .object o => .object (h.viewObjectAt fuel o)
    | .array a => .array a.element a.dims (a.items.map fun x => h.viewHostAt fuel x)
    | .type t => .type t
    | .dynamic v => .dynamic (h.viewAt fuel 0 v)
    | .script => .script
    | .context => .context
    | .arguments a => .arguments (a.values.map fun x => h.viewAt fuel 0 x) a.isMethodCall

end

/-- A bound on the nesting of what is shown, far above the depth up to which values are. -/
def viewFuel : Nat := 1000

/-- **The view of a value.** -/
def view (h : Heap) (v : Value) : View := h.viewAt viewFuel 0 v

/-- The view of an object. -/
def viewObject (h : Heap) (o : Object) : ObjectView := h.viewObjectAt viewFuel o

/-- The view of a host value. -/
def viewHost (h : Heap) (v : HostValue) : HostView := h.viewHostAt viewFuel v

end Heap

end ScriptHost
