import ScriptHost.Table

/-!
# The heap

Tables and counters are shared and change; they live in the heap and are held by reference. The heap
also hands out the stamps that tell functions, objects and requests apart.

## Main definitions

* `Heap`: the type.
* `Heap.newTable`, `Heap.table`, `Heap.setTable`: tables.
* `Heap.newCounter`, `Heap.counter`, `Heap.addCounter`: counters.
* `Heap.metamethod?`: a function in the metatable of a value.
-/

namespace ScriptHost

/-- **The heap.** -/
structure Heap where
  tables : Array Table
  counters : Array Int64
  /-- The next stamp. -/
  nextStamp : Nat

namespace Heap

/-- The heap with nothing in it. -/
def empty : Heap := ⟨#[], #[], 0⟩

/-- The table a reference stands for. -/
def table (h : Heap) (t : TableId) : Table := h.tables.getD t.index .empty

/-- The heap with other content in a table. -/
def setTable (h : Heap) (t : TableId) (content : Table) : Heap :=
  { h with tables := h.tables.setIfInBounds t.index content }

/-- A new table. -/
def newTable (h : Heap) (content : Table) : TableId × Heap :=
  (⟨h.tables.size⟩, { h with tables := h.tables.push content })

/-- The state of a counter. -/
def counter (h : Heap) (c : CounterId) : Int64 := h.counters.getD c.index 0

/-- A new counter. -/
def newCounter (h : Heap) (start : Int64) : CounterId × Heap :=
  (⟨h.counters.size⟩, { h with counters := h.counters.push start })

/-- The heap with a counter moved on; counters wrap around. -/
def addCounter (h : Heap) (c : CounterId) (n : Int64) : Heap :=
  { h with counters := h.counters.modify c.index (· + n) }

/-- A new stamp. -/
def newStamp (h : Heap) : Nat × Heap := (h.nextStamp, { h with nextStamp := h.nextStamp + 1 })

/-- The metatable of a value. -/
def metatable? (h : Heap) : Value → Option TableId
  | .table t => (h.table t).metatable
  | .userdata u => u.metatable
  | _ => none

/-- **The metamethod** of a value for an event. -/
def metamethod? (h : Heap) (v : Value) (event : String) : Option Value :=
  (h.metatable? v).bind fun m =>
    let found := (h.table m).get (.name event)
    if found.isNil then none else some found

end Heap

end ScriptHost
