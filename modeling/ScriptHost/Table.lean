import Std.Data.TreeMap
import ScriptHost.Value.Basic

/-!
# Tables

A table maps integer and string keys to values other than nil, and may have a metatable. Assigning
nil removes a key. The border of a table is the number of values at the keys 1, 2, … before the
first that is missing.

## Main definitions

* `Table`: the type.
* `Table.get`, `Table.set`: access by key.
* `Table.border`, `Table.arrayValues`: the sequence at the front of a table.
-/

namespace ScriptHost

/-- **Tables**: finite maps from keys to values. -/
structure Table where
  /-- The values at integer keys. -/
  indexed : Std.TreeMap Int Value
  /-- The values at string keys. -/
  named : Std.TreeMap String Value
  metatable : Option TableId

namespace Table

/-- The table without entries. -/
def empty : Table := ⟨∅, ∅, none⟩

instance : Inhabited Table := ⟨empty⟩

/-- The value at a key, nil if there is none. -/
def get (t : Table) : Key → Value
  | .index i => t.indexed.getD i .nil
  | .name s => t.named.getD s .nil

/-- **Assignment** to a key; nil removes it. -/
def set (t : Table) (key : Key) (v : Value) : Table :=
  match key with
  | .index i =>
    if v.isNil then { t with indexed := t.indexed.erase i }
    else { t with indexed := t.indexed.insert i v }
  | .name s =>
    if v.isNil then { t with named := t.named.erase s }
    else { t with named := t.named.insert s v }

/-- Whether the table has no entries. -/
def isEmpty (t : Table) : Bool := t.indexed.isEmpty && t.named.isEmpty

/-- How many of the next `fuel` keys after `n` are present without a gap. -/
def borderFrom (t : Table) : Nat → Nat → Nat
  | 0, n => n
  | fuel + 1, n => if t.indexed.contains (n + 1 : Int) then borderFrom t fuel (n + 1) else n

/-- **The border**: the number of keys 1, 2, … before the first that is missing. It is at most the
number of integer keys. -/
def border (t : Table) : Nat := t.borderFrom t.indexed.size 0

/-- The values at the keys up to the border. -/
def arrayValues (t : Table) : List Value :=
  (List.range t.border).map fun (i : Nat) => t.get (.index ((i : Int) + 1))

/-- A table with values at the keys from `n + 1` on, besides its entries. -/
def fill (t : Table) : Nat → List Value → Table
  | _, [] => t
  | n, v :: vs => (t.set (.index (n + 1)) v).fill (n + 1) vs

/-- The table with the given values at the keys 1, 2, … -/
def ofList (vs : List Value) : Table := empty.fill 0 vs

end Table

end ScriptHost
