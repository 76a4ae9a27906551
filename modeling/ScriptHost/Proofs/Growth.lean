import ScriptHost.Proofs.Quiet

/-!
# Making values only adds to the heap

Boxed numbers, types and arrays need tables of their own. While a host value is made into a script
value the heap grows, and the tables that were there stay as they were: what is made first is not
disturbed by what is made after it.

## Main definitions

* `Heap.Extends`: a later heap, with all tables of an earlier one.
* `Session.GrowsTo`, `Update.Grows`: sessions and updates that only add to the heap.

## Main results

* `Heap.Extends.table`: a table is the same in a later heap.
* `Session.grows_toScript`: conversion to scripts only adds to the heap.
-/

namespace ScriptHost

/-! ## Later heaps -/

namespace Heap

/-- **A later heap** has all tables of an earlier one, as they were. -/
def Extends (heap later : Heap) : Prop := heap.tables.toList <+: later.tables.toList

variable {heap later : Heap}

theorem Extends.refl (heap : Heap) : heap.Extends heap := List.prefix_refl _

theorem Extends.trans {latest : Heap} (h : heap.Extends later) (h' : later.Extends latest) :
    heap.Extends latest := List.IsPrefix.trans h h'

theorem Extends.size_le (h : heap.Extends later) : heap.tables.size ≤ later.tables.size :=
  List.IsPrefix.length_le h

theorem Extends.table (h : heap.Extends later) {t : TableId} (ht : t.index < heap.tables.size) :
    later.table t = heap.table t := by
  have hlater : later.tables.toList[t.index]? = heap.tables.toList[t.index]? := by
    rw [List.prefix_iff_getElem?.mp h t.index ht, List.getElem?_eq_getElem ht]
  simp only [Heap.table, Array.getD_eq_getD_getElem?, ← Array.getElem?_toList, hlater]

theorem extends_newTable (heap : Heap) (content : Table) :
    heap.Extends (heap.newTable content).2 := by
  simp only [Extends, newTable, Array.toList_push]
  exact List.prefix_append _ _

theorem table_newTable (heap : Heap) (content : Table) :
    (heap.newTable content).2.table (heap.newTable content).1 = content := by
  simp [Heap.table, newTable]

end Heap

/-- A later session: its heap has grown, and the custom conversions are the same. -/
structure Session.GrowsTo (s t : Session) : Prop where
  heap : s.heap.Extends t.heap
  converters : t.converters = s.converters

theorem Session.GrowsTo.trans {s t u : Session} (h : s.GrowsTo t) (h' : t.GrowsTo u) :
    s.GrowsTo u :=
  ⟨h.heap.trans h'.heap, h'.converters.trans h.converters⟩

namespace Update

variable {α β : Type}

/-- Growing updates only add to the heap, and keep the custom conversions. -/
def Grows (u : Update α) : Prop := ∀ s : Session, s.GrowsTo (u.run s).2

theorem Grows.pure (x : α) : Grows (pure x : Update α) := fun s => ⟨.refl s.heap, rfl⟩

theorem Grows.bind {u : Update α} {f : α → Update β} (hu : Grows u) (hf : ∀ x, Grows (f x)) :
    Grows (u >>= f) :=
  fun s => (hu s).trans (hf (u.run s).1 (u.run s).2)

theorem Grows.get {f : Session → Update β} (hf : ∀ s, Grows (f s)) : Grows (get >>= f) :=
  fun s => hf s s

theorem Grows.mapM {f : α → Update β} (hf : ∀ x, Grows (f x)) (xs : List α) :
    Grows (xs.mapM f) := by
  induction xs with
  | nil => exact Grows.pure []
  | cons x xs ih =>
    rw [List.mapM_cons]
    exact (hf x).bind fun _ => ih.bind fun _ => Grows.pure _

end Update

/-! ## Conversion to scripts -/

namespace Session

open Update (Grows)

theorem grows_newTable (content : Table) : Grows (newTable content) :=
  fun s => ⟨s.heap.extends_newTable content, rfl⟩

theorem grows_newStamp : Grows (onHeap Heap.newStamp) := fun s => ⟨.refl s.heap, rfl⟩

theorem grows_newFunction (name : String) (code : Code) : Grows (newFunction name code) :=
  grows_newStamp.bind fun _ => Grows.pure _

theorem grows_newObject (payload : Payload) : Grows (newObject payload) :=
  grows_newStamp.bind fun _ => Grows.pure _

theorem grows_numberTable (kind : NumericKind) : Grows (numberTable kind) := by
  have hcomparison (c : Comparison) : Grows (numberTable.comparison kind c) :=
    (grows_newFunction _ _).bind fun _ => Grows.pure _
  refine Grows.get fun s => ?_
  split
  · exact Grows.pure _
  · refine (hcomparison .equal).bind fun equal => ?_
    refine (hcomparison .less).bind fun less => ?_
    refine (hcomparison .lessEqual).bind fun lessEqual => ?_
    refine (grows_newTable _).bind fun t => ?_
    refine Grows.bind (fun s => ?_) fun _ => Grows.pure t
    exact ⟨.refl s.heap, rfl⟩

theorem grows_box (p : Primitive) : Grows (box p) :=
  (grows_numberTable _).bind fun _ => (grows_newObject _).bind fun _ => Grows.pure _

theorem grows_ofObject (o : Object) : Grows (ofObject o) := by
  unfold ofObject
  split
  · exact grows_box _
  · exact Grows.pure _

theorem grows_staticType (t : HostType) : Grows (staticType t) :=
  (grows_newFunction _ _).bind fun _ => (grows_newTable _).bind fun _ =>
    (grows_newObject _).bind fun _ => Grows.pure _

theorem grows_applyConverter (h : HostValue) (c : ToScriptConverter) : Grows (c.apply h) := by
  fun_cases ToScriptConverter.apply h c <;>
    first | exact Grows.pure _ | exact grows_box _ | exact Grows.get fun _ => Grows.pure _

theorem grows_shape (dims : List Nat) (vs : List Value) : Grows (shape dims vs) := by
  induction dims generalizing vs with
  | nil => exact (grows_newTable _).bind fun _ => Grows.pure _
  | cons count dims ih =>
    cases dims with
    | nil => exact (grows_newTable _).bind fun _ => Grows.pure _
    | cons d dims =>
      simp only [shape]
      refine (Grows.mapM (fun row => ih row) _).bind fun inner => ?_
      exact (grows_newTable _).bind fun _ => Grows.pure _

theorem grows_customOr (h : HostValue) {standard : Update Value} (hstandard : Grows standard) :
    Grows (do
      match h.hostType?.bind (← get).converters.lookupToScript with
      | some c => c.apply h
      | none => standard) := by
  refine Grows.get fun s => ?_
  split
  · exact grows_applyConverter _ _
  · exact hstandard

mutual

/-- Conversion to scripts only adds to the heap. -/
theorem grows_toScript : (h : HostValue) → Grows (toScript h)
  | .array ⟨element, dims, items⟩ => by
    rw [toScript]
    exact grows_customOr _ ((grows_toScriptAll items).bind fun vs => grows_shape dims vs)
  | .void => by
    rw [toScript]
    exact grows_customOr .void (Grows.pure _)
  | .null => by
    rw [toScript]
    exact grows_customOr .null (Grows.pure _)
  | .bool _ | .number _ | .text _ | .dynamic _ | .arguments _ | .script | .context => by
    rw [toScript]
    exact grows_customOr _ (Grows.pure _)
  | .primitive p => by
    rw [toScript]
    exact grows_customOr _ (grows_box p)
  | .object o => by
    rw [toScript]
    exact grows_customOr _ (grows_ofObject o)
  | .type t => by
    rw [toScript]
    exact grows_customOr _ (grows_staticType t)

theorem grows_toScriptAll : (hs : List HostValue) → Grows (toScriptAll hs)
  | [] => by
    rw [toScriptAll]
    exact Grows.pure []
  | h :: hs => by
    rw [toScriptAll]
    exact (grows_toScript h).bind fun _ => (grows_toScriptAll hs).bind fun _ => Grows.pure _

end

end Session

end ScriptHost
