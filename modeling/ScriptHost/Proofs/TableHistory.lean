import Mathlib.Data.List.TakeWhile
import Mathlib.Data.List.Induction
import Mathlib.Order.Bounds.Defs
import ScriptHost.Proofs.Border

/-!
# Tables after any assignments

A table starts without entries or with given values, and is changed by assignments to its keys. What
it holds then depends on the last assignment to each key alone. Assigning nil takes an entry away,
also one in the middle of the sequence at the front, which then ends there.

## Main definitions

* `Table.setAll`: a sequence of assignments.
* `Table.lastSet?`: the value last assigned to a key.

## Main results

* `Table.get_setAll`: a key has the value last assigned to it.
* `Table.Proper.isEmpty_iff`: a table is empty if all its keys read nil.
* `Table.Proper.isGreatest_border`: the border is the length of the longest sequence without nil.
* `Table.finite_map_with_border`: all of this, after any assignments.
-/

namespace ScriptHost

namespace Table

variable {t : Table}

/-! ## Sequences of assignments -/

/-- **A sequence of assignments**, from the first to the last. -/
def setAll (t : Table) (history : List (Key × Value)) : Table :=
  history.foldl (fun t entry => t.set entry.1 entry.2) t

/-- The value last assigned to a key, if one was. -/
def lastSet? (history : List (Key × Value)) (key : Key) : Option Value :=
  (history.reverse.find? (·.1 = key)).map (·.2)

@[simp] theorem setAll_nil (t : Table) : t.setAll [] = t := rfl

theorem setAll_concat (t : Table) (history : List (Key × Value)) (key : Key) (v : Value) :
    t.setAll (history ++ [(key, v)]) = (t.setAll history).set key v := by
  rw [setAll, List.foldl_concat, setAll]

theorem lastSet?_concat (history : List (Key × Value)) (key : Key) (v : Value) (key' : Key) :
    lastSet? (history ++ [(key, v)]) key' =
      if key = key' then some v else lastSet? history key' := by
  unfold lastSet?
  rw [List.reverse_concat, List.find?_cons]
  by_cases h : key = key' <;> simp [h]

/-- A key has the value last assigned to it, or the one it had before. -/
theorem get_setAll (t : Table) (history : List (Key × Value)) (key : Key) :
    (t.setAll history).get key = (lastSet? history key).getD (t.get key) := by
  -- From the end: either the last assignment is to the key, or it leaves the key as it was.
  induction history using List.reverseRecOn with
  | nil => rfl
  | append_singleton history entry ih =>
    obtain ⟨key', v⟩ := entry
    rw [setAll_concat, get_set, lastSet?_concat]
    split
    · rfl
    · exact ih

theorem Proper.setAll (h : t.Proper) (history : List (Key × Value)) :
    (t.setAll history).Proper := by
  induction history using List.reverseRecOn with
  | nil => exact h
  | append_singleton history entry ih =>
    rw [setAll_concat]
    exact ih.set _ _

/-! ## Entries -/

theorem ne_nil_of_getElem?_eq_some {κ : Type} [Ord κ] [Std.TransOrd κ] {m : Std.TreeMap κ Value}
    (hm : ∀ k, m.contains k = !(m.getD k .nil).isNil) {k : κ} {v : Value} (hv : m[k]? = some v) :
    v ≠ .nil := by
  rintro rfl
  have hk := hm k
  rw [Std.TreeMap.contains_eq_isSome_getElem?, Std.TreeMap.getD_eq_getD_getElem?, hv] at hk
  cases hk

theorem Proper.ne_nil_of_indexed (h : t.Proper) {i : Int} {v : Value}
    (hv : t.indexed[i]? = some v) : v ≠ .nil :=
  ne_nil_of_getElem?_eq_some h.indexed hv

theorem Proper.ne_nil_of_named (h : t.Proper) {r : String} {v : Value}
    (hv : t.named[r]? = some v) : v ≠ .nil :=
  ne_nil_of_getElem?_eq_some h.named hv

/-- A table is empty if all its keys read nil. -/
theorem Proper.isEmpty_iff (h : t.Proper) : t.isEmpty = true ↔ ∀ key, t.get key = .nil := by
  rw [isEmpty, Bool.and_eq_true, Std.TreeMap.isEmpty_iff_forall_contains,
    Std.TreeMap.isEmpty_iff_forall_contains]
  simp only [h.indexed, h.named, Bool.not_eq_false', Value.isNil_iff]
  constructor
  · rintro ⟨hindexed, hnamed⟩ (i | r)
    · exact hindexed i
    · exact hnamed r
  · intro hnil
    exact ⟨fun i => hnil (.index i), fun r => hnil (.name r)⟩

/-! ## The sequence at the front -/

theorem Proper.contains_iff (h : t.Proper) (i : Int) :
    t.indexed.contains i = true ↔ t.get (.index i) ≠ .nil := by
  rw [h.indexed, Bool.not_eq_true', ← Bool.not_eq_true, Value.isNil_iff]

/-- The border is the length of the longest sequence from the key 1 on without nil. -/
theorem Proper.isGreatest_border (h : t.Proper) :
    IsGreatest {n : Nat | ∀ i : Nat, 1 ≤ i → i ≤ n → t.get (.index i) ≠ .nil} t.border := by
  obtain ⟨hpresent, hmissing⟩ := border_eq_iff.mp (Eq.refl t.border)
  constructor
  · intro i hone hle
    have hi : ((i - 1 : Nat) : Int) + 1 = i := by omega
    rw [← h.contains_iff, ← hi]
    exact hpresent (i - 1) (by omega)
  · intro n hn
    by_contra hlt
    have hnext := hn (t.border + 1) (by omega) (by omega)
    rw [← h.contains_iff, Int.natCast_add, Int.natCast_one, hmissing] at hnext
    cases hnext

theorem borderFrom_eq_border {fuel : Nat} (h : t.indexed.size ≤ fuel) :
    t.borderFrom fuel 0 = t.border :=
  (border_eq_iff.mpr (borderFrom_of_size_le h)).symm

/-! ## Tables made of values -/

theorem get_fill_name (t : Table) (n : Nat) (vs : List Value) (r : String) :
    (t.fill n vs).get (.name r) = t.get (.name r) := by
  induction vs generalizing t n with
  | nil => rfl
  | cons v vs ih =>
    rw [fill, ih, get_set, if_neg]
    exact Key.noConfusion

theorem get_ofList_of_nonpos (vs : List Value) {i : Int} (hi : i ≤ 0) :
    (ofList vs).get (.index i) = .nil := by
  rw [ofList, get_fill_of_le hi, get_empty]

theorem get_ofList_name (vs : List Value) (r : String) : (ofList vs).get (.name r) = .nil := by
  rw [ofList, get_fill_name, get_empty]

/-- A table made of values has at its front the longest sequence of them without nil. -/
theorem arrayValues_ofList_eq_takeWhile (vs : List Value) :
    (ofList vs).arrayValues = vs.takeWhile (!·.isNil) := by
  have hfront : ∀ v ∈ vs.takeWhile (!·.isNil), v.isNil = false := by
    intro v hv
    simpa using List.mem_takeWhile_imp hv
  have hrest (v : Value) (hv : (vs.dropWhile (!·.isNil)).head? = some v) : v.isNil = true := by
    have hhead := List.head?_dropWhile_not (!·.isNil) vs
    rw [hv] at hhead
    simpa using hhead
  have hsplit := arrayValues_ofList_append hfront hrest
  rwa [List.takeWhile_append_dropWhile] at hsplit

/-! ## Any history -/

/-- The value that a table made of values has at a key. -/
def given (vs : List Value) : Key → Value
  | .index i => if 1 ≤ i then vs[(i - 1).toNat]?.getD .nil else .nil
  | .name _ => .nil

theorem get_ofList_eq_given (vs : List Value) (key : Key) : (ofList vs).get key = given vs key := by
  cases key with
  | index i =>
    simp only [given]
    split
    · have hi : i = ((i - 1).toNat : Int) + 1 := by omega
      rw [← get_ofList, ← hi]
    · exact get_ofList_of_nonpos vs (by omega)
  | name r => exact get_ofList_name vs r

/-- A table is a finite map without nil, with given values at its keys. -/
structure IsMap (t : Table) (value : Key → Value) : Prop where
  get_eq : ∀ key, t.get key = value key
  /-- Integers and strings are different keys. -/
  name_of_set_index : ∀ i v r, (t.set (.index i) v).get (.name r) = value (.name r)
  index_of_set_name : ∀ r v i, (t.set (.name r) v).get (.index i) = value (.index i)
  indexed_ne_nil : ∀ (i : Int) (v : Value), t.indexed[i]? = some v → v ≠ .nil
  named_ne_nil : ∀ (r : String) (v : Value), t.named[r]? = some v → v ≠ .nil
  isEmpty_iff : t.isEmpty = true ↔ ∀ key, value key = .nil
  /-- The walk to the border stops by itself: further steps lead no further. -/
  walk_stops : ∀ fuel, t.indexed.size ≤ fuel → t.borderFrom fuel 0 = t.border
  border_isGreatest :
    IsGreatest {n : Nat | ∀ i : Nat, 1 ≤ i → i ≤ n → value (.index i) ≠ .nil} t.border
  arrayValues_eq : t.arrayValues = (List.range t.border).map fun i : Nat => value (.index (i + 1))

theorem Proper.isMap (h : t.Proper) : t.IsMap t.get where
  get_eq _ := rfl
  name_of_set_index _ _ _ := by rw [get_set, if_neg Key.noConfusion]
  index_of_set_name _ _ _ := by rw [get_set, if_neg Key.noConfusion]
  indexed_ne_nil _ _ hv := h.ne_nil_of_indexed hv
  named_ne_nil _ _ hv := h.ne_nil_of_named hv
  isEmpty_iff := h.isEmpty_iff
  walk_stops _ hfuel := borderFrom_eq_border hfuel
  border_isGreatest := h.isGreatest_border
  arrayValues_eq := rfl

/-- **Tables are finite maps without nil.** A table that is made of values, none for a table without
entries, and then changed by any assignments has at each key the value last assigned to it, and its
border is exact. Before any assignment it has the longest sequence of the values without nil at its
front, and those after it can still be read. -/
theorem finite_map_with_border (vs : List Value) (history : List (Key × Value)) :
    ((ofList vs).setAll history).IsMap (fun key => (lastSet? history key).getD (given vs key)) ∧
    ofList [] = empty ∧
    (ofList vs).arrayValues = vs.takeWhile (!·.isNil) ∧
    ∀ i : Nat, (ofList vs).get (.index (i + 1)) = vs[i]?.getD .nil := by
  refine ⟨?_, rfl, arrayValues_ofList_eq_takeWhile vs, get_ofList vs⟩
  have hget : ((ofList vs).setAll history).get =
      fun key => (lastSet? history key).getD (given vs key) := by
    funext key
    rw [get_setAll, get_ofList_eq_given]
  rw [← hget]
  exact ((proper_empty.fill 0 vs).setAll history).isMap

/-- Without its second value, a table of three has a border of one, and still its third value. -/
example :
    let t := (ofList [.bool true, .bool false, .bool true]).setAll [(.index 2, .nil)]
    t.border = 1 ∧ t.get (.index 3) = .bool true := ⟨rfl, rfl⟩

end Table

end ScriptHost
