import Mathlib.Data.List.Nodup
import ScriptHost.Table

/-!
# The sequence at the front of a table

A table is a map in which assigning nil removes a key, and its border is found by walking along the
keys 1, 2, …, for no more steps than there are keys. The walk never stops too early: a table with
the keys 1 to `n` has `n` keys at least.

## Main definitions

* `Table.Proper`: tables that hold no nil.

## Main results

* `Table.get_set`: assignment changes one key and no other.
* `Table.border_eq_iff`: the border is the number of keys before the first that is missing.
* `Table.arrayValues_ofList_append`: a table made of values has at its front those before the first
  nil.
-/

namespace ScriptHost

namespace Table

/-! ## Access by key -/

section Assignment

variable {κ : Type} [Ord κ] [Std.TransOrd κ] [Std.LawfulEqOrd κ] [DecidableEq κ]
  (m : Std.TreeMap κ Value) (k : κ) (v : Value) (k' : κ)

theorem getD_assign :
    (if v.isNil then m.erase k else m.insert k v).getD k' .nil =
      if k = k' then v else m.getD k' .nil := by
  by_cases hv : v.isNil = true
  · rw [if_pos hv, Std.TreeMap.getD_erase, Value.isNil_iff.mp hv]
    simp only [Std.LawfulEqOrd.compare_eq_iff_eq]
  · rw [if_neg hv, Std.TreeMap.getD_insert]
    simp only [Std.LawfulEqOrd.compare_eq_iff_eq]

theorem contains_assign :
    (if v.isNil then m.erase k else m.insert k v).contains k' =
      if k = k' then !v.isNil else m.contains k' := by
  by_cases hv : v.isNil = true
  · rw [if_pos hv, Std.TreeMap.contains_erase, hv]
    by_cases hk : k = k' <;> simp [hk]
  · rw [if_neg hv, Std.TreeMap.contains_insert]
    by_cases hk : k = k' <;> simp [hk, hv]

end Assignment

variable {t : Table}

theorem set_index (t : Table) (i : Int) (v : Value) :
    t.set (.index i) v =
      { t with indexed := if v.isNil then t.indexed.erase i else t.indexed.insert i v } := by
  simp only [set]
  split <;> rfl

theorem set_name (t : Table) (r : String) (v : Value) :
    t.set (.name r) v =
      { t with named := if v.isNil then t.named.erase r else t.named.insert r v } := by
  simp only [set]
  split <;> rfl

@[simp] theorem get_empty (key : Key) : empty.get key = .nil := by
  cases key <;> exact Std.TreeMap.getD_emptyc

/-- Assignment changes one key and no other. -/
theorem get_set (t : Table) (key : Key) (v : Value) (key' : Key) :
    (t.set key v).get key' = if key = key' then v else t.get key' := by
  cases key <;> cases key' <;> simp [set_index, set_name, get, getD_assign]

/-- **Proper tables** hold no nil: the keys that are present are those with a value. -/
structure Proper (t : Table) : Prop where
  indexed : ∀ i, t.indexed.contains i = !(t.get (.index i)).isNil
  named : ∀ r, t.named.contains r = !(t.get (.name r)).isNil

theorem proper_empty : empty.Proper := by
  constructor <;> intro k <;> rw [get_empty] <;> exact Std.TreeMap.contains_emptyc

theorem Proper.set (h : t.Proper) (key : Key) (v : Value) : (t.set key v).Proper := by
  constructor
  · intro i
    rw [get_set]
    cases key with
    | index j =>
      simp only [set_index, contains_assign, h.indexed, Key.index.injEq]
      split <;> rfl
    | name r => simp only [set_name, h.indexed, reduceCtorEq, if_false]
  · intro r
    rw [get_set]
    cases key with
    | index j => simp only [set_index, h.named, reduceCtorEq, if_false]
    | name r' =>
      simp only [set_name, contains_assign, h.named, Key.name.injEq]
      split <;> rfl

/-! ## The border -/

/-- A table with the keys 1 to `n` has `n` integer keys at least. -/
theorem le_size_of_contains {n : Nat}
    (h : ∀ i : Nat, i < n → t.indexed.contains ((i : Int) + 1) = true) : n ≤ t.indexed.size := by
  have hnodup : ((List.range n).map fun i : Nat => (i : Int) + 1).Nodup := by
    refine List.Nodup.map (fun i j hij => ?_) List.nodup_range
    have heq : (i : Int) + 1 = (j : Int) + 1 := hij
    omega
  have hkeys : ((List.range n).map fun i : Nat => (i : Int) + 1) ⊆ t.indexed.keys := by
    intro k hk
    obtain ⟨i, hi, rfl⟩ := List.mem_map.mp hk
    exact Std.TreeMap.mem_keys.mpr (h i (List.mem_range.mp hi))
  have hlength := hnodup.length_le_of_subset hkeys
  rwa [List.length_map, List.length_range, Std.TreeMap.length_keys] at hlength

/-- The walk to the border passes keys that are present, and stops for want of steps or before a
key that is missing. -/
theorem borderFrom_spec (t : Table) (fuel n : Nat) :
    (∀ i : Nat, n ≤ i → i < t.borderFrom fuel n → t.indexed.contains ((i : Int) + 1) = true) ∧
      (t.borderFrom fuel n = n + fuel ∨
        t.indexed.contains ((t.borderFrom fuel n : Int) + 1) = false) := by
  induction fuel generalizing n with
  | zero => exact ⟨fun i hle hlt => absurd hlt (Nat.not_lt.mpr hle), Or.inl rfl⟩
  | succ fuel ih =>
    rw [borderFrom]
    split
    · rename_i hnext
      obtain ⟨hpassed, hstop⟩ := ih (n + 1)
      refine ⟨fun i hle hlt => ?_, hstop.imp_left fun h => by omega⟩
      rcases Nat.eq_or_lt_of_le hle with rfl | hbeyond
      · exact hnext
      · exact hpassed i hbeyond hlt
    · rename_i hnext
      refine ⟨fun i hle hlt => absurd hlt (Nat.not_lt.mpr hle), Or.inr ?_⟩
      exact Bool.not_eq_true _ ▸ hnext

/-- The walk stops by itself, before a key that is missing, if it may take as many steps as there
are integer keys. -/
theorem borderFrom_of_size_le {fuel : Nat} (hfuel : t.indexed.size ≤ fuel) :
    (∀ i : Nat, i < t.borderFrom fuel 0 → t.indexed.contains ((i : Int) + 1) = true) ∧
      t.indexed.contains ((t.borderFrom fuel 0 : Int) + 1) = false := by
  obtain ⟨hpassed, hstop⟩ := borderFrom_spec t fuel 0
  refine ⟨fun i hi => hpassed i (Nat.zero_le i) hi, ?_⟩
  rcases hstop with hsteps | hmissing
  · -- All steps are spent, so one more key would be one too many.
    cases hnext : t.indexed.contains ((t.borderFrom fuel 0 : Int) + 1) with
    | false => rfl
    | true =>
      have hall (i : Nat) (hi : i < t.borderFrom fuel 0 + 1) :
          t.indexed.contains ((i : Int) + 1) = true := by
        rcases Nat.lt_succ_iff_lt_or_eq.mp hi with hlt | rfl
        · exact hpassed i (Nat.zero_le i) hlt
        · exact hnext
      have hsize := le_size_of_contains hall
      omega
  · exact hmissing

/-- The border is the number of keys before the first that is missing. -/
theorem border_eq_iff {n : Nat} :
    t.border = n ↔ (∀ i : Nat, i < n → t.indexed.contains ((i : Int) + 1) = true) ∧
      t.indexed.contains ((n : Int) + 1) = false := by
  have hborder : (∀ i : Nat, i < t.border → t.indexed.contains ((i : Int) + 1) = true) ∧
      t.indexed.contains ((t.border : Int) + 1) = false :=
    borderFrom_of_size_le (Nat.le_refl t.indexed.size)
  constructor
  · rintro rfl
    exact hborder
  · rintro ⟨hpresent, hmissing⟩
    rcases Nat.lt_trichotomy t.border n with hlt | heq | hgt
    · rw [hpresent _ hlt] at hborder
      exact absurd hborder.2 (by decide)
    · exact heq
    · rw [hborder.1 _ hgt] at hmissing
      cases hmissing

/-! ## Tables made of values -/

theorem Proper.fill (h : t.Proper) (n : Nat) (vs : List Value) : (t.fill n vs).Proper := by
  induction vs generalizing t n with
  | nil => exact h
  | cons v vs ih => exact ih (h.set _ v) (n + 1)

theorem get_fill_of_le {n : Nat} {i : Int} (hi : i ≤ n) (vs : List Value) :
    (t.fill n vs).get (.index i) = t.get (.index i) := by
  induction vs generalizing t n with
  | nil => rfl
  | cons v vs ih =>
    have hne : Key.index ((n : Int) + 1) ≠ .index i := by
      intro h
      cases h
      omega
    rw [fill, ih (by omega), get_set, if_neg hne]

/-- What a filled table holds was there before or is one of the values. -/
theorem get_fill_eq_or_mem (t : Table) (n : Nat) (vs : List Value) (key : Key) :
    (t.fill n vs).get key = t.get key ∨ (t.fill n vs).get key ∈ vs := by
  induction vs generalizing t n with
  | nil => exact Or.inl rfl
  | cons v vs ih =>
    rw [fill]
    rcases ih (t.set (.index (n + 1)) v) (n + 1) with heq | hmem
    · rw [heq, get_set]
      split
      · exact Or.inr List.mem_cons_self
      · exact Or.inl rfl
    · exact Or.inr (List.mem_cons_of_mem _ hmem)

theorem get_fill (n : Nat) (vs : List Value) (k : Nat) :
    (t.fill n vs).get (.index (n + k + 1)) = vs[k]?.getD (t.get (.index (n + k + 1))) := by
  induction vs generalizing t n k with
  | nil => rfl
  | cons v vs ih =>
    rw [fill]
    cases k with
    | zero =>
      rw [get_fill_of_le (by omega), get_set]
      simp
    | succ k =>
      have hposition : (n : Int) + (k + 1 : Nat) + 1 = ((n + 1 : Nat) : Int) + k + 1 := by omega
      have hne : Key.index ((n : Int) + 1) ≠ .index (((n + 1 : Nat) : Int) + k + 1) := by
        intro h
        have := Key.index.inj h
        omega
      rw [hposition, ih, get_set, if_neg hne, List.getElem?_cons_succ]

theorem get_ofList (vs : List Value) (k : Nat) :
    (ofList vs).get (.index (k + 1)) = vs[k]?.getD .nil := by
  have h := get_fill (t := empty) 0 vs k
  rwa [get_empty, Int.natCast_zero, Int.zero_add] at h

theorem get_ofList_eq_nil_or_mem (vs : List Value) (key : Key) :
    (ofList vs).get key = .nil ∨ (ofList vs).get key ∈ vs := by
  have h := get_fill_eq_or_mem empty 0 vs key
  rwa [get_empty] at h

theorem contains_ofList (vs : List Value) (k : Nat) :
    (ofList vs).indexed.contains ((k : Int) + 1) = !(vs[k]?.getD .nil).isNil := by
  rw [← get_ofList]
  exact (proper_empty.fill 0 vs).indexed _

/-- **A table made of values** has at its front those before the first nil. -/
theorem arrayValues_ofList_append {front rest : List Value} (hfront : ∀ v ∈ front, v.isNil = false)
    (hrest : ∀ v, rest.head? = some v → v.isNil = true) :
    (ofList (front ++ rest)).arrayValues = front := by
  have hborder : (ofList (front ++ rest)).border = front.length := by
    refine border_eq_iff.mpr ⟨fun i hi => ?_, ?_⟩
    · rw [contains_ofList, List.getElem?_append_left hi, List.getElem?_eq_getElem hi,
        Option.getD_some, hfront _ (List.getElem_mem hi)]
      rfl
    · rw [contains_ofList, List.getElem?_append_right (Nat.le_refl _), Nat.sub_self,
        ← List.head?_eq_getElem?]
      cases hhead : rest.head? with
      | none => rfl
      | some v => rw [Option.getD_some, hrest v hhead, Bool.not_true]
  rw [arrayValues, hborder]
  apply List.ext_getElem
  · rw [List.length_map, List.length_range]
  · intro i hi hi'
    rw [List.getElem_map, List.getElem_range, get_ofList, List.getElem?_append_left hi',
      List.getElem?_eq_getElem hi', Option.getD_some]

theorem arrayValues_ofList {vs : List Value} (h : ∀ v ∈ vs, v.isNil = false) :
    (ofList vs).arrayValues = vs := by
  have hend (v : Value) (hv : [].head? = some v) : v.isNil = true := nomatch hv
  have hfront := arrayValues_ofList_append h hend
  rwa [List.append_nil] at hfront

theorem border_ofList {vs : List Value} (h : ∀ v ∈ vs, v.isNil = false) :
    (ofList vs).border = vs.length := by
  have hlength := congrArg List.length (arrayValues_ofList h)
  rwa [arrayValues, List.length_map, List.length_range] at hlength

end Table

end ScriptHost
