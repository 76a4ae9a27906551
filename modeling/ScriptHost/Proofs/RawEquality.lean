import Mathlib.Data.List.Forall2
import ScriptHost.Value.Coercion
import ScriptHost.Value.Equality
import ScriptHost.Proofs.DoublePatterns
import ScriptHost.Proofs.ProtectedCall

/-!
# Raw equality

Raw equality compares numbers as doubles, of which one is not equal to itself, and tuples item by
item. It is a partial equivalence: symmetric and transitive, and reflexive on the values in which
that one double does not stand.

## Main definitions

* `Value.Part`: what stands in a value, at any depth of tuples.
* `Value.isNaN`: the value that is no number.

## Main results

* `Value.tupleInduction`: induction over the nesting of tuples.
* `Value.same_symm`, `Value.same_trans`: raw equality is symmetric and transitive.
* `Value.same_self_iff`: what is equal to itself.
* `Value.raw_equality_partial`: all of this together.
-/

namespace ScriptHost.Value

/-! ## Nested tuples -/

mutual

/-- Induction over the nesting of tuples. -/
@[elab_as_elim]
theorem tupleInduction {P : Value → Prop} (single : ∀ v, v.isTuple = false → P v)
    (tuple : ∀ items, (∀ v ∈ items, P v) → P (.tuple items)) : (v : Value) → P v
  | .tuple items => tuple items (tupleInductionAll single tuple items)
  | .nil => single .nil rfl
  | .bool b => single (.bool b) rfl
  | .number x => single (.number x) rfl
  | .string s => single (.string s) rfl
  | .table t => single (.table t) rfl
  | .function f => single (.function f) rfl
  | .userdata u => single (.userdata u) rfl
  | .request r => single (.request r) rfl

theorem tupleInductionAll {P : Value → Prop} (single : ∀ v, v.isTuple = false → P v)
    (tuple : ∀ items, (∀ v ∈ items, P v) → P (.tuple items)) :
    (items : List Value) → ∀ v ∈ items, P v
  | [] => by simp
  | v :: items =>
    List.forall_mem_cons.mpr
      ⟨tupleInduction single tuple v, tupleInductionAll single tuple items⟩

end

/-- **What stands in a value**: the value itself and what stands in the items of a tuple. -/
inductive Part : Value → Value → Prop
  | self (v : Value) : Part v v
  | item {items : List Value} {v w : Value} (hv : v ∈ items) (hw : Part v w) : Part (.tuple items) w

theorem part_of_single {v w : Value} (hv : v.isTuple = false) : Part v w ↔ w = v := by
  constructor
  · intro h
    cases h with
    | self => rfl
    | item hv' hw => cases hv
  · rintro rfl
    exact .self w

theorem part_tuple {items : List Value} {w : Value} :
    Part (tuple items) w ↔ w = tuple items ∨ ∃ v ∈ items, Part v w := by
  constructor
  · intro h
    cases h with
    | self => exact Or.inl rfl
    | item hv hw => exact Or.inr ⟨_, hv, hw⟩
  · rintro (rfl | ⟨v, hv, hw⟩)
    · exact .self _
    · exact .item hv hw

/-- Whether the value is the double that is no number. -/
def isNaN : Value → Bool
  | number x => x.isNaN
  | _ => false

/-! ## Tuples are compared item by item -/

theorem sameAll_iff {xs ys : List Value} :
    sameAll xs ys = true ↔ List.Forall₂ (fun x y => x.same y = true) xs ys := by
  induction xs generalizing ys with
  | nil => cases ys <;> simp [sameAll]
  | cons x xs ih => cases ys <;> simp [sameAll, ih]

theorem same_tuple_iff {xs ys : List Value} :
    (tuple xs).same (tuple ys) = true ↔ List.Forall₂ (fun x y => x.same y = true) xs ys := by
  rw [same, sameAll_iff]

variable {x y z : Value}

theorem kind_eq_of_same (h : x.same y = true) : x.kind = y.kind := by
  cases x <;> cases y <;> simp_all [same, kind]

theorem exists_tuple_of_same {xs : List Value} (h : (tuple xs).same y = true) :
    ∃ ys, y = tuple ys := by
  cases y with
  | tuple ys => exact ⟨ys, rfl⟩
  | _ => simp [same] at h

/-! ## Partial equivalence -/

/-- Raw equality is symmetric. -/
theorem same_symm (h : x.same y = true) : y.same x = true := by
  induction x using tupleInduction generalizing y with
  | single x hx => cases x <;> cases y <;> simp_all [same, isTuple, BEq.comm]
  | tuple xs ih =>
    obtain ⟨ys, rfl⟩ := exists_tuple_of_same h
    rw [same_tuple_iff] at h ⊢
    have hitems := (List.forall₂_and_left xs ys).mpr ⟨fun x hx y => @ih x hx y, h⟩
    exact (hitems.imp fun x y hxy => hxy.1 y hxy.2).flip

/-- Raw equality is transitive. -/
theorem same_trans (h : x.same y = true) (h' : y.same z = true) : x.same z = true := by
  induction x using tupleInduction generalizing y z with
  | single x hx =>
    -- The values are of one kind; only doubles are compared by more than a law of equality.
    cases x <;> cases y <;> simp [same] at h <;> cases z <;> simp_all [same, isTuple]
    exact BEq.trans h h'
  | tuple xs ih =>
    obtain ⟨ys, rfl⟩ := exists_tuple_of_same h
    obtain ⟨zs, rfl⟩ := exists_tuple_of_same h'
    rw [same_tuple_iff] at h h' ⊢
    induction h generalizing zs with
    | nil => exact h'
    | cons hxy _ ihs =>
      obtain ⟨hx, hxs⟩ := List.forall_mem_cons.mp ih
      cases h' with
      | cons hyz hyzs => exact .cons (hx hxy hyz) (ihs hxs _ hyzs)

/-- Equal values count the same as truth values. -/
theorem truthy_eq_of_same (h : x.same y = true) : x.truthy = y.truthy := by
  induction x using tupleInduction generalizing y with
  | single x hx => cases x <;> cases y <;> simp_all [same, isTuple, truthy]
  | tuple xs ih =>
    obtain ⟨ys, rfl⟩ := exists_tuple_of_same h
    rw [same_tuple_iff] at h
    cases h with
    | nil => rfl
    | cons hxy _ =>
      rw [truthy, truthy]
      exact ih _ List.mem_cons_self hxy

/-- What is equal to itself: a value in which no double stands that is no number. -/
theorem same_self_iff (x : Value) : x.same x = true ↔ ∀ w, Part x w → w.isNaN = false := by
  induction x using tupleInduction with
  | single x hx =>
    simp only [part_of_single hx, forall_eq]
    cases x with
    | number n => simp [same, isNaN, Float.beq_self_iff, Float.isNaN_eq_decide_eq_nan]
    | tuple items => cases hx
    | _ => simp [same, isNaN]
  | tuple xs ih =>
    rw [same_tuple_iff, List.forall₂_same]
    constructor
    · intro h w hw
      rcases part_tuple.mp hw with rfl | ⟨v, hv, hw⟩
      · rfl
      · exact (ih v hv).mp (h v hv) w hw
    · intro h v hv
      exact (ih v hv).mpr fun w hw => h w (.item hv hw)

/-- **Raw equality is a partial equivalence**: symmetric and transitive, between values of the same
kind and of the same truth, tuples of the same length, and reflexive on the values in which no
double stands that is no number, at any depth of tuples. -/
theorem raw_equality_partial (x y z : Value) :
    (x.same y = true → y.same x = true) ∧
    (x.same y = true → y.same z = true → x.same z = true) ∧
    (x.same y = true → x.kind = y.kind ∧ x.truthy = y.truthy ∧
      ∀ xs ys, x = .tuple xs → y = .tuple ys → xs.length = ys.length) ∧
    (x.same x = true ↔ ∀ w, Part x w → w.isNaN = false) := by
  refine ⟨same_symm, same_trans, ?_, same_self_iff x⟩
  intro h
  refine ⟨kind_eq_of_same h, truthy_eq_of_same h, ?_⟩
  rintro xs ys rfl rfl
  exact (same_tuple_iff.mp h).length_eq

end ScriptHost.Value
