import ScriptHost.BoundedStack

/-!
# Stacks after any operations

A bounded stack is a list on which pushes are ignored while it is full. This is said of one
operation first, for its answer and for what it leaves, and then of any sequence of them. The slots
in memory keep up with the items, and the number of slots to add is never below zero.

## Main definitions

* `Operation.onList`, `Operation.answerOn`: what an operation does with a list, and its answer.
* `Stored.Holds`: a stack in memory that stands for a list.
* `Stored.Breaks`: an operation that ends the program.

## Main results

* `apply_eq`: an operation on a stack is the operation on its list.
* `Stored.Holds.perform?`, `Stored.Holds.run?`: one operation, and a sequence of them.
* `bounded_list_refined`: stacks after any operations.
-/

namespace ScriptHost.BoundedStack

variable {α : Type}

/-! ## Operations on lists -/

namespace Operation

/-- **The operation on a list** of items, oldest first. A push is ignored when there are as many
items as the capacity. -/
def onList (capacity : Nat) (items : List α) : Operation α → List α
  | push a => if items.length = capacity then items else items ++ [a]
  | pop | tryPop => items.dropLast
  | setTop a => items.set (items.length - 1) a
  | set i a => items.set i a
  | truncate n => items.take n
  | clear => []
  | peek | get _ | list => items

/-- **The answer** of the operation on a list. -/
def answerOn (capacity : Nat) (items : List α) : Operation α → Reply α
  | push _ => if items.length = capacity then .full else .done
  | pop => if items.isEmpty then .underflow else .item items.getLast?
  | tryPop | peek => .item items.getLast?
  | setTop _ => .changed !items.isEmpty
  | get i => .item items[i]?
  | set i _ => .changed (decide (i < items.length))
  | truncate _ | clear => .done
  | list => .items items.reverse

variable {capacity : Nat} {items : List α}

theorem length_onList_le (h : items.length ≤ capacity) (op : Operation α) :
    (op.onList capacity items).length ≤ capacity := by
  cases op with
  | push a =>
    simp only [onList]
    split
    · exact h
    · rw [List.length_append, List.length_singleton]
      omega
  | pop | tryPop =>
    simp only [onList, List.length_dropLast]
    omega
  | setTop a | set i a => simpa only [onList, List.length_set] using h
  | truncate n =>
    simp only [onList, List.length_take]
    omega
  | clear => exact Nat.zero_le capacity
  | peek | get | list => exact h

/-- No operation but a push adds an item. -/
theorem length_onList_le_length (op : Operation α) (hop : ∀ a, op ≠ .push a) :
    (op.onList capacity items).length ≤ items.length := by
  cases op with
  | push a => exact absurd rfl (hop a)
  | pop | tryPop =>
    simp only [onList, List.length_dropLast]
    omega
  | setTop a | set i a => simp only [onList, List.length_set, Nat.le_refl]
  | truncate n => simpa only [onList] using List.length_take_le' n items
  | clear => exact Nat.zero_le _
  | peek | get | list => exact Nat.le_refl _

/-- Only taking an item from an empty list underflows. -/
theorem answerOn_eq_underflow_iff {op : Operation α} :
    op.answerOn capacity items = .underflow ↔ op = .pop ∧ items = [] := by
  cases op with
  | push a =>
    simp only [answerOn, reduceCtorEq, false_and, iff_false]
    split <;> simp
  | pop =>
    cases items <;> simp [answerOn]
  | _ => simp [answerOn]

end Operation

/-! ## One operation on a stack -/

variable {s : BoundedStack α}

theorem length_eq (s : BoundedStack α) : s.length = s.toList.length := s.length_toList.symm

/-- An operation on a stack is the operation on its list, and leaves the capacity. -/
theorem apply_eq (h : s.length ≤ s.capacity) (op : Operation α) :
    (s.apply op).1 = op.answerOn s.capacity s.toList ∧
      (s.apply op).2.toList = op.onList s.capacity s.toList ∧
        (s.apply op).2.capacity = s.capacity := by
  obtain ⟨capacity, newestFirst⟩ := s
  cases op with
  | push a =>
    have hfull : capacity ≤ newestFirst.length ↔ newestFirst.length = capacity :=
      ⟨fun hle => Nat.le_antisymm h hle, fun heq => Nat.le_of_eq heq.symm⟩
    by_cases hlength : newestFirst.length = capacity <;>
      simp [apply, push?, length, toList, Operation.answerOn, Operation.onList, hfull, hlength]
  | pop | tryPop =>
    cases newestFirst <;>
      simp [apply, take, pop?, toList, Operation.answerOn, Operation.onList]
  | setTop a =>
    cases newestFirst <;>
      simp [apply, setTop?, toList, Operation.answerOn, Operation.onList]
  | set i a =>
    by_cases hi : i < newestFirst.length
    · simp [apply, set?, length, toList, Operation.answerOn, Operation.onList, hi]
    · have hset : newestFirst.reverse.set i a = newestFirst.reverse :=
        List.set_eq_of_length_le (by simpa using hi)
      simp [apply, set?, length, toList, Operation.answerOn, Operation.onList, hi, hset]
  | truncate n =>
    exact ⟨rfl, toList_truncate _ n, rfl⟩
  | peek =>
    simp [apply, peek?, toList, Operation.answerOn, Operation.onList]
  | get i =>
    exact ⟨rfl, rfl, rfl⟩
  | clear =>
    exact ⟨rfl, rfl, rfl⟩
  | list =>
    simp [apply, toList, Operation.answerOn, Operation.onList]

/-- What is left of the capacity is not below zero. -/
theorem left?_eq_some (h : s.length ≤ s.capacity) : s.left? = some (s.capacity - s.length) :=
  if_neg (Nat.not_lt.mpr h)

/-! ## Stacks in memory -/

namespace Stored

/-- A sequence of operations on a stack in memory, as long as there are answers. -/
def run? (s : Stored α) : List (Operation α) → Option (Stored α)
  | [] => some s
  | op :: ops => (s.perform? op).bind fun answered => answered.2.run? ops

/-- The operation ends the program: there is no answer for the slots to add, or no item to take. -/
def Breaks (s : Stored α) (op : Operation α) : Prop :=
  s.perform? op = none ∨ ∃ t, s.perform? op = some (.underflow, t)

/-- A stack in memory stands for a list that is within the capacity and the slots. -/
structure Holds (s : Stored α) (capacity : Nat) (items : List α) : Prop where
  capacity_eq : s.stack.capacity = capacity
  toList_eq : s.stack.toList = items
  length_le_capacity : items.length ≤ capacity
  length_le_slots : items.length ≤ s.slots

theorem holds_new (capacity slots : Nat) :
    Holds (⟨.new capacity, slots⟩ : Stored α) capacity [] :=
  ⟨rfl, rfl, Nat.zero_le capacity, Nat.zero_le slots⟩

variable {s : Stored α} {capacity : Nat} {items : List α}

theorem Holds.length_eq (h : s.Holds capacity items) : s.stack.length = items.length := by
  rw [BoundedStack.length_eq, h.toList_eq]

theorem Holds.left?_eq (h : s.Holds capacity items) :
    s.stack.left? = some (capacity - items.length) := by
  have hle : s.stack.length ≤ s.stack.capacity := by
    rw [h.length_eq, h.capacity_eq]
    exact h.length_le_capacity
  rw [left?_eq_some hle, h.length_eq, h.capacity_eq]

/-- Slots are reserved as an operation needs them, for all items that it leaves. -/
theorem Holds.reserve? (h : s.Holds capacity items) (op : Operation α) :
    ∃ reserved, s.reserve? op = some reserved ∧
      (op.onList capacity items).length ≤ reserved.slots := by
  cases op with
  | push a =>
    simp only [Stored.reserve?, h.length_eq, h.capacity_eq]
    have hcapacity := h.length_le_capacity
    have hslots := h.length_le_slots
    by_cases hfull : capacity ≤ items.length
    · rw [if_pos hfull]
      refine ⟨s, rfl, ?_⟩
      simpa [Operation.onList, Nat.le_antisymm hcapacity hfull] using hslots
    · rw [if_neg hfull, grow?, h.left?_eq, h.length_eq]
      have hone : (Operation.onList capacity items (.push a)).length = items.length + 1 := by
        simp only [Operation.onList]
        rw [if_neg (by omega), List.length_append, List.length_singleton]
      rw [hone]
      -- All slots are taken, or one is free already.
      by_cases htaken : items.length = s.slots
      · rw [if_pos htaken]
        refine ⟨_, rfl, ?_⟩
        show items.length + 1 ≤ s.slots + min (max items.length 8) (capacity - items.length)
        omega
      · rw [if_neg htaken]
        exact ⟨s, rfl, by omega⟩
  | _ =>
    refine ⟨s, rfl, Nat.le_trans ?_ h.length_le_slots⟩
    exact Operation.length_onList_le_length _ nofun

/-- One operation always has an answer: that of the list. -/
theorem Holds.perform? (h : s.Holds capacity items) (op : Operation α) :
    ∃ t, s.perform? op = some (op.answerOn capacity items, t) ∧
      t.Holds capacity (op.onList capacity items) := by
  obtain ⟨reserved, hreserved, hslots⟩ := h.reserve? op
  have hle : s.stack.length ≤ s.stack.capacity := by
    rw [h.length_eq, h.capacity_eq]
    exact h.length_le_capacity
  obtain ⟨hanswer, hlist, hcapacity⟩ := apply_eq hle op
  rw [h.toList_eq, h.capacity_eq] at hanswer hlist
  refine ⟨{ reserved with stack := (s.stack.apply op).2 }, ?_, ?_⟩
  · rw [Stored.perform?, hreserved, hanswer]
    rfl
  · exact ⟨hcapacity.trans h.capacity_eq, hlist, op.length_onList_le h.length_le_capacity, hslots⟩

/-- **A sequence of operations** always has answers: those of the list. -/
theorem Holds.run? (h : s.Holds capacity items) (history : List (Operation α)) :
    ∃ t, s.run? history = some t ∧
      t.Holds capacity (history.foldl (fun items op => op.onList capacity items) items) := by
  induction history generalizing s items with
  | nil => exact ⟨s, rfl, h⟩
  | cons op ops ih =>
    obtain ⟨t, hop, ht⟩ := h.perform? op
    obtain ⟨u, hops, hu⟩ := ih ht
    refine ⟨u, ?_, hu⟩
    rw [Stored.run?, hop, Option.bind_some, hops]

/-- A push onto a full stack is refused and changes nothing. -/
theorem perform?_push_of_full (h : s.stack.capacity ≤ s.stack.length) (a : α) :
    s.perform? (.push a) = some (.full, s) := by
  simp [Stored.perform?, Stored.reserve?, apply, push?, h]

theorem Holds.perform?_push_eq_full_iff (h : s.Holds capacity items) {a : α} {t : Stored α} :
    s.perform? (.push a) = some (.full, t) ↔ items.length = capacity ∧ t = s := by
  have hrefused (hfull : items.length = capacity) : s.perform? (.push a) = some (.full, s) := by
    apply perform?_push_of_full
    exact Nat.le_of_eq (h.capacity_eq.trans (hfull.symm.trans h.length_eq.symm))
  constructor
  · intro hpush
    by_cases hfull : items.length = capacity
    · rw [hrefused hfull] at hpush
      obtain ⟨-, rfl⟩ := Prod.mk.inj (Option.some.inj hpush)
      exact ⟨hfull, rfl⟩
    · obtain ⟨u, hdone, -⟩ := h.perform? (.push a)
      rw [hdone, Operation.answerOn, if_neg hfull] at hpush
      cases hpush
  · rintro ⟨hfull, rfl⟩
    exact hrefused hfull

/-- Only taking an item where there is none ends the program. -/
theorem Holds.breaks_iff (h : s.Holds capacity items) {op : Operation α} :
    s.Breaks op ↔ op = .pop ∧ items = [] := by
  obtain ⟨t, hop, -⟩ := h.perform? op
  have hunderflow : op.answerOn capacity items = .underflow ↔ op = .pop ∧ items = [] :=
    Operation.answerOn_eq_underflow_iff
  simp [Breaks, hop, hunderflow]

end Stored

/-- The answers of a sequence of operations on a list, each with the list after it. -/
def answersOn (capacity : Nat) : List α → List (Operation α) → List (Reply α × List α)
  | _, [] => []
  | items, op :: ops =>
    (op.answerOn capacity items, op.onList capacity items) ::
      answersOn capacity (op.onList capacity items) ops

theorem Stored.Holds.replies {s : Stored α} {capacity : Nat} {items : List α}
    (h : s.Holds capacity items) (history : List (Operation α)) :
    (s.replies history).map (fun r => (r.1, r.2.toList)) = answersOn capacity items history := by
  induction history generalizing s items with
  | nil => rfl
  | cons op ops ih =>
    obtain ⟨t, hop, ht⟩ := h.perform? op
    simp only [Stored.replies, hop, List.map_cons, ih ht, ht.toList_eq, answersOn]

/-- Leaving the oldest items twice is leaving them once. -/
theorem truncate_truncate (s : BoundedStack α) (n : Nat) :
    (s.truncate n).truncate n = s.truncate n := by
  simp only [truncate, length, List.drop_drop, List.length_drop, mk.injEq, true_and]
  congr 1
  omega

theorem toList_truncate_eq_take_min (s : BoundedStack α) (n : Nat) :
    (s.truncate n).toList = s.toList.take (min n s.length) := by
  rw [toList_truncate, length_eq, List.take_eq_take_min]

/-- **Bounded stacks are bounded lists.** Any sequence of operations on a new stack answers what it
answers on a list in which pushes are ignored while it is full, and leaves the same items after each
operation. The items are never more than the capacity; a push is refused exactly when they are as
many, and then nothing changes; leaving the oldest items leaves just these, and doing it twice does
nothing more. What is left of the capacity is never below zero, and only taking an item where there
is none ends the program. -/
theorem bounded_list_refined (capacity slots : Nat) (history : List (Operation α)) :
    (Stored.replies ⟨.new capacity, slots⟩ history).map (fun r => (r.1, r.2.toList)) =
      answersOn capacity [] history ∧
    ∃ s : Stored α, Stored.run? ⟨.new capacity, slots⟩ history = some s ∧
      s.stack.toList = history.foldl (fun items op => op.onList capacity items) [] ∧
      s.stack.length ≤ capacity ∧
      (∀ a t, s.perform? (.push a) = some (.full, t) ↔ s.stack.length = capacity ∧ t = s) ∧
      (∀ n, s.perform? (.truncate n) = some (.done, { s with stack := s.stack.truncate n }) ∧
        (s.stack.truncate n).toList = s.stack.toList.take (min n s.stack.length) ∧
        (s.stack.truncate n).truncate n = s.stack.truncate n) ∧
      (∃ left, s.stack.left? = some left ∧ s.stack.length + left = capacity) ∧
      ∀ op, s.Breaks op ↔ op = .pop ∧ s.stack.length = 0 := by
  have hnew := Stored.holds_new (α := α) capacity slots
  obtain ⟨s, hrun, hs⟩ := hnew.run? history
  refine ⟨hnew.replies history, s, hrun, hs.toList_eq, ?_, ?_, ?_, ?_, ?_⟩
  · rw [hs.length_eq]
    exact hs.length_le_capacity
  · intro a t
    rw [hs.length_eq]
    exact hs.perform?_push_eq_full_iff
  · intro n
    exact ⟨rfl, toList_truncate_eq_take_min s.stack n, truncate_truncate s.stack n⟩
  · refine ⟨_, hs.left?_eq, ?_⟩
    rw [hs.length_eq]
    exact Nat.add_sub_cancel' hs.length_le_capacity
  · intro op
    rw [hs.breaks_iff, hs.length_eq, List.length_eq_zero_iff]

end ScriptHost.BoundedStack
