/-!
# Bounded stacks

A stack that holds at most a given number of items. Pushing onto a full stack is refused and leaves
it as it is. In memory a stack has slots for its items, and more are reserved as it grows.

## Main definitions

* `BoundedStack`: the type, newest item first.
* `push?`, `pop?`, `truncate`, and access by position from the bottom.
* `Operation`, `apply`: operations as data, and what they answer.
* `Stored`, `Stored.perform?`, `replies`: stacks with their slots, and what a sequence of operations
  answers.
-/

namespace ScriptHost

/-- **A stack with a capacity.** -/
structure BoundedStack (α : Type) where
  capacity : Nat
  /-- The items, newest first. -/
  newestFirst : List α

namespace BoundedStack

variable {α : Type}

/-- The empty stack with a given capacity. -/
def new (capacity : Nat) : BoundedStack α := ⟨capacity, []⟩

/-- The number of items. -/
def length (s : BoundedStack α) : Nat := s.newestFirst.length

/-- Whether there are no items. -/
def isEmpty (s : BoundedStack α) : Bool := s.newestFirst.isEmpty

/-- The items from the bottom to the top. -/
def toList (s : BoundedStack α) : List α := s.newestFirst.reverse

/-- The stack with one more item, if there is room. -/
def push? (s : BoundedStack α) (a : α) : Option (BoundedStack α) :=
  if s.capacity ≤ s.length then none else some { s with newestFirst := a :: s.newestFirst }

/-- The newest item and the stack below it. -/
def pop? (s : BoundedStack α) : Option (α × BoundedStack α) :=
  match s.newestFirst with
  | [] => none
  | a :: rest => some (a, { s with newestFirst := rest })

/-- The newest item. -/
def peek? (s : BoundedStack α) : Option α := s.newestFirst.head?

/-- The stack with another item in place of the newest, if there is one. -/
def setTop? (s : BoundedStack α) (a : α) : Option (BoundedStack α) :=
  match s.newestFirst with
  | [] => none
  | _ :: rest => some { s with newestFirst := a :: rest }

/-- The item at a position from the bottom. -/
def get? (s : BoundedStack α) (i : Nat) : Option α := s.toList[i]?

/-- The stack with another item at a position from the bottom, if there is one. -/
def set? (s : BoundedStack α) (i : Nat) (a : α) : Option (BoundedStack α) :=
  if i < s.length then some { s with newestFirst := (s.toList.set i a).reverse } else none

/-- The stack with only its `n` oldest items. -/
def truncate (s : BoundedStack α) (n : Nat) : BoundedStack α :=
  { s with newestFirst := s.newestFirst.drop (s.length - n) }

/-- The stack without items. -/
def clear (s : BoundedStack α) : BoundedStack α := { s with newestFirst := [] }

/-- What can be done with a stack. -/
inductive Operation (α : Type) where
  | push (a : α)
  /-- Takes the newest item, which has to be there. -/
  | pop
  /-- Takes the newest item if there is one. -/
  | tryPop
  | peek
  | setTop (a : α)
  | get (i : Nat)
  | set (i : Nat) (a : α)
  | truncate (n : Nat)
  | clear
  /-- Lists the items, newest first. -/
  | list

/-- What an operation answers. -/
inductive Reply (α : Type) where
  | done
  /-- There was no room. -/
  | full
  /-- There was no item to take. -/
  | underflow
  | item (a : Option α)
  /-- Whether there was an item to change. -/
  | changed (b : Bool)
  | items (as : List α)

/-- The newest item taken off, or a given reply if there is none. -/
def take (s : BoundedStack α) (otherwise : Reply α) : Reply α × BoundedStack α :=
  match s.pop? with
  | some (a, t) => (.item (some a), t)
  | none => (otherwise, s)

/-- **One operation**: its reply and the stack after it. -/
def apply (s : BoundedStack α) : Operation α → Reply α × BoundedStack α
  | .push a =>
    match s.push? a with
    | some t => (.done, t)
    | none => (.full, s)
  | .pop => s.take .underflow
  | .tryPop => s.take (.item none)
  | .peek => (.item s.peek?, s)
  | .setTop a => (.changed (s.setTop? a).isSome, (s.setTop? a).getD s)
  | .get i => (.item (s.get? i), s)
  | .set i a => (.changed (s.set? i a).isSome, (s.set? i a).getD s)
  | .truncate n => (.done, s.truncate n)
  | .clear => (.done, s.clear)
  | .list => (.items s.newestFirst, s)

/-- How many more items the stack can hold. There is no answer if it holds more than its capacity. -/
def left? (s : BoundedStack α) : Option Nat :=
  if s.capacity < s.length then none else some (s.capacity - s.length)

/-- **A stack in memory**, with the number of slots that are reserved for its items. -/
structure Stored (α : Type) where
  stack : BoundedStack α
  slots : Nat

namespace Stored

/-- **More slots** once all are taken: as many as there are items, at least eight, and no more than
the stack can still hold items. -/
def grow? (s : Stored α) : Option (Stored α) :=
  if s.stack.length = s.slots then
    s.stack.left?.map fun left => { s with slots := s.slots + min (max s.stack.length 8) left }
  else some s

/-- The slots as an operation needs them: a push needs a free one, unless it is refused. -/
def reserve? (s : Stored α) : Operation α → Option (Stored α)
  | .push _ => if s.stack.capacity ≤ s.stack.length then some s else s.grow?
  | _ => some s

/-- **One operation** on a stack in memory. There is no answer if there is none for the slots. -/
def perform? (s : Stored α) (op : Operation α) : Option (Reply α × Stored α) :=
  (s.reserve? op).map fun reserved =>
    ((s.stack.apply op).1, { reserved with stack := (s.stack.apply op).2 })

/-- **A sequence of operations**: the reply to each, with the stack after it, as long as there are
answers. -/
def replies (s : Stored α) : List (Operation α) → List (Reply α × BoundedStack α)
  | [] => []
  | op :: ops =>
    match s.perform? op with
    | some (reply, t) => (reply, t.stack) :: replies t ops
    | none => []

end Stored

/-- A sequence of operations on a stack with no slots but those of its items. -/
def replies (s : BoundedStack α) (ops : List (Operation α)) : List (Reply α × BoundedStack α) :=
  Stored.replies ⟨s, s.length⟩ ops

@[simp] theorem toList_new (capacity : Nat) : (new capacity : BoundedStack α).toList = [] := rfl

theorem length_toList (s : BoundedStack α) : s.toList.length = s.length := List.length_reverse

theorem toList_truncate (s : BoundedStack α) (n : Nat) :
    (s.truncate n).toList = s.toList.take n := by
  simp only [truncate, toList, length]
  rw [List.take_reverse]

@[simp] theorem toList_clear (s : BoundedStack α) : s.clear.toList = [] := rfl

end BoundedStack

end ScriptHost
