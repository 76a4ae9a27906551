/-!
# Call depth

Re-entrant calls and pending frames draw on one budget. The outermost entry is free; every further
entry and every pending frame takes one unit.

## Main definitions

* `CallDepth`: the two counters.
* `CallDepth.inUse`: the part of the budget that is taken.
* `CallDepth.enter?`, `CallDepth.claim?`: taking a unit, if the budget allows it.
* `CallDepth.history`: a sequence of entries and exits.
-/

namespace ScriptHost

/-- **The counters** of active entries and pending frames. -/
structure CallDepth where
  entries : Nat
  frames : Nat
deriving DecidableEq, Repr

namespace CallDepth

/-- No entry and no frame. -/
def zero : CallDepth := ⟨0, 0⟩

/-- The part of the budget that is taken. -/
def inUse (d : CallDepth) : Nat := (d.entries - 1) + d.frames

/-- The counters with one more entry. -/
def entered (d : CallDepth) : CallDepth := { d with entries := d.entries + 1 }

/-- The counters with one more frame. -/
def claimed (d : CallDepth) : CallDepth := { d with frames := d.frames + 1 }

/-- **One more entry**, if it is the outermost or the budget allows it. -/
def enter? (d : CallDepth) (capacity : Nat) : Option CallDepth :=
  if capacity < d.entered.inUse then none else some d.entered

/-- Whether no entry is active, so that the next one is the outermost. -/
def isIdle (d : CallDepth) : Bool := d.entries == 0

/-- One entry less. -/
def leave (d : CallDepth) : CallDepth := { d with entries := d.entries - 1 }

/-- **One more pending frame**, if the budget allows it. -/
def claim? (d : CallDepth) (capacity : Nat) : Option CallDepth :=
  if capacity < d.claimed.inUse then none else some d.claimed

/-- A number of pending frames less. -/
def release (d : CallDepth) (n : Nat) : CallDepth := { d with frames := d.frames - n }

/-- Entering or leaving. -/
inductive Move where
  | enter
  | leave

/-- One move: whether it was the outermost entry, or there was an entry to leave, and the counters
after it. A refused entry has no answer. -/
def move (d : CallDepth) (capacity : Nat) : Move → Option Bool × CallDepth
  | .enter =>
    match d.enter? capacity with
    | some e => (some d.isIdle, e)
    | none => (none, d)
  | .leave => (some !d.isIdle, d.leave)

/-- A sequence of moves: the answer to each, with the counters after it. -/
def history (d : CallDepth) (capacity : Nat) : List Move → List (Option Bool × CallDepth)
  | [] => []
  | m :: ms => d.move capacity m :: history (d.move capacity m).2 capacity ms

theorem enter?_eq_some_iff {d e : CallDepth} {capacity : Nat} :
    d.enter? capacity = some e ↔ d.entered.inUse ≤ capacity ∧ d.entered = e := by
  unfold enter?
  split <;> simp <;> omega

theorem claim?_eq_some_iff {d e : CallDepth} {capacity : Nat} :
    d.claim? capacity = some e ↔ d.claimed.inUse ≤ capacity ∧ d.claimed = e := by
  unfold claim?
  split <;> simp <;> omega

theorem leave_of_enter? {d e : CallDepth} {capacity : Nat} (h : d.enter? capacity = some e) :
    e.leave = d := by
  obtain ⟨-, rfl⟩ := enter?_eq_some_iff.mp h
  rfl

theorem release_of_claim? {d e : CallDepth} {capacity : Nat} (h : d.claim? capacity = some e) :
    e.release 1 = d := by
  obtain ⟨-, rfl⟩ := claim?_eq_some_iff.mp h
  rfl

end CallDepth

end ScriptHost
