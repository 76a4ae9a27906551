import ScriptHost.Proofs.BoxedComparison
import ScriptHost.Proofs.Indifference

/-!
# One order on numbers and boxed numbers

The comparison operators compare two numbers by themselves. Where a boxed number stands on either
side they call a function instead: that of the left side if the left side is boxed, that of the
right side if only the right one is. All three ways compare the doubles, so scripts see one order.
A function can be called only while the call depth allows one more entry; without it the comparison
fails and nothing has happened.

## Main definitions

* `Value.isSameObject`: whether two values are one host object.
* `Session.IsNumeric`: numbers, and boxed numbers that compare.
* `Session.operator`: the operator for a comparison.
* `Session.Answers`: an action gives an answer and leaves everything but the record of calls alone.

## Main results

* `Session.ends_operator_of_found`: an operator asks the metamethod that is found.
* `Session.answers_of_boxed`, `Session.answers_of_numbers`: with and without a boxed number, the
  answer is that of the doubles.
* `Session.comparison_of_numeric`: the three operators, admitted and refused.
-/

namespace ScriptHost

/-- Whether two values are one host object. -/
def Value.isSameObject : Value → Value → Bool
  | userdata u, userdata w => u.object.stamp == w.object.stamp
  | _, _ => false

namespace Session

/-- **Numeric values**: numbers, and boxed numbers that compare. -/
inductive IsNumeric (s : Session) : Value → Prop
  | number (x : Float) : s.IsNumeric (.number x)
  | boxed {w : Value} {p : Primitive} (h : s.Boxes w p) : s.IsNumeric w

/-- One of two values is boxed. -/
def HasBoxed (s : Session) (l r : Value) : Prop := ∃ p, s.Boxes l p ∨ s.Boxes r p

/-- The operator for a comparison. -/
def operator (call : Value → List Value → Action Value) :
    Comparison → Value → Value → Action Bool
  | .equal => equals call
  | .less => lessThan call
  | .lessEqual => lessEqual call

/-- **An action gives an answer**, and leaves the session as it was, the counters of the call depth
included; only calls may have been noted. -/
def Answers (s : Session) (a : Action Bool) (b : Bool) : Prop :=
  ∃ calls, a.Ends s (.ok b) { s with invocations := calls ++ s.invocations }

section

variable {s t : Session} {l r : Value} {x y : Float} {c : Comparison}

/-! ## Which function is asked -/

theorem IsNumeric.isTuple (h : s.IsNumeric l) : l.isTuple = false := by
  cases h with
  | number x => rfl
  | boxed h => exact h.isTuple

theorem isPlain_number (s : Session) (x : Float) : s.IsPlain (.number x) := ⟨rfl, rfl⟩

/-- Where a boxed number stands on either side, a function that compares is found. -/
theorem IsNumeric.found (hl : s.IsNumeric l) (hboxed : s.HasBoxed l r) (c : Comparison) :
    ∃ kind stamp, (s.heap.metamethod? l (comparisonEvent c)).or
      (s.heap.metamethod? r (comparisonEvent c)) = some (.function (c.function kind stamp)) := by
  obtain ⟨p, hleft | hright⟩ := hboxed
  · obtain ⟨stamp, hstamp⟩ := hleft.metamethod? c
    exact ⟨p.kind, stamp, by rw [hstamp, Option.some_or]⟩
  · -- The right side is asked only if the left one is a plain number.
    apply Comparable.found _ hright c
    cases hl with
    | number x => exact Or.inl (isPlain_number s x)
    | boxed h => exact Or.inr ⟨_, h⟩

/-- What is found for two numbers or two strings is nothing, so they are compared directly. -/
theorem not_found_of_plain {event : String} {m : Value} (hl : s.heap.metatable? l = none)
    (hr : s.heap.metatable? r = none)
    (hfound : (s.heap.metamethod? l event).or (s.heap.metamethod? r event) = some m) : False := by
  simp [Heap.metamethod?, hl, hr] at hfound

/-- An operator asks the metamethod that is found, and takes its answer as a truth value.
Equality of the same values does not ask. -/
theorem ends_operator_of_found {call : Value → List Value → Action Value} {m : Value}
    {o : Except ScriptError Value} (hsame : c = .equal → l.same r = false)
    (hfound : (s.heap.metamethod? l (comparisonEvent c)).or
      (s.heap.metamethod? r (comparisonEvent c)) = some m)
    (h : (call m [l, r]).Ends s o t) : (operator call c l r).Ends s (o.map Value.truthy) t := by
  have hmetamethod : (metamethodOf (comparisonEvent c) l r).exec s = (.ok (some m), s) := by
    rw [← hfound]
    rfl
  -- The answer of the call decides, whatever it is.
  have hasked : (call m [l, r] >>= fun v => (pure v.truthy : Action Bool)).Ends s
      (o.map Value.truthy) t := by
    apply Action.ends_bind_iff.mpr
    cases o with
    | ok v => exact Or.inl ⟨v, t, h, Action.ends_pure.mpr ⟨rfl, rfl⟩⟩
    | error e => exact Or.inr ⟨e, h, rfl⟩
  cases c with
  | equal => exact ends_equals_of_metamethod (hsame rfl) hfound h
  | less =>
    show (lessThan call l r).Ends s _ t
    unfold lessThan
    split
    · exact (not_found_of_plain rfl rfl hfound).elim
    · exact (not_found_of_plain rfl rfl hfound).elim
    · exact (Action.ends_bind_of_exec hmetamethod).mpr hasked
  | lessEqual =>
    show (lessEqual call l r).Ends s _ t
    unfold lessEqual
    split
    · exact (not_found_of_plain rfl rfl hfound).elim
    · exact (not_found_of_plain rfl rfl hfound).elim
    · exact (Action.ends_bind_of_exec hmetamethod).mpr hasked

/-! ## The answers -/

/-- With a boxed number on either side, and one more entry allowed, the answer is that of the
doubles. -/
theorem answers_of_boxed {entered : CallDepth} (hl : s.IsNumeric l) (hr : s.IsNumeric r)
    (hboxed : s.HasBoxed l r) (hx : l.toNumber? = some x) (hy : r.toNumber? = some y)
    (hentered : s.depth.enter? s.capacity = some entered)
    (hsame : c = .equal → l.same r = false) (fuel : Nat) :
    s.Answers (operator (call (fuel + 2)) c l r) (compareDoubles c x y) := by
  obtain ⟨kind, stamp, hfound⟩ := hl.found hboxed c
  have hends : (call (fuel + 2) (.function (c.function kind stamp)) [l, r]).Ends s _ _ :=
    ends_call_comparison hentered fuel [l, r]
  -- The function gets both operands as they are, and reads each as its double.
  rw [← get_operand_zero hl.isTuple r] at hx
  rw [← get_operand_one l hr.isTuple] at hy
  rw [ofList_operands l hr.isTuple, compareNumbers_of_numbers hx hy] at hends
  exact ⟨[_], ends_operator_of_found hsame hfound hends⟩

/-- **Two numbers** are compared directly, whatever the call depth. -/
theorem answers_of_numbers (call : Value → List Value → Action Value) (x y : Float)
    (c : Comparison) :
    s.Answers (operator call c (.number x) (.number y)) (compareDoubles c x y) := by
  refine ⟨[], ?_⟩
  cases c with
  | less => exact Action.ends_pure.mpr ⟨rfl, rfl⟩
  | lessEqual => exact Action.ends_pure.mpr ⟨rfl, rfl⟩
  | equal =>
    show (equals call (.number x) (.number y)).Ends s (.ok (x == y)) s
    have hsame : Value.same (.number x) (.number y) = (x == y) := by simp [Value.same]
    unfold equals
    rw [hsame]
    cases x == y with
    | true => exact Action.ends_pure.mpr ⟨rfl, rfl⟩
    | false => exact Action.ends_pure.mpr ⟨rfl, rfl⟩

/-- Of numeric values, only two numbers can be the same without being one object. -/
theorem same_eq_isSameObject (hl : s.IsNumeric l) (hr : s.IsNumeric r)
    (hboxed : s.HasBoxed l r) : l.same r = l.isSameObject r := by
  cases hl with
  | number x =>
    obtain ⟨p, ⟨_, _, hleft, -⟩ | ⟨_, _, rfl, -⟩⟩ := hboxed
    · cases hleft
    · simp [Value.same, Value.isSameObject]
  | boxed h =>
    obtain ⟨_, _, rfl, -⟩ := h
    cases hr with
    | number y => simp [Value.same, Value.isSameObject]
    | boxed h =>
      obtain ⟨_, _, rfl, -⟩ := h
      simp [Value.same, Value.isSameObject]

/-- Numeric values of which none is boxed are two numbers. -/
theorem IsNumeric.hasBoxed_or (hl : s.IsNumeric l) (hr : s.IsNumeric r) :
    s.HasBoxed l r ∨ ∃ x y, l = .number x ∧ r = .number y := by
  cases hl with
  | boxed h => exact Or.inl ⟨_, Or.inl h⟩
  | number x =>
    cases hr with
    | boxed h => exact Or.inl ⟨_, Or.inr h⟩
    | number y => exact Or.inr ⟨x, y, rfl, rfl⟩

/-- Strict order and order answer as the doubles do. -/
theorem answers_of_ordered {entered : CallDepth} (hl : s.IsNumeric l) (hr : s.IsNumeric r)
    (hx : l.toNumber? = some x) (hy : r.toNumber? = some y)
    (hentered : s.depth.enter? s.capacity = some entered) (hc : c ≠ .equal) (fuel : Nat) :
    s.Answers (operator (call (fuel + 2)) c l r) (compareDoubles c x y) := by
  rcases hl.hasBoxed_or hr with hboxed | ⟨x', y', rfl, rfl⟩
  · exact answers_of_boxed hl hr hboxed hx hy hentered (fun h => absurd h hc) fuel
  · obtain rfl := Option.some.inj hx
    obtain rfl := Option.some.inj hy
    exact answers_of_numbers _ _ _ c

/-- Equality answers as the doubles do, but one object is equal to itself. -/
theorem answers_equals {entered : CallDepth} (hl : s.IsNumeric l) (hr : s.IsNumeric r)
    (hx : l.toNumber? = some x) (hy : r.toNumber? = some y)
    (hentered : s.depth.enter? s.capacity = some entered) (fuel : Nat) :
    s.Answers (equals (call (fuel + 2)) l r) (l.isSameObject r || x == y) := by
  rcases hl.hasBoxed_or hr with hboxed | ⟨x', y', rfl, rfl⟩
  · have hsame := same_eq_isSameObject hl hr hboxed
    rw [← hsame]
    cases hcase : l.same r with
    | true => exact ⟨[], ends_equals_of_same _ hcase⟩
    | false =>
      exact answers_of_boxed hl hr hboxed hx hy hentered (c := .equal) (fun _ => hcase) fuel
  · obtain rfl := Option.some.inj hx
    obtain rfl := Option.some.inj hy
    exact answers_of_numbers _ _ _ .equal

/-! ## Comparisons that are refused -/

theorem ends_call_of_refused (hrefused : s.depth.enter? s.capacity = none) (fuel : Nat)
    (target : Value) (args : List Value) :
    (call fuel target args).Ends s (.error .stackOverflow) s :=
  Action.ends_error_iff.mpr (exec_enter_of_refused hrefused)

/-- A comparison that would need a call is refused with it. -/
theorem ends_operator_of_refused (hl : s.IsNumeric l) (hboxed : s.HasBoxed l r)
    (hrefused : s.depth.enter? s.capacity = none) (hsame : c = .equal → l.same r = false)
    (fuel : Nat) : (operator (call fuel) c l r).Ends s (.error .stackOverflow) s := by
  obtain ⟨kind, stamp, hfound⟩ := hl.found hboxed c
  exact ends_operator_of_found hsame hfound (ends_call_of_refused hrefused fuel _ _)

/-- **The comparison operators have one meaning** on numbers and boxed numbers of all kinds, in
either order: while one more entry is allowed they compare the doubles, but one object is equal to
itself even if its double is not a number; they leave the counters of the call depth as they were.
Where no further entry is allowed, an operator that would have to call a function fails with the
overflow, and nothing has changed. -/
theorem comparison_of_numeric (hl : s.IsNumeric l) (hr : s.IsNumeric r)
    (hx : l.toNumber? = some x) (hy : r.toNumber? = some y) (fuel : Nat) :
    (∀ entered, s.depth.enter? s.capacity = some entered →
      s.Answers (lessThan (call (fuel + 2)) l r) (x < y) ∧
      s.Answers (lessEqual (call (fuel + 2)) l r) (x ≤ y) ∧
      s.Answers (equals (call (fuel + 2)) l r) (l.isSameObject r || x == y)) ∧
    (s.depth.enter? s.capacity = none → s.HasBoxed l r →
      (lessThan (call (fuel + 2)) l r).Ends s (.error .stackOverflow) s ∧
      (lessEqual (call (fuel + 2)) l r).Ends s (.error .stackOverflow) s ∧
      (l.isSameObject r = false →
        (equals (call (fuel + 2)) l r).Ends s (.error .stackOverflow) s)) := by
  constructor
  · intro entered hentered
    refine ⟨?_, ?_, answers_equals hl hr hx hy hentered fuel⟩
    · exact answers_of_ordered (c := .less) hl hr hx hy hentered nofun fuel
    · exact answers_of_ordered (c := .lessEqual) hl hr hx hy hentered nofun fuel
  · intro hrefused hboxed
    refine ⟨?_, ?_, fun hobject => ?_⟩
    · exact ends_operator_of_refused (c := .less) hl hboxed hrefused nofun _
    · exact ends_operator_of_refused (c := .lessEqual) hl hboxed hrefused nofun _
    · rw [← same_eq_isSameObject hl hr hboxed] at hobject
      exact ends_operator_of_refused (c := .equal) hl hboxed hrefused (fun _ => hobject) _

end

/-- The single that is no number. -/
def noNumber : Primitive := .single (Float32.ofBits 0x7fc00000)

/-- A boxed single that is no number is not less than or equal to itself, but it is equal to itself;
a number is compared with a boxed one on its right by the function of that one. -/
theorem comparison_of_numeric_without_number :
    (boxedPair noNumber five).2.IsNumeric (boxedPair noNumber five).1.1 ∧
    (boxedPair noNumber five).2.IsNumeric (boxedPair noNumber five).1.2 ∧
    (boxedPair noNumber five).2.depth.enter? (boxedPair noNumber five).2.capacity =
      some CallDepth.zero.entered ∧
    (boxedPair noNumber five).2.Answers
      (lessEqual (call 2) (boxedPair noNumber five).1.1 (boxedPair noNumber five).1.1) false ∧
    (boxedPair noNumber five).2.Answers
      (equals (call 2) (boxedPair noNumber five).1.1 (boxedPair noNumber five).1.1) true ∧
    (boxedPair noNumber five).2.Answers
      (lessThan (call 2) (.number 4.5) (boxedPair noNumber five).1.2) true := by
  obtain ⟨hnone, hfive⟩ := boxes_boxedPair noNumber five
  have hentered : (boxedPair noNumber five).2.depth.enter?
      (boxedPair noNumber five).2.capacity = some CallDepth.zero.entered := rfl
  have hself := (comparison_of_numeric (.boxed hnone) (.boxed hnone) hnone.toNumber?
    hnone.toNumber? 0).1 _ hentered
  have hless := (comparison_of_numeric (.number 4.5) (.boxed hfive) rfl hfive.toNumber? 0).1 _
    hentered
  have hdoubles : decide (noNumber.toDouble ≤ noNumber.toDouble) = false := by decide
  have hfivehalf : decide ((4.5 : Float) < five.toDouble) = true := by decide
  rw [hdoubles] at hself
  rw [hfivehalf] at hless
  exact ⟨.boxed hnone, .boxed hfive, hentered, hself.2.1, hself.2.2, hless.1⟩

end Session

end ScriptHost
