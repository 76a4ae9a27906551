import ScriptHost.Operator
import ScriptHost.Module
import ScriptHost.Proofs.Border
import ScriptHost.Proofs.DoublePatterns
import ScriptHost.Proofs.Growth
import ScriptHost.Proofs.ProtectedCall

/-!
# Comparing boxed numbers

A boxed number has the metatable of its kind, whose functions compare it with other values as
doubles. An operator that finds such a function on either side calls it, so its answer is that of
the doubles; an operand that is not read as a number is refused by the function, and the operator
fails with it. Equality is no exception: it answers only for what is read as a number.

## Main definitions

* `Session.ComparesAs`, `Session.Boxes`: metatables that compare, and the boxed numbers that have
  them.
* `Session.NumberTablesIntact`: the metatables kept for boxed numbers are as they were made.
* `Session.noted`, `Session.errorLeaving`: the session and the error that a comparison leaves.
* `Session.IsPlain`, `Session.Comparable`: the values that boxed numbers are compared with.

## Main results

* `Session.boxes_box`: boxing gives a boxed number that compares.
* `Session.ends_call_of_ends_run`, `Session.ends_call_comparison`: a call of a function that answers
  at once, such as a comparison, ends as the function does.
* `Session.equality_of_boxed`: equality of a boxed number with a value, on either side.
* `Session.equality_with_nil_fails`: equality with nil is an error.
-/

namespace ScriptHost

/-! ## Comparing operands -/

namespace Session

section

variable {function : String} {a : Arguments} {i : Nat} {x y : Float}

/-- An operand that is read as a number is that number. -/
theorem operand_of_toNumber? (h : (a.get i).toNumber? = some x) :
    operand function a i = .ok x := by
  unfold operand
  cases hv : a.get i with
  | userdata u =>
    rw [hv] at h
    obtain ⟨p, hp, rfl⟩ := Option.map_eq_some_iff.mp h
    simp only [hp]
  | _ =>
    rw [hv] at h
    simp only [h]

/-- An operand that is not read as a number is refused, by its position. -/
theorem operand_of_not_number (h : (a.get i).toNumber? = none) :
    ∃ message, operand function a i = .error (.badArgument (i + 1) function message) := by
  unfold operand
  cases hv : a.get i with
  | userdata u =>
    rw [hv] at h
    simp only [Option.map_eq_none_iff.mp h]
    exact ⟨_, rfl⟩
  | _ =>
    rw [hv] at h
    simp only [h]
    exact ⟨_, rfl⟩

theorem compareNumbers_of_numbers (hx : (a.get 0).toNumber? = some x)
    (hy : (a.get 1).toNumber? = some y) (c : Comparison) :
    compareNumbers function c a = .ok (.bool (compareDoubles c x y)) := by
  unfold compareNumbers
  rw [operand_of_toNumber? hx, operand_of_toNumber? hy]
  rfl

theorem compareNumbers_of_left (hx : (a.get 0).toNumber? = none) (c : Comparison) :
    ∃ message, compareNumbers function c a = .error (.badArgument 1 function message) := by
  obtain ⟨message, hfault⟩ :
      ∃ message, operand function a 0 = .error (.badArgument 1 function message) :=
    operand_of_not_number hx
  refine ⟨message, ?_⟩
  unfold compareNumbers
  rw [hfault]
  rfl

theorem compareNumbers_of_right (hx : (a.get 0).toNumber? = some x)
    (hy : (a.get 1).toNumber? = none) (c : Comparison) :
    ∃ message, compareNumbers function c a = .error (.badArgument 2 function message) := by
  obtain ⟨message, hfault⟩ :
      ∃ message, operand function a 1 = .error (.badArgument 2 function message) :=
    operand_of_not_number hy
  refine ⟨message, ?_⟩
  unfold compareNumbers
  rw [operand_of_toNumber? hx, hfault]
  rfl

/-- A comparison answers with a truth value, if it answers. -/
theorem isFinal_of_compareNumbers {c : Comparison} {v : Value}
    (h : compareNumbers function c a = .ok v) : v.IsFinal := by
  unfold compareNumbers at h
  intro r hr
  subst hr
  cases hleft : operand function a 0 with
  | error e => rw [hleft] at h; cases h
  | ok x =>
    cases hright : operand function a 1 with
    | error e => rw [hleft, hright] at h; cases h
    | ok y => rw [hleft, hright] at h; cases h

end

end Session

/-! ## Boxed numbers that compare -/

/-- The function by which numbers of a kind are compared. -/
def Comparison.function (c : Comparison) (kind : NumericKind) (stamp : Nat) : Function :=
  ⟨stamp, kind.name ++ Session.comparisonEvent c, .compare kind c⟩

namespace Session

/-- **A metatable that compares**: it has the functions by which numbers of a kind are compared. -/
def ComparesAs (s : Session) (kind : NumericKind) (t : TableId) : Prop :=
  ∀ c, ∃ stamp, (s.heap.table t).get (.name (comparisonEvent c)) =
    .function (c.function kind stamp)

/-- **Boxed numbers that compare**: objects that hold a number, with a metatable that compares. -/
def Boxes (s : Session) (w : Value) (p : Primitive) : Prop :=
  ∃ stamp t, w = .userdata ⟨⟨stamp, .primitive p⟩, some t⟩ ∧ s.ComparesAs p.kind t

/-- The metatables kept for boxed numbers are as they were made. -/
def NumberTablesIntact (s : Session) : Prop :=
  ∀ kind t, s.numberTables.get? kind = some t → s.ComparesAs kind t

section

variable {s u : Session}

/-- A metatable that compares does so in every later heap. -/
theorem ComparesAs.extends {kind : NumericKind} {t : TableId} (h : s.ComparesAs kind t)
    (hlater : s.heap.Extends u.heap) : u.ComparesAs kind t := by
  have ht : t.index < s.heap.tables.size := by
    by_contra hout
    have hempty : s.heap.table t = .empty := by
      simp [Heap.table, Array.getD, hout]
    obtain ⟨stamp, hequal⟩ := h .equal
    simp [hempty] at hequal
  intro c
  rw [hlater.table ht]
  exact h c

theorem Boxes.extends {w : Value} {p : Primitive} (h : s.Boxes w p)
    (hlater : s.heap.Extends u.heap) : u.Boxes w p := by
  obtain ⟨stamp, t, rfl, ht⟩ := h
  exact ⟨stamp, t, rfl, ht.extends hlater⟩

/-- What the metatable of a kind holds, with the stamps its functions get. -/
def comparisons (kind : NumericKind) (stamp : Nat) : Table :=
  let function (c : Comparison) (stamp : Nat) : Value := .function (c.function kind stamp)
  Table.empty
    |>.set (.name (comparisonEvent .equal)) (function .equal stamp)
    |>.set (.name (comparisonEvent .less)) (function .less (stamp + 1))
    |>.set (.name (comparisonEvent .lessEqual)) (function .lessEqual (stamp + 2))

theorem get_comparisons (kind : NumericKind) (stamp : Nat) (c : Comparison) :
    ∃ stamp', (comparisons kind stamp).get (.name (comparisonEvent c)) =
      .function (c.function kind stamp') := by
  cases c
  case equal => exact ⟨stamp, by simp [comparisons, Table.get_set, comparisonEvent]⟩
  case less => exact ⟨stamp + 1, by simp [comparisons, Table.get_set, comparisonEvent]⟩
  case lessEqual => exact ⟨stamp + 2, by simp [comparisons, Table.get_set, comparisonEvent]⟩

theorem run_numberTable_of_kept {kind : NumericKind} {t : TableId}
    (hkept : s.numberTables.get? kind = some t) : (numberTable kind).run s = (t, s) := by
  simp only [numberTable, StateT.run_bind, StateT.run_get, pure_bind, hkept, StateT.run_pure]
  rfl

theorem run_numberTable_of_none {kind : NumericKind} (hnone : s.numberTables.get? kind = none) :
    (numberTable kind).run s =
      (⟨s.heap.tables.size⟩,
        { s with
          heap := { ({ s.heap with nextStamp := s.heap.nextStamp + 3 } : Heap) with
            tables := s.heap.tables.push (comparisons kind s.heap.nextStamp) }
          numberTables := s.numberTables.insert kind ⟨s.heap.tables.size⟩ }) := by
  simp only [numberTable, StateT.run_bind, StateT.run_get, pure_bind, hnone]
  rfl

/-- The metatable of a kind compares, whether it is kept or made only now. -/
theorem comparesAs_numberTable (hs : s.NumberTablesIntact) (kind : NumericKind) :
    ((numberTable kind).run s).2.ComparesAs kind ((numberTable kind).run s).1 := by
  cases hkept : s.numberTables.get? kind with
  | some t =>
    rw [run_numberTable_of_kept hkept]
    exact hs kind t hkept
  | none =>
    rw [run_numberTable_of_none hkept]
    intro c
    have hnew := get_comparisons kind s.heap.nextStamp c
    simpa [Heap.table] using hnew

theorem numberTablesIntact_numberTable (hs : s.NumberTablesIntact) (kind : NumericKind) :
    ((numberTable kind).run s).2.NumberTablesIntact := by
  intro kind' t' hkept'
  cases hkept : s.numberTables.get? kind with
  | some t =>
    rw [run_numberTable_of_kept hkept] at hkept' ⊢
    exact hs kind' t' hkept'
  | none =>
    -- The table made now is the only one that was not kept before.
    have hget : ((numberTable kind).run s).2.numberTables.get? kind' =
        if kind' = kind then some ((numberTable kind).run s).1
        else s.numberTables.get? kind' := by
      rw [run_numberTable_of_none hkept]
      exact Keyed.get?_insert _ _ _ _
    rw [hget] at hkept'
    split at hkept'
    case isTrue heq =>
      obtain rfl := Option.some.inj hkept'
      rw [heq]
      exact comparesAs_numberTable hs kind
    case isFalse => exact (hs kind' t' hkept').extends (grows_numberTable kind s).heap

/-- Boxing gives a boxed number that compares. -/
theorem boxes_box (hs : s.NumberTablesIntact) (p : Primitive) :
    ((box p).run s).2.Boxes ((box p).run s).1 p :=
  ⟨_, _, rfl, (comparesAs_numberTable hs p.kind).extends (Heap.Extends.refl _)⟩

theorem numberTablesIntact_box (hs : s.NumberTablesIntact) (p : Primitive) :
    ((box p).run s).2.NumberTablesIntact := by
  intro kind t hkept
  exact (numberTablesIntact_numberTable hs p.kind kind t hkept).extends (Heap.Extends.refl _)

theorem numberTablesIntact_bare (capacity : Nat) : (bare capacity).NumberTablesIntact := by
  intro kind t hkept
  cases hkept

end

/-! ## Calls of comparisons -/

/-- The session with a call noted. -/
def noted (s : Session) (i : Invocation) : Session := { s with invocations := i :: s.invocations }

/-- The error as it leaves a call made from a session: wrapped if the call is the outermost one
and errors are to leave it as failures of the host. -/
def errorLeaving (s : Session) (target : Value) (e : ScriptError) : ScriptError :=
  if s.depth.isIdle && s.settings.rethrowNested then rethrown target e else e

section

variable {s : Session} {f : Function} {args : List Value} {o : Except ScriptError Value}

theorem ends_process_of_ends_run
    (hrun : ∀ re (s : Session), (f.run re (.ofList args false)).Ends s o
      (s.noted ⟨f, .ofList args false⟩))
    (hfinal : ∀ v, o = .ok v → v.IsFinal) (fuel : Nat) :
    (process (fuel + 2) (.function f) args).Ends s o (s.noted ⟨f, .ofList args false⟩) := by
  rw [process]
  apply Action.ends_get_bind.mpr
  apply Trampoline.ends_loop_succ_iff.mpr
  refine ⟨_, _, hrun _ _, ?_⟩
  -- The function answers with a value or an error, and no frame is pending.
  rw [Trampoline.next_new hfinal]
  exact Trampoline.leads_stop_iff.mpr ⟨rfl, rfl⟩

/-- **A call of a function that answers at once**, when it is let in, ends as the function does and
leaves the session as it was but for the note of the call. -/
theorem ends_call_of_ends_run
    (hrun : ∀ re (s : Session), (f.run re (.ofList args false)).Ends s o
      (s.noted ⟨f, .ofList args false⟩))
    (hfinal : ∀ v, o = .ok v → v.IsFinal) {entered : CallDepth}
    (hentered : s.depth.enter? s.capacity = some entered) (fuel : Nat) :
    (call (fuel + 2) (.function f) args).Ends s (o.mapError (s.errorLeaving (.function f)))
      (s.noted ⟨f, .ofList args false⟩) := by
  apply (ends_enter_of_enter? hentered).mpr
  refine ⟨_, _, ends_process_of_ends_run hrun hfinal fuel, ?_, rfl⟩
  simp only [noted, CallDepth.leave_of_enter? hentered]

end

section

variable {s : Session} {kind : NumericKind} {c : Comparison} {stamp : Nat}

theorem ends_run_comparison (re : Reentry) (a : Arguments) :
    ((c.function kind stamp).run re a).Ends s
      (compareNumbers (c.function kind stamp).name c a) (s.noted ⟨c.function kind stamp, a⟩) := by
  unfold Function.run
  refine (Action.ends_bind_of_exec (Action.exec_lift _ _)).mpr ?_
  exact Action.ends_ofExcept.mpr ⟨rfl, rfl⟩

/-- **A call of a comparison** that is let in ends as the comparison does. -/
theorem ends_call_comparison {entered : CallDepth}
    (hentered : s.depth.enter? s.capacity = some entered) (fuel : Nat) (args : List Value) :
    (call (fuel + 2) (.function (c.function kind stamp)) args).Ends s
      ((compareNumbers (c.function kind stamp).name c (.ofList args false)).mapError
        (s.errorLeaving (.function (c.function kind stamp))))
      (s.noted ⟨c.function kind stamp, .ofList args false⟩) :=
  ends_call_of_ends_run (fun re _ => ends_run_comparison re _)
    (fun _ hv => isFinal_of_compareNumbers hv) hentered fuel

end

/-! ## Equality -/

section

variable {s : Session} {l r v w : Value} {p : Primitive}

/-- Plain values: single values without a metatable. -/
def IsPlain (s : Session) (v : Value) : Prop := v.isTuple = false ∧ s.heap.metatable? v = none

theorem comparesByMetamethod_of_metamethod? {event : String} {m : Value}
    (h : s.heap.metamethod? v event = some m) : comparesByMetamethod v = true := by
  cases v <;> first | rfl | cases h

/-- Equality of different values asks the metamethod that is found, and takes its answer as a truth
value. -/
theorem ends_equals_of_metamethod {call : Value → List Value → Action Value} {m : Value}
    {t : Session} {o : Except ScriptError Value} (hsame : l.same r = false)
    (hfound : (s.heap.metamethod? l "__eq").or (s.heap.metamethod? r "__eq") = some m)
    (h : (call m [l, r]).Ends s o t) : (equals call l r).Ends s (o.map Value.truthy) t := by
  have hasked : (!comparesByMetamethod l && !comparesByMetamethod r) = false := by
    rcases Option.or_eq_some_iff.mp hfound with hl | ⟨-, hr⟩
    · simp [comparesByMetamethod_of_metamethod? hl]
    · simp [comparesByMetamethod_of_metamethod? hr]
  have hmetamethod : (metamethodOf "__eq" l r).exec s = (.ok (some m), s) := by
    rw [← hfound]
    rfl
  simp only [equals, hsame, hasked, Bool.false_eq_true, if_false]
  refine (Action.ends_bind_of_exec hmetamethod).mpr ?_
  apply Action.ends_bind_iff.mpr
  cases o with
  | ok x => exact Or.inl ⟨x, t, h, Action.ends_pure.mpr ⟨rfl, rfl⟩⟩
  | error e => exact Or.inr ⟨e, h, rfl⟩

theorem ends_equals_of_same (call : Value → List Value → Action Value) (h : l.same r = true) :
    (equals call l r).Ends s (.ok true) s := by
  simp [equals, h]

theorem IsPlain.metamethod? (h : s.IsPlain v) (event : String) :
    s.heap.metamethod? v event = none := by
  simp [Heap.metamethod?, h.2]

theorem Boxes.metamethod? (h : s.Boxes w p) (c : Comparison) :
    ∃ stamp, s.heap.metamethod? w (comparisonEvent c) =
      some (.function (c.function p.kind stamp)) := by
  obtain ⟨_, t, rfl, ht⟩ := h
  obtain ⟨stamp, hget⟩ := ht c
  exact ⟨stamp, by simp [Heap.metamethod?, Heap.metatable?, hget, Value.isNil]⟩

theorem Boxes.isTuple (h : s.Boxes w p) : w.isTuple = false := by
  obtain ⟨_, _, rfl, -⟩ := h
  rfl

theorem Boxes.toNumber? (h : s.Boxes w p) : w.toNumber? = some p.toDouble := by
  obtain ⟨_, _, rfl, -⟩ := h
  rfl

theorem Boxes.same_comm (h : s.Boxes w p) (v : Value) : v.same w = w.same v := by
  obtain ⟨_, _, rfl, -⟩ := h
  cases v <;> simp [Value.same, BEq.comm]

/-- The arguments that a metamethod of two values gets. -/
theorem ofList_operands (l : Value) (hr : r.isTuple = false) :
    Arguments.ofList [l, r] false = ⟨[l, r], false⟩ := by
  cases r <;> first | rfl | cases hr

theorem get_operand_zero (hl : l.isTuple = false) (r : Value) :
    (⟨[l, r], false⟩ : Arguments).get 0 = l := Value.first_of_isTuple hl

theorem get_operand_one (l : Value) (hr : r.isTuple = false) :
    (⟨[l, r], false⟩ : Arguments).get 1 = r := Value.first_of_isTuple hr

/-- Values that boxed numbers are compared with: plain values and other boxed numbers. -/
def Comparable (s : Session) (v : Value) : Prop := s.IsPlain v ∨ ∃ q, s.Boxes v q

theorem Comparable.isTuple (h : s.Comparable v) : v.isTuple = false := by
  rcases h with hplain | ⟨q, hboxed⟩
  · exact hplain.1
  · exact hboxed.isTuple

/-- Of two values, the second a boxed number, one has a function that compares them. -/
theorem Comparable.found (hl : s.Comparable l) (hr : s.Boxes r p) (c : Comparison) :
    ∃ kind stamp, (s.heap.metamethod? l (comparisonEvent c)).or
      (s.heap.metamethod? r (comparisonEvent c)) = some (.function (c.function kind stamp)) := by
  rcases hl with hplain | ⟨q, hboxed⟩
  · obtain ⟨stamp, hstamp⟩ := hr.metamethod? c
    exact ⟨p.kind, stamp, by rw [hplain.metamethod? _, hstamp, Option.none_or]⟩
  · obtain ⟨stamp, hstamp⟩ := hboxed.metamethod? c
    exact ⟨q.kind, stamp, by rw [hstamp, Option.some_or]⟩

section

variable {kind : NumericKind} {stamp : Nat} {entered : CallDepth} (hsame : l.same r = false)
  (hl : l.isTuple = false) (hr : r.isTuple = false)
  (hfound : (s.heap.metamethod? l "__eq").or (s.heap.metamethod? r "__eq") =
    some (.function (Comparison.equal.function kind stamp)))
  (hentered : s.depth.enter? s.capacity = some entered) (fuel : Nat)

include hsame hr hfound hentered

/-- Equality by a comparison, of two values that are different. -/
theorem ends_equals_comparison :
    (equals (call (fuel + 2)) l r).Ends s
      (((compareNumbers (kind.name ++ "__eq") .equal ⟨[l, r], false⟩).mapError
        (s.errorLeaving (.function (Comparison.equal.function kind stamp)))).map Value.truthy)
      (s.noted ⟨Comparison.equal.function kind stamp, ⟨[l, r], false⟩⟩) := by
  apply ends_equals_of_metamethod hsame hfound
  rw [← ofList_operands l hr]
  exact ends_call_comparison hentered fuel [l, r]

include hl

theorem ends_equals_of_numbers {x y : Float} (hx : l.toNumber? = some x)
    (hy : r.toNumber? = some y) :
    (equals (call (fuel + 2)) l r).Ends s (.ok (x == y))
      (s.noted ⟨Comparison.equal.function kind stamp, ⟨[l, r], false⟩⟩) := by
  have hends := ends_equals_comparison hsame hr hfound hentered fuel
  rw [← get_operand_zero hl r] at hx
  rw [← get_operand_one l hr] at hy
  rwa [compareNumbers_of_numbers hx hy] at hends

theorem ends_equals_of_left (hx : l.toNumber? = none) :
    ∃ message, (equals (call (fuel + 2)) l r).Ends s
      (.error (s.errorLeaving (.function (Comparison.equal.function kind stamp))
        (.badArgument 1 (kind.name ++ "__eq") message)))
      (s.noted ⟨Comparison.equal.function kind stamp, ⟨[l, r], false⟩⟩) := by
  have hends := ends_equals_comparison hsame hr hfound hentered fuel
  rw [← get_operand_zero hl r] at hx
  obtain ⟨message, hfault⟩ :
      ∃ message, compareNumbers (kind.name ++ "__eq") .equal ⟨[l, r], false⟩ =
        .error (.badArgument 1 (kind.name ++ "__eq") message) := compareNumbers_of_left hx .equal
  rw [hfault] at hends
  exact ⟨message, hends⟩

theorem ends_equals_of_right {x : Float} (hx : l.toNumber? = some x) (hy : r.toNumber? = none) :
    ∃ message, (equals (call (fuel + 2)) l r).Ends s
      (.error (s.errorLeaving (.function (Comparison.equal.function kind stamp))
        (.badArgument 2 (kind.name ++ "__eq") message)))
      (s.noted ⟨Comparison.equal.function kind stamp, ⟨[l, r], false⟩⟩) := by
  have hends := ends_equals_comparison hsame hr hfound hentered fuel
  rw [← get_operand_zero hl r] at hx
  rw [← get_operand_one l hr] at hy
  obtain ⟨message, hfault⟩ :
      ∃ message, compareNumbers (kind.name ++ "__eq") .equal ⟨[l, r], false⟩ =
        .error (.badArgument 2 (kind.name ++ "__eq") message) :=
    compareNumbers_of_right hx hy .equal
  rw [hfault] at hends
  exact ⟨message, hends⟩

end

/-- Boxed numbers with equal doubles are equal. -/
theorem ends_equals_boxed {q : Primitive} {entered : CallDepth} (hw : s.Boxes w p)
    (hv : s.Boxes v q) (hentered : s.depth.enter? s.capacity = some entered) (fuel : Nat)
    (hdoubles : (p.toDouble == q.toDouble) = true) :
    ∃ t, (equals (call (fuel + 2)) w v).Ends s (.ok true) t := by
  cases hsame : w.same v with
  | true => exact ⟨s, ends_equals_of_same _ hsame⟩
  | false =>
    obtain ⟨kind, stamp, hfound⟩ := Comparable.found (Or.inr ⟨p, hw⟩) hv .equal
    have hends := ends_equals_of_numbers hsame hw.isTuple hv.isTuple hfound hentered fuel
      hw.toNumber? hv.toNumber?
    rw [hdoubles] at hends
    exact ⟨_, hends⟩

/-- **Equality of a boxed number with a value**, on either side. The same object is equal to itself.
Any other value is read as a number and compared by it, with one answer on both sides; a value that
is not read as a number, such as nil, is refused by its position, and equality fails. -/
theorem equality_of_boxed {entered : CallDepth} (hw : s.Boxes w p) (hv : s.Comparable v)
    (hentered : s.depth.enter? s.capacity = some entered) (fuel : Nat) :
    (w.same v = true →
      (equals (call (fuel + 2)) w v).Ends s (.ok true) s ∧
        (equals (call (fuel + 2)) v w).Ends s (.ok true) s) ∧
    (w.same v = false → ∀ y, v.toNumber? = some y → ∃ f g,
      (equals (call (fuel + 2)) w v).Ends s (.ok (p.toDouble == y))
          (s.noted ⟨f, ⟨[w, v], false⟩⟩) ∧
        (equals (call (fuel + 2)) v w).Ends s (.ok (p.toDouble == y))
          (s.noted ⟨g, ⟨[v, w], false⟩⟩)) ∧
    (w.same v = false → v.toNumber? = none → ∃ f left right, f.name = p.kind.name ++ "__eq" ∧
      (equals (call (fuel + 2)) w v).Ends s
          (.error (s.errorLeaving (.function f) (.badArgument 2 f.name right)))
          (s.noted ⟨f, ⟨[w, v], false⟩⟩) ∧
        (equals (call (fuel + 2)) v w).Ends s
          (.error (s.errorLeaving (.function f) (.badArgument 1 f.name left)))
          (s.noted ⟨f, ⟨[v, w], false⟩⟩)) := by
  have hsymm := hw.same_comm v
  obtain ⟨stamp, hown⟩ := hw.metamethod? .equal
  have hleft : (s.heap.metamethod? w "__eq").or (s.heap.metamethod? v "__eq") =
      some (.function (Comparison.equal.function p.kind stamp)) :=
    (congrArg (Option.or · _) hown).trans Option.some_or
  refine ⟨fun hsame => ?_, fun hsame y hy => ?_, fun hsame hnone => ?_⟩
  · exact ⟨ends_equals_of_same _ hsame, ends_equals_of_same _ (hsymm.trans hsame)⟩
  · -- With the value in front, the function may be that of another kind, which answers the same.
    obtain ⟨kind, stamp', hright⟩ := hv.found hw .equal
    have hends := ends_equals_of_numbers hsame hw.isTuple hv.isTuple hleft hentered fuel
      hw.toNumber? hy
    have hends' := ends_equals_of_numbers (hsymm.trans hsame) hv.isTuple hw.isTuple hright
      hentered fuel hy hw.toNumber?
    rw [BEq.comm] at hends'
    exact ⟨_, _, hends, hends'⟩
  · -- A value that is not read as a number is no boxed number, so it has no function of its own.
    have hplain : s.IsPlain v := by
      rcases hv with hplain | ⟨q, hboxed⟩
      · exact hplain
      · rw [hboxed.toNumber?] at hnone
        cases hnone
    have hright : (s.heap.metamethod? v "__eq").or (s.heap.metamethod? w "__eq") =
        some (.function (Comparison.equal.function p.kind stamp)) := by
      rw [hplain.metamethod? _, Option.none_or]
      exact hown
    obtain ⟨right, hends⟩ := ends_equals_of_right hsame hw.isTuple hv.isTuple hleft hentered fuel
      hw.toNumber? hnone
    obtain ⟨left, hends'⟩ := ends_equals_of_left (hsymm.trans hsame) hv.isTuple hw.isTuple hright
      hentered fuel hnone
    exact ⟨_, left, right, rfl, hends, hends'⟩

end

/-- Two numbers boxed in a new session, and the session with them. -/
def boxedPair (p q : Primitive) : (Value × Value) × Session :=
  let (w, s) := (box p).run (bare 1)
  let (v, t) := (box q).run s
  ((w, v), t)

theorem boxes_boxedPair (p q : Primitive) :
    (boxedPair p q).2.Boxes (boxedPair p q).1.1 p ∧
      (boxedPair p q).2.Boxes (boxedPair p q).1.2 q := by
  have hbare := numberTablesIntact_bare 1
  constructor
  · exact (boxes_box hbare p).extends (grows_box q _).heap
  · exact boxes_box (numberTablesIntact_box hbare p) q

/-- Five as an integer of 32 bits. -/
def five : Primitive := .integer .int32 5 (by decide)

/-- Five as a decimal with two places. -/
def decimalFive : Primitive := .decimal ⟨false, 500, 2, by decide, by decide⟩

theorem equality_of_boxed_across_kinds :
    (boxedPair five decimalFive).2.Boxes (boxedPair five decimalFive).1.1 five ∧
    (boxedPair five decimalFive).2.Comparable (boxedPair five decimalFive).1.2 ∧
    (boxedPair five decimalFive).2.depth.enter? (boxedPair five decimalFive).2.capacity =
      some CallDepth.zero.entered ∧
    ∃ t t', (equals (call 2) (boxedPair five decimalFive).1.1
          (boxedPair five decimalFive).1.2).Ends (boxedPair five decimalFive).2
          (.ok (five.toDouble == decimalFive.toDouble)) t ∧
        (equals (call 2) (boxedPair five decimalFive).1.2
          (boxedPair five decimalFive).1.1).Ends (boxedPair five decimalFive).2
          (.ok (five.toDouble == decimalFive.toDouble)) t' := by
  obtain ⟨hfive, hdecimal⟩ := boxes_boxedPair five decimalFive
  have hcomparable : (boxedPair five decimalFive).2.Comparable (boxedPair five decimalFive).1.2 :=
    Or.inr ⟨decimalFive, hdecimal⟩
  have hentered : (boxedPair five decimalFive).2.depth.enter?
      (boxedPair five decimalFive).2.capacity = some CallDepth.zero.entered := rfl
  obtain ⟨-, hnumber, -⟩ := equality_of_boxed hfive hcomparable hentered 0
  obtain ⟨f, g, hends, hends'⟩ := hnumber rfl _ hdecimal.toNumber?
  exact ⟨hfive, hcomparable, hentered, _, _, hends, hends'⟩

/-- **Equality with nil is an error**, although nil is no number. -/
theorem equality_with_nil_fails :
    ∃ t, (equals (call 2) ((box five).run (bare 1)).1 .nil).Ends ((box five).run (bare 1)).2
      (.error (.badArgument 2 "Int32__eq" "number expected, got nil")) t := by
  obtain ⟨stamp, hown⟩ := (boxes_box (numberTablesIntact_bare 1) five).metamethod? .equal
  exact ⟨_, ends_equals_comparison rfl rfl (congrArg (Option.or · _) hown) rfl 0⟩

end Session

end ScriptHost
