import ScriptHost.Proofs.AccessMode
import ScriptHost.Proofs.ProtectedCall

/-!
# The arguments of protected calls

A tuple at the end of a list of arguments stands for its values. A protected call is itself a call:
what it hands on has been expanded once when its target is called, and is expanded then once more.
Whether that makes a difference can be read off the arguments.

Which function got which arguments is read off the record of calls. The record only grows, since no
action looks at it: an action does the same after other calls, and records the same on top of them.

## Main definitions

* `Action.Recording`: the record of calls only grows.
* `Arguments.expanded`: the arguments as they are when they are handed on.

## Main results

* `Session.recorded_of_process`, `Session.recorded_of_process_pcall`: which call is made first, by a
  call and by a protected call.
* `Arguments.expanded_eq_iff`, `Arguments.expanded_eq_iff_of_flat`: when nothing changes in handing
  on.
* `Session.arguments_under_protection`: the arguments under protection and without.
-/

namespace ScriptHost

/-! ## The record of calls -/

namespace Action

variable {α : Type}

/-- **Recording actions** add to the record of calls, and leave in it what was there. -/
def Recording (a : Action α) : Prop := ∀ s, s.invocations <:+ (a.exec s).2.invocations

theorem Recording.of_indifferent {a : Action α} (h : ∀ calls, a.Indifferent (.earlier calls)) :
    a.Recording := by
  intro s
  -- The session is one without a record, after the calls recorded.
  have hexec := (h s.invocations).exec_eq { s with invocations := [] } trivial
  have hsession := congrArg (fun p => p.2.invocations) hexec
  rw [show ({ s with invocations := [] } : Session).under (.earlier s.invocations) = s from rfl]
    at hsession
  exact ⟨_, hsession.symm⟩

theorem exec_attempt_snd (a : Action α) (s : Session) : (a.attempt.exec s).2 = (a.exec s).2 := by
  rw [exec_attempt]
  rcases a.exec s with ⟨(e | _) | x, t⟩ <;> rfl

end Action

namespace Trampoline

variable {run : Function → Arguments → Action Value}

/-- The calls that the answer to a step makes stay recorded in the steps after it. -/
theorem answered_suffix_loop {fuel : Nat}
    (hloop : ∀ step frames, (loop run fuel step frames).Recording) (step : Step)
    (frames : BoundedStack Frame) (s : Session) :
    ((answer run step).exec s).2.invocations <:+
      ((loop run (fuel + 1) step frames).exec s).2.invocations := by
  rw [← Action.exec_attempt_snd, exec_loop_succ]
  rcases (answer run step).attempt.exec s with ⟨i | r, t⟩
  · exact List.suffix_refl _
  -- The transition changes nothing but the depth of calls.
  obtain ⟨depth, hdepth⟩ := session_next frames t r
  show t.invocations <:+ (resume (loop run fuel) (next frames t r)).2.invocations
  cases hnext : next frames t r with
  | go step' frames' s' =>
    obtain rfl : s' = { t with depth } := by rwa [hnext] at hdepth
    exact hloop step' frames' { t with depth }
  | stop o s' =>
    obtain rfl : s' = { t with depth } := by rwa [hnext] at hdepth
    exact List.suffix_refl _

theorem recording_loop (hanswer : ∀ step, (answer run step).Recording) (fuel : Nat) (step : Step)
    (frames : BoundedStack Frame) : (loop run fuel step frames).Recording := by
  induction fuel generalizing step frames with
  | zero => exact fun s => List.suffix_refl _
  | succ fuel ih => exact fun s => (hanswer step s).trans (answered_suffix_loop ih step frames s)

end Trampoline

/-- A new stamp changes no metamethods, and so no calls. -/
theorem callee_newStamp (heap : Heap) :
    ∀ (target : Value) (args : List Value),
      callee heap.newStamp.2 target args = callee heap target args
  | .tuple (v :: _), args => callee_newStamp heap v args
  | .tuple [], _ | .nil, _ | .bool _, _ | .number _, _ | .string _, _ | .table _, _
  | .function _, _ | .userdata _, _ | .request _, _ => rfl

namespace Session

section

variable {s : Session} {f : Value} {args : List Value} {g p : Function} {a : Arguments}

/-- A call is the first thing that a function records. -/
theorem recorded_of_run (fuel : Nat) (f : Function) (a : Arguments) (s : Session) :
    ⟨f, a⟩ :: s.invocations <:+ ((f.run (reentry fuel) a).exec s).2.invocations := by
  have hperform : (f.perform (reentry fuel) a).Recording := .of_indifferent fun calls =>
    (reentrant_perform f a).indifferent (indifferent_reentry (.earlier calls) fuel)
  exact hperform { s with invocations := ⟨f, a⟩ :: s.invocations }

theorem recording_answer (fuel : Nat) (step : Step) :
    (Trampoline.answer (Function.run (reentry fuel)) step).Recording :=
  .of_indifferent fun calls => Trampoline.indifferent_answer (fun f a =>
    (reentrant_run f a).indifferent (indifferent_reentry (.earlier calls) fuel)) step

/-- The loop records first the call that its first step makes. -/
theorem recorded_of_loop (hcallee : callee s.heap f args = .ok (g, a)) (fuel n : Nat)
    (frames : BoundedStack Frame) :
    ⟨g, a⟩ :: s.invocations <:+
      ((Trampoline.loop (Function.run (reentry fuel)) (n + 1) (.call f args) frames).exec
        s).2.invocations := by
  have hinvoke : (Trampoline.answer (Function.run (reentry fuel)) (.call f args)).exec s =
      (g.run (reentry fuel) a).exec s := by
    show (invoke _ f args).exec s = _
    rw [exec_invoke, hcallee]
  have hfirst := recorded_of_run fuel g a s
  rw [← hinvoke] at hfirst
  have hloop := Trampoline.recording_loop (recording_answer fuel) n
  exact hfirst.trans (Trampoline.answered_suffix_loop hloop (.call f args) frames s)

/-- A call in place first calls the function that stands for its target. -/
theorem recorded_of_process (hcallee : callee s.heap f args = .ok (g, a)) (n : Nat) :
    ⟨g, a⟩ :: s.invocations <:+ ((process (n + 2) f args).exec s).2.invocations :=
  recorded_of_loop hcallee (n + 1) n (.new s.capacity)

/-- A protected call in place is recorded, and then calls the function that stands for its
target. -/
theorem recorded_of_process_pcall {target : Value} {rest : List Value} {depth : CallDepth}
    (hp : p.code = .builtin .pcall)
    (hargs : (Arguments.ofList args false).values = target :: rest)
    (hcallee : callee s.heap target rest = .ok (g, a))
    (hclaim : s.depth.claim? s.capacity = some depth) (n : Nat) :
    ⟨g, a⟩ :: ⟨p, .ofList args false⟩ :: s.invocations <:+
      ((process (n + 3) (.function p) args).exec s).2.invocations := by
  have hanswer := ends_answer_pcall (reentry (n + 2)) hp hargs s
  have hholds : Trampoline.Holds s.control (.new s.capacity)
      (s.protecting p (.ofList args false) s.depth) := (Trampoline.holds_new s).congr rfl
  -- The request gets its frame, and the loop goes on with the call of the target.
  have hexec : (process (n + 3) (.function p) args).exec s =
      (Trampoline.loop (Function.run (reentry (n + 2))) (n + 1) (.call target rest)
        (Trampoline.pushed protectedFrame (.new s.capacity))).exec
          (s.protecting p (.ofList args false) depth) := by
    show (Trampoline.loop (Function.run (reentry (n + 2))) (n + 2) (.call (.function p) args)
      (.new s.capacity)).exec s = _
    rw [Trampoline.exec_loop_succ, show Action.exec _ s = _ from hanswer]
    simp only [Trampoline.next_request_of_claimed hholds hclaim]
    rfl
  have hcallee' : callee (s.protecting p (.ofList args false) depth).heap target rest =
      .ok (g, a) := (callee_newStamp s.heap target rest).trans hcallee
  rw [hexec]
  exact recorded_of_loop hcallee' (n + 2) n _

theorem invocations_enter {process : Value → List Value → Action Value} {entered : CallDepth}
    (hentered : s.depth.enter? s.capacity = some entered) :
    ((enter process f args).exec s).2.invocations =
      ((process f args).exec { s with depth := entered }).2.invocations := by
  rw [exec_enter_of_enter? hentered, ← Action.exec_attempt_snd]
  rcases (process f args).attempt.exec { s with depth := entered } with ⟨i | r, u⟩ <;> rfl

theorem exec_callGlobal_of_function {re : Reentry} {name : String}
    (hglobal : (s.heap.table s.globals).get (.name name) = .function p) :
    (callGlobal re name args).exec s = (re.call (.function p) args).exec s := by
  unfold callGlobal
  rw [Action.exec_bind_of_ok (Action.exec_get s), hglobal]

/-- A call that is let in first calls the function that stands for its target. -/
theorem recorded_of_call {entered : CallDepth} (hcallee : callee s.heap f args = .ok (g, a))
    (hentered : s.depth.enter? s.capacity = some entered) (n : Nat) :
    ⟨g, a⟩ :: s.invocations <:+ ((call (n + 2) f args).exec s).2.invocations := by
  show _ <:+ ((enter (process (n + 2)) f args).exec s).2.invocations
  rw [invocations_enter hentered]
  exact recorded_of_process (s := { s with depth := entered }) hcallee n

/-- A protected call that is let in, with a frame to claim, first calls the function that stands for
its target. -/
theorem recorded_of_callGlobal_pcall {target : Value} {rest : List Value}
    {entered depth : CallDepth}
    (hglobal : (s.heap.table s.globals).get (.name "pcall") = .function p)
    (hp : p.code = .builtin .pcall)
    (hargs : (Arguments.ofList args false).values = target :: rest)
    (hcallee : callee s.heap target rest = .ok (g, a))
    (hentered : s.depth.enter? s.capacity = some entered)
    (hclaim : entered.claim? s.capacity = some depth) (n : Nat) :
    ⟨g, a⟩ :: ⟨p, .ofList args false⟩ :: s.invocations <:+
      ((callGlobal (reentry (n + 3)) "pcall" args).exec s).2.invocations := by
  rw [exec_callGlobal_of_function hglobal]
  show _ <:+ ((enter (process (n + 3)) (.function p) args).exec s).2.invocations
  rw [invocations_enter hentered]
  exact recorded_of_process_pcall (s := { s with depth := entered }) hp hargs hcallee hclaim n

end

end Session

/-! ## Arguments that are handed on -/

namespace Arguments

/-- **The arguments as they are when they are handed on**: a tuple at the end is expanded again. -/
def expanded (a : Arguments) : Arguments := .ofList a.values a.isMethodCall

theorem ofList_of_last {values : List Value} (h : ∀ items, values.getLast? ≠ some (.tuple items))
    (isMethodCall : Bool) : ofList values isMethodCall = ⟨values, isMethodCall⟩ := by
  unfold ofList
  split
  · rename_i items hlast
    exact absurd hlast (h items)
  · rfl

theorem ofList_concat_tuple (front items : List Value) (isMethodCall : Bool) :
    ofList (front ++ [.tuple items]) isMethodCall = ⟨front ++ items, isMethodCall⟩ := by
  simp [ofList]

/-- A list ends in a tuple or does not. -/
theorem last_cases (values : List Value) :
    (∃ front items, values = front ++ [.tuple items]) ∨
      ∀ items, values.getLast? ≠ some (.tuple items) := by
  by_cases h : ∃ items, values.getLast? = some (.tuple items)
  · obtain ⟨items, hlast⟩ := h
    obtain ⟨front, rfl⟩ := List.getLast?_eq_some_iff.mp hlast
    exact Or.inl ⟨front, items, rfl⟩
  · exact Or.inr (not_exists.mp h)

/-- Handing on changes nothing exactly if the arguments do not end in a tuple. -/
theorem expanded_eq_iff (a : Arguments) :
    a.expanded = a ↔ ∀ items, a.values.getLast? ≠ some (.tuple items) := by
  obtain ⟨values, isMethodCall⟩ := a
  rcases last_cases values with ⟨front, items, rfl⟩ | hlast
  · -- No tuple is all of its own content.
    have hne : items ≠ [.tuple items] := by
      intro h
      have hsize := congrArg sizeOf h
      simp at hsize
      omega
    simp [expanded, ofList_concat_tuple, hne]
  · exact iff_of_true (ofList_of_last hlast isMethodCall) hlast

theorem isMethodCall_ofList (values : List Value) (b : Bool) :
    (ofList values b).isMethodCall = b := by
  unfold ofList
  split <;> rfl

/-- Values that are no tuples are no tuples at the end. -/
theorem last_append_iff {front : List Value} (hfront : ∀ v ∈ front, v.isTuple = false)
    (values items : List Value) :
    (front ++ values).getLast? = some (.tuple items) ↔ values.getLast? = some (.tuple items) := by
  rw [List.getLast?_append, Option.or_eq_some_iff, or_iff_left]
  rintro ⟨-, h⟩
  cases hfront _ (List.mem_of_getLast? h)

/-- Values that are no tuples stay in front. -/
theorem values_ofList_append {front : List Value} (hfront : ∀ v ∈ front, v.isTuple = false)
    (values : List Value) (b c : Bool) :
    (ofList (front ++ values) b).values = front ++ (ofList values c).values := by
  rcases last_cases values with ⟨before, items, rfl⟩ | hlast
  · rw [← List.append_assoc, ofList_concat_tuple, ofList_concat_tuple, List.append_assoc]
  · rw [ofList_of_last hlast, ofList_of_last]
    exact fun items h => hlast items ((last_append_iff hfront values items).mp h)

/-- The arguments are expanded to a list that ends in a tuple exactly if an empty tuple stands at
the end after another tuple, if they are flat: a tuple that is expanded holds none. -/
theorem last_ofList_iff_of_flat {args : List Value} (hflat : ∀ v ∈ args, v.Flat) (b : Bool) :
    (∃ items, (ofList args b).values.getLast? = some (.tuple items)) ↔
      ∃ front items, args = front ++ [.tuple items, .tuple []] := by
  rcases last_cases args with ⟨front, last, rfl⟩ | hlast
  · rw [ofList_concat_tuple]
    rcases List.eq_nil_or_concat last with rfl | ⟨before, v, rfl⟩
    · -- An empty tuple goes, and what was before it is at the end.
      rw [List.append_nil]
      constructor
      · rintro ⟨items, h⟩
        obtain ⟨front', rfl⟩ := List.getLast?_eq_some_iff.mp h
        exact ⟨front', items, by simp⟩
      · rintro ⟨front', items, h⟩
        obtain rfl : front = front' ++ [.tuple items] :=
          List.append_cancel_right (h.trans (List.append_assoc front' [.tuple items] _).symm)
        exact ⟨items, by simp⟩
    · -- Otherwise a value of the tuple is at the end.
      have hv : v.isTuple = false :=
        hflat _ (List.mem_append_right front (List.mem_singleton_self _)) v (by simp)
      refine iff_of_false ?_ ?_
      · rintro ⟨items, h⟩
        obtain rfl : v = .tuple items := by simpa using h
        cases hv
      · rintro ⟨front', items, h⟩
        have hend := congrArg List.getLast? h
        simp at hend
  · refine iff_of_false ?_ ?_
    · rintro ⟨items, h⟩
      rw [ofList_of_last hlast] at h
      exact hlast items h
    · rintro ⟨front, items, rfl⟩
      exact hlast [] (by simp)

end Arguments

section

variable {f : Value} {args : List Value} {g : Function} {a : Arguments}

/-- What a value that is no tuple adds to its arguments when it is called: nothing, or itself. -/
theorem exists_callee_eq {heap : Heap} (hf : f.isTuple = false)
    (hcallee : callee heap f args = .ok (g, a)) :
    ∃ front b, (∀ v ∈ front, v.isTuple = false) ∧ a = .ofList (front ++ args) b ∧
      ∀ values, callee heap f values = .ok (g, .ofList (front ++ values) b) := by
  cases f with
  | function f =>
    cases hcallee
    exact ⟨[], false, List.forall_mem_nil _, rfl, fun values => rfl⟩
  | table _ | userdata _ =>
    simp only [callee] at hcallee ⊢
    split at hcallee
    · cases hcallee
      exact ⟨[_], true, List.forall_mem_singleton.mpr hf, rfl, fun values => rfl⟩
    · cases hcallee
  | tuple items => cases hf
  | nil | bool _ | number _ | string _ | request _ => cases hcallee

/-- The arguments handed on to a target that is no tuple are those it is called with, expanded
once more. -/
theorem callee_expanded {heap : Heap} (hf : f.isTuple = false)
    (hcallee : callee heap f args = .ok (g, a)) :
    callee heap f (Arguments.ofList args false).values = .ok (g, a.expanded) := by
  obtain ⟨front, b, hfront, rfl, hshape⟩ := exists_callee_eq hf hcallee
  rw [hshape, Arguments.expanded, Arguments.values_ofList_append hfront args b false,
    Arguments.isMethodCall_ofList]

/-- **Handing on flat arguments** changes them exactly if an empty tuple stands at their end after
another tuple: the empty one goes, and leaves the other at the end. -/
theorem expanded_eq_iff_of_flat {heap : Heap} (hf : f.isTuple = false)
    (hcallee : callee heap f args = .ok (g, a)) (hflat : ∀ v ∈ args, v.Flat) :
    a.expanded = a ↔ ¬ ∃ front items, args = front ++ [.tuple items, .tuple []] := by
  obtain ⟨front, b, hfront, rfl, -⟩ := exists_callee_eq hf hcallee
  simp only [Arguments.expanded_eq_iff, ← Arguments.last_ofList_iff_of_flat hflat b, not_exists,
    Arguments.values_ofList_append hfront args b b, ne_eq, Arguments.last_append_iff hfront]

end

namespace Session

/-- **The arguments under protection.** Whatever a call gives to the function that stands for its
target, the protected call gives it the same arguments expanded once more. That makes a difference
exactly if they end in a tuple, after they have been expanded once; so it is, for flat arguments,
exactly if an empty tuple after another tuple ends them. -/
theorem arguments_under_protection {s : Session} {f : Value} {args : List Value} {p g : Function}
    {a : Arguments} {entered depth : CallDepth}
    (hglobal : (s.heap.table s.globals).get (.name "pcall") = .function p)
    (hp : p.code = .builtin .pcall) (hf : f.isTuple = false)
    (hcallee : callee s.heap f args = .ok (g, a))
    (hentered : s.depth.enter? s.capacity = some entered)
    (hclaim : entered.claim? s.capacity = some depth) :
    (∀ n, ⟨g, a⟩ :: s.invocations <:+ ((call (n + 2) f args).exec s).2.invocations) ∧
    (∀ n, ⟨g, a.expanded⟩ :: ⟨p, .ofList (f :: args) false⟩ :: s.invocations <:+
      ((callGlobal (reentry (n + 3)) "pcall" (f :: args)).exec s).2.invocations) ∧
    (a.expanded = a ↔ ∀ items, a.values.getLast? ≠ some (.tuple items)) ∧
    ((∀ v ∈ args, v.Flat) →
      (a.expanded = a ↔ ¬ ∃ front items, args = front ++ [.tuple items, .tuple []])) := by
  have hargs : (Arguments.ofList (f :: args) false).values =
      f :: (Arguments.ofList args false).values :=
    Arguments.values_ofList_append (List.forall_mem_singleton.mpr hf) args false false
  have hcallee' := callee_expanded hf hcallee
  refine ⟨?_, ?_, a.expanded_eq_iff, expanded_eq_iff_of_flat hf hcallee⟩
  · exact recorded_of_call hcallee hentered
  · exact recorded_of_callGlobal_pcall hglobal hp hargs hcallee' hentered hclaim

/-- An object that is called through its metatable, here the table of globals, gets itself and the
values of the tuple after it, with and without protection. -/
theorem arguments_under_protection_of_object :
    ∃ (s : Session) (p g : Function) (f : Value) (a : Arguments),
      (s.heap.table s.globals).get (.name "pcall") = .function p ∧ f.isTuple = false ∧
      callee s.heap f [.tuple [.bool true, .nil]] = .ok (g, a) ∧
      a = ⟨[f, .bool true, .nil], true⟩ ∧
      (∀ n, [⟨g, a⟩] <:+ ((call (n + 2) f [.tuple [.bool true, .nil]]).exec s).2.invocations) ∧
      ∀ n, [⟨g, a⟩, ⟨p, ⟨[f, .bool true, .nil], false⟩⟩] <:+
        ((callGlobal (reentry (n + 3)) "pcall" [f, .tuple [.bool true, .nil]]).exec
          s).2.invocations := by
  let p : Function := ⟨2, "pcall", .builtin .pcall⟩
  let g : Function := ⟨3, "g", .program .argumentCount⟩
  let f : Value := .userdata ⟨⟨4, .blank⟩, some ⟨0⟩⟩
  let update : Update Unit := do
    setGlobal "pcall" (.function p)
    setGlobal "__call" (.function g)
  let s : Session := (update.run (bare 2)).2
  obtain ⟨hdirect, hprotected, -⟩ := @arguments_under_protection s f [.tuple [.bool true, .nil]] p g
    ⟨[f, .bool true, .nil], true⟩ ⟨1, 0⟩ ⟨1, 1⟩ rfl rfl rfl rfl rfl rfl
  exact ⟨s, p, g, f, _, rfl, rfl, rfl, rfl, hdirect, hprotected⟩

/-- **Protection changes arguments**: a pair followed by an empty tuple reaches the function as one
argument, and under protection as two. -/
theorem protection_changes_arguments :
    ∃ (s : Session) (p g : Function),
      (s.heap.table s.globals).get (.name "pcall") = .function p ∧
      s.depth.enter? s.capacity = some ⟨1, 0⟩ ∧
      CallDepth.claim? ⟨1, 0⟩ s.capacity = some ⟨1, 1⟩ ∧
      (∀ n, [⟨g, ⟨[.tuple [.bool true, .nil]], false⟩⟩] <:+
        ((call (n + 2) (.function g) [.tuple [.bool true, .nil], .tuple []]).exec
          s).2.invocations) ∧
      ∀ n, [⟨g, ⟨[.bool true, .nil], false⟩⟩,
          ⟨p, ⟨[.function g, .tuple [.bool true, .nil]], false⟩⟩] <:+
        ((callGlobal (reentry (n + 3)) "pcall"
          [.function g, .tuple [.bool true, .nil], .tuple []]).exec s).2.invocations := by
  let p : Function := ⟨2, "pcall", .builtin .pcall⟩
  let g : Function := ⟨3, "g", .program .argumentCount⟩
  let s : Session := ((setGlobal "pcall" (.function p)).run (bare 2)).2
  have hentered : s.depth.enter? s.capacity = some ⟨1, 0⟩ := rfl
  have hclaim : CallDepth.claim? ⟨1, 0⟩ s.capacity = some ⟨1, 1⟩ := rfl
  have hargs : (Arguments.ofList [.function g, .tuple [.bool true, .nil], .tuple []] false).values =
      [.function g, .tuple [.bool true, .nil]] := rfl
  refine ⟨s, p, g, rfl, hentered, hclaim, ?_, ?_⟩
  · exact recorded_of_call rfl hentered
  · exact recorded_of_callGlobal_pcall rfl rfl hargs rfl hentered hclaim

end Session

end ScriptHost
