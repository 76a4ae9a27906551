import ScriptHost.Session.Basic

/-!
# How actions end

An action on a session ends with a value or with an error, or it reaches the bound on its steps and
has no outcome. What is said about calls is said about outcomes; the bound is only a means to have
them.

## Main definitions

* `Action.exec`: what an action does to a session.
* `Action.Ends a s o t`: on `s` the action ends with the outcome `o`, leaving `t`.
* `Action.Refines a b`: wherever `a` ends, `b` ends in the same way.
* `Action.execAll`: a sequence of actions, each on the session that the one before left.

## Main results

* `Action.ends_bind_iff`: a sequence ends where its second action does, or with the error of its
  first.
* `Action.Refines.bind`, `Action.Refines.attempt`: refinement goes through sequences and outcomes.
-/

namespace ScriptHost

section

variable {ε ε' α : Type}

@[simp] theorem mapError_ok (f : ε → ε') (a : α) : (Except.ok a).mapError f = .ok a := rfl

@[simp] theorem mapError_error (f : ε → ε') (e : ε) :
    (Except.error e : Except ε α).mapError f = .error (f e) := rfl

end

namespace Action

variable {α β : Type}

/-- What an action does to a session: the result or the interrupt, and the session after it. -/
def exec (a : Action α) (s : Session) : Except Interrupt α × Session := a.run.run s

@[simp] theorem exec_pure (x : α) (s : Session) : (pure x : Action α).exec s = (.ok x, s) := rfl

@[simp] theorem exec_get (s : Session) : (get : Action Session).exec s = (.ok s, s) := rfl

@[simp] theorem exec_set (s t : Session) : (set t : Action PUnit).exec s = (.ok ⟨⟩, t) := rfl

@[simp] theorem exec_modify (f : Session → Session) (s : Session) :
    (modify f : Action PUnit).exec s = (.ok ⟨⟩, f s) := rfl

@[simp] theorem exec_fail (e : ScriptError) (s : Session) :
    (fail e : Action α).exec s = (.error (.error e), s) := rfl

@[simp] theorem exec_throw (i : Interrupt) (s : Session) :
    (throw i : Action α).exec s = (.error i, s) := rfl

@[simp] theorem exec_lift (u : Update α) (s : Session) :
    (liftM u : Action α).exec s = (.ok (u.run s).1, (u.run s).2) := rfl

theorem exec_ofExcept (r : Except ScriptError α) (s : Session) :
    (ofExcept r).exec s = (r.mapError .error, s) := by
  cases r <;> rfl

theorem exec_bind (a : Action α) (f : α → Action β) (s : Session) :
    (a >>= f).exec s =
      match a.exec s with
      | (.ok x, t) => (f x).exec t
      | (.error i, t) => (.error i, t) := by
  show ExceptT.bindCont f (a s).1 (a s).2 =
    match a s with
    | (.ok x, t) => (f x) t
    | (.error i, t) => (.error i, t)
  rcases a s with ⟨i | x, t⟩ <;> rfl

theorem exec_bind_of_ok {a : Action α} {s t : Session} {x : α} (h : a.exec s = (.ok x, t))
    (f : α → Action β) : (a >>= f).exec s = (f x).exec t := by
  rw [exec_bind, h]

theorem exec_bind_of_error {a : Action α} {s t : Session} {i : Interrupt}
    (h : a.exec s = (.error i, t)) (f : α → Action β) : (a >>= f).exec s = (.error i, t) := by
  rw [exec_bind, h]

theorem exec_attempt (a : Action α) (s : Session) :
    a.attempt.exec s =
      match a.exec s with
      | (.ok x, t) => (.ok (.ok x), t)
      | (.error (.error e), t) => (.ok (.error e), t)
      | (.error .exhausted, t) => (.error .exhausted, t) := by
  unfold attempt exec
  rw [ExceptT.run_mk, StateT.run_bind]
  rcases a.run.run s with ⟨(e | _) | x, t⟩ <;> rfl

/-- **How an action ends** on a session: with an outcome, and leaving a session. -/
def Ends (a : Action α) (s : Session) (o : Except ScriptError α) (t : Session) : Prop :=
  a.attempt.exec s = (.ok o, t)

theorem ends_ok_iff {a : Action α} {s t : Session} {x : α} :
    a.Ends s (.ok x) t ↔ a.exec s = (.ok x, t) := by
  unfold Ends
  rw [exec_attempt]
  rcases a.exec s with ⟨(e | _) | y, u⟩ <;> simp

theorem ends_error_iff {a : Action α} {s t : Session} {e : ScriptError} :
    a.Ends s (.error e) t ↔ a.exec s = (.error (.error e), t) := by
  unfold Ends
  rw [exec_attempt]
  rcases a.exec s with ⟨(e' | _) | y, u⟩ <;> simp

/-- An action that ends does its outcome. -/
theorem ends_iff_exec_eq {a : Action α} {s t : Session} {o : Except ScriptError α} :
    a.Ends s o t ↔ a.exec s = (o.mapError .error, t) := by
  cases o with
  | ok x => exact ends_ok_iff
  | error e => exact ends_error_iff

/-- An action ends in at most one way. -/
theorem Ends.unique {a : Action α} {s t t' : Session} {o o' : Except ScriptError α}
    (h : a.Ends s o t) (h' : a.Ends s o' t') : o = o' ∧ t = t' := by
  simpa [Ends] using h.symm.trans h'

/-- Whether an action ends does not depend on how it is written, only on what it does. -/
theorem Ends.congr {a b : Action α} {s t u : Session} {o : Except ScriptError α}
    (h : a.Ends s o t) (heq : a.exec s = b.exec u) : b.Ends u o t := by
  unfold Ends at h ⊢
  rwa [exec_attempt, ← heq, ← exec_attempt]

/-- What an action does, if it ends at all, is how it ends. -/
theorem exec_cases (a : Action α) (s : Session) :
    (∃ t, a.exec s = (.error .exhausted, t)) ∨ ∃ o t, a.Ends s o t := by
  rcases h : a.exec s with ⟨(e | _) | x, t⟩
  · exact Or.inr ⟨.error e, t, ends_error_iff.mpr h⟩
  · exact Or.inl ⟨t, rfl⟩
  · exact Or.inr ⟨.ok x, t, ends_ok_iff.mpr h⟩

@[simp] theorem ends_pure {x : α} {s t : Session} {o : Except ScriptError α} :
    (pure x : Action α).Ends s o t ↔ o = .ok x ∧ t = s := by
  simp [Ends, exec_attempt, eq_comm]

@[simp] theorem ends_fail {e : ScriptError} {s t : Session} {o : Except ScriptError α} :
    (fail e : Action α).Ends s o t ↔ o = .error e ∧ t = s := by
  simp [Ends, exec_attempt, eq_comm]

@[simp] theorem ends_ofExcept {r o : Except ScriptError α} {s t : Session} :
    (ofExcept r).Ends s o t ↔ o = r ∧ t = s := by
  cases r with
  | ok x => exact ends_pure
  | error e => exact ends_fail

@[simp] theorem not_ends_exhausted {s t : Session} {o : Except ScriptError α} :
    ¬ (throw .exhausted : Action α).Ends s o t := by
  simp [Ends, exec_attempt]

/-- The outcome of an action, taken as a value, is always a value. -/
@[simp] theorem ends_attempt {a : Action α} {s t : Session}
    {o : Except ScriptError (Except ScriptError α)} :
    a.attempt.Ends s o t ↔ ∃ o', o = .ok o' ∧ a.Ends s o' t := by
  constructor
  · intro h
    rcases o with e | o'
    · rw [ends_error_iff, exec_attempt] at h
      rcases ha : a.exec s with ⟨(e' | _) | y, u⟩ <;> simp [ha] at h
    · exact ⟨o', rfl, ends_ok_iff.mp h⟩
  · rintro ⟨o', rfl, h⟩
    exact ends_ok_iff.mpr h

/-- **A sequence** ends where its second action does, or with the error of its first. -/
theorem ends_bind_iff {a : Action α} {f : α → Action β} {s t : Session}
    {o : Except ScriptError β} :
    (a >>= f).Ends s o t ↔
      (∃ x u, a.Ends s (.ok x) u ∧ (f x).Ends u o t) ∨
        ∃ e, a.Ends s (.error e) t ∧ o = .error e := by
  constructor
  · intro h
    rcases ha : a.exec s with ⟨(e | _) | x, u⟩
    · have hb := ends_error_iff.mpr (exec_bind_of_error ha f)
      obtain ⟨rfl, rfl⟩ := h.unique hb
      exact Or.inr ⟨e, ends_error_iff.mpr ha, rfl⟩
    · have hb := h.congr ((exec_bind_of_error ha f).trans (exec_throw .exhausted u).symm)
      exact absurd hb not_ends_exhausted
    · exact Or.inl ⟨x, u, ends_ok_iff.mpr ha, h.congr (exec_bind_of_ok ha f)⟩
  · rintro (⟨x, u, ha, hf⟩ | ⟨e, ha, rfl⟩)
    · exact hf.congr (exec_bind_of_ok (ends_ok_iff.mp ha) f).symm
    · exact ends_error_iff.mpr (exec_bind_of_error (ends_error_iff.mp ha) f)

/-- The second action of a sequence decides how it ends once the first has given its value. -/
theorem ends_bind_of_exec {a : Action α} {f : α → Action β} {s t u : Session} {x : α}
    {o : Except ScriptError β} (h : a.exec s = (.ok x, u)) :
    (a >>= f).Ends s o t ↔ (f x).Ends u o t :=
  ⟨fun hb => hb.congr (exec_bind_of_ok h f), fun hf => hf.congr (exec_bind_of_ok h f).symm⟩

/-- An outcome taken as a value is handed on whatever it is. -/
theorem ends_attempt_bind_iff {a : Action α} {f : Except ScriptError α → Action β}
    {s t : Session} {o : Except ScriptError β} :
    (a.attempt >>= f).Ends s o t ↔ ∃ r u, a.Ends s r u ∧ (f r).Ends u o t := by
  simp [ends_bind_iff]

@[simp] theorem ends_get_bind {f : Session → Action β} {s t : Session}
    {o : Except ScriptError β} : ((get : Action Session) >>= f).Ends s o t ↔ (f s).Ends s o t :=
  ends_bind_of_exec (exec_get s)

/-! ## Refinement -/

/-- **Refinement**: wherever the first action ends, the second ends in the same way. -/
def Refines (a b : Action α) : Prop := ∀ ⦃s o t⦄, a.Ends s o t → b.Ends s o t

theorem Refines.refl (a : Action α) : a.Refines a := fun _ _ _ h => h

theorem Refines.trans {a b c : Action α} (h : a.Refines b) (h' : b.Refines c) : a.Refines c :=
  fun _ _ _ ha => h' (h ha)

/-- An action that never ends refines every action. -/
theorem Refines.exhausted (a : Action α) : (throw .exhausted : Action α).Refines a :=
  fun _ _ _ h => absurd h not_ends_exhausted

theorem Refines.bind {a b : Action α} {f g : α → Action β} (h : a.Refines b)
    (hfg : ∀ x, (f x).Refines (g x)) : (a >>= f).Refines (b >>= g) := by
  intro s o t hf
  rcases ends_bind_iff.mp hf with ⟨x, u, ha, hx⟩ | ⟨e, ha, rfl⟩
  · exact ends_bind_iff.mpr (Or.inl ⟨x, u, h ha, hfg x hx⟩)
  · exact ends_bind_iff.mpr (Or.inr ⟨e, h ha, rfl⟩)

theorem Refines.attempt {a b : Action α} (h : a.Refines b) : a.attempt.Refines b.attempt := by
  intro s o t ha
  obtain ⟨o', rfl, ha'⟩ := ends_attempt.mp ha
  exact ends_attempt.mpr ⟨o', rfl, h ha'⟩

/-! ## Sequences of actions -/

variable {ι : Type}

/-- A sequence of actions, each on the session that the one before left, by an error too: their
outcomes and the session in the end. -/
def execAll (a : ι → Action α) (s : Session) : List ι → List (Except Interrupt α) × Session
  | [] => ([], s)
  | i :: rest =>
    let (o, t) := (a i).exec s
    let (outcomes, u) := execAll a t rest
    (o :: outcomes, u)

@[simp] theorem execAll_nil (a : ι → Action α) (s : Session) : execAll a s [] = ([], s) := rfl

/-- What a sequence leaves, the last action leaves. -/
theorem execAll_concat_snd (a : ι → Action α) (s : Session) (l : List ι) (i : ι) :
    (execAll a s (l ++ [i])).2 = ((a i).exec (execAll a s l).2).2 := by
  induction l generalizing s with
  | nil => rfl
  | cons j l ih => exact ih ((a j).exec s).2

end Action

end ScriptHost
