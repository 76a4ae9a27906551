import Mathlib.Data.List.DropRight
import Mathlib.Data.List.Induction
import Mathlib.Data.List.Nodup
import ScriptHost.Registration
import ScriptHost.Proofs.Outcome

/-!
# The registry of members over its history

A host registers types, members of them and extensions, and clears the registry, in any order. The
members of a type under a name are those registered on it since the last clearing, once the type was
there, in the order of their registration, and behind them the extensions that name the type. A name
stands for the members under the first of its spellings that has any.

## Main definitions

* `RegistryOperation`: what a host does to the registry.
* `RegistryOperation.recent`: the operations since the last clearing.
* `RegistryOperation.listing`: the members of a type under a name that a history leaves.
* `RegistryOperation.Rejected`: which operations fail after a history.
* `RegistryOperation.Follows`: a session has the registry that a history leaves.

## Main results

* `Spelling.candidates_spec`: a name is its own first spelling, and spellings are not repeated.
* `TypeRegistry.registerType_spec`, `registerMember_spec`, `registerExtension_spec`: what one
  registration adds.
* `RegistryOperation.Follows.exec`, `follows_execAll`: what one operation and a history leave.
* `Session.members_follow_history`: what a name stands for after any history.
-/

namespace ScriptHost

/-! ## Spellings -/

namespace Spelling

/-- A further spelling keeps the first one, and is new. -/
theorem withNew_spec {names : List String} {first : String} (hfirst : names.head? = some first)
    (hnodup : names.Nodup) (name : String) :
    (withNew names name).head? = some first ∧ (withNew names name).Nodup := by
  unfold withNew
  by_cases hknown : name ∈ names
  · rw [if_pos hknown]
    exact ⟨hfirst, hnodup⟩
  · rw [if_neg hknown]
    refine ⟨by rw [List.head?_append, hfirst, Option.some_or], ?_⟩
    rw [← List.concat_eq_append]
    exact hnodup.concat hknown

theorem foldl_withNew_spec {first : String} (styles : List String) {names : List String}
    (hfirst : names.head? = some first) (hnodup : names.Nodup) :
    (styles.foldl withNew names).head? = some first ∧ (styles.foldl withNew names).Nodup := by
  induction styles generalizing names with
  | nil => exact ⟨hfirst, hnodup⟩
  | cons style styles ih =>
    obtain ⟨hfirst', hnodup'⟩ := withNew_spec hfirst hnodup style
    exact ih hfirst' hnodup'

/-- Spellings: a name is its own first one, and none is tried twice. -/
theorem candidates_spec (s : Spelling) (name : String) :
    (s.candidates name).head? = some name ∧ (s.candidates name).Nodup :=
  foldl_withNew_spec _ rfl (List.nodup_singleton name)

end Spelling

/-- **What a host does to the registry of members.** -/
inductive RegistryOperation where
  | type (t : HostType) (name : String)
  | member (t : HostType) (id : MethodId)
  | extension (id : MethodId)
  | clear

namespace RegistryOperation

/-- The operation on a session. -/
def perform : RegistryOperation → Action Unit
  | type t name => discard (liftM (Session.registerType t name) : Action _)
  | member t id => Session.registerMember t id
  | extension id => Session.registerExtension id
  | clear => liftM Session.clearTypes

/-- Whether the operation clears the registry. -/
def isClear : RegistryOperation → Bool
  | clear => true
  | _ => false

/-- Whether the operation registers a type. -/
def registers (t : HostType) : RegistryOperation → Bool
  | type t' _ => t' = t
  | _ => false

/-- The member that the operation is about, if it is one of a type and has a name. -/
def member? (s : Session) (t : HostType) (name : String) : RegistryOperation → Option MethodId
  | member t' id =>
    if t' = t ∧ (s.method? id).map (·.method.name) = some name then some id else none
  | _ => none

/-- The extension that the operation is about, if it names a type and has a name. -/
def extension? (s : Session) (t : HostType) (name : String) : RegistryOperation → Option MethodId
  | extension id =>
    if (s.method? id).map (fun slot => (slot.method.extensionOf, slot.method.name)) =
        some (some t, name) then some id
    else none
  | _ => none

/-- **The operations since the last clearing.** -/
def recent (ops : List RegistryOperation) : List RegistryOperation := ops.rtakeWhile (!·.isClear)

/-- Whether a type is registered after a history. -/
def isRegistered (ops : List RegistryOperation) (t : HostType) : Bool :=
  (recent ops).any (·.registers t)

/-- The members of a type under exactly a name: what was registered on the type once it was there.
-/
def members (s : Session) (ops : List RegistryOperation) (t : HostType) (name : String) :
    List MethodId :=
  ((recent ops).dropWhile (!·.registers t)).filterMap (member? s t name)

/-- The extensions of a type under exactly a name. -/
def extensions (s : Session) (ops : List RegistryOperation) (t : HostType) (name : String) :
    List MethodId :=
  (recent ops).filterMap (extension? s t name)

/-- **What a history leaves** for a type under exactly a name, in the order of registration:
members, then extensions. -/
def listing (s : Session) (ops : List RegistryOperation) (t : HostType) (name : String) :
    List MethodId :=
  members s ops t name ++ extensions s ops t name

/-- **What is rejected** after a history: methods that are not there, members of types that are not
registered, and extensions that name no type. -/
def Rejected (s : Session) (ops : List RegistryOperation) : RegistryOperation → Prop
  | member t id => (s.method? id).isNone = true ∨ isRegistered ops t = false
  | extension id => ((s.method? id).bind (·.method.extensionOf)).isNone = true
  | type .. | clear => False

/-! ## One more operation -/

section Concat

variable (s : Session) (ops : List RegistryOperation) {op : RegistryOperation} (t : HostType)
  (name : String)

theorem recent_concat (h : op.isClear = false) : recent (ops ++ [op]) = recent ops ++ [op] :=
  List.rtakeWhile_concat_pos _ _ _ (by rw [h]; rfl)

theorem recent_clear : recent (ops ++ [clear]) = [] :=
  List.rtakeWhile_concat_neg _ _ _ (by simp [isClear])

theorem isRegistered_concat (h : op.isClear = false) :
    isRegistered (ops ++ [op]) t = (isRegistered ops t || op.registers t) := by
  rw [isRegistered, recent_concat ops h, List.any_append, List.any_cons, List.any_nil,
    Bool.or_false]
  rfl

theorem filterMap_singleton_eq {α β : Type} (f : α → Option β) (x : α) :
    [x].filterMap f = (f x).toList := by
  rw [List.filterMap_cons]
  cases f x <;> rfl

theorem extensions_concat (h : op.isClear = false) :
    extensions s (ops ++ [op]) t name =
      extensions s ops t name ++ (extension? s t name op).toList := by
  rw [extensions, recent_concat ops h, List.filterMap_append, filterMap_singleton_eq]
  rfl

/-- Nothing of a history is left for the members of a type that it does not register. -/
theorem dropWhile_recent_eq_nil_iff :
    (recent ops).dropWhile (!·.registers t) = [] ↔ isRegistered ops t = false := by
  rw [List.dropWhile_eq_nil_iff, isRegistered, List.any_eq_false]
  simp

/-- A member counts once its type is registered. -/
theorem members_concat (h : op.isClear = false) :
    members s (ops ++ [op]) t name =
      members s ops t name ++
        if isRegistered ops t then (member? s t name op).toList else [] := by
  unfold members
  rw [recent_concat ops h, List.dropWhile_append]
  cases hregistered : isRegistered ops t with
  | true =>
    have hleft : ((recent ops).dropWhile (!·.registers t)).isEmpty = false := by
      refine List.isEmpty_eq_false_iff.mpr fun hnil => ?_
      rw [dropWhile_recent_eq_nil_iff, hregistered] at hnil
      cases hnil
    rw [hleft, if_neg Bool.false_ne_true, if_pos rfl, List.filterMap_append,
      filterMap_singleton_eq]
  | false =>
    -- The operation may register the type, but then it is no member.
    have hone : ([op].dropWhile (!·.registers t)).filterMap (member? s t name) = [] := by
      cases op with
      | type t' name' => by_cases ht : t' = t <;> simp [registers, ht, member?]
      | member t' id => simp [registers]
      | extension id => simp [registers]
      | clear => cases h
    rw [(dropWhile_recent_eq_nil_iff ops t).mpr hregistered, List.isEmpty_nil, if_pos rfl, hone]
    rfl

end Concat

end RegistryOperation

/-! ## The registry -/

theorem TypeDescriptor.overloads_addMember (d : TypeDescriptor) (memberName name : String)
    (id : MethodId) :
    (d.addMember memberName id).overloads name =
      d.overloads name ++ if memberName = name then [id] else [] := by
  unfold addMember
  rw [overloads, Keyed.get?_insert]
  by_cases h : name = memberName
  · subst h
    simp
  · rw [if_neg h, if_neg (Ne.symm h), List.append_nil]
    rfl

namespace TypeRegistry

/-- A type's own members under exactly a name. -/
def own (r : TypeRegistry) (t : HostType) (name : String) : List MethodId :=
  ((r.types.get? t).map (·.overloads name)).getD []

/-- The extensions of a type under exactly a name. -/
def extended (r : TypeRegistry) (t : HostType) (name : String) : List MethodId :=
  (((r.extensions.get? name).getD []).filter (·.1 = t)).map (·.2)

theorem exactly_eq (r : TypeRegistry) (t : HostType) (name : String) :
    r.exactly t name = r.own t name ++ r.extended t name := by
  unfold exactly own extended
  cases r.types.get? t <;> rfl

/-- Registering a type adds no members. -/
theorem registerType_spec (r : TypeRegistry) (t : HostType) (typeName : String) :
    (∀ t', (r.registerType t typeName).isRegistered t' =
      (r.isRegistered t' || decide (t = t'))) ∧
    (∀ t' name, (r.registerType t typeName).own t' name = r.own t' name) ∧
    (r.registerType t typeName).extensions = r.extensions := by
  unfold registerType isRegistered own
  -- A type that is known already stays as it is, with its members.
  cases hknown : r.types.get? t with
  | some d =>
    refine ⟨fun t' => ?_, fun t' name => rfl, rfl⟩
    by_cases ht : t = t'
    · subst ht
      simp [hknown]
    · simp [ht]
  | none =>
    refine ⟨fun t' => ?_, fun t' name => ?_, rfl⟩ <;> dsimp only <;> rw [Keyed.get?_insert]
    · by_cases ht : t' = t
      · simp [ht]
      · simp [ht, Ne.symm ht]
    · by_cases ht : t' = t
      · subst ht
        rw [if_pos rfl, hknown]
        rfl
      · rw [if_neg ht]

/-- Registering a member adds it at the end of its type's members. -/
theorem registerMember_spec {r : TypeRegistry} {t : HostType} (h : r.isRegistered t = true)
    (memberName : String) (id : MethodId) :
    ∃ r', r.registerMember t memberName id = .ok r' ∧
      (∀ t', r'.isRegistered t' = r.isRegistered t') ∧
      (∀ t' name, r'.own t' name =
        r.own t' name ++ if t = t' ∧ memberName = name then [id] else []) ∧
      r'.extensions = r.extensions := by
  obtain ⟨d, hd⟩ := Option.isSome_iff_exists.mp h
  refine ⟨{ r with types := r.types.insert t (d.addMember memberName id) },
    by rw [registerMember, hd], fun t' => ?_, fun t' name => ?_, rfl⟩
  · rw [isRegistered, isRegistered, Keyed.get?_insert]
    by_cases ht : t' = t
    · rw [if_pos ht, ht, hd]
      rfl
    · rw [if_neg ht]
  · rw [own, own, Keyed.get?_insert]
    by_cases ht : t' = t
    · subst ht
      rw [if_pos rfl, hd, Option.map_some, Option.getD_some, d.overloads_addMember]
      simp
    · rw [if_neg ht, if_neg fun hboth => ht hboth.1.symm, List.append_nil]

theorem registerMember_of_unknown {r : TypeRegistry} {t : HostType}
    (h : r.isRegistered t = false) (memberName : String) (id : MethodId) :
    ∃ e, r.registerMember t memberName id = .error e := by
  have hnone : r.types.get? t = none := by simpa [isRegistered] using h
  rw [registerMember, hnone]
  exact ⟨_, rfl⟩

/-- **Registering an extension** adds it at the end of its target's extensions. -/
theorem registerExtension_spec (r : TypeRegistry) (t : HostType) (memberName : String)
    (id : MethodId) :
    ∃ r', r.registerExtension (some t) memberName id = .ok r' ∧ r'.types = r.types ∧
      ∀ t' name, r'.extended t' name =
        r.extended t' name ++ if t = t' ∧ memberName = name then [id] else [] := by
  refine ⟨_, rfl, rfl, fun t' name => ?_⟩
  rw [extended, extended, Keyed.get?_insert]
  by_cases hname : name = memberName
  · subst hname
    rw [if_pos rfl, Option.getD_some, List.filter_append, List.map_append]
    by_cases ht : t = t' <;> simp [ht]
  · rw [if_neg hname, if_neg fun hboth => hname hboth.2.symm, List.append_nil]

end TypeRegistry

/-! ## What a history leaves -/

namespace RegistryOperation

/-- A session has the registry that a history leaves. -/
structure Follows (s : Session) (ops : List RegistryOperation) (u : Session) : Prop where
  method? : ∀ id, u.method? id = s.method? id
  registered : ∀ t, u.types.isRegistered t = isRegistered ops t
  own : ∀ t name, u.types.own t name = members s ops t name
  extended : ∀ t name, u.types.extended t name = extensions s ops t name

variable {s u : Session} {ops : List RegistryOperation} {op : RegistryOperation}

theorem exec_getMethod {id : MethodId} {slot : MethodSlot} (h : u.method? id = some slot) :
    (Session.getMethod id).exec u = (.ok slot, u) := by
  rw [Session.getMethod, Action.exec_bind_of_ok (Action.exec_get u), h]
  rfl

theorem exec_getMethod_of_none {id : MethodId} (h : u.method? id = none) :
    (Session.getMethod id).exec u = (.error (.error (.runtime "no overload to call")), u) := by
  rw [Session.getMethod, Action.exec_bind_of_ok (Action.exec_get u), h]
  rfl

/-- What the registry makes of a method decides what registering the method as a member does. -/
theorem exec_member {t : HostType} {id : MethodId} {slot : MethodSlot}
    (h : u.method? id = some slot) :
    (∀ r, u.types.registerMember t slot.method.name id = .ok r →
      (member t id).perform.exec u = (.ok (), { u with types := r })) ∧
    ∀ e, u.types.registerMember t slot.method.name id = .error e →
      (member t id).perform.exec u = (.error (.error e), u) := by
  rw [perform, Session.registerMember, Action.exec_bind_of_ok (exec_getMethod h),
    Action.exec_bind_of_ok (Action.exec_get u)]
  exact ⟨fun r hr => by rw [hr]; rfl, fun e he => by rw [he]; rfl⟩

/-- What the registry makes of a method decides what registering the method as an extension does. -/
theorem exec_extension {id : MethodId} {slot : MethodSlot} (h : u.method? id = some slot) :
    (∀ r, u.types.registerExtension slot.method.extensionOf slot.method.name id = .ok r →
      (extension id).perform.exec u = (.ok (), { u with types := r })) ∧
    ∀ e, u.types.registerExtension slot.method.extensionOf slot.method.name id = .error e →
      (extension id).perform.exec u = (.error (.error e), u) := by
  rw [perform, Session.registerExtension, Action.exec_bind_of_ok (exec_getMethod h),
    Action.exec_bind_of_ok (Action.exec_get u)]
  exact ⟨fun r hr => by rw [hr]; rfl, fun e he => by rw [he]; rfl⟩

/-- A rejected operation ends with an error and changes nothing. -/
theorem Follows.exec_of_rejected (h : Follows s ops u) (hrejected : Rejected s ops op) :
    ∃ e, op.perform.exec u = (.error (.error e), u) := by
  cases op with
  | type t name => exact hrejected.elim
  | clear => exact hrejected.elim
  | member t id =>
    cases hslot : u.method? id with
    | none => exact ⟨_, Action.exec_bind_of_error (exec_getMethod_of_none hslot) _⟩
    | some slot =>
      have hunknown : u.types.isRegistered t = false := by
        refine (h.registered t).trans (hrejected.resolve_left fun hnone => ?_)
        rw [← h.method?, hslot] at hnone
        cases hnone
      obtain ⟨e, he⟩ := TypeRegistry.registerMember_of_unknown hunknown slot.method.name id
      exact ⟨e, (exec_member hslot).2 e he⟩
  | extension id =>
    cases hslot : u.method? id with
    | none => exact ⟨_, Action.exec_bind_of_error (exec_getMethod_of_none hslot) _⟩
    | some slot =>
      have htarget : slot.method.extensionOf = none := by
        simpa [Rejected, ← h.method?, hslot] using hrejected
      exact ⟨.invalidDescriptor slot.method.name "not an extension method",
        (exec_extension hslot).2 _ (by rw [htarget]; rfl)⟩

/-- A rejected operation adds nothing to what the history leaves. -/
theorem Follows.concat_of_rejected (h : Follows s ops u) (hrejected : Rejected s ops op) :
    Follows s (ops ++ [op]) u := by
  have hclear : op.isClear = false := by
    cases op with
    | clear => exact hrejected.elim
    | _ => rfl
  refine ⟨h.method?, fun t => ?_, fun t name => ?_, fun t name => ?_⟩
  · rw [h.registered, isRegistered_concat _ _ hclear]
    cases op with
    | type t' name => exact hrejected.elim
    | _ => exact (Bool.or_false _).symm
  · -- A member of a type that is not registered counts for no type.
    have hnone : (if isRegistered ops t then (member? s t name op).toList else []) = [] := by
      cases op with
      | member t' id =>
        rcases hrejected with hmethod | hunknown
        · simp [member?, Option.isNone_iff_eq_none.mp hmethod]
        · by_cases ht : t' = t
          · rw [← ht, hunknown]
            rfl
          · simp [member?, ht]
      | _ => exact ite_self []
    rw [h.own, members_concat _ _ _ _ hclear, hnone, List.append_nil]
  · have hnone : extension? s t name op = none := by
      cases op with
      | extension id =>
        refine if_neg fun hextension => ?_
        obtain ⟨slot, hslot, heq⟩ := Option.map_eq_some_iff.mp hextension
        simp [Rejected, hslot, (Prod.mk.inj heq).1] at hrejected
      | _ => rfl
    rw [h.extended, extensions_concat _ _ _ _ hclear, hnone]
    exact (List.append_nil _).symm

/-- An accepted operation succeeds, and leaves what the longer history leaves. -/
theorem Follows.exec_of_accepted (h : Follows s ops u) (haccepted : ¬ Rejected s ops op) :
    ∃ r, op.perform.exec u = (.ok (), { u with types := r }) ∧
      Follows s (ops ++ [op]) { u with types := r } := by
  cases op with
  | type t typeName =>
    obtain ⟨hregistered, hown, hextensions⟩ := u.types.registerType_spec t typeName
    refine ⟨_, rfl, h.method?, fun t' => ?_, fun t' name => ?_, fun t' name => ?_⟩
    · rw [isRegistered_concat _ _ rfl, ← h.registered]
      exact hregistered t'
    · rw [members_concat _ _ _ _ rfl, ← h.own]
      exact (hown t' name).trans (by simp [member?])
    · rw [extensions_concat _ _ _ _ rfl, ← h.extended]
      unfold TypeRegistry.extended
      rw [hextensions]
      exact (List.append_nil _).symm
  | member t id =>
    obtain ⟨hmethod, hregistered⟩ := not_or.mp haccepted
    obtain ⟨slot, hslot⟩ : ∃ slot, s.method? id = some slot := by
      simpa [Option.ne_none_iff_exists'] using hmethod
    have hknown : isRegistered ops t = true := by simpa using hregistered
    obtain ⟨r, hr, hregistered, hown, hextensions⟩ :=
      TypeRegistry.registerMember_spec ((h.registered t).trans hknown) slot.method.name id
    refine ⟨r, (exec_member ((h.method? id).trans hslot)).1 r hr, h.method?, fun t' => ?_,
      fun t' name => ?_, fun t' name => ?_⟩
    · rw [isRegistered_concat _ _ rfl, ← h.registered]
      exact (hregistered t').trans (Bool.or_false _).symm
    · rw [members_concat _ _ _ _ rfl, ← h.own]
      refine (hown t' name).trans (congrArg _ ?_)
      by_cases ht : t = t'
      · subst ht
        by_cases hname : slot.method.name = name <;> simp [member?, hslot, hknown, hname]
      · simp [member?, ht]
    · rw [extensions_concat _ _ _ _ rfl, ← h.extended]
      unfold TypeRegistry.extended
      rw [hextensions]
      exact (List.append_nil _).symm
  | extension id =>
    obtain ⟨slot, hslot, t, htarget⟩ :
        ∃ slot, s.method? id = some slot ∧ ∃ t, slot.method.extensionOf = some t := by
      simpa [Rejected, Option.isNone_iff_eq_none, Option.ne_none_iff_exists'] using haccepted
    obtain ⟨r, hr, htypes, hextended⟩ :=
      u.types.registerExtension_spec t slot.method.name id
    rw [← htarget] at hr
    refine ⟨r, (exec_extension ((h.method? id).trans hslot)).1 r hr, h.method?, fun t' => ?_,
      fun t' name => ?_, fun t' name => ?_⟩
    · rw [isRegistered_concat _ _ rfl, ← h.registered]
      unfold TypeRegistry.isRegistered
      rw [htypes]
      exact (Bool.or_false _).symm
    · rw [members_concat _ _ _ _ rfl, ← h.own]
      unfold TypeRegistry.own
      rw [htypes]
      simp [member?]
    · rw [extensions_concat _ _ _ _ rfl, ← h.extended]
      refine (hextended t' name).trans (congrArg _ ?_)
      by_cases hboth : t = t' ∧ slot.method.name = name
      · simp [extension?, hslot, htarget, hboth]
      · simp [extension?, hslot, htarget, hboth]
  | clear =>
    refine ⟨.empty, rfl, h.method?, fun t => ?_, fun t name => ?_, fun t name => ?_⟩
    · rw [RegistryOperation.isRegistered, recent_clear]
      rfl
    · rw [members, recent_clear]
      rfl
    · rw [extensions, recent_clear]
      rfl

/-- **One operation** leaves what the history with it leaves. -/
theorem Follows.exec (h : Follows s ops u) (op : RegistryOperation) :
    Follows s (ops ++ [op]) (op.perform.exec u).2 := by
  by_cases hrejected : Rejected s ops op
  · obtain ⟨e, he⟩ := h.exec_of_rejected hrejected
    rw [he]
    exact h.concat_of_rejected hrejected
  · obtain ⟨r, hr, hfollows⟩ := h.exec_of_accepted hrejected
    rw [hr]
    exact hfollows

/-- **What a history leaves** on a session without types. -/
theorem follows_execAll (hempty : s.types = .empty) (ops : List RegistryOperation) :
    Follows s ops (Action.execAll perform s ops).2 := by
  -- What an operation does depends on what the ones before it left, so the last one is taken off.
  induction ops using List.reverseRecOn with
  | nil =>
    refine ⟨fun _ => rfl, fun t => ?_, fun t name => ?_, fun t name => ?_⟩ <;>
      rw [Action.execAll_nil, hempty] <;> rfl
  | append_singleton ops op ih =>
    rw [Action.execAll_concat_snd]
    exact ih.exec op

/-- The members under exactly a name are those that the history leaves. -/
theorem Follows.exactly (h : Follows s ops u) (t : HostType) (name : String) :
    u.types.exactly t name = listing s ops t name := by
  rw [TypeRegistry.exactly_eq, h.own, h.extended, listing]

end RegistryOperation

namespace TypeRegistry

variable {r : TypeRegistry} {t : HostType} {name : String} {spelling : Spelling}

theorem find?_exactly_eq_none {names : List String} (h : ∀ c ∈ names, r.exactly t c = []) :
    (names.map (r.exactly t)).find? (!·.isEmpty) = none := by
  rw [List.find?_eq_none]
  intro found hfound
  obtain ⟨c, hc, rfl⟩ := List.mem_map.mp hfound
  simp [h c hc]

/-- A name stands for the members under the first spelling that has any. -/
theorem resolve_of_first {before behind : List String} {c : String}
    (hcandidates : spelling.candidates name = before ++ c :: behind)
    (hbefore : ∀ b ∈ before, r.exactly t b = []) (hc : r.exactly t c ≠ []) :
    r.resolve t name spelling = r.exactly t c := by
  have hfound : (!(r.exactly t c).isEmpty) = true := by simpa using hc
  rw [resolve, hcandidates, List.map_append, List.map_cons, List.find?_append,
    find?_exactly_eq_none hbefore, List.find?_cons, hfound]
  rfl

/-- A name stands for nothing if none of its spellings has members. -/
theorem resolve_of_none (h : ∀ c ∈ spelling.candidates name, r.exactly t c = []) :
    r.resolve t name spelling = [] := by
  rw [resolve, find?_exactly_eq_none h]
  rfl

end TypeRegistry

open RegistryOperation in
/-- **Names follow the history of the registry.** After any operations on an empty registry, a name
on a type stands for what its first spelling with any members lists: the members registered on the
type under exactly that spelling since the last clearing, and behind them the extensions under it
that name the type, both in the order of registration. It stands for nothing if no spelling lists
anything, and an exact match wins, since a name is its own first spelling. A rejected operation
changes nothing. -/
theorem Session.members_follow_history {s t : Session} (hempty : s.types = .empty)
    (ops : List RegistryOperation) (ht : (Action.execAll perform s ops).2 = t) :
    (∀ type name, ∀ spelling : Spelling,
      (∀ before c behind, spelling.candidates name = before ++ c :: behind →
        (∀ b ∈ before, listing s ops type b = []) → listing s ops type c ≠ [] →
        t.types.resolve type name spelling = listing s ops type c) ∧
      ((∀ c ∈ spelling.candidates name, listing s ops type c = []) →
        t.types.resolve type name spelling = []) ∧
      (listing s ops type name ≠ [] →
        t.types.resolve type name spelling = listing s ops type name) ∧
      (spelling.candidates name).head? = some name ∧ (spelling.candidates name).Nodup) ∧
    (∀ op, Rejected s ops op → ∃ e, op.perform.exec t = (.error (.error e), t)) ∧
    ∀ op, ¬ Rejected s ops op → (op.perform.exec t).1 = .ok () := by
  subst ht
  have hfollows := follows_execAll hempty ops
  have hfirst (type : HostType) (name : String) (spelling : Spelling) (before : List String)
      (c : String) (behind : List String)
      (hcandidates : spelling.candidates name = before ++ c :: behind)
      (hbefore : ∀ b ∈ before, listing s ops type b = []) (hc : listing s ops type c ≠ []) :
      (Action.execAll perform s ops).2.types.resolve type name spelling =
        listing s ops type c := by
    rw [← hfollows.exactly] at hc ⊢
    exact TypeRegistry.resolve_of_first hcandidates
      (fun b hb => (hfollows.exactly type b).trans (hbefore b hb)) hc
  refine ⟨fun type name spelling => ?_, fun op => hfollows.exec_of_rejected, fun op haccepted => ?_⟩
  · obtain ⟨hhead, hnodup⟩ := spelling.candidates_spec name
    refine ⟨hfirst type name spelling, fun hnone => ?_, fun hname => ?_, hhead, hnodup⟩
    · exact TypeRegistry.resolve_of_none fun c hc => (hfollows.exactly type c).trans (hnone c hc)
    · obtain ⟨behind, hbehind⟩ := List.head?_eq_some_iff.mp hhead
      exact hfirst type name spelling [] name behind hbehind (fun b hb => by cases hb) hname
  · obtain ⟨r, hr, -⟩ := hfollows.exec_of_accepted haccepted
    rw [hr]

open RegistryOperation in
/-- A member is rejected before its type is there, and later registered between another and an
extension of the same name; what came before the clearing is gone. With every style enabled, another
spelling of the name finds the same members; without, it finds none. -/
theorem Session.members_follow_history_past_clearing :
    ∃ (m : Method) (s t : Session) (ops : List RegistryOperation),
      m.name = "getValue" ∧
      s = { bare 1 with
        methods := #[.fresh m, .fresh { m with extensionOf := some .counter }, .fresh m] } ∧
      ops = [.member .counter ⟨0⟩, .type .counter "Counter", .extension ⟨1⟩, .member .counter ⟨0⟩,
        .clear, .type .counter "Counter", .extension ⟨0⟩, .extension ⟨1⟩, .member .counter ⟨2⟩,
        .type .counter "Counter", .member .account ⟨0⟩, .member .counter ⟨0⟩] ∧
      s.types = .empty ∧ (Action.execAll perform s ops).2 = t ∧
      t.types.resolve .counter "getValue" .all = [⟨2⟩, ⟨0⟩, ⟨1⟩] ∧
      t.types.resolve .counter "get_value" .exact = [] ∧
      t.types.resolve .counter "get_value" .all = [⟨2⟩, ⟨0⟩, ⟨1⟩] ∧
      ∃ e, (RegistryOperation.member .account ⟨0⟩).perform.exec t = (.error (.error e), t) := by
  let m : Method :=
    { name := "getValue"
      kind := .method
      isStatic := false
      extensionOf := none
      genericCount := 0
      parameters := []
      returns := none
      mode := .default
      code := .body (.value .void) }
  let s : Session :=
    { bare 1 with
      methods := #[.fresh m, .fresh { m with extensionOf := some .counter }, .fresh m] }
  let ops : List RegistryOperation :=
    [.member .counter ⟨0⟩, .type .counter "Counter", .extension ⟨1⟩, .member .counter ⟨0⟩,
      .clear, .type .counter "Counter", .extension ⟨0⟩, .extension ⟨1⟩, .member .counter ⟨2⟩,
      .type .counter "Counter", .member .account ⟨0⟩, .member .counter ⟨0⟩]
  have hlisting : listing s ops .counter "getValue" = [⟨2⟩, ⟨0⟩, ⟨1⟩] := by decide
  have hlisted : listing s ops .counter "getValue" ≠ [] := by
    rw [hlisting]
    exact List.cons_ne_nil _ _
  have hnone : listing s ops .counter "get_value" = [] := by decide
  have hcapital : listing s ops .counter "Get_value" = [] := by decide
  have hcandidates : Spelling.all.candidates "get_value" =
      ["get_value", "Get_value"] ++ "getValue" :: ["GetValue"] := by decide
  obtain ⟨hnames, hrejected, -⟩ := members_follow_history (s := s) rfl ops rfl
  obtain ⟨-, -, hexact, -, -⟩ := hnames .counter "getValue" .all
  obtain ⟨-, hempty, -, -, -⟩ := hnames .counter "get_value" .exact
  obtain ⟨hfirst, -, -, -, -⟩ := hnames .counter "get_value" .all
  refine ⟨m, s, _, ops, rfl, rfl, rfl, rfl, rfl, ?_, ?_, ?_,
    hrejected (.member .account ⟨0⟩) (Or.inr rfl)⟩
  · rw [hexact hlisted, hlisting]
  · refine hempty fun c hc => ?_
    obtain rfl : c = "get_value" := List.mem_singleton.mp hc
    exact hnone
  · -- The name itself and its capitalized form have no members; the camel case has.
    rw [hfirst _ _ _ hcandidates _ hlisted, hlisting]
    intro b hb
    rcases List.mem_cons.mp hb with rfl | hb
    · exact hnone
    · obtain rfl := List.mem_singleton.mp hb
      exact hcapital

end ScriptHost
