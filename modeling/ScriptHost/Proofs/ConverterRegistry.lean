import Mathlib.Data.List.Induction
import ScriptHost.Registration
import ScriptHost.Proofs.Outcome

/-!
# The registry of conversions over its history

A host declares conversions of its own, replaces them, removes them and clears the registry, in any
order. What is registered for a key is what the last operation that decides about the key put there;
an operation that is rejected decides about nothing. Conversion to the host then asks that
conversion first, and falls back on the default and on the standard rules.

## Main definitions

* `ConverterOperation`: what a host does to the registry.
* `ConverterOperation.Rejected`, `DecidesToHost`, `DecidesToScript`: which operations change what.
* `ConverterOperation.lastToHost`, `lastToScript`: the last operation that decides about a key.
* `ConverterOperation.Installs`, `Converts`: the conversion for a value that a history leaves, and
  its answer.

## Main results

* `ConverterOperation.exec_of_rejected`, `exec_of_accepted`: what one operation does.
* `ConverterOperation.get?_toHost_execAll`, `get?_toScript_execAll`: what a history leaves.
* `Session.conversion_follows_history`: look-up and conversion after any history.
-/

namespace ScriptHost

/-- **What a host does to the registry of conversions.** -/
inductive ConverterOperation where
  /-- Declares a conversion to the host, or removes it. -/
  | setToHost (kind : Kind) (t : HostType) (c : Option ToHostConverter) (g : Option Guard)
  /-- Declares a conversion to scripts, or removes it. -/
  | setToScript (t : HostType) (c : Option ToScriptConverter)
  | clear

namespace ConverterOperation

/-- The operation on a session. -/
def perform : ConverterOperation → Action Unit
  | setToHost kind t c g => Session.setToHost kind t c g
  | setToScript t c => liftM (Session.setToScript t c)
  | clear => liftM Session.clearConverters

/-- **What is rejected**: conversions of kinds that never reach the host, and guards with nothing to
guard. -/
def Rejected : ConverterOperation → Prop
  | setToHost kind _ c g =>
    kind = .tuple ∨ kind = .request ∨ (c.isNone = true ∧ g.isSome = true)
  | setToScript .. | clear => False

instance : DecidablePred Rejected
  | setToHost kind _ c g => inferInstanceAs (Decidable
      (kind = .tuple ∨ kind = .request ∨ (c.isNone = true ∧ g.isSome = true)))
  | setToScript .. | clear => inferInstanceAs (Decidable False)

/-- **The operation decides** what is registered for values of a kind and a host type. -/
def DecidesToHost (kind : Kind) (t : HostType) : ConverterOperation → Prop
  | setToHost kind' t' c g => (kind' = kind ∧ t' = t) ∧ ¬ (setToHost kind' t' c g).Rejected
  | setToScript .. => False
  | clear => True

instance (kind : Kind) (t : HostType) : DecidablePred (DecidesToHost kind t)
  | setToHost kind' t' c g => inferInstanceAs (Decidable
      ((kind' = kind ∧ t' = t) ∧ ¬ (setToHost kind' t' c g).Rejected))
  | setToScript .. => inferInstanceAs (Decidable False)
  | clear => inferInstanceAs (Decidable True)

/-- The operation decides what is registered for values of a host type. -/
def DecidesToScript (t : HostType) : ConverterOperation → Prop
  | setToHost .. => False
  | setToScript t' _ => t' = t
  | clear => True

instance (t : HostType) : DecidablePred (DecidesToScript t)
  | setToHost .. => inferInstanceAs (Decidable False)
  | setToScript t' _ => inferInstanceAs (Decidable (t' = t))
  | clear => inferInstanceAs (Decidable True)

/-- The last operation that decides about values of a kind and a host type. -/
def lastToHost (ops : List ConverterOperation) (kind : Kind) (t : HostType) :
    Option ConverterOperation :=
  ops.reverse.find? (DecidesToHost kind t ·)

/-- The last operation that decides about values of a host type. -/
def lastToScript (ops : List ConverterOperation) (t : HostType) : Option ConverterOperation :=
  ops.reverse.find? (DecidesToScript t ·)

/-- The conversion of a value to a host type that a history leaves: declared by the last
operation that decides, without a guard or with one that lets the value pass. -/
def Installs (ops : List ConverterOperation) (v : Value) (t : HostType) (f : ToHostConverter) :
    Prop :=
  ∃ g, lastToHost ops v.kind t = some (setToHost v.kind t (some f) g) ∧
    ∀ guard, g = some guard → guard.admits v = true

/-- The answer of the conversion of a value that a history leaves for a parameter type. -/
def Converts (ops : List ConverterOperation) (v : Value) (type : ParamType) (h : HostValue) :
    Prop :=
  ∃ t f, type.hostType? = some t ∧ Installs ops v t f ∧ f.apply v = some h

/-! ## One operation -/

/-- What the operation puts in the place of a conversion to the host. -/
def toHostEntry? : ConverterOperation → Option GuardedConverter
  | setToHost _ _ c g => c.map (⟨·, g⟩)
  | setToScript .. | clear => none

/-- What the operation puts in the place of a conversion to scripts. -/
def toScriptEntry? : ConverterOperation → Option ToScriptConverter
  | setToScript _ c => c
  | setToHost .. | clear => none

theorem isConvertible_iff {kind : Kind} :
    kind.isConvertible = true ↔ kind ≠ .tuple ∧ kind ≠ .request := by
  cases kind <;> simp [Kind.isConvertible]

/-- An accepted declaration changes one entry, and a rejected one gives an error. -/
theorem setToHost_cases (r : Converters) (kind : Kind) (t : HostType) (c : Option ToHostConverter)
    (g : Option Guard) :
    ((setToHost kind t c g).Rejected ∧ ∃ e, r.setToHost kind t c g = .error e) ∨
    (¬ (setToHost kind t c g).Rejected ∧ ∃ m, r.setToHost kind t c g = .ok { r with toHost := m } ∧
      ∀ key, m.get? key = if key = (kind, t) then c.map (⟨·, g⟩) else r.toHost.get? key) := by
  unfold Converters.setToHost
  -- The kind is checked first, and a guard without a conversion only for the other kinds.
  by_cases hkind : kind.isConvertible = true
  · obtain ⟨htuple, hrequest⟩ := isConvertible_iff.mp hkind
    rw [hkind]
    cases c with
    | some f =>
      refine Or.inr ⟨?_, _, rfl, fun key => Keyed.get?_insert _ _ _ _⟩
      simp [Rejected, htuple, hrequest]
    | none =>
      cases g with
      | some guard => exact Or.inl ⟨Or.inr (Or.inr ⟨rfl, rfl⟩), _, rfl⟩
      | none =>
        refine Or.inr ⟨?_, _, rfl, fun key => Keyed.get?_erase _ _ _⟩
        simp [Rejected, htuple, hrequest]
  · refine Or.inl ⟨?_, _, if_pos (by simpa using hkind)⟩
    rw [isConvertible_iff, not_and_or, not_not, not_not] at hkind
    exact hkind.imp_right Or.inl

/-- A rejected operation ends with an error and changes nothing. -/
theorem exec_of_rejected {op : ConverterOperation} (h : op.Rejected) (s : Session) :
    ∃ e, op.perform.exec s = (.error (.error e), s) := by
  cases op with
  | setToHost kind t c g =>
    obtain ⟨-, e, he⟩ | ⟨haccepted, -⟩ := setToHost_cases s.converters kind t c g
    · refine ⟨e, ?_⟩
      rw [perform, Session.setToHost, Action.exec_bind_of_ok (Action.exec_get s), he]
      rfl
    · exact absurd h haccepted
  | setToScript t c => exact h.elim
  | clear => exact h.elim

/-- **An accepted operation** succeeds and changes the conversions that it decides about. -/
theorem exec_of_accepted {op : ConverterOperation} (h : ¬ op.Rejected) (s : Session) :
    ∃ c, op.perform.exec s = (.ok (), { s with converters := c }) ∧
      (∀ kind t, c.toHost.get? (kind, t) =
        if op.DecidesToHost kind t then op.toHostEntry? else s.converters.toHost.get? (kind, t)) ∧
      ∀ t, c.toScript.get? t =
        if op.DecidesToScript t then op.toScriptEntry? else s.converters.toScript.get? t := by
  cases op with
  | setToHost kind t c g =>
    obtain ⟨hrejected, -⟩ | ⟨-, m, hm, hget⟩ := setToHost_cases s.converters kind t c g
    · exact absurd hrejected h
    · refine ⟨{ s.converters with toHost := m }, ?_, fun kind' t' => ?_, fun t' => rfl⟩
      · rw [perform, Session.setToHost, Action.exec_bind_of_ok (Action.exec_get s), hm]
        rfl
      · refine (hget _).trans (if_congr ?_ rfl rfl)
        simp only [DecidesToHost, h, Prod.mk.injEq, not_false_eq_true, and_true, eq_comm]
  | setToScript t c =>
    refine ⟨_, rfl, fun kind t' => ?_, fun t' => ?_⟩
    · cases c <;> rfl
    · cases c with
      | some f => exact (Keyed.get?_insert _ _ _ _).trans (if_congr eq_comm rfl rfl)
      | none => exact (Keyed.get?_erase _ _ _).trans (if_congr eq_comm rfl rfl)
  | clear => exact ⟨.empty, rfl, fun _ _ => rfl, fun _ => rfl⟩

theorem not_decidesToHost_of_rejected {op : ConverterOperation} (h : op.Rejected) (kind : Kind)
    (t : HostType) : ¬ op.DecidesToHost kind t := by
  cases op with
  | setToHost kind' t' c g => exact fun hdecides => hdecides.2 h
  | setToScript t' c => exact h.elim
  | clear => exact h.elim

theorem not_decidesToScript_of_rejected {op : ConverterOperation} (h : op.Rejected)
    (t : HostType) : ¬ op.DecidesToScript t := by
  cases op with
  | setToHost kind' t' c g => exact fun hdecides => hdecides
  | setToScript t' c => exact h.elim
  | clear => exact h.elim

/-- One operation changes the conversions that it decides about and no others. -/
theorem get?_exec (op : ConverterOperation) (s : Session) :
    (∀ kind t, (op.perform.exec s).2.converters.toHost.get? (kind, t) =
      if op.DecidesToHost kind t then op.toHostEntry? else s.converters.toHost.get? (kind, t)) ∧
    ∀ t, (op.perform.exec s).2.converters.toScript.get? t =
      if op.DecidesToScript t then op.toScriptEntry? else s.converters.toScript.get? t := by
  by_cases h : op.Rejected
  · obtain ⟨e, he⟩ := exec_of_rejected h s
    rw [he]
    exact ⟨fun kind t => (if_neg (not_decidesToHost_of_rejected h kind t)).symm,
      fun t => (if_neg (not_decidesToScript_of_rejected h t)).symm⟩
  · obtain ⟨c, hc, htoHost, htoScript⟩ := exec_of_accepted h s
    rw [hc]
    exact ⟨htoHost, htoScript⟩

/-! ## A history -/

/-- The last one decides: what actions leave in a place that was empty is what the last one that
decides about it puts there, if each action changes what it decides about and nothing else. -/
theorem look_execAll {ι α ν : Type} {a : ι → Action α} (look : Session → Option ν)
    (P : ι → Prop) [DecidablePred P] (entry : ι → Option ν)
    (hstep : ∀ i s, look ((a i).exec s).2 = if P i then entry i else look s)
    {s : Session} (hnone : look s = none) (l : List ι) :
    look (Action.execAll a s l).2 = (l.reverse.find? (P ·)).bind entry := by
  -- From the end: either the last action decides, or what the others leave stays.
  induction l using List.reverseRecOn with
  | nil => exact hnone
  | append_singleton l i ih =>
    rw [Action.execAll_concat_snd, hstep, List.reverse_append, List.reverse_singleton,
      List.singleton_append, List.find?_cons]
    by_cases h : P i
    · rw [if_pos h, decide_eq_true h]
      rfl
    · rw [if_neg h, decide_eq_false h, ih]

/-- The last operation that decides, and what it declares. -/
theorem lastToHost_bind_eq_some_iff {ops : List ConverterOperation} {kind : Kind} {t : HostType}
    {f : ToHostConverter} {g : Option Guard} :
    (lastToHost ops kind t).bind toHostEntry? = some ⟨f, g⟩ ↔
      lastToHost ops kind t = some (setToHost kind t (some f) g) := by
  constructor
  · intro h
    obtain ⟨op, hop, hentry⟩ := Option.bind_eq_some_iff.mp h
    have hdecides : op.DecidesToHost kind t := by simpa using List.find?_some hop
    -- Clearing decides as well, but puts nothing there.
    cases op with
    | setToHost kind' t' c g' =>
      obtain ⟨⟨rfl, rfl⟩, -⟩ := hdecides
      obtain ⟨f', rfl, heq⟩ := Option.map_eq_some_iff.mp hentry
      obtain ⟨rfl, rfl⟩ := GuardedConverter.mk.inj heq
      exact hop
    | setToScript t' c => cases hentry
    | clear => cases hentry
  · intro h
    rw [h]
    rfl

/-- Look-up gives a conversion whose guard, if it has one, lets the value pass. -/
theorem lookupToHost_eq_some_iff {c : Converters} {v : Value} {t : HostType}
    {f : ToHostConverter} :
    c.lookupToHost v t = some f ↔ ∃ g, c.toHost.get? (v.kind, t) = some ⟨f, g⟩ ∧
      ∀ guard, g = some guard → guard.admits v = true := by
  unfold Converters.lookupToHost
  rcases c.toHost.get? (v.kind, t) with _ | ⟨f', _ | guard⟩
  · simp
  · simp
  · by_cases hadmits : guard.admits v = true <;> simp [hadmits]

section History

variable {s : Session} (hempty : s.converters.isEmpty = true) (ops : List ConverterOperation)
include hempty

/-- **What a history leaves** for values of a kind and a host type. -/
theorem get?_toHost_execAll (kind : Kind) (t : HostType) :
    (Action.execAll perform s ops).2.converters.toHost.get? (kind, t) =
      (lastToHost ops kind t).bind toHostEntry? :=
  look_execAll (·.converters.toHost.get? (kind, t)) (DecidesToHost kind t) toHostEntry?
    (fun op s => (get?_exec op s).1 kind t)
    (Keyed.get?_of_isEmpty (Bool.and_eq_true_iff.mp hempty).1 _) ops

/-- What a history leaves for values of a host type. -/
theorem get?_toScript_execAll (t : HostType) :
    (Action.execAll perform s ops).2.converters.toScript.get? t =
      (lastToScript ops t).bind toScriptEntry? :=
  look_execAll (·.converters.toScript.get? t) (DecidesToScript t) toScriptEntry?
    (fun op s => (get?_exec op s).2 t)
    (Keyed.get?_of_isEmpty (Bool.and_eq_true_iff.mp hempty).2 _) ops

/-- Look-up finds the conversion that a history leaves for a value. -/
theorem lookupToHost_execAll_iff {v : Value} {t : HostType} {f : ToHostConverter} :
    (Action.execAll perform s ops).2.converters.lookupToHost v t = some f ↔
      Installs ops v t f := by
  simp only [lookupToHost_eq_some_iff, get?_toHost_execAll hempty, lastToHost_bind_eq_some_iff,
    Installs]

/-- Look-up finds the conversion to scripts that a history leaves. -/
theorem lookupToScript_execAll_iff {t : HostType} {f : ToScriptConverter} :
    (Action.execAll perform s ops).2.converters.lookupToScript t = some f ↔
      lastToScript ops t = some (setToScript t (some f)) := by
  unfold Converters.lookupToScript
  rw [get?_toScript_execAll hempty]
  constructor
  · intro h
    obtain ⟨op, hop, hentry⟩ := Option.bind_eq_some_iff.mp h
    have hdecides : op.DecidesToScript t := by simpa using List.find?_some hop
    cases op with
    | setToHost kind t' c g => cases hentry
    | setToScript t' c =>
      obtain rfl : t' = t := hdecides
      obtain rfl : c = some f := hentry
      exact hop
    | clear => cases hentry
  · intro h
    rw [h]
    rfl

/-- The custom conversion answers as the conversion does that a history leaves. -/
theorem customToHost?_execAll_iff {v : Value} {type : ParamType} {h : HostValue} :
    (Action.execAll perform s ops).2.customToHost? type v = some h ↔ Converts ops v type h := by
  simp only [Session.customToHost?, Option.bind_eq_some_iff, lookupToHost_execAll_iff hempty,
    Converts]
  constructor
  · rintro ⟨f, ⟨t, ht, hf⟩, hh⟩
    exact ⟨t, f, ht, hf, hh⟩
  · rintro ⟨t, f, ht, hf, hh⟩
    exact ⟨f, ⟨t, ht, hf⟩, hh⟩

end History

end ConverterOperation

/-! ## Conversion -/

namespace Session

variable {s : Session} {v : Value} {type : ParamType} {default : Option HostValue} {site : Site}

/-- A nullable type converts what is not nil as the type inside does. -/
theorem toHost_nullable (hnil : v.first ≠ .nil) :
    s.toHost v (.nullable type) default site = s.toHost v type default site := by
  have hsame : s.customToHost? (.nullable type) v.first = s.customToHost? type v.first := rfl
  have hdefault : v.first = .nil → default = none := fun h => absurd h hnil
  have hv : v.first.isNil = false := by
    rw [← Bool.not_eq_true, Value.isNil_iff]
    exact hnil
  cases hcustom : s.customToHost? type v.first with
  | some h => rw [toHost_of_custom hcustom, toHost_of_custom (hsame.trans hcustom)]
  | none =>
    rw [toHost_of_standard hcustom hdefault, toHost_of_standard (hsame.trans hcustom) hdefault,
      standardToHost_nullable hv]

open ConverterOperation in
/-- **Conversion follows the history of the registry.** After any operations on an empty registry,
look-up gives the conversion that the last accepted operation on the key declared, if no clearing
came after it and if its guard lets the value pass. A rejected operation changes nothing. A
conversion to the host gives the answer of that conversion, if there is one and it answers; else the
default, for nil; else what the standard rules give. A nullable type makes a difference for nil
only. -/
theorem conversion_follows_history (hempty : s.converters.isEmpty = true)
    (ops : List ConverterOperation) {t : Session}
    (ht : (Action.execAll perform s ops).2 = t) :
    (∀ v type f, t.converters.lookupToHost v type = some f ↔ Installs ops v type f) ∧
    (∀ type f, t.converters.lookupToScript type = some f ↔
      lastToScript ops type = some (.setToScript type (some f))) ∧
    (∀ op : ConverterOperation, op.Rejected → ∃ e, op.perform.exec t = (.error (.error e), t)) ∧
    (∀ op : ConverterOperation, ¬ op.Rejected → (op.perform.exec t).1 = .ok ()) ∧
    ∀ v type default site,
      (∀ h, Converts ops v.first type h → t.toHost v type default site = .ok h) ∧
      ((¬ ∃ h, Converts ops v.first type h) →
        (∀ d, v.first = .nil → default = some d → t.toHost v type default site = .ok d) ∧
        ((v.first = .nil → default = none) →
          t.toHost v type default site = t.standardToHost site type v.first)) ∧
      (v.first ≠ .nil →
        t.toHost v (.nullable type) default site = t.toHost v type default site) := by
  subst ht
  refine ⟨fun v type f => lookupToHost_execAll_iff hempty ops,
    fun type f => lookupToScript_execAll_iff hempty ops,
    fun op hrejected => exec_of_rejected hrejected _, fun op haccepted => ?_,
    fun v type default site => ⟨fun h hconverts => ?_, fun hnone => ?_, toHost_nullable⟩⟩
  · obtain ⟨c, hc, -⟩ := exec_of_accepted haccepted (Action.execAll perform s ops).2
    rw [hc]
  · exact toHost_of_custom ((customToHost?_execAll_iff hempty ops).mpr hconverts)
  · have hcustom :
        (Action.execAll perform s ops).2.customToHost? type v.first = none := by
      refine Option.eq_none_iff_forall_ne_some.mpr fun h hh => hnone ⟨h, ?_⟩
      exact (customToHost?_execAll_iff hempty ops).mp hh
    refine ⟨fun d hnil hdefault => ?_, toHost_of_standard hcustom⟩
    rw [hdefault]
    exact toHost_of_default hcustom hnil

open ConverterOperation in
/-- A conversion that replaces one from before a clearing outlives two operations that are rejected,
a guard alone on its own key among them; where a guard refuses, nil takes its default. -/
theorem conversion_follows_history_past_rejected :
    ∃ (ops : List ConverterOperation) (t : Session) (site : Site),
      ops = [.setToHost .string .text (some .silent) none, .clear,
        .setToHost .string .text (some .asIs) (some .truthy),
        .setToHost .string .text none (some .truthy),
        .setToHost .tuple .text (some .silent) none,
        .setToHost .nil .double (some (.constant .void)) (some (.constant false))] ∧
      (bare 1).converters.isEmpty = true ∧ (Action.execAll perform (bare 1) ops).2 = t ∧
      t.converters.lookupToHost (.string "a") .text = some .asIs ∧
      t.toHost (.string "a") .string none site = .ok (.dynamic (.string "a")) ∧
      t.toHost .nil .number (some (.text "none")) site = .ok (.text "none") ∧
      t.toHost .nil .number none site = t.standardToHost site .number .nil := by
  let ops : List ConverterOperation :=
    [.setToHost .string .text (some .silent) none, .clear,
      .setToHost .string .text (some .asIs) (some .truthy),
      .setToHost .string .text none (some .truthy),
      .setToHost .tuple .text (some .silent) none,
      .setToHost .nil .double (some (.constant .void)) (some (.constant false))]
  have hinstalls : Installs ops (.string "a") .text .asIs :=
    ⟨some .truthy, rfl, fun guard hguard => Option.some.inj hguard ▸ rfl⟩
  have hnone : ¬ ∃ h, Converts ops (Value.nil).first .number h := by
    rintro ⟨h, t, f, ht, ⟨g, hlast, hadmits⟩, -⟩
    obtain rfl : HostType.double = t := Option.some.inj ht
    obtain ⟨-, -, -, rfl⟩ := ConverterOperation.setToHost.inj (Option.some.inj hlast)
    cases hadmits _ rfl
  obtain ⟨hlookup, -, -, -, hconversion⟩ :=
    conversion_follows_history (s := bare 1) rfl ops rfl
  obtain ⟨hcustom, -, -⟩ := hconversion (.string "a") .string none ⟨"f", 1⟩
  obtain ⟨-, hdefault, -⟩ := hconversion .nil .number (some (.text "none")) ⟨"f", 1⟩
  obtain ⟨-, hstandard, -⟩ := hconversion .nil .number none ⟨"f", 1⟩
  exact ⟨ops, _, ⟨"f", 1⟩, rfl, rfl, rfl, (hlookup _ _ _).mpr hinstalls,
    hcustom _ ⟨.text, .asIs, rfl, hinstalls, rfl⟩, (hdefault hnone).1 _ rfl rfl,
    (hstandard hnone).2 fun _ => rfl⟩

end Session

end ScriptHost
