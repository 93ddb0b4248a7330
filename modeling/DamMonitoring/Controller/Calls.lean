/-
DamMonitoring.Controller.Calls — sequences of actuating calls, and when
a call that returns normally has taken effect.

A call trusts the registry: where the registered value is the wanted one,
it returns without a message. The registry is written only after the PUT
answers, so a lost response or a failed update leaves a value behind that
the device no longer has, and a LATER call trusts it.
`calls_real_iff` says exactly which calls are deceived;
`stale_registry_deceives` is a gate that stays half open.

  §1 calls and runs
  §2 what a call does to its gate and to an alarm
  §3 `Linked`, the invariant of a run
  §4 calls that take effect
-/
import DamMonitoring.Controller.Demo

namespace DamMonitoring.Controller

open Program Java Motes Persistence
open ControlLogic
open Persistence.ResourceTable (Distinct)

variable {F : Type} [JavaFloat F]

/-! ## §1 Calls -/

inductive Call where
  | setGateOpening (gateName : String) (openingLevel : Int)
  | increaseGateOpening (gateName : String) (step : Int)
  | decreaseGateOpening (gateName : String) (step : Int)
  | setAlarmStatus (status : Bool)

omit [JavaFloat F] in
def Call.method : Call → Java F Unit
  | .setGateOpening gateName openingLevel => ControlLogic.setGateOpening gateName openingLevel
  | .increaseGateOpening gateName step => ControlLogic.increaseGateOpening gateName step
  | .decreaseGateOpening gateName step => ControlLogic.decreaseGateOpening gateName step
  | .setAlarmStatus status => ControlLogic.setAlarmStatus status

/-- One call under the faults `f`. -/
def call (c : Call) (f : Action F → Fault) (s : State F) : Except JException Unit × State F :=
  run .shell f c.method s

/-- A sequence of calls, each with the faults it meets. -/
abbrev Calls (F : Type) : Type := List (Call × (Action F → Fault))

/-- Every call of the sequence, with its faults and the state it starts
from, has the property. -/
def Calls.Along (P : Call → (Action F → Fault) → State F → Prop) : Calls F → State F → Prop :=
  Program.Along (fun p s => (call p.1 p.2 s).2) fun p => P p.1 p.2

/-- If the call returns normally, the devices are where it wants them. -/
def Real (c : Call) (f : Action F → Fault) (s : State F) : Prop :=
  (call c f s).1 = .ok () →
    match c with
    | .setGateOpening gateName openingLevel => InRange openingLevel →
        ∀ r ∈ s.world.resources.gates, fold r.name = fold gateName →
          (call c f s).2.world.level r.uri = some openingLevel
    | .setAlarmStatus status =>
        ∀ r ∈ s.world.resources.alarms,
          (call c f s).2.world.alarmState r.uri = some status
    | _ => True

omit [JavaFloat F] in
/-- The faults keep a change of the alarm from being made and recorded. -/
def Hindered (f : Action F → Fault) (status : Bool) (r : Resource) : Prop :=
  f (.clientPut r.uri (ResAlarm.stateNode status)) ≠ .none ∨
    ∃ message, f (.updateValue r.name (statusValue status)) = .failed message

omit [JavaFloat F] in
/-- Where the registry shows what the call wants, the device has it; or
the call is bound to fail at another alarm. -/
def Faithful (c : Call) (f : Action F → Fault) (s : State F) : Prop :=
  match c with
  | .setGateOpening gateName openingLevel => InRange openingLevel →
      ∀ r ∈ s.world.resources.gates, fold r.name = fold gateName →
        s.world.resources.value r.name = some openingLevel →
        s.world.level r.uri = some openingLevel
  | .setAlarmStatus status =>
      (∀ r ∈ s.world.resources.alarms, ∀ v, s.world.resources.value r.name = some v →
        decide (v = 1) = status → s.world.alarmState r.uri = some status) ∨
      ∃ r ∈ s.world.resources.alarms, ∃ v, s.world.resources.value r.name = some v ∧
        decide (v = 1) ≠ status ∧ Hindered f status r
  | _ => True

omit [JavaFloat F] in
/-- No response is lost and no update fails. -/
def Reliable (f : Action F → Fault) : Prop :=
  (∀ uri payload, f (.clientPut uri payload) ≠ .responseLost) ∧
    ∀ name v message, f (.updateValue name v) ≠ .failed message

/-! ## §2 Outcomes -/

section Outcomes

variable {f : Action F → Fault} {s s' : State F} {name : String} {uri : Uri}
  {next : Int → Option Int} {out : Except JException Unit} {sure : Prop}

omit [JavaFloat F]

/-- A gate call leaves its gate with a registered value and a level,
equal if they were and the faults are `Reliable`. -/
theorem Updated.gate_linked (h : Updated f s name uri (gateCommand next) out s')
    (huri : s.world.resources.uri name = some uri) {c d : Int}
    (hc : s.world.resources.value name = some c) (hd : s.world.level uri = some d)
    (hf : sure → Reliable f) (hcd : sure → c = d) :
    ∃ c' d', s'.world.resources.value name = some c' ∧ s'.world.level uri = some d' ∧
      (sure → c' = d') := by
  cases h with
  | unset hnull => rw [hc] at hnull; cases hnull
  | kept _ _ quiet =>
    rw [quiet.world]
    exact ⟨c, d, hc, hd, hcd⟩
  | @commanded _ c' v payload _ hc' hmove result =>
    obtain rfl : c' = c := Option.some.inj (hc'.symm.trans hc)
    obtain ⟨L, hL, hpair⟩ := Option.map_eq_some_iff.mp hmove
    obtain ⟨rfl, rfl⟩ := Prod.mk.inj hpair
    obtain ⟨text, code, hreply, hcode⟩ := World.serve_openingLevel hd L
    cases result with
    | lost _ hw _ =>
      rw [hw]
      exact ⟨c', d, hc, hd, hcd⟩
    | unanswered why hw _ =>
      rw [hw, World.serve_resources, World.level_serve_self hd]
      exact ⟨c', _, hc, rfl, fun hs => absurd why ((hf hs).1 _ _)⟩
    | rejected _ hreply' href hw _ =>
      rw [hreply] at hreply'
      cases hreply'
      have hno : ¬ResGate.Accepts L := by simpa [href] using hcode.symm
      rw [hw, World.serve_resources, World.level_serve_self hd, if_neg hno]
      exact ⟨c', d, hc, rfl, hcd⟩
    | unrecorded _ _ _ hfail hw _ =>
      rw [hw, World.serve_resources, World.level_serve_self hd]
      exact ⟨c', _, hc, rfl, fun hs => absurd hfail ((hf hs).2 _ _ _)⟩
    | done _ hreply' hacc _ hw _ =>
      rw [hreply] at hreply'
      cases hreply'
      have hyes : ResGate.Accepts L := by simpa [hacc] using hcode.symm
      have huri' : (s.world.serve uri (ResGate.openingLevelNode L)).2.resources.uri name =
          some uri := by rw [World.serve_resources, huri]
      have hval : s'.world.resources.value name = some L := by
        rw [hw]
        exact ResourceTable.value_setValue_self huri' rfl L
      refine ⟨L, L, hval, ?_, fun _ => rfl⟩
      rw [hw, World.level_setValue, World.level_serve_self hd, if_pos hyes]

/-- A gate call that names an alarm changes nothing: no alarm takes an
opening level. -/
theorem Updated.gate_on_alarm (h : Updated f s name uri (gateCommand next) out s') {b : Bool}
    (hb : s.world.alarmState uri = some b) :
    s'.world.resources.value name = s.world.resources.value name ∧
      s'.world.alarmState uri = some b := by
  cases h with
  | unset _ quiet => rw [quiet.world]; exact ⟨rfl, hb⟩
  | kept _ _ quiet => rw [quiet.world]; exact ⟨rfl, hb⟩
  | commanded _ hmove result =>
    obtain ⟨L, -, hpair⟩ := Option.map_eq_some_iff.mp hmove
    obtain ⟨rfl, rfl⟩ := Prod.mk.inj hpair
    obtain ⟨hb', code, text, hreply, hcode⟩ := World.alarm_serve_openingLevel hb L
    cases result with
    | lost _ hw _ => rw [hw]; exact ⟨rfl, hb⟩
    | unanswered _ hw _ => rw [hw, World.serve_resources]; exact ⟨rfl, hb'⟩
    | rejected _ _ _ hw _ => rw [hw, World.serve_resources]; exact ⟨rfl, hb'⟩
    | unrecorded _ hreply' hacc =>
      rw [hreply] at hreply'
      cases hreply'
      rw [hcode] at hacc
      cases hacc
    | done _ hreply' hacc =>
      rw [hreply] at hreply'
      cases hreply'
      rw [hcode] at hacc
      cases hacc

/-- The same of an alarm round as `Updated.gate_linked` of a gate call. -/
theorem Updated.alarm_linked {status : Bool}
    (h : Updated f s name uri (alarmCommand status) out s')
    (huri : s.world.resources.uri name = some uri) {c : Int} {b : Bool}
    (hc : s.world.resources.value name = some c) (hb : s.world.alarmState uri = some b)
    (hf : sure → Reliable f) (hcb : sure → c = statusValue b) :
    ∃ c' b', s'.world.resources.value name = some c' ∧ s'.world.alarmState uri = some b' ∧
      (sure → c' = statusValue b') := by
  cases h with
  | unset hnull => rw [hc] at hnull; cases hnull
  | kept _ _ quiet =>
    rw [quiet.world]
    exact ⟨c, b, hc, hb, hcb⟩
  | commanded _ hmove result =>
    unfold alarmCommand at hmove
    split at hmove
    · cases hmove
      have hstate := World.alarmState_serve_self hb status
      cases result with
      | lost _ hw _ =>
        rw [hw]
        exact ⟨c, b, hc, hb, hcb⟩
      | unanswered why hw _ =>
        rw [hw, World.serve_resources]
        exact ⟨c, _, hc, hstate, fun hs => absurd why ((hf hs).1 _ _)⟩
      | rejected _ hreply href _ _ =>
        obtain ⟨text, hreply'⟩ := World.serve_state hb status
        rw [hreply] at hreply'
        cases hreply'
        cases href
      | unrecorded _ _ _ hfail hw _ =>
        rw [hw, World.serve_resources]
        exact ⟨c, _, hc, hstate, fun hs => absurd hfail ((hf hs).2 _ _ _)⟩
      | done _ _ _ _ hw _ =>
        have huri' : (s.world.serve uri (ResAlarm.stateNode status)).2.resources.uri name =
            some uri := by rw [World.serve_resources, huri]
        rw [hw]
        exact ⟨_, _, ResourceTable.value_setValue_self huri' rfl _, hstate, fun _ => rfl⟩
    · cases hmove

end Outcomes

/-! ## §3 The invariant -/

section Linked

variable {f : Action F → Fault} {s s' : State F} {name : String} {uri : Uri}
  {next : Int → Option Int} {out : Except JException Unit} {sure : Prop}

omit [JavaFloat F]

/-- A gate has a registered value and a level, equal if `sure`. -/
def GateLinked (sure : Prop) (r : Resource) (w : World F) : Prop :=
  w.resources.uri r.name = some r.uri ∧
    ∃ c d, w.resources.value r.name = some c ∧ w.level r.uri = some d ∧ (sure → c = d)

/-- An alarm has a registered value and a state, in agreement if `sure`. -/
def AlarmLinked (sure : Prop) (r : Resource) (w : World F) : Prop :=
  w.resources.uri r.name = some r.uri ∧
    ∃ c b, w.resources.value r.name = some c ∧ w.alarmState r.uri = some b ∧
      (sure → c = statusValue b)

theorem local_gateLinked : Local (F := F) (GateLinked sure) := by
  intro _ _ _ _ h hd ⟨hu, c, d, hc, hl, hcd⟩
  exact ⟨(h.uri _).trans hu, c, d,
    (h.value_of_distinct hd).trans hc, (h.level_of_distinct hd).trans hl, hcd⟩

theorem local_alarmLinked : Local (F := F) (AlarmLinked sure) := by
  intro _ _ _ _ h hd ⟨hu, c, b, hc, hl, hcb⟩
  exact ⟨(h.uri _).trans hu, c, b,
    (h.value_of_distinct hd).trans hc, (h.alarmState_of_distinct hd).trans hl, hcb⟩

/-- Gates and alarms have values and devices; if `sure`, the values are
those of the devices. -/
structure Linked (sure : Prop) (w : World F) : Prop where
  gates : ∀ r ∈ w.resources.gates, GateLinked sure r w
  alarms : ∀ r ∈ w.resources.alarms, AlarmLinked sure r w

theorem linked_of_agree {w : World F} (hg : GatesAgree w) (ha : AlarmsAgree w) :
    Linked sure w where
  gates r hr := by
    obtain ⟨c, hv, hl⟩ := hg r hr
    have hmem := ResourceTable.mem_of_gate hr
    exact ⟨ResourceTable.uri_of_mem hmem, c, c, (ResourceTable.value_of_mem hmem).trans hv, hl,
      fun _ => rfl⟩
  alarms r hr := by
    obtain ⟨b, hv, hb⟩ := ha r hr
    have hmem := ResourceTable.mem_of_alarm hr
    exact ⟨ResourceTable.uri_of_mem hmem, statusValue b, b,
      (ResourceTable.value_of_mem hmem).trans hv, hb, fun _ => rfl⟩

/-- The names and URIs of a type do not change, so it is enough to look
at the gates and alarms of the first world. -/
theorem Linked.of_touched {rs : List Resource} {w w' : World F} (h : Touched rs w w')
    (hg : ∀ r ∈ w.resources.gates, GateLinked sure r w')
    (ha : ∀ r ∈ w.resources.alarms, AlarmLinked sure r w') : Linked sure w' where
  gates r hr := by
    obtain ⟨q, hq, hname, huri⟩ := h.mem_ofType hr
    have hlinked := hg q hq
    unfold GateLinked at hlinked ⊢
    rwa [hname, huri] at hlinked
  alarms r hr := by
    obtain ⟨q, hq, hname, huri⟩ := h.mem_ofType hr
    have hlinked := ha q hq
    unfold AlarmLinked at hlinked ⊢
    rwa [hname, huri] at hlinked

theorem Linked.quiet (h : Linked sure s.world) (hq : Quiet s s') : Linked sure s'.world := by
  rw [hq.world]
  exact h

/-- **A gate call keeps the invariant.** -/
theorem Linked.updateGate (h : Linked sure s.world) (hf : sure → Reliable f)
    (huri : s.world.resources.uri name = some uri)
    (hu : Updated f s name uri (gateCommand next) out s') : Linked sure s'.world := by
  obtain ⟨row, hrow, rfl, hname⟩ := ResourceTable.exists_of_uri huri
  -- the row under the name the call uses for it
  have htouched : Touched [{ row with name }] s.world s'.world :=
    Updated.touched (r := { row with name }) hu
  have hother : ∀ r ∈ s.world.resources.rows, r ≠ row → ∀ q ∈ [{ row with name }],
      Distinct q r := by
    intro r hr hne q hq
    obtain ⟨hn, hu⟩ := ResourceTable.distinct_of_ne hrow hr hne.symm
    rw [List.mem_singleton.mp hq]
    exact ⟨hname ▸ hn, hu⟩
  refine .of_touched htouched (fun r hr => ?_) fun r hr => ?_
  · by_cases heq : r = row
    · subst heq
      obtain ⟨hu', c, d, hc, hd, hcd⟩ := h.gates r hr
      rw [ResourceTable.value_congr hname] at hc
      obtain ⟨c', d', hc', hd', hcd'⟩ := hu.gate_linked huri hc hd hf hcd
      rw [← ResourceTable.value_congr hname] at hc'
      exact ⟨(htouched.uri _).trans hu', c', d', hc', hd', hcd'⟩
    · exact local_gateLinked r _ _ _ htouched (hother r (ResourceTable.mem_of_gate hr) heq)
        (h.gates r hr)
  · by_cases heq : r = row
    · subst heq
      obtain ⟨hu', c, b, hc, hb, hcb⟩ := h.alarms r hr
      obtain ⟨hval, hb'⟩ := hu.gate_on_alarm hb
      rw [← ResourceTable.value_congr hname, ← ResourceTable.value_congr hname, hc] at hval
      exact ⟨(htouched.uri _).trans hu', c, b, hval, hb', hcb⟩
    · exact local_alarmLinked r _ _ _ htouched (hother r (ResourceTable.mem_of_alarm hr) heq)
        (h.alarms r hr)

/-- **The loop over the alarms keeps the invariant.** -/
theorem Linked.sweepAlarms (h : Linked sure s.world) (hf : sure → Reliable f) {status : Bool}
    (hs : Swept f (alarmTreatment status) s.world.resources.alarms s out s') :
    Linked sure s'.world := by
  have hd := s.world.resources.ofType_distinct "alarm"
  refine .of_touched hs.touched (fun r hr => ?_) fun r hr => ?_
  · exact local_gateLinked r _ _ _ hs.touched
      (fun q hq => (ResourceTable.gate_distinct_alarm hr hq).symm) (h.gates r hr)
  · refine hs.keeps local_alarmLinked hd hr (h.alarms r hr) fun s₁ s₂ out hlinked round => ?_
    obtain ⟨hu, c, b, hc, hb, hcb⟩ := hlinked
    cases round with
    | updated round =>
      obtain ⟨c', b', hc', hb', hcb'⟩ := round.alarm_linked hu hc hb hf hcb
      exact ⟨(round.touched.uri _).trans hu, c', b', hc', hb', hcb'⟩

end Linked

section Calls

variable {f : Action F → Fault} {s : State F} {name : String} {next : Int → Option Int}
  {sure : Prop}

/-- A gate call: without a row it throws, with one it is an update. -/
theorem updateGate_cases (hf : Answering f) (name : String) (next : Int → Option Int)
    (s : State F) :
    let r := run .shell f (updateGate name next) s
    (s.world.resources.uri name = none ∧ Quiet s r.2 ∧ ∃ ex, r.1 = .error ex) ∨
      ∃ uri, s.world.resources.uri name = some uri ∧
        Updated f s name uri (gateCommand next) r.1 r.2 := by
  intro r
  cases huri : s.world.resources.uri name with
  | some uri => exact Or.inr ⟨uri, rfl, run_of_safe (safe_updateGate hf huri next)⟩
  | none =>
    have hget : s.world.resources.get name = none := Option.map_eq_none_iff.mp huri
    have hsafe : (under .shell f).Safe (updateGate name next)
        (fun out s' => Quiet s s' ∧ ∃ ex, out = .error ex) s := by
      unfold updateGate DataManager.getResourceValue
      simp only [perform, Prog.perform_bind, Prog.act_bind, under_act, handler, World.perform,
        hf.query (.getResource name) rfl, DataManager.session, Prog.pure_eq, Prog.pure_bind, hget,
        Prog.throw_eq, Prog.throw_bind, Contract.safe_throw]
      exact ⟨⟨rfl, rfl⟩, _, rfl⟩
    exact Or.inl ⟨rfl, run_of_safe hsafe⟩

/-- Every gate call is an update of its gate. -/
theorem Linked.gateCall (h : Linked sure s.world) (hf : Answering f) (hsure : sure → Reliable f)
    (name : String) (next : Int → Option Int) :
    Linked sure (run .shell f (ControlLogic.updateGate name next) s).2.world := by
  rcases updateGate_cases hf name next s with ⟨-, hquiet, -⟩ | ⟨uri, huri, hu⟩
  · exact h.quiet hquiet
  · exact h.updateGate hsure huri hu

/-- **Every call keeps the invariant.** -/
theorem Linked.call (h : Linked sure s.world) (hf : Answering f) (hsure : sure → Reliable f)
    (c : Call) : Linked sure (Controller.call c f s).2.world := by
  cases c with
  | setGateOpening g L => exact h.gateCall hf hsure g _
  | increaseGateOpening g step => exact h.gateCall hf hsure g _
  | decreaseGateOpening g step => exact h.gateCall hf hsure g _
  | setAlarmStatus status =>
    exact h.sweepAlarms hsure (run_of_safe (safe_setAlarmStatus hf status))

/-! ## §4 Calls that take effect -/

/-- `setGateOpening` takes effect exactly where the registry is faithful. -/
theorem real_setGateOpening_iff (h : Linked False s.world) (hf : Answering f) (g : String)
    (L : Int) : Real (.setGateOpening g L) f s ↔ Faithful (.setGateOpening g L) f s := by
  obtain ⟨out, s', hcall⟩ : ∃ out s', call (.setGateOpening g L) f s = (out, s') := ⟨_, _, rfl⟩
  have hcases := updateGate_cases hf g (setNext L) s
  rw [show run .shell f (updateGate g (setNext L)) s = (out, s') from hcall] at hcases
  simp only [Real, Faithful, hcall]
  rcases hcases with ⟨hnone, -, ex, rfl⟩ | ⟨uri, huri, hu⟩
  · have hno : ∀ r ∈ s.world.resources.gates, fold r.name ≠ fold g := by
      intro r hr heq
      have hsome := ResourceTable.uri_of_fold_name (ResourceTable.mem_of_gate hr) heq
      rw [hnone] at hsome
      cases hsome
    exact ⟨fun _ _ r hr heq => absurd heq (hno r hr), fun _ hok => by cases hok⟩
  have hsame : ∀ r ∈ s.world.resources.gates, fold r.name = fold g → r.uri = uri := by
    intro r hr heq
    have hsome := ResourceTable.uri_of_fold_name (ResourceTable.mem_of_gate hr) heq
    exact Option.some.inj (hsome.symm.trans huri)
  constructor
  · intro hreal hL r hr heq hv
    have hv' := hv
    rw [ResourceTable.value_congr heq] at hv'
    have hkeep : setNext L L = none := if_neg (not_not.mpr rfl)
    cases hu with
    | unset hnull => rw [hv'] at hnull; cases hnull
    | kept _ _ quiet =>
      have hlevel := hreal rfl hL r hr heq
      rwa [quiet.world] at hlevel
    | commanded hc hmove _ =>
      rw [hv'] at hc
      cases hc
      rw [gateCommand, hkeep] at hmove
      cases hmove
  · rintro hfaith rfl hL r hr heq
    obtain ⟨-, c, d, hc, hd, -⟩ := h.gates r hr
    have hc' := hc
    rw [ResourceTable.value_congr heq] at hc'
    obtain rfl := hsame r hr heq
    have hlevel := (hu.gate_ok hc' hd).1
    by_cases hcL : c = L
    · subst hcL
      have hkeep : setNext c c = none := if_neg (not_not.mpr rfl)
      rw [hkeep] at hlevel
      exact hlevel.trans (hd.symm.trans (hfaith hL r hr heq hc))
    · have hset : setNext L c = some L := if_pos hcL
      rwa [hset] at hlevel

omit [JavaFloat F] in
/-- What the alarms' loop makes of an alarm when it comes to its end: it
believes the registered value `c`. -/
theorem Swept.alarm_state {status : Bool} {out : Except JException Unit}
    (hs : Swept f (alarmTreatment status) s.world.resources.alarms s out s') (hok : out = .ok ())
    {r : Resource} (hr : r ∈ s.world.resources.alarms) {c : Int} {b : Bool}
    (his : AlarmIs c b r s.world) :
    s'.world.alarmState r.uri = some (if decide (c = 1) = status then b else status) := by
  have hlocal : Local (F := F) fun r w =>
      w.alarmState r.uri = some (if decide (c = 1) = status then b else status) := by
    intro _ _ _ _ ht hd hr
    exact (ht.alarmState_of_distinct hd).trans hr
  refine hs.establishes (local_alarmCell (fun _ => some c) (fun _ => some b)) hlocal hok
    (s.world.resources.ofType_distinct "alarm") hr his ?_
  intro s₁ s₂ ⟨_, hv, hb⟩ round
  cases round with
  | updated round => exact round.alarm_ok hv hb

omit [JavaFloat F] in
/-- An alarm that has to change, and cannot. -/
def BoundToFail (f : Action F → Fault) (status : Bool) (s : State F) : Prop :=
  ∃ r ∈ s.world.resources.alarms, ∃ v, s.world.resources.value r.name = some v ∧
    decide (v = 1) ≠ status ∧ Hindered f status r

omit [JavaFloat F] in
/-- The loop ends normally exactly if it is not bound to fail. -/
theorem Swept.alarms_ok_iff {status : Bool} {out : Except JException Unit}
    (hs : Swept f (alarmTreatment status) s.world.resources.alarms s out s')
    (his : ∀ r ∈ s.world.resources.alarms, ∃ c b, AlarmIs c b r s.world) :
    out = .ok () ↔ ¬BoundToFail f status s := by
  have hd := s.world.resources.ofType_distinct "alarm"
  constructor
  · intro hok h
    obtain ⟨r, hr, v, hv, hne, hhind⟩ := h
    obtain ⟨s₁, s₂, hasIn, round⟩ := hs.round_of_mem hok hd hr
    cases round with
    | updated round =>
      obtain ⟨hput, hrec⟩ := round.ok_delivered (hasIn.2.1.trans hv) (if_pos hne)
      rcases hhind with hlost | ⟨message, hfail⟩
      · exact hlost hput
      · exact hrec message hfail
  · intro hfree
    refine hs.ok_of_rounds (local_asIn s.world) hd (fun r _ => .refl r s.world)
      fun r hr s₁ s₂ ex hasIn round => ?_
    obtain ⟨c, b, hu, hc, hb⟩ := his r hr
    have hb₁ : s₁.world.alarmState r.uri = some b := by
      rw [World.alarmState, hasIn.2.2]
      exact hb
    obtain ⟨hne, hfault⟩ := round.alarm_error (hasIn.2.1.trans hc) hb₁
    exact hfree ⟨r, hr, c, hc, hne, hfault⟩

/-- `setAlarmStatus` takes effect exactly where the registry is faithful
about every alarm, if it is not bound to fail. -/
theorem real_setAlarmStatus_iff (h : Linked False s.world) (hf : Answering f) (status : Bool) :
    Real (.setAlarmStatus status) f s ↔ Faithful (.setAlarmStatus status) f s := by
  have hs : Swept f (alarmTreatment status) s.world.resources.alarms s
      (call (.setAlarmStatus status) f s).1 (call (.setAlarmStatus status) f s).2 :=
    run_of_safe (safe_setAlarmStatus hf status)
  simp only [Real, Faithful]
  generalize call (.setAlarmStatus status) f s = out at hs
  obtain ⟨out, s'⟩ := out
  dsimp only at hs ⊢
  have his : ∀ r ∈ s.world.resources.alarms, ∃ c b, AlarmIs c b r s.world := by
    intro r hr
    obtain ⟨hu, c, b, hc, hb, -⟩ := h.alarms r hr
    exact ⟨c, b, hu, hc, hb⟩
  have hends := hs.alarms_ok_iff his
  constructor
  · intro hreal
    by_contra hno
    obtain ⟨hbad, hfree⟩ := not_or.mp hno
    have hok := hends.mpr hfree
    refine hbad fun r hr c hc heq => ?_
    obtain ⟨c', b, hcell⟩ := his r hr
    obtain rfl : c' = c := Option.some.inj (hcell.2.1.symm.trans hc)
    have hafter := hreal hok r hr
    rw [hs.alarm_state hok hr hcell, if_pos heq] at hafter
    exact hcell.2.2.trans hafter
  · intro hfaith hok r hr
    obtain ⟨c, b, hcell⟩ := his r hr
    rcases hfaith with hall | hbound
    · rw [hs.alarm_state hok hr hcell]
      split
      · next heq => exact hcell.2.2.symm.trans (hall r hr c hcell.2.1 heq)
      · rfl
    · exact absurd hbound (hends.mp hok)

theorem real_iff (h : Linked False s.world) (hf : Answering f) (c : Call) :
    Real c f s ↔ Faithful c f s := by
  cases c with
  | setGateOpening g L => exact real_setGateOpening_iff h hf g L
  | increaseGateOpening g step => exact ⟨fun _ => trivial, fun _ _ => trivial⟩
  | decreaseGateOpening g step => exact ⟨fun _ => trivial, fun _ _ => trivial⟩
  | setAlarmStatus status => exact real_setAlarmStatus_iff h hf status

omit [JavaFloat F] in
/-- Where the registry shows what the devices do, it is faithful. -/
theorem Linked.faithful (h : Linked True s.world) (c : Call) : Faithful c f s := by
  cases c with
  | setGateOpening g L =>
    intro _ r hr _ hv
    obtain ⟨-, c, d, hc, hd, hcd⟩ := h.gates r hr
    obtain rfl := hcd trivial
    exact hd.trans (hc.symm.trans hv)
  | increaseGateOpening g step => trivial
  | decreaseGateOpening g step => trivial
  | setAlarmStatus status =>
    refine Or.inl fun r hr v hv heq => ?_
    obtain ⟨-, c, b, hc, hb, hcb⟩ := h.alarms r hr
    obtain rfl := hcb trivial
    obtain rfl := Option.some.inj (hc.symm.trans hv)
    have hb1 : decide (statusValue b = 1) = b := by cases b <;> rfl
    rw [hb, ← heq, hb1]

theorem Calls.along_real_iff (cs : Calls F) (hcs : ∀ p ∈ cs, Answering p.2) {s : State F}
    (h : Linked False s.world) : cs.Along Real s ↔ cs.Along Faithful s :=
  along_congr (I := fun s => Linked False s.world)
    (fun p hp _ hs _ => hs.call (hcs p hp) False.elim p.1)
    (fun p hp _ hs => real_iff hs (hcs p hp) p.1) h

/-- **When calls take effect.** From registry and devices in agreement,
under any pattern of lost requests, lost responses and failed updates:
every call of a sequence that returns normally has taken effect if and
only if the registry is faithful whenever a call starts; and it is, as
long as no response is lost and no update fails. -/
theorem calls_real_iff {cs : Calls F} (hcs : ∀ p ∈ cs, Answering p.2) {s : State F}
    (hg : GatesAgree s.world) (ha : AlarmsAgree s.world) :
    (cs.Along Real s ↔ cs.Along Faithful s) ∧
      ((∀ p ∈ cs, Reliable p.2) → cs.Along Faithful s) := by
  constructor
  · exact cs.along_real_iff hcs (linked_of_agree hg ha)
  · intro hrel
    refine along_of_invariant (I := fun s => Linked True s.world) (fun p hp s hs => ?_)
      (fun p _ s hs => hs.faithful p.1) (linked_of_agree hg ha)
    exact hs.call (hcs p hp) (fun _ => hrel p hp) p.1

end Calls

/-! ## §5 A gate that stays half open -/

/-- On its way back from `outflow-1` the answer to a PUT is lost. -/
def answerLost : Action ℚ → Fault
  | .clientPut _ _ => .responseLost
  | _ => .none

/-- The operator opens the gate half, hears nothing, and closes it. -/
def openThenClose : Calls ℚ :=
  [(.setGateOpening "outflow-1" 50, answerLost), (.setGateOpening "outflow-1" 0, fun _ => .none)]

/-- The demo deployment at rest. -/
def rest : State ℚ := demoState .MANUAL 0 0 false 50 20 20

theorem answerLost_answering : Answering answerLost := by
  intro a ha message h
  cases a <;> simp [Action.isQuery] at ha <;> cases h

theorem openThenClose_answering : ∀ p ∈ openThenClose, Answering p.2 := by
  intro p hp
  simp only [openThenClose, List.mem_cons, List.not_mem_nil, or_false] at hp
  rcases hp with rfl | rfl
  · exact answerLost_answering
  · exact faultFree_answering

/-- The first call moves the gate and leaves the registry behind. -/
theorem openThenClose_first :
    let s := (call (.setGateOpening "outflow-1" 50) answerLost rest).2
    s.world.resources = demoTable 0 0 false ∧ s.world.level gate1Uri = some 50 := by
  have huri : rest.world.resources.uri "outflow-1" = some gate1Uri := rfl
  have hval : rest.world.resources.value "outflow-1" = some 0 := rfl
  have hlevel : rest.world.level gate1Uri = some 0 := rfl
  have hu := run_of_safe (t := .shell) (safe_updateGate answerLost_answering huri (setNext 50))
  change Updated _ _ _ _ _ (call (.setGateOpening "outflow-1" 50) answerLost rest).1
    (call (.setGateOpening "outflow-1" 50) answerLost rest).2 at hu
  cases hu with
  | commanded hc hmove result =>
    cases hc
    cases hmove
    cases result with
    | lost why _ _ =>
      rcases why with ⟨-, hne⟩ | hdev
      · exact absurd rfl hne
      · cases hdev
    | unanswered _ hw _ =>
      have haccepts : ResGate.Accepts 50 := InRange.accepts ⟨by decide, by decide⟩
      intro s
      rw [hw, World.serve_resources, World.level_serve_self hlevel, if_pos haccepts]
      exact ⟨rfl, rfl⟩
    | rejected hnone => cases hnone

/-- From registry and devices in agreement, the second call returns
normally and leaves the gate at 50. -/
theorem stale_registry_deceives :
    GatesAgree rest.world ∧ AlarmsAgree rest.world ∧
      (∀ p ∈ openThenClose, Answering p.2) ∧ ¬openThenClose.Along Real rest := by
  have hg : GatesAgree rest.world := demo_gatesAgree _ _ _ _ _ _ _
  have ha : AlarmsAgree rest.world := demo_alarmsAgree _ _ _ _ _ _ _
  refine ⟨hg, ha, openThenClose_answering, fun hreal => ?_⟩
  obtain ⟨-, hfaith, -⟩ := (openThenClose.along_real_iff openThenClose_answering
    (linked_of_agree hg ha)).mp hreal
  obtain ⟨hres, hlevel⟩ := openThenClose_first
  have hmem : demoGate1 0 ∈ (demoTable 0 0 false).gates := by simp [demoTable_gates]
  have hzero := hfaith ⟨le_rfl, by decide⟩ (demoGate1 0) (hres ▸ hmem) rfl (hres ▸ rfl)
  cases hlevel.symm.trans hzero

/-- The same two calls without the loss. -/
def openThenCloseHeard : Calls ℚ :=
  [(.setGateOpening "outflow-1" 50, fun _ => .none), (.setGateOpening "outflow-1" 0, fun _ => .none)]

/-- Without the loss both calls take effect. -/
theorem calls_real_iff_demo : openThenCloseHeard.Along Real rest := by
  have hcs : ∀ p ∈ openThenCloseHeard, p.2 = fun _ => .none := by simp [openThenCloseHeard]
  have h := calls_real_iff (fun p hp => hcs p hp ▸ faultFree_answering) (s := rest)
    (demo_gatesAgree _ _ _ _ _ _ _) (demo_alarmsAgree _ _ _ _ _ _ _)
  refine h.1.mpr (h.2 fun p hp => ?_)
  rw [hcs p hp]
  exact ⟨fun _ _ => by simp, fun _ _ _ => by simp⟩

end DamMonitoring.Controller
