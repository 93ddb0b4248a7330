/-
DamMonitoring.Controller.FailureIsolation — an emergency with actuators
out of reach.

One `try` block surrounds the whole cycle, so the first actuator that
fails ends it. What is reached is therefore a matter of ORDER: the alarms
and then the gates, as the registry lists them. `run_isolation` says for
every actuator which side of the first failure it is on;
`unreachable_alarm_closes_gates` is a flood in which a dead alarm keeps
every gate closed.

  §1 actuators that fail, actuators that agree with the registry
  §2 one round in an emergency
  §3 one run in an emergency
-/
import DamMonitoring.Controller.Demo

namespace DamMonitoring.Controller

open Program Java Motes Persistence
open ControlLogic AutomaticControlUnit
open Persistence.ResourceTable (Distinct)

variable {F : Type}

/-! ## §1 Actuators -/

/-- Every PUT to a URI meets the fault of the URI, nothing else fails. -/
def failing (fails : Uri → Fault) : Action F → Fault
  | .clientPut uri _ => fails uri
  | _ => .none

theorem failing_answering (fails : Uri → Fault) : Answering (F := F) (failing fails) := by
  intro a ha message h
  cases a <;> simp [Action.isQuery] at ha <;> cases h

def isAlarm (r : Resource) : Bool := equalsIgnoreCase r.type "alarm"

/-- An actuator as an emergency wants it: an alarm on, a gate open. -/
def Secured (r : Resource) (w : World F) : Prop :=
  if isAlarm r then w.alarmState r.uri = some true else w.level r.uri = some FULL_OPEN

/-- The registry shows what the device does. -/
def Agreed (r : Resource) (w : World F) : Prop :=
  w.resources.uri r.name = some r.uri ∧
    if isAlarm r then
      ∃ b, w.resources.value r.name = some (statusValue b) ∧ w.alarmState r.uri = some b
    else ∃ c, w.resources.value r.name = some c ∧ w.level r.uri = some c

theorem AsIn.secured_iff {w₀ w : World F} {r : Resource} (h : AsIn w₀ r w) :
    Secured r w ↔ Secured r w₀ := by
  simp only [Secured, World.alarmState, World.level, h.2.2]

theorem AsIn.agreed {w₀ w : World F} {r : Resource} (h : AsIn w₀ r w) (hr : Agreed r w₀) :
    Agreed r w := by
  simpa only [Agreed, World.alarmState, World.level, h.1, h.2.1, h.2.2] using hr

theorem local_secured : Local (F := F) Secured := by
  intro r rs w w' h hd hr
  have hasIn : AsIn w r w' := local_asIn w r rs w w' h hd (.refl r w)
  exact hasIn.secured_iff.mpr hr

theorem alarm_isAlarm {t : ResourceTable} {r : Resource} (h : r ∈ t.alarms) :
    isAlarm r = true := equalsIgnoreCase_iff.mpr (ResourceTable.mem_ofType.mp h).2

theorem gate_not_isAlarm {t : ResourceTable} {r : Resource} (h : r ∈ t.gates) :
    isAlarm r = false := by
  refine Bool.eq_false_iff.mpr fun heq => ?_
  have htype := (ResourceTable.mem_ofType.mp h).2
  rw [equalsIgnoreCase_iff.mp heq] at htype
  exact absurd htype (by decide)

/-- The alarms and the gates, in the order of a cycle, share no key. -/
theorem actuators_distinct (t : ResourceTable) : (t.alarms ++ t.gates).Pairwise Distinct :=
  List.pairwise_append.mpr ⟨t.ofType_distinct "alarm", t.ofType_distinct "gate",
    fun _ ha _ hg => (ResourceTable.gate_distinct_alarm hg ha).symm⟩

theorem agreed_of_mem {w : World F} (halarms : AlarmsAgree w) (hgates : GatesAgree w)
    {r : Resource} (hr : r ∈ w.resources.alarms ++ w.resources.gates) : Agreed r w := by
  rcases List.mem_append.mp hr with hr | hr
  · obtain ⟨b, hv, hb⟩ := halarms r hr
    have hmem := ResourceTable.mem_of_alarm hr
    refine ⟨ResourceTable.uri_of_mem hmem, ?_⟩
    rw [if_pos (alarm_isAlarm hr), ResourceTable.value_of_mem hmem]
    exact ⟨b, hv, hb⟩
  · obtain ⟨c, hv, hc⟩ := hgates r hr
    have hmem := ResourceTable.mem_of_gate hr
    refine ⟨ResourceTable.uri_of_mem hmem, ?_⟩
    rw [gate_not_isAlarm hr, if_neg Bool.false_ne_true, ResourceTable.value_of_mem hmem]
    exact ⟨c, hv, hc⟩

/-! ## §2 Rounds -/

/-- What a cycle does with an actuator in an emergency. -/
def emergencyTreatment (r : Resource) : Treatment :=
  if isAlarm r then .update (alarmCommand true) else .update (gateCommand (setNext FULL_OPEN))

section Rounds

variable {fails : Uri → Fault} {s s' : State F} {r : Resource}

/-- A round that comes to its end secures the actuator; if there was
anything to send, the actuator has answered. -/
theorem Treated.secured (h : Treated (failing fails) s r (emergencyTreatment r) (.ok ()) s')
    (hr : Agreed r s.world) : Secured r s'.world ∧ (fails r.uri = .none ∨ Secured r s.world) := by
  obtain ⟨-, hcell⟩ := hr
  unfold emergencyTreatment at h
  unfold Secured
  cases hal : isAlarm r with
  | true =>
    rw [hal, if_pos rfl] at h hcell
    obtain ⟨b, hv, hb⟩ := hcell
    have hb1 : decide (statusValue b = 1) = b := by cases b <;> rfl
    cases h with
    | updated h =>
      simp only [if_true]
      have hstate := h.alarm_ok hv hb
      rw [hb1] at hstate
      cases b with
      | true => exact ⟨hstate, Or.inr hb⟩
      | false => exact ⟨hstate, Or.inl (h.ok_delivered hv rfl).1⟩
  | false =>
    rw [hal, if_neg Bool.false_ne_true] at h hcell
    obtain ⟨c, hv, hc⟩ := hcell
    cases h with
    | updated h =>
      simp only [Bool.false_eq_true, if_false]
      have hlevel := (h.gate_ok hv hc).1
      by_cases heq : c = FULL_OPEN
      · subst heq
        exact ⟨hlevel, Or.inr hc⟩
      · have hnext : setNext FULL_OPEN c = some FULL_OPEN := if_pos heq
        rw [hnext] at hlevel
        have hmove : gateCommand (setNext FULL_OPEN) c =
            some (ResGate.openingLevelNode FULL_OPEN, FULL_OPEN) := by
          rw [gateCommand, hnext]
          rfl
        exact ⟨hlevel, Or.inl (h.ok_delivered hv hmove).1⟩

/-- A round that throws was about an actuator that was not secured and
has failed. -/
theorem Treated.unsecured {ex : JException}
    (h : Treated (failing fails) s r (emergencyTreatment r) (.error ex) s')
    (hr : Agreed r s.world) : fails r.uri ≠ .none ∧ ¬Secured r s.world := by
  obtain ⟨-, hcell⟩ := hr
  unfold emergencyTreatment at h
  unfold Secured
  cases hal : isAlarm r with
  | true =>
    rw [hal, if_pos rfl] at h hcell
    obtain ⟨b, hv, hb⟩ := hcell
    have hb1 : decide (statusValue b = 1) = b := by cases b <;> rfl
    cases h with
    | updated h =>
      obtain ⟨hne, hfault⟩ := h.alarm_error hv hb
      rw [hb1] at hne
      refine ⟨?_, by simp [hb, hne]⟩
      rcases hfault with hput | ⟨message, hrec⟩
      · exact hput
      · cases hrec
  | false =>
    rw [hal, if_neg Bool.false_ne_true] at h hcell
    obtain ⟨c, hv, hc⟩ := hcell
    cases h with
    | updated h =>
      obtain ⟨L, hL, hfault⟩ := h.gate_error hv hc
      have hne : c ≠ FULL_OPEN := by
        intro heq
        rw [setNext, if_neg (not_not.mpr heq)] at hL
        cases hL
      rw [setNext, if_pos hne] at hL
      cases hL
      refine ⟨?_, by simp [hc, hne]⟩
      rcases hfault with hput | ⟨message, hrec⟩ | ⟨hrefused, -⟩
      · exact hput
      · cases hrec
      · exact absurd (InRange.accepts ⟨by decide, le_rfl⟩) hrefused

end Rounds

/-! ## §3 Runs -/

section Runs

variable {fails : Uri → Fault} {s s' : State F} {out : Except JException Unit}
  {pre post : List Resource} {r : Resource}

/-- An actuator that answers is secured if every actuator before it
answers or needs nothing. -/
theorem Swept.secures
    (h : Swept (failing fails) emergencyTreatment (pre ++ r :: post) s out s')
    (hd : (pre ++ r :: post).Pairwise Distinct)
    (hagree : ∀ q ∈ pre ++ r :: post, Agreed q s.world) (hr : fails r.uri = .none)
    (hpre : ∀ q ∈ pre, fails q.uri = .none ∨ Secured q s.world) : Secured r s'.world := by
  obtain ⟨hdpre, hdr, hcross⟩ := List.pairwise_append.mp hd
  have hdr' := (List.pairwise_cons.mp hdr).1
  have hmid : r ∈ pre ++ r :: post := List.mem_append_right _ List.mem_cons_self
  have hasIn : ∀ s₁ : State F, Swept (failing fails) emergencyTreatment pre s (.ok ()) s₁ →
      AsIn s.world r s₁.world := fun s₁ rounds =>
    local_asIn s.world r _ _ _ rounds.touched
      (fun q hq => hcross q hq r List.mem_cons_self) (.refl r s.world)
  cases h.reached with
  | @before pre₁ q post₁ s₁ _ ex eq rounds round =>
    -- a round before `r` has thrown: its actuator failed and needed a PUT
    subst eq
    have hq : q ∈ pre₁ ++ q :: post₁ := List.mem_append_right _ List.mem_cons_self
    have hcell : AsIn s.world q s₁.world := local_asIn s.world q _ _ _ rounds.touched
      (fun p hp => (List.pairwise_append.mp hdpre).2.2 p hp q List.mem_cons_self)
      (.refl q s.world)
    obtain ⟨hfail, hneed⟩ :=
      round.unsecured (hcell.agreed (hagree q (List.mem_append_left _ hq)))
    rw [hcell.secured_iff] at hneed
    exact absurd (hpre q hq) (not_or.mpr ⟨hfail, hneed⟩)
  | here rounds round =>
    exact absurd hr (round.unsecured ((hasIn _ rounds).agreed (hagree r hmid))).1
  | past rounds round rest =>
    have hsec := (round.secured ((hasIn _ rounds).agreed (hagree r hmid))).1
    exact local_secured r post _ _ rest (fun q hq => (hdr' q hq).symm) hsec

/-- No actuator behind one that fails and needs a PUT is touched. -/
theorem Swept.stops
    (h : Swept (failing fails) emergencyTreatment (pre ++ r :: post) s out s')
    (hd : (pre ++ r :: post).Pairwise Distinct)
    (hagree : ∀ q ∈ pre ++ r :: post, Agreed q s.world)
    (hpre : ∃ q ∈ pre, fails q.uri ≠ .none ∧ ¬Secured q s.world) :
    AsIn s.world r s'.world := by
  obtain ⟨hdpre, -, hcross⟩ := List.pairwise_append.mp hd
  obtain ⟨q, hq, hfail, hneed⟩ := hpre
  -- the rounds before `r` cannot all succeed
  have hstop : ∀ s₁ : State F, ¬Swept (failing fails) emergencyTreatment pre s (.ok ()) s₁ := by
    intro s₁ rounds
    obtain ⟨s₂, s₃, hcell, round⟩ := rounds.round_of_mem rfl hdpre hq
    obtain ⟨-, hok⟩ := round.secured (hcell.agreed (hagree q (List.mem_append_left _ hq)))
    rw [hcell.secured_iff] at hok
    exact hok.elim hfail hneed
  cases h.reached with
  | @before pre₁ p post₁ s₁ _ ex eq rounds round =>
    subst eq
    refine local_asIn s.world r (pre₁ ++ [p]) _ _ (rounds.touched.trans round.touched)
      (fun u hu => hcross u ?_ r List.mem_cons_self) (.refl r s.world)
    rcases List.mem_append.mp hu with hu | hu
    · exact List.mem_append_left _ hu
    · rw [List.mem_singleton.mp hu]
      exact List.mem_append_right _ List.mem_cons_self
  | here rounds round => exact absurd rounds (hstop _)
  | past rounds round rest => exact absurd rounds (hstop _)

variable [JavaFloat F]

/-- In an emergency in AUTO mode a cycle is one loop over the alarms and
the gates. -/
theorem Controlled.emergency {f : Action F → Fault} {w i o : F} (h : Controlled f w i o s out s')
    (hsafe : s.world.thresholds.safe < w) (hauto : s.world.mode = .AUTO) :
    Swept f emergencyTreatment (s.world.resources.alarms ++ s.world.resources.gates) s out s' := by
  have halarm : ∀ r ∈ s.world.resources.alarms, alarmTreatment
      (decide (s.world.thresholds.safe < w)) r = emergencyTreatment r := by
    intro r hr
    simp only [emergencyTreatment, alarm_isAlarm hr, if_true, alarmTreatment,
      decide_eq_true hsafe]
  have hgate : ∀ r ∈ s.world.resources.gates,
      gateTreatment s.world.thresholds w i o r = emergencyTreatment r := by
    intro r hr
    rw [gateTreatment, if_pos hsafe, emergencyTreatment, gate_not_isAlarm hr,
      if_neg Bool.false_ne_true]
  cases h with
  | alarmsFailed alarms => exact (alarms.congr halarm).append_of_error _ rfl
  | manual _ mode _ =>
    rw [hauto] at mode
    cases mode
  | auto alarms _ gates => exact (alarms.congr halarm).append rfl (gates.congr hgate)

/-- **Failures in an emergency.** Take the actuators in the order of a
cycle, the alarms and then the gates. An actuator that answers is on, or
fully open, after the run if every actuator before it answers too or was
on, or fully open, already. Behind the first that fails and was not,
every actuator stays as it was, in the registry and on the device. -/
theorem run_isolation (maxStale : Int) {s : State F} (fails : Uri → Fault) {w i o : F}
    (hm : Measured maxStale s.world w i o) (hsafe : s.world.thresholds.safe < w)
    (hauto : s.world.mode = .AUTO) (halarms : AlarmsAgree s.world)
    (hgates : GatesAgree s.world) :
    let s' := runWith (failing fails) maxStale s
    ∀ pre r post, s.world.resources.alarms ++ s.world.resources.gates = pre ++ r :: post →
      (fails r.uri = .none → (∀ q ∈ pre, fails q.uri = .none ∨ Secured q s.world) →
        Secured r s'.world) ∧
      ((∃ q ∈ pre, fails q.uri ≠ .none ∧ ¬Secured q s.world) →
        s'.world.resources.value r.name = s.world.resources.value r.name ∧
          s'.world.devices r.uri = s.world.devices r.uri) := by
  intro s' pre r post heq
  obtain ⟨out, h⟩ := runWith_controlled (failing_answering fails) hm.cycleInputs
  have hswept := h.emergency hsafe hauto
  have hd := actuators_distinct s.world.resources
  have hagree : ∀ q ∈ s.world.resources.alarms ++ s.world.resources.gates, Agreed q s.world :=
    fun q hq => agreed_of_mem halarms hgates hq
  rw [heq] at hswept hd hagree
  exact ⟨fun hr hpre => hswept.secures hd hagree hr hpre,
    fun hpre => (hswept.stops hd hagree hpre).2⟩

end Runs

/-- Only the alarm of the demo deployment is out of reach. -/
def sirenFails (uri : Uri) : Fault := if uri = alarmUri then .requestLost else .none

/-- A flood on the demo deployment: water above the safe threshold, the
gates closed, the alarm off. -/
def flood : State ℚ := demoState .AUTO 0 0 false 70 30 20

theorem flood_actuators : flood.world.resources.alarms ++ flood.world.resources.gates =
    [demoAlarm false, demoGate1 0, demoGate2 0] := by
  change (demoTable 0 0 false).alarms ++ (demoTable 0 0 false).gates = _
  rw [demoTable_alarms, demoTable_gates]
  rfl

/-- With the second gate out of reach, the alarm and the first gate are
served. -/
theorem run_isolation_demo :
    let s' := runWith (failing fun uri => if uri = gate2Uri then .requestLost else .none) 5 flood
    s'.world.alarmState alarmUri = some true ∧ s'.world.level gate1Uri = some 100 := by
  intro s'
  have h := run_isolation 5 (s := flood)
    (fun uri => if uri = gate2Uri then .requestLost else .none) (demo_measured _ _ _ _ _ _ _)
    (show (60 : ℚ) < 70 by decide) rfl (demo_alarmsAgree _ _ _ _ _ _ _)
    (demo_gatesAgree _ _ _ _ _ _ _)
  have halarm := (h [] (demoAlarm false) [demoGate1 0, demoGate2 0] flood_actuators).1
    (by decide) (fun q hq => by cases hq)
  have hgate := (h [demoAlarm false] (demoGate1 0) [demoGate2 0] flood_actuators).1
    (by decide) (fun q hq => by rw [List.mem_singleton.mp hq]; exact Or.inl (by decide))
  exact ⟨halarm, hgate⟩

/-- The flood with the alarm out of reach: both gates answer, and both
stay closed. -/
theorem unreachable_alarm_closes_gates :
    AlarmsAgree flood.world ∧ GatesAgree flood.world ∧ flood.world.mode = .AUTO ∧
      Measured 5 flood.world 70 30 20 ∧ flood.world.thresholds.safe < 70 ∧
      ∃ r ∈ flood.world.resources.gates, sirenFails r.uri = .none ∧
        (runWith (failing sirenFails) 5 flood).world.level r.uri = some 0 := by
  have halarms : AlarmsAgree flood.world := demo_alarmsAgree _ _ _ _ _ _ _
  have hgates : GatesAgree flood.world := demo_gatesAgree _ _ _ _ _ _ _
  have hm : Measured 5 flood.world 70 30 20 := demo_measured _ _ _ _ _ _ _
  have hsafe : flood.world.thresholds.safe < 70 := show (60 : ℚ) < 70 by decide
  have hmem : demoGate1 0 ∈ flood.world.resources.gates := by
    change _ ∈ (demoTable 0 0 false).gates
    simp [demoTable_gates]
  refine ⟨halarms, hgates, rfl, hm, hsafe, demoGate1 0, hmem, by decide, ?_⟩
  obtain ⟨out, h⟩ := runWith_controlled (failing_answering sirenFails) hm.cycleInputs
  have hswept := h.emergency hsafe rfl
  have hd := actuators_distinct flood.world.resources
  have hagree : ∀ q ∈ flood.world.resources.alarms ++ flood.world.resources.gates,
      Agreed q flood.world := fun q hq => agreed_of_mem halarms hgates hq
  have hsplit : flood.world.resources.alarms ++ flood.world.resources.gates =
      [demoAlarm false] ++ demoGate1 0 :: [demoGate2 0] := flood_actuators
  rw [hsplit] at hswept hd hagree
  have hasIn := hswept.stops hd hagree
    ⟨demoAlarm false, List.mem_singleton.mpr rfl, by decide, fun hsec => by cases hsec⟩
  have hdev : (runWith (failing sirenFails) 5 flood).world.devices (demoGate1 0).uri =
      some (demoGate 0) := hasIn.2.2
  rw [World.level, hdev]
  rfl

end DamMonitoring.Controller
