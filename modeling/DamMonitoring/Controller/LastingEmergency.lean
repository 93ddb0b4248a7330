/-
DamMonitoring.Controller.LastingEmergency — cycle after cycle in an
emergency in which messages get lost.

A cycle takes the alarms and then the gates, and the first actuator that
does not answer ends it. So the actuators are a queue (`Program.Queue`):
those that the registry shows as secured are passed over, and whatever is
behind the first that fails waits for the next cycle. `emergency_iff` says
for each actuator which losses keep it from being secured, in the registry
and on the device, and `emergency_deadline` how many cycles it takes if
every actuator answers now and then.

  §1 what is recorded, and what is trusted
  §2 one cycle
  §3 an emergency that lasts
  §4 a flood
-/
import DamMonitoring.Controller.FailureIsolation
import DamMonitoring.Controller.NormalBand
import DamMonitoring.Program.Queue
import DamMonitoring.Program.Runs

namespace DamMonitoring.Controller

open Program Java Motes Persistence
open Program.Machine (Each run_cons_eq_some)
open Program.Queue (called_iff remaining filter_eq_dropWhile remaining_eq_nil)
open ControlLogic AutomaticControlUnit
open Persistence.ResourceTable (Distinct)

variable {F : Type}

/-! ## §1 The registry -/

/-- What is sent to an actuator in an emergency, and what is recorded of
it. -/
def securing (r : Resource) : ObjectNode × Int :=
  if isAlarm r then (ResAlarm.stateNode true, statusValue true)
  else (ResGate.openingLevelNode FULL_OPEN, FULL_OPEN)

/-- The registry shows the actuator as secured. -/
def Recorded (r : Resource) (w : World F) : Prop :=
  w.resources.value r.name = some (securing r).2

instance (r : Resource) (w : World F) : Decidable (Recorded r w) :=
  inferInstanceAs (Decidable (_ = _))

/-- There is a row and a device of the right kind, and what the registry
shows as secured is. -/
structure Trusted (r : Resource) (w : World F) : Prop where
  uri : w.resources.uri r.name = some r.uri
  value : ∃ c, w.resources.value r.name = some c
  device : if isAlarm r then ∃ b, w.alarmState r.uri = some b else ∃ c, w.level r.uri = some c
  secured : Recorded r w → Secured r w

/-- The request reaches the device. -/
def heard (f : Action F → Fault) (r : Resource) : Bool :=
  match f (.clientPut r.uri (securing r).1) with
  | .none | .responseLost => true
  | _ => false

/-- The answer comes back as well, and is recorded. -/
def answers (f : Action F → Fault) (r : Resource) : Bool :=
  match f (.clientPut r.uri (securing r).1), f (.updateValue r.name (securing r).2) with
  | .none, .failed _ => false
  | .none, _ => true
  | _, _ => false

variable {f : Action F → Fault} {s s' : State F} {w w₀ : World F} {r : Resource}
  {pre post : List Resource} {out : Except JException Unit}

theorem answers_iff : answers f r = true ↔ f (.clientPut r.uri (securing r).1) = .none ∧
    ∀ message, f (.updateValue r.name (securing r).2) ≠ .failed message := by
  unfold answers
  split <;> simp_all

theorem heard_iff : heard f r = true ↔ f (.clientPut r.uri (securing r).1) = .none ∨
    f (.clientPut r.uri (securing r).1) = .responseLost := by
  unfold heard
  split <;> simp_all

theorem heard_of_answers (h : answers f r = true) : heard f r = true :=
  heard_iff.mpr (Or.inl (answers_iff.mp h).1)

theorem AsIn.recorded_iff (h : AsIn w₀ r w) : Recorded r w ↔ Recorded r w₀ := by
  rw [Recorded, h.2.1, Recorded]

theorem AsIn.trusted (h : AsIn w₀ r w) (hr : Trusted r w₀) : Trusted r w where
  uri := h.1.trans hr.uri
  value := h.2.1.symm ▸ hr.value
  device := by simpa only [World.alarmState, World.level, h.2.2] using hr.device
  secured hrec := h.secured_iff.mpr (hr.secured (h.recorded_iff.mp hrec))

/-- Where registry and device agree, the registry can be trusted. -/
theorem Agreed.trusted (h : Agreed r w) : Trusted r w := by
  obtain ⟨huri, h⟩ := h
  cases hal : isAlarm r with
  | true =>
    rw [hal, if_pos rfl] at h
    obtain ⟨b, hv, hb⟩ := h
    refine ⟨huri, ⟨_, hv⟩, by simp [hal, hb], fun hrec => ?_⟩
    rw [Recorded, securing, hal, if_pos rfl, hv] at hrec
    rw [Secured, hal, if_pos rfl, hb]
    cases b with
    | true => rfl
    | false => cases hrec
  | false =>
    rw [hal, if_neg Bool.false_ne_true] at h
    obtain ⟨c, hv, hc⟩ := h
    refine ⟨huri, ⟨_, hv⟩, by simp [hal, hc], fun hrec => ?_⟩
    rw [Recorded, securing, hal, if_neg Bool.false_ne_true, hv] at hrec
    rw [Secured, hal, if_neg Bool.false_ne_true, hc]
    exact hrec

/-- The device does what it is asked to. -/
theorem Trusted.heeds (h : Trusted r w) : Heeds w r.uri (securing r).1 := by
  have hdevice := h.device
  unfold securing
  split at hdevice
  · next hal =>
    obtain ⟨b, hb⟩ := hdevice
    obtain ⟨text, hreply⟩ := World.serve_state hb true
    rw [if_pos hal]
    exact ⟨_, text, hreply, rfl⟩
  · next hal =>
    obtain ⟨c, hc⟩ := hdevice
    obtain ⟨text, code, hreply, hcode⟩ := World.serve_openingLevel hc FULL_OPEN
    rw [if_neg hal]
    have haccepts : ResGate.Accepts FULL_OPEN := InRange.accepts ⟨by decide, le_rfl⟩
    exact ⟨code, text, hreply, hcode.trans (decide_eq_true haccepts)⟩

theorem Trusted.served (h : Trusted r w) : Secured r (w.serve r.uri (securing r).1).2 := by
  have hdevice := h.device
  unfold securing Secured
  split at hdevice
  · next hal =>
    obtain ⟨b, hb⟩ := hdevice
    rw [if_pos hal, if_pos hal]
    exact World.alarmState_serve_self hb true
  · next hal =>
    obtain ⟨c, hc⟩ := hdevice
    rw [if_neg hal, if_neg hal, World.level_serve_self hc,
      if_pos (InRange.accepts ⟨by decide, le_rfl⟩)]

/-- What an actuator is is not changed by what it is asked. -/
theorem Secured.kind (h : Secured r w) :
    if isAlarm r then ∃ b, w.alarmState r.uri = some b else ∃ c, w.level r.uri = some c := by
  unfold Secured at h
  split
  · next hal => exact ⟨true, by rwa [if_pos hal] at h⟩
  · next hal => exact ⟨FULL_OPEN, by rwa [if_neg hal] at h⟩

/-! ## §2 Cycles -/

/-- An actuator is asked unless it is recorded as secured. -/
theorem emergencyTreatment_eq (r : Resource) :
    emergencyTreatment r =
      .update fun c => if c = (securing r).2 then none else some (securing r) := by
  unfold emergencyTreatment securing
  split
  · refine congrArg Treatment.update (funext fun c => ?_)
    by_cases hc : c = 1
    · simp [alarmCommand, statusValue, hc]
    · simp [alarmCommand, statusValue, hc]
  · refine congrArg Treatment.update (funext fun c => ?_)
    by_cases hc : c = FULL_OPEN
    · simp [gateCommand, setNext, hc]
    · simp [gateCommand, setNext, hc]

theorem Trusted.passes_iff (h : Trusted r w) :
    Passes f r w (emergencyTreatment r) ↔ Recorded r w ∨ answers f r = true := by
  obtain ⟨c, hc⟩ := h.value
  rw [emergencyTreatment_eq]
  by_cases heq : c = (securing r).2
  · subst heq
    exact iff_of_true ⟨_, hc, by simp⟩ (Or.inl hc)
  · have hno : ¬Recorded r w := fun hrec => heq (Option.some.inj (hc.symm.trans hrec))
    have hmove : (if c = (securing r).2 then none else some (securing r)) =
        some ((securing r).1, (securing r).2) := if_neg heq
    rw [passes_iff_of_command hc hmove, answers_iff]
    simp [hno, h.heeds]

/-- **What a round does** to an actuator: the registry follows its answers,
the device what it has heard. -/
structure Round (f : Action F → Fault) (asked : Prop) (r : Resource) (w w' : World F) : Prop where
  recorded : Recorded r w' ↔ Recorded r w ∨ answers f r = true ∧ asked
  secured : Secured r w' ↔ Secured r w ∨ heard f r = true ∧ asked
  trusted : Trusted r w'

/-- An actuator that is not asked is as it was. -/
theorem AsIn.round {asked : Prop} (h : AsIn w₀ r w) (hr : Trusted r w₀) (hasked : ¬asked) :
    Round f asked r w₀ w :=
  ⟨by simp [h.recorded_iff, hasked], by simp [h.secured_iff, hasked], h.trusted hr⟩

theorem Treated.round (h : Treated f s r (emergencyTreatment r) out s')
    (hr : Trusted r s.world) : Round f True r s.world s'.world := by
  rw [emergencyTreatment_eq] at h
  cases h with
  | updated h =>
    cases h with
    | unset value _ =>
      obtain ⟨c, hc⟩ := hr.value
      rw [value] at hc
      cases hc
    | @kept _ c value keep quiet =>
      have hrec : Recorded r s.world := by
        by_contra hno
        have hne : c ≠ (securing r).2 := fun heq => hno (value.trans (congrArg some heq))
        rw [if_neg hne] at keep
        cases keep
      rw [quiet.world]
      exact ⟨by simp [hrec], by simp [hr.secured hrec], hr⟩
    | @commanded _ c v payload _ value move result =>
      have hno : ¬Recorded r s.world := by
        intro hrec
        have heq : c = (securing r).2 := Option.some.inj (value.symm.trans hrec)
        rw [if_pos heq] at move
        cases move
      obtain ⟨rfl, rfl⟩ : payload = (securing r).1 ∧ v = (securing r).2 := by
        split at move
        · cases move
        · exact Prod.mk.inj (Option.some.inj move).symm
      have hdevice : Secured r (s.world.serve r.uri (securing r).1).2 := hr.served
      obtain ⟨code, text, hheeds, hcode⟩ := hr.heeds
      have hno' : ¬Recorded r (s.world.serve r.uri (securing r).1).2 := by
        rwa [Recorded, World.serve_resources]
      have hkept : Trusted r (s.world.serve r.uri (securing r).1).2 := by
        refine ⟨?_, ?_, hdevice.kind, fun _ => hdevice⟩
        · rw [World.serve_resources]
          exact hr.uri
        · rw [World.serve_resources]
          exact hr.value
      cases result with
      | lost why world _ =>
        have hlost : ¬heard f r = true := by
          rcases why with ⟨hne, hne'⟩ | hnone
          · simp [heard_iff, hne, hne']
          · simp [World.serve, hnone] at hheeds
        have hans : ¬answers f r = true := mt heard_of_answers hlost
        rw [world]
        exact ⟨by simp [hans], by simp [hlost], hr⟩
      | unanswered why world _ =>
        have hans : ¬answers f r = true := by simp [answers_iff, why]
        rw [world]
        exact ⟨by simp [hno, hno', hans], by simp [hdevice, heard_iff, why], hkept⟩
      | rejected _ reply refused _ _ =>
        rw [hheeds] at reply
        cases reply
        rw [hcode] at refused
        cases refused
      | unrecorded delivered _ _ failed world _ =>
        have hans : ¬answers f r = true := by simp [answers_iff, failed]
        rw [world]
        exact ⟨by simp [hno, hno', hans], by simp [hdevice, heard_iff, delivered], hkept⟩
      | done delivered _ _ recorded world _ =>
        have huri : (s.world.serve r.uri (securing r).1).2.resources.uri r.name = some r.uri := by
          rw [World.serve_resources]
          exact hr.uri
        have hrec : Recorded r s'.world := by
          rw [world]
          exact ResourceTable.value_setValue_self huri rfl _
        have hsec : Secured r s'.world := by
          rw [world]
          exact hdevice
        have hans : answers f r = true := answers_iff.mpr ⟨delivered, recorded⟩
        refine ⟨by simp [hrec, hans], by simp [hsec, heard_of_answers hans], ?_, ⟨_, hrec⟩,
          hsec.kind, fun _ => hsec⟩
        rw [world, World.setValue, ResourceTable.uri_setValue]
        exact huri

/-- The cycle gets past these actuators. -/
def Through (f : Action F → Fault) (w : World F) (pre : List Resource) : Prop :=
  ∀ q ∈ pre, Recorded q w ∨ answers f q = true

/-- **What a loop does** to an actuator: a round if the loop gets that far. -/
theorem Swept.round (h : Swept f emergencyTreatment (pre ++ r :: post) s out s')
    (hd : (pre ++ r :: post).Pairwise Distinct)
    (htrust : ∀ q ∈ pre ++ r :: post, Trusted q s.world) :
    Round f (Through f s.world pre) r s.world s'.world := by
  obtain ⟨hdpre, hdr, hcross⟩ := List.pairwise_append.mp hd
  have hr := htrust r (List.mem_append_right _ List.mem_cons_self)
  have hthrough : ∀ s₁ : State F, Swept f emergencyTreatment pre s (.ok ()) s₁ →
      Through f s.world pre := fun s₁ rounds q hq =>
    (htrust q (List.mem_append_left _ hq)).passes_iff.mp ((rounds.ok_iff hdpre).mp rfl q hq)
  have hasIn : ∀ s₁ : State F, Swept f emergencyTreatment pre s (.ok ()) s₁ →
      AsIn s.world r s₁.world := fun s₁ rounds =>
    local_asIn s.world r _ _ _ rounds.touched
      (fun q hq => hcross q hq r List.mem_cons_self) (.refl r s.world)
  -- a round of `r` from a world in which `r` is as it was
  have hround : ∀ (s₁ s₂ : State F) (out : Except JException Unit),
      Swept f emergencyTreatment pre s (.ok ()) s₁ →
      Treated f s₁ r (emergencyTreatment r) out s₂ →
      Round f (Through f s.world pre) r s.world s₂.world := by
    intro s₁ s₂ out rounds round
    have hcell := hasIn s₁ rounds
    obtain ⟨hrec, hsec, htrusted⟩ := round.round (hcell.trusted hr)
    rw [hcell.recorded_iff] at hrec
    rw [hcell.secured_iff] at hsec
    have hgo := hthrough s₁ rounds
    exact ⟨by simpa [hgo] using hrec, by simpa [hgo] using hsec, htrusted⟩
  cases h.reached with
  | @before pre₁ q post₁ s₁ _ ex eq rounds round =>
    subst eq
    have hq : q ∈ pre₁ ++ q :: post₁ := List.mem_append_right _ List.mem_cons_self
    have hcell : AsIn s.world q s₁.world := local_asIn s.world q _ _ _ rounds.touched
      (fun p hp => (List.pairwise_append.mp hdpre).2.2 p hp q List.mem_cons_self)
      (.refl q s.world)
    have hfails : ¬(Recorded q s.world ∨ answers f q = true) := by
      rw [← (htrust q (List.mem_append_left _ hq)).passes_iff, ← hcell.passes_iff,
        ← round.ok_iff]
      exact fun hok => by cases hok
    refine AsIn.round ?_ hr fun hgo => hfails (hgo q hq)
    refine local_asIn s.world r (pre₁ ++ [q]) _ _ (rounds.touched.trans round.touched)
      (fun u hu => hcross u ?_ r List.mem_cons_self) (.refl r s.world)
    rcases List.mem_append.mp hu with hu | hu
    · exact List.mem_append_left _ hu
    · rw [List.mem_singleton.mp hu]
      exact hq
  | here rounds round => exact hround _ _ _ rounds round
  | past rounds round rest =>
    obtain ⟨hrec, hsec, htrusted⟩ := hround _ _ _ rounds round
    have hcell := local_asIn _ r _ _ _ rest
      (fun q hq => ((List.pairwise_cons.mp hdr).1 q hq).symm) (.refl r _)
    exact ⟨hcell.recorded_iff.trans hrec, hcell.secured_iff.trans hsec, hcell.trusted htrusted⟩

/-- The alarms and the gates in the order of a cycle, without their
values. -/
def actuators (w : World F) : List Resource :=
  (w.resources.alarms ++ w.resources.gates).map unvalued

theorem Swept.unvalued {rs : List Resource} (h : Swept f emergencyTreatment rs s out s') :
    Swept f emergencyTreatment (rs.map unvalued) s out s' := by
  -- a round is about the name and the URI of its row
  have hround : ∀ {r : Resource} {s s' : State F} {out : Except JException Unit},
      Treated f s r (emergencyTreatment r) out s' →
        Treated f s (Controller.unvalued r) (emergencyTreatment r) out s' := by
    intro r s s' out h
    generalize emergencyTreatment r = a at h
    cases h with
    | broken quiet => exact .broken quiet
    | ignored quiet => exact .ignored quiet
    | updated h => exact .updated h
  induction h with
  | nil quiet => exact .nil quiet
  | stop round => exact .stop (hround round)
  | next round rest ih => exact .next (hround round) ih

theorem actuators_pairwise (w : World F) : (actuators w).Pairwise Distinct :=
  List.pairwise_map.mpr (actuators_distinct w.resources)

/-- The types of the rows decide which are actuators. -/
theorem actuators_of_rows {w w' : World F}
    (h : w'.resources.rows.map unvalued = w.resources.rows.map unvalued) :
    actuators w' = actuators w := by
  have hofType : ∀ (t : ResourceTable) (type : String), (t.ofType type).map unvalued =
      (t.rows.map unvalued).filter fun r => equalsIgnoreCase r.type type := by
    intro t type
    rw [List.filter_map]
    rfl
  simp only [actuators, ResourceTable.alarms, ResourceTable.gates, List.map_append, hofType, h]

/-! ## §3 Lasting -/

section Lasting

variable [JavaFloat F] {maxStale : Int}

/-- What happens in an emergency: a cycle with its faults, or others write
measurements, the operator changes thresholds, and time passes. -/
inductive EmergencyEvent (F : Type) where
  | cycle (f : Action F → Fault)
  | between (waterLevels : List (WaterLevel F)) (flowRates : List (FlowRate F))
      (thresholds : Thresholds F) (clock : Int)

def emergencyStep (maxStale : Int) (s : State F) : EmergencyEvent F → Option (State F)
  | .cycle f => some (runWith f maxStale s)
  | .between waterLevels flowRates thresholds clock =>
      some ⟨{ s.world with waterLevels, flowRates, thresholds, clock }, s.log⟩

omit [JavaFloat F] in
/-- The faults of the cycles, in their order. -/
def cycles (es : List (EmergencyEvent F)) : List (Action F → Fault) :=
  es.filterMap fun
    | .cycle f => some f
    | .between _ _ _ _ => none

/-- The mode is AUTO, and each cycle reads fresh data with a level above
the safe threshold, which may be another one every time. -/
def InEmergency (maxStale : Int) (s : State F) : EmergencyEvent F → Prop
  | .cycle f => Answering f ∧ s.world.mode = .AUTO ∧
      ∃ w i o, Measured maxStale s.world w i o ∧ s.world.thresholds.safe < w
  | .between _ _ _ _ => True

/-- The registry can be trusted, and `rs` are the actuators. -/
def Manned (rs : List Resource) (w : World F) : Prop :=
  actuators w = rs ∧ ∀ r ∈ rs, Trusted r w

omit [JavaFloat F] in
theorem Manned.pairwise {rs : List Resource} (h : Manned rs w) : rs.Pairwise Distinct :=
  h.1 ▸ actuators_pairwise w

omit [JavaFloat F] in
/-- The measurements, the thresholds and the time are nothing to the
actuators. -/
theorem Manned.data {rs : List Resource} (h : Manned rs w) (waterLevels : List (WaterLevel F))
    (flowRates : List (FlowRate F)) (thresholds : Thresholds F) (clock : Int) :
    Manned rs { w with waterLevels, flowRates, thresholds, clock } := by
  refine ⟨h.1, fun r hr => AsIn.trusted ?_ (h.2 r hr)⟩
  exact ⟨rfl, rfl, rfl⟩

/-- **A cycle in an emergency.** -/
theorem Manned.cycle {rs : List Resource} (h : Manned rs s.world)
    (he : InEmergency maxStale s (.cycle f)) :
    Manned rs (runWith f maxStale s).world ∧ ∀ pre r post, rs = pre ++ r :: post →
      Round f (Through f s.world pre) r s.world (runWith f maxStale s).world := by
  obtain ⟨hf, hauto, w, i, o, hm, hsafe⟩ := he
  obtain ⟨out, hrun⟩ := runWith_controlled hf hm.cycleInputs
  have hswept := (hrun.emergency hsafe hauto).unvalued
  rw [show (_ : List Resource).map unvalued = rs from h.1] at hswept
  have hrounds : ∀ pre r post, rs = pre ++ r :: post →
      Round f (Through f s.world pre) r s.world (runWith f maxStale s).world := by
    intro pre r post heq
    rw [heq] at hswept
    exact hswept.round (heq ▸ h.pairwise) (heq ▸ h.2)
  have hsame := actuators_of_rows (runWith_rows f maxStale s)
  refine ⟨⟨hsame.trans h.1, fun r hr => ?_⟩, hrounds⟩
  obtain ⟨pre, post, heq⟩ := List.append_of_mem hr
  exact (hrounds pre r post heq).trusted

/-- The actuators that the registry does not show as secured. -/
def pending (w : World F) (rs : List Resource) : List Resource :=
  rs.filter fun r => decide ¬Recorded r w

omit [JavaFloat F] in
theorem through_iff : Through f w pre ↔ ∀ q ∈ pending w pre, answers f q = true := by
  simp only [Through, pending, List.mem_filter, decide_eq_true_eq, and_imp]
  exact forall₂_congr fun q _ => or_iff_not_imp_left

/-- What is pending after a cycle is what is left of what was. -/
theorem Manned.pending_cycle (h : Manned (pre ++ post) s.world)
    (he : InEmergency maxStale s (.cycle f)) :
    pending (runWith f maxStale s).world pre = (pending s.world pre).dropWhile (answers f) := by
  refine filter_eq_dropWhile fun front r back heq => ?_
  have hround := (h.cycle he).2 front r (back ++ post) (by rw [heq]; simp)
  rw [decide_eq_true_iff, decide_eq_true_iff, hround.recorded, through_iff, not_or]
  rfl

/-- **What a whole emergency does** to an actuator. -/
theorem Manned.lasting {es : List (EmergencyEvent F)} (h : Manned (pre ++ r :: post) s.world)
    (hC : Each (emergencyStep maxStale) (InEmergency maxStale) s es)
    (hrun : Machine.run (emergencyStep maxStale) s es = some s') :
    (Recorded r s'.world ↔ Recorded r s.world ∨
      Queue.Called answers (fun f => answers f r = true) (pending s.world pre) (cycles es)) ∧
    (Secured r s'.world ↔ Secured r s.world ∨
      Queue.Called answers (fun f => heard f r = true) (pending s.world pre) (cycles es)) := by
  induction es generalizing s with
  | nil =>
    obtain rfl := Option.some.inj hrun
    simp [cycles, Queue.Called]
  | cons e es ih =>
    obtain ⟨t, ht, hrun⟩ := run_cons_eq_some.mp hrun
    have hrest := hC.2 t ht
    cases e with
    | cycle f =>
      obtain rfl := Option.some.inj ht
      obtain ⟨hmanned, hrounds⟩ := h.cycle hC.1
      obtain ⟨hrec, hsec, -⟩ := hrounds pre r post rfl
      obtain ⟨hrec', hsec'⟩ := ih hmanned hrest hrun
      have hcycles : cycles (.cycle f :: es) = f :: cycles es := rfl
      rw [hrec', hsec', hrec, hsec, h.pending_cycle hC.1, hcycles, Queue.Called, Queue.Called,
        through_iff, or_assoc, or_assoc, and_comm (b := ∀ q ∈ _, _),
        and_comm (b := ∀ q ∈ _, _)]
      exact ⟨Iff.rfl, Iff.rfl⟩
    | between waterLevels flowRates thresholds clock =>
      obtain rfl := Option.some.inj ht
      have hmanned := h.data waterLevels flowRates thresholds clock
      exact ih (s := ⟨{ s.world with waterLevels, flowRates, thresholds, clock }, s.log⟩)
        hmanned hrest hrun

/-- **Which losses keep an actuator from being secured.** In an emergency
of any number of cycles, in which requests, answers and updates of the
registry may be lost, an actuator is recorded as secured if and only if it
was at first or it answers in some cycle by which everybody pending before
it has answered, each in a cycle no earlier than that of the one before
it. The device is secured if and only if it was at first or it has heard
of it in such a cycle. -/
theorem emergency_iff {es : List (EmergencyEvent F)}
    (hC : Each (emergencyStep maxStale) (InEmergency maxStale) s es)
    (hrun : Machine.run (emergencyStep maxStale) s es = some s')
    (htrust : ∀ r ∈ actuators s.world, Trusted r s.world) :
    ∀ pre r post, actuators s.world = pre ++ r :: post →
      (Recorded r s'.world ↔ Recorded r s.world ∨
        ∃ i f, (cycles es)[i]? = some f ∧ answers f r = true ∧
          ∃ k, Queue.Schedule answers (pending s.world pre) (cycles es) i k) ∧
      (Secured r s'.world ↔ Secured r s.world ∨
        ∃ i f, (cycles es)[i]? = some f ∧ heard f r = true ∧
          ∃ k, Queue.Schedule answers (pending s.world pre) (cycles es) i k) := by
  intro pre r post heq
  have hmanned : Manned (pre ++ r :: post) s.world := ⟨heq, heq ▸ htrust⟩
  rw [← called_iff, ← called_iff]
  exact hmanned.lasting hC hrun

/-- What is pending after an emergency. -/
theorem Manned.pending_run {rs : List Resource} {es : List (EmergencyEvent F)}
    (h : Manned rs s.world) (hC : Each (emergencyStep maxStale) (InEmergency maxStale) s es)
    (hrun : Machine.run (emergencyStep maxStale) s es = some s') :
    Manned rs s'.world ∧
      pending s'.world rs = remaining answers (pending s.world rs) (cycles es) := by
  induction es generalizing s with
  | nil =>
    obtain rfl := Option.some.inj hrun
    exact ⟨h, rfl⟩
  | cons e es ih =>
    obtain ⟨t, ht, hrun⟩ := run_cons_eq_some.mp hrun
    have hrest := hC.2 t ht
    cases e with
    | cycle f =>
      obtain rfl := Option.some.inj ht
      obtain ⟨hmanned, hpending⟩ := ih (h.cycle hC.1).1 hrest hrun
      have hall : Manned (rs ++ []) s.world := (List.append_nil rs).symm ▸ h
      have hfirst := hall.pending_cycle hC.1
      rw [hfirst] at hpending
      exact ⟨hmanned, hpending⟩
    | between waterLevels flowRates thresholds clock =>
      obtain rfl := Option.some.inj ht
      have hmanned := h.data waterLevels flowRates thresholds clock
      exact ih (s := ⟨{ s.world with waterLevels, flowRates, thresholds, clock }, s.log⟩)
        hmanned hrest hrun

/-- **A deadline.** If `n` actuators are pending and each of them answers
at least once in every `p` cycles in a row, every actuator is secured, in
the registry and on the device, after `n * (p - 1) + 1` cycles. -/
theorem emergency_deadline {es : List (EmergencyEvent F)} {p : ℕ}
    (hC : Each (emergencyStep maxStale) (InEmergency maxStale) s es)
    (hrun : Machine.run (emergencyStep maxStale) s es = some s')
    (htrust : ∀ r ∈ actuators s.world, Trusted r s.world) (hp : 0 < p)
    (hfair : ∀ r ∈ pending s.world (actuators s.world), ∀ i, i + p ≤ (cycles es).length →
      ∃ j f, i ≤ j ∧ j < i + p ∧ (cycles es)[j]? = some f ∧ answers f r = true)
    (hlong : (pending s.world (actuators s.world)).length * (p - 1) < (cycles es).length) :
    ∀ r ∈ actuators s.world, Recorded r s'.world ∧ Secured r s'.world := by
  have hmanned : Manned (actuators s.world) s.world := ⟨rfl, htrust⟩
  obtain ⟨hafter, hpending⟩ := hmanned.pending_run hC hrun
  rw [remaining_eq_nil hp hfair hlong] at hpending
  intro r hr
  have hrec : Recorded r s'.world := by
    have hmem : r ∉ pending s'.world (actuators s.world) := hpending ▸ List.not_mem_nil
    simpa [pending, hr] using hmem
  exact ⟨hrec, (hafter.2 r hr).secured hrec⟩

end Lasting

/-! ## §4 A flood -/

section Flood

/-- In each cycle of a flood only the URIs of `reached` answer; from those
of `mute` the answer is lost, and all others hear nothing. -/
def replies (reached mute : List Uri) : Action ℚ → Fault :=
  failing fun uri =>
    if uri ∈ reached then .none else if uri ∈ mute then .responseLost else .requestLost

/-- The level is measured anew before each cycle. -/
def siege (fs : List (Action ℚ → Fault)) : List (EmergencyEvent ℚ) :=
  fs.flatMap fun f =>
    [.between [⟨1, 0, 70⟩] [⟨1, "inflow", 0, 30⟩, ⟨2, "outflow-1", 0, 20⟩] demoThresholds
      0, .cycle f]

theorem siege_inEmergency (fs : List (Action ℚ → Fault)) (hfs : ∀ f ∈ fs, Answering f)
    {rs : List Resource} {s : State ℚ} (h : Manned rs s.world) (hauto : s.world.mode = .AUTO) :
    Each (emergencyStep 5) (InEmergency 5) s (siege fs) := by
  induction fs generalizing s with
  | nil => trivial
  | cons f fs ih =>
    refine ⟨trivial, fun t ht => ?_⟩
    have hmode : t.world.mode = .AUTO := Option.some.inj ht ▸ hauto
    have hmanned : Manned rs t.world := Option.some.inj ht ▸ h.data _ _ _ _
    have he : InEmergency 5 t (.cycle f) := by
      obtain rfl := Option.some.inj ht
      obtain ⟨hlevel, -, -⟩ := demo_measured .AUTO 0 0 false 70 30 20
      have hin := @demo_inflow .AUTO 0 0 false 70 30 20 s.world.collation
      have hout := @demo_outflow .AUTO 0 0 false 70 30 20 s.world.collation
      exact ⟨hfs f List.mem_cons_self, hauto, 70, 30, 20, ⟨hlevel, ⟨_, hin, rfl⟩, hout⟩,
        show (60 : ℚ) < 70 by decide⟩
    refine ⟨he, fun t' ht' => ?_⟩
    obtain rfl := Option.some.inj ht'
    obtain ⟨hf, -, w, i, o, hm, hsafe⟩ := id he
    obtain ⟨out, hrun⟩ := runWith_controlled hf hm.cycleInputs
    exact ih (fun g hg => hfs g (List.mem_cons_of_mem f hg)) (hmanned.cycle he).1
      ((hrun.emergency hsafe hmode).touched.mode.trans hmode)

theorem replies_answering (reached mute : List Uri) : Answering (replies reached mute) :=
  failing_answering _

theorem flood_manned : Manned [unvalued (demoAlarm false), unvalued (demoGate1 0),
    unvalued (demoGate2 0)] flood.world := by
  have hacts : actuators flood.world = [unvalued (demoAlarm false), unvalued (demoGate1 0),
      unvalued (demoGate2 0)] := congrArg (List.map unvalued) flood_actuators
  refine ⟨hacts, fun r hr => ?_⟩
  rw [← hacts] at hr
  obtain ⟨q, hq, rfl⟩ := List.mem_map.mp hr
  have hagreed := agreed_of_mem (demo_alarmsAgree _ _ _ _ _ _ _) (demo_gatesAgree _ _ _ _ _ _ _) hq
  exact Agreed.trusted (r := unvalued q) hagreed

/-- The alarm hears of the flood and its answer is lost; then everybody is
reached, but the answer of the second gate is lost. -/
def lossy : List (Action ℚ → Fault) :=
  [replies [] [alarmUri], replies [alarmUri, gate1Uri] [gate2Uri]]

theorem lossy_inEmergency : Each (emergencyStep 5) (InEmergency 5) flood (siege lossy) := by
  refine siege_inEmergency lossy (fun f hf => ?_) flood_manned rfl
  simp only [lossy, List.mem_cons, List.not_mem_nil, or_false] at hf
  rcases hf with rfl | rfl <;> exact replies_answering _ _

/-- Both gates are open then, and the registry knows of the first only. -/
theorem emergency_iff_demo : ∃ s', Machine.run (emergencyStep 5) flood (siege lossy) = some s' ∧
    Recorded (demoGate1 0) s'.world ∧ ¬Recorded (demoGate2 0) s'.world ∧
      Secured (demoGate2 0) s'.world := by
  obtain ⟨s', hrun⟩ : ∃ s', Machine.run (emergencyStep 5) flood (siege lossy) = some s' :=
    ⟨_, rfl⟩
  have h := emergency_iff lossy_inEmergency hrun (flood_manned.1 ▸ flood_manned.2)
  have hgate1 := h [unvalued (demoAlarm false)] (unvalued (demoGate1 0))
    [unvalued (demoGate2 0)] flood_manned.1
  have hgate2 := h [unvalued (demoAlarm false), unvalued (demoGate1 0)] (unvalued (demoGate2 0))
    [] flood_manned.1
  refine ⟨s', hrun, hgate1.1.mpr (Or.inr ?_), fun hrec => ?_, hgate2.2.mpr (Or.inr ?_)⟩
  · exact ⟨1, _, rfl, by decide, _, .at_once rfl (by decide)⟩
  · rcases hgate2.1.mp hrec with hno | ⟨i, f, hf, hans, -⟩
    · exact absurd hno (by decide)
    · rcases i with - | - | i
      · cases hf
        exact absurd hans (by decide)
      · cases hf
        exact absurd hans (by decide)
      · cases hf
  · exact ⟨1, _, rfl, by decide, _, .at_once rfl (by decide)⟩

/-- In turn, only the alarm and only the gates are in reach. -/
def alternating : List (Action ℚ → Fault) :=
  [replies [alarmUri] [], replies [gate1Uri, gate2Uri] [],
    replies [alarmUri] [], replies [gate1Uri, gate2Uri] []]

theorem alternating_inEmergency :
    Each (emergencyStep 5) (InEmergency 5) flood (siege alternating) := by
  refine siege_inEmergency alternating (fun f hf => ?_) flood_manned rfl
  simp only [alternating, List.mem_cons, List.not_mem_nil, or_false] at hf
  rcases hf with rfl | rfl | rfl | rfl <;> exact replies_answering _ _

/-- Of two cycles in a row one reaches the alarm, and one the gates. -/
theorem alternating_fair {r : Resource} (hr : r ∈ [unvalued (demoAlarm false),
    unvalued (demoGate1 0), unvalued (demoGate2 0)]) {i : ℕ} (hi : i ≤ 2) :
    ∃ j f, i ≤ j ∧ j < i + 2 ∧ (cycles (siege alternating))[j]? = some f ∧
      answers f r = true := by
  simp only [List.mem_cons, List.not_mem_nil, or_false] at hr
  have hcases : i = 0 ∨ i = 1 ∨ i = 2 := by omega
  rcases hr with rfl | hgate
  · rcases hcases with rfl | rfl | rfl
    · exact ⟨0, _, by decide, by decide, rfl, by decide⟩
    · exact ⟨2, _, by decide, by decide, rfl, by decide⟩
    · exact ⟨2, _, by decide, by decide, rfl, by decide⟩
  · have hanswer : answers (replies [gate1Uri, gate2Uri] []) r = true := by
      rcases hgate with rfl | rfl <;> decide
    rcases hcases with rfl | rfl | rfl
    · exact ⟨1, _, by decide, by decide, rfl, hanswer⟩
    · exact ⟨1, _, by decide, by decide, rfl, hanswer⟩
    · exact ⟨3, _, by decide, by decide, rfl, hanswer⟩

/-- Four cycles are enough for the three actuators. -/
theorem emergency_deadline_demo : ∃ s',
    Machine.run (emergencyStep 5) flood (siege alternating) = some s' ∧
      ∀ r ∈ actuators flood.world, Recorded r s'.world ∧ Secured r s'.world := by
  obtain ⟨s', hrun⟩ : ∃ s',
      Machine.run (emergencyStep 5) flood (siege alternating) = some s' := ⟨_, rfl⟩
  have hpending : (pending flood.world (actuators flood.world)).length = 3 := by
    rw [flood_manned.1]
    decide
  refine ⟨s', hrun, emergency_deadline (p := 2) alternating_inEmergency hrun
    (flood_manned.1 ▸ flood_manned.2) (by decide) (fun r hr i hi => ?_) ?_⟩
  · have hmem := List.mem_of_mem_filter hr
    rw [flood_manned.1] at hmem
    exact alternating_fair hmem (Nat.le_of_add_le_add_right hi)
  · rw [hpending]
    decide

end Flood

end DamMonitoring.Controller
