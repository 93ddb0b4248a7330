/-
DamMonitoring.Controller.Cycle — the trace of one control cycle that runs
alone.

`safe_run` says everything a cycle can do: nothing at all without fresh
data (`cycleInputs`), and otherwise a loop over the alarms and, in AUTO
mode and if that loop comes to its end, a loop over the gates
(`Controlled`). Claims about cycles are read off this list.

  §1 what a cycle reads
  §2 what it does with an alarm and with a gate
  §3 the trace of `actuate`, of `cycle` and of `run`
  §4 the round of a gate, the round of an alarm
  §5 the loop over the alarms
  §6 runs
-/
import DamMonitoring.Controller.AutomaticControlUnit
import DamMonitoring.Controller.Sweep

namespace DamMonitoring.Controller

open Program Java Motes Persistence
open ControlLogic AutomaticControlUnit
open Persistence.ResourceTable (Distinct)

variable {F : Type} [JavaFloat F]

/-! ## §1 Inputs -/

/-- The water level, the inflow and the outflow a cycle acts on; `none`
if one of them is missing or the water level is stale. -/
def cycleInputs (maxStale : Int) (w : World F) : Option (F × F × F) :=
  (retrieveFlowRate w.collation w.flowRates INFLOW).bind fun inflow =>
  (retrieveOutFlowRate w.collation w.flowRates).bind fun outFlowRate =>
  (retrieveWaterLevel w.waterLevels).bind fun waterLevel =>
    if waterLevel.timestamp < w.clock - maxStale * 60000 then none
    else some (waterLevel.value, inflow.value, outFlowRate)

/-- Fresh data: the last water level, not older than `maxStale` minutes,
the last inflow, and the sum of the last outflows. -/
structure Measured (maxStale : Int) (w : World F) (waterLevel inflowRate outFlowRate : F) :
    Prop where
  level : ∃ m, retrieveWaterLevel w.waterLevels = some m ∧ m.value = waterLevel ∧
    w.clock - maxStale * 60000 ≤ m.timestamp
  inflow : ∃ m, retrieveFlowRate w.collation w.flowRates INFLOW = some m ∧ m.value = inflowRate
  outflow : retrieveOutFlowRate w.collation w.flowRates = some outFlowRate

theorem Measured.cycleInputs {maxStale : Int} {w : World F}
    {waterLevel inflowRate outFlowRate : F}
    (h : Measured maxStale w waterLevel inflowRate outFlowRate) :
    cycleInputs maxStale w = some (waterLevel, inflowRate, outFlowRate) := by
  obtain ⟨m, hm, rfl, hfresh⟩ := h.level
  obtain ⟨n, hn, rfl⟩ := h.inflow
  simp only [Controller.cycleInputs, hm, hn, h.outflow, Option.bind_some,
    if_neg (not_lt.mpr hfresh)]

/-! ## §2 Treatments -/

omit [JavaFloat F] in
def alarmTreatment (status : Bool) (_ : Resource) : Treatment := .update (alarmCommand status)

/-- How far a primary gate is asked to move below the safe threshold:
opened by a positive step, closed by a negative one. -/
def delta (thresholds : Thresholds F) (waterLevel inflowRate outFlowRate : F) : Int :=
  if thresholds.max < waterLevel then if outFlowRate < inflowRate then LONG_STEP else STEP
  else if waterLevel < thresholds.min then
    -(if inflowRate < outFlowRate then LONG_STEP else STEP)
  else if outFlowRate < inflowRate - ((1 : Nat) : F) then normalStep inflowRate outFlowRate
  else if inflowRate + ((1 : Nat) : F) < outFlowRate then -normalStep inflowRate outFlowRate
  else 0

/-- The next level of a gate asked to move by `d`. -/
def stepNext (d : Int) : Int → Option Int :=
  if 0 < d then increaseNext d else decreaseNext (-d)

/-- What a loop does with a primary gate asked to move by `d`. -/
def primaryTreatment (d : Int) : Treatment :=
  if d = 0 then .ignore else .update (gateCommand (stepNext d))

/-- What a loop that closes emergency gates and moves the others by `d`
does with a gate. -/
def closeTreatment (d : Int) (gate : Resource) : Treatment :=
  match gate.tag with
  | none => .broken
  | some tag =>
      if equalsIgnoreCase tag "emergency" then .update (gateCommand (setNext FULL_CLOSE))
      else primaryTreatment d

/-- What a cycle in AUTO mode does with a gate. -/
def gateTreatment (thresholds : Thresholds F) (waterLevel inflowRate outFlowRate : F)
    (gate : Resource) : Treatment :=
  if thresholds.safe < waterLevel then .update (gateCommand (setNext FULL_OPEN))
  else closeTreatment (delta thresholds waterLevel inflowRate outFlowRate) gate

omit [JavaFloat F] in
/-- Whether a gate is tagged `emergency`. -/
def isEmergencyGate (gate : Resource) : Bool :=
  gate.tag.any fun tag => equalsIgnoreCase tag "emergency"

/-- The next level a cycle computes for a gate; `none` where it leaves
the gate alone. -/
def gateNext (thresholds : Thresholds F) (waterLevel inflowRate outFlowRate : F)
    (gate : Resource) : Int → Option Int :=
  if thresholds.safe < waterLevel then setNext FULL_OPEN
  else if isEmergencyGate gate then setNext FULL_CLOSE
  else if delta thresholds waterLevel inflowRate outFlowRate = 0 then fun _ => none
  else stepNext (delta thresholds waterLevel inflowRate outFlowRate)

/-- A gate without a tag breaks the cycle below the safe threshold; every
other gate goes to its next level. -/
theorem gateTreatment_cases (θ : Thresholds F) (w i o : F) (gate : Resource) :
    (gateTreatment θ w i o gate = .broken ∧ gate.tag = none ∧ ¬θ.safe < w) ∨
      (gateTreatment θ w i o gate = .ignore ∧ ∀ c, gateNext θ w i o gate c = none) ∨
      gateTreatment θ w i o gate = .update (gateCommand (gateNext θ w i o gate)) := by
  unfold gateTreatment gateNext
  by_cases hsafe : θ.safe < w
  · simp only [if_pos hsafe]
    exact Or.inr (Or.inr trivial)
  cases htag : gate.tag with
  | none =>
    simp only [if_neg hsafe, closeTreatment, htag]
    exact Or.inl ⟨trivial, trivial, hsafe⟩
  | some tag =>
    simp only [if_neg hsafe, closeTreatment, isEmergencyGate, htag, Option.any_some,
      primaryTreatment]
    by_cases hem : equalsIgnoreCase tag "emergency" = true
    · simp only [if_pos hem]
      exact Or.inr (Or.inr trivial)
    simp only [if_neg hem]
    by_cases hzero : delta θ w i o = 0
    · simp only [if_pos hzero]
      exact Or.inr (Or.inl ⟨trivial, fun _ => trivial⟩)
    · simp only [if_neg hzero]
      exact Or.inr (Or.inr trivial)

/-! ## §3 Traces -/

/-- The trace of `actuate`. -/
inductive Controlled (f : Action F → Fault) (waterLevel inflowRate outFlowRate : F)
    (s : State F) : Except JException Unit → State F → Prop where
  /-- The loop over the alarms ends early, and the cycle with it. -/
  | alarmsFailed {s' : State F} {ex : JException}
      (alarms : Swept f (alarmTreatment (decide (s.world.thresholds.safe < waterLevel)))
        s.world.resources.alarms s (.error ex) s') :
      Controlled f waterLevel inflowRate outFlowRate s (.error ex) s'
  | manual {s₁ s' : State F}
      (alarms : Swept f (alarmTreatment (decide (s.world.thresholds.safe < waterLevel)))
        s.world.resources.alarms s (.ok ()) s₁)
      (mode : s.world.mode = .MANUAL) (quiet : Quiet s₁ s') :
      Controlled f waterLevel inflowRate outFlowRate s (.ok ()) s'
  | auto {s₁ s' : State F} {out : Except JException Unit}
      (alarms : Swept f (alarmTreatment (decide (s.world.thresholds.safe < waterLevel)))
        s.world.resources.alarms s (.ok ()) s₁)
      (mode : s.world.mode = .AUTO)
      (gates : Swept f (gateTreatment s.world.thresholds waterLevel inflowRate outFlowRate)
        s.world.resources.gates s₁ out s') :
      Controlled f waterLevel inflowRate outFlowRate s out s'

variable {t : Thread} {f : Action F → Fault} {s : State F}

theorem Controlled.of_quiet {s₁ s' : State F} {waterLevel inflowRate outFlowRate : F}
    {out : Except JException Unit} (hq : Quiet s s₁)
    (h : Controlled f waterLevel inflowRate outFlowRate s₁ out s') :
    Controlled f waterLevel inflowRate outFlowRate s out s' := by
  have hw := hq.world
  cases h with
  | alarmsFailed alarms => exact .alarmsFailed (hw ▸ alarms.of_quiet hq)
  | manual alarms mode quiet => exact .manual (hw ▸ alarms.of_quiet hq) (hw ▸ mode) quiet
  | auto alarms mode gates => exact .auto (hw ▸ alarms.of_quiet hq) (hw ▸ mode) (hw ▸ gates)

theorem safe_getThreshold (name : ThresholdName) {Q : Except JException F → State F → Prop}
    (h : ∀ s', Quiet s s' → Q (.ok (s.world.thresholds.get name)) s') :
    (under t f).Safe (perform (.getThreshold name)) Q s := by
  simp only [perform, Prog.perform, under_act, handler, World.perform, Contract.safe_pure]
  exact h _ ⟨rfl, rfl⟩

theorem safe_now {Q : Except JException Int → State F → Prop}
    (h : ∀ s', Quiet s s' → Q (.ok s.world.clock) s') :
    (under t f).Safe (perform .now) Q s := by
  simp only [perform, Prog.perform, under_act, handler, World.perform, Contract.safe_pure]
  exact h _ ⟨rfl, rfl⟩

theorem safe_getRunningMode {Q : Except JException OperativeMode → State F → Prop}
    (h : ∀ s', Quiet s s' → Q (.ok s.world.mode) s') :
    (under t f).Safe getRunningMode Q s := by
  simp only [getRunningMode, perform, Prog.perform, under_act, handler, World.perform,
    Contract.safe_pure]
  exact h _ ⟨rfl, rfl⟩

/-- The loop of `setAlarmStatus`. -/
theorem safe_setAlarmStatus (hf : Answering f) (status : Bool) :
    (under t f).Safe (setAlarmStatus status)
      (Swept f (alarmTreatment status) s.world.resources.alarms s) s := by
  unfold setAlarmStatus
  rw [Contract.safe_bind]
  refine DataManager.safe_resourcesOfType hf "alarm" fun s₁ h₁ => ?_
  refine (safe_sweep (alarmTreatment status) (fun r _ s₂ huri => ?_) s₁
    fun r hr => ?_).mono fun out s' h' => h'.of_quiet h₁
  · exact (safe_updateAlarm hf huri status).mono fun out s' h' => .updated h'
  · rw [h₁.world]
    exact ResourceTable.uri_of_mem (ResourceTable.mem_of_alarm hr)

/-- A round of a loop that closes emergency gates. -/
theorem safe_closeEmergency (hf : Answering f) {primary : Resource → Java F Unit} {d : Int}
    {gate : Resource}
    (hprimary : ∀ s : State F, s.world.resources.uri gate.name = some gate.uri →
      (under t f).Safe (primary gate) (Treated f s gate (primaryTreatment d)) s)
    (huri : s.world.resources.uri gate.name = some gate.uri) :
    (under t f).Safe (closeEmergency primary gate) (Treated f s gate (closeTreatment d gate)) s := by
  unfold closeEmergency isEmergency closeTreatment
  cases gate.tag with
  | none => exact .broken (.refl s)
  | some tag =>
    simp only [deref, Prog.pure_eq, Prog.pure_bind]
    split
    · exact (safe_updateGate hf huri _).mono fun out s' h' => .updated h'
    · exact hprimary s huri

theorem safe_increaseGateOpening (hf : Answering f) {gate : Resource} {step : Int}
    (hstep : 0 < step) (huri : s.world.resources.uri gate.name = some gate.uri) :
    (under t f).Safe (increaseGateOpening gate.name step)
      (Treated f s gate (primaryTreatment step)) s := by
  have htreat : primaryTreatment step = .update (gateCommand (increaseNext step)) := by
    simp [primaryTreatment, stepNext, hstep, hstep.ne']
  rw [htreat]
  exact (safe_updateGate hf huri _).mono fun out s' h' => .updated h'

theorem safe_decreaseGateOpening (hf : Answering f) {gate : Resource} {step : Int}
    (hstep : 0 < step) (huri : s.world.resources.uri gate.name = some gate.uri) :
    (under t f).Safe (decreaseGateOpening gate.name step)
      (Treated f s gate (primaryTreatment (-step))) s := by
  have htreat : primaryTreatment (-step) = .update (gateCommand (decreaseNext step)) := by
    have hneg : ¬ 0 < -step := by omega
    have hzero : -step ≠ 0 := by omega
    simp only [primaryTreatment, stepNext, if_neg hzero, if_neg hneg, neg_neg]
  rw [htreat]
  exact (safe_updateGate hf huri _).mono fun out s' h' => .updated h'

/-- Between the minimum and the maximum threshold. -/
theorem safe_normalPrimary (hf : Answering f) (inflowRate outFlowRate : F) {gate : Resource}
    (huri : s.world.resources.uri gate.name = some gate.uri) :
    (under t f).Safe (normalPrimary inflowRate outFlowRate gate)
      (Treated f s gate (primaryTreatment
        (if outFlowRate < inflowRate - ((1 : Nat) : F) then normalStep inflowRate outFlowRate
          else if inflowRate + ((1 : Nat) : F) < outFlowRate then
            -normalStep inflowRate outFlowRate
          else 0))) s := by
  have hpos := (normalStep_bounds inflowRate outFlowRate).1
  unfold normalPrimary
  split
  · exact safe_increaseGateOpening hf hpos huri
  · split
    · exact safe_decreaseGateOpening hf hpos huri
    · exact .ignored (.refl s)

/-- A loop over the gates. -/
theorem safe_gateLoop {body : Resource → Java F Unit} (treat : Resource → Treatment)
    {s s₁ : State F} (hq : Quiet s s₁)
    (hround : ∀ gate, ∀ s : State F, s.world.resources.uri gate.name = some gate.uri →
      (under t f).Safe (body gate) (Treated f s gate (treat gate)) s) :
    (under t f).Safe (Prog.forEach s.world.resources.gates body)
      (Swept f treat s.world.resources.gates s) s₁ := by
  refine (safe_sweep treat (fun gate _ => hround gate) s₁ fun gate hg => ?_).mono
    fun out s' h' => h'.of_quiet hq
  rw [hq.world]
  exact ResourceTable.uri_of_mem (ResourceTable.mem_of_gate hg)

/-- **The gates' part of a cycle.** -/
theorem safe_controlGates (hf : Answering f) (waterLevel inflowRate outFlowRate : F) :
    (under t f).Safe (controlGates waterLevel inflowRate outFlowRate)
      (Swept f (gateTreatment s.world.thresholds waterLevel inflowRate outFlowRate)
        s.world.resources.gates s) s := by
  unfold controlGates
  rw [Contract.safe_bind]
  refine DataManager.safe_resourcesOfType hf "gate" fun s₁ h₁ => ?_
  dsimp only
  rw [Contract.safe_bind]
  refine safe_getThreshold .safe fun s₂ h₂ => ?_
  have hq₂ := h₁.trans h₂
  simp only [h₁.world, Thresholds.get]
  by_cases hsafe : s.world.thresholds.safe < waterLevel
  · rw [if_pos hsafe]
    refine safe_gateLoop _ hq₂ fun gate s huri => ?_
    rw [gateTreatment, if_pos hsafe]
    exact (safe_updateGate hf huri _).mono fun out s' h' => .updated h'
  have htreat : ∀ gate, gateTreatment s.world.thresholds waterLevel inflowRate outFlowRate gate =
      closeTreatment (delta s.world.thresholds waterLevel inflowRate outFlowRate) gate :=
    fun gate => if_neg hsafe
  rw [if_neg hsafe, Contract.safe_bind]
  refine safe_getThreshold .max fun s₃ h₃ => ?_
  have hq₃ := hq₂.trans h₃
  simp only [hq₂.world, Thresholds.get]
  by_cases hmax : s.world.thresholds.max < waterLevel
  · rw [if_pos hmax]
    refine safe_gateLoop _ hq₃ fun gate s huri => ?_
    rw [htreat, delta, if_pos hmax]
    refine safe_closeEmergency hf (fun s huri => safe_increaseGateOpening hf ?_ huri) huri
    split <;> decide
  rw [if_neg hmax, Contract.safe_bind]
  refine safe_getThreshold .min fun s₄ h₄ => ?_
  have hq₄ := hq₃.trans h₄
  simp only [hq₃.world, Thresholds.get]
  by_cases hmin : waterLevel < s.world.thresholds.min
  · rw [if_pos hmin]
    refine safe_gateLoop _ hq₄ fun gate s huri => ?_
    rw [htreat, delta, if_neg hmax, if_pos hmin]
    refine safe_closeEmergency hf (fun s huri => safe_decreaseGateOpening hf ?_ huri) huri
    split <;> decide
  · rw [if_neg hmin]
    refine safe_gateLoop _ hq₄ fun gate s huri => ?_
    rw [htreat, delta, if_neg hmax, if_neg hmin]
    exact safe_closeEmergency hf (fun s huri => safe_normalPrimary hf _ _ huri) huri

/-- The rest of a cycle once fresh data are there. -/
theorem safe_actuate (hf : Answering f) (waterLevel inflowRate outFlowRate : F) :
    (under t f).Safe (actuate waterLevel inflowRate outFlowRate)
      (Controlled f waterLevel inflowRate outFlowRate s) s := by
  unfold actuate
  rw [Contract.safe_bind]
  refine safe_getThreshold .safe fun s₁ h₁ => ?_
  dsimp only [Thresholds.get]
  rw [Contract.safe_bind]
  refine (safe_setAlarmStatus hf _).mono fun out s₂ h₂ => ?_
  rw [h₁.world] at h₂
  have halarms := h₂.of_quiet h₁
  cases out with
  | error ex => exact .alarmsFailed halarms
  | ok _ =>
    dsimp only
    rw [Contract.safe_bind]
    refine safe_getRunningMode fun s₃ h₃ => ?_
    dsimp only
    have htouched := halarms.touched
    split
    · next hmode => exact .manual halarms (htouched.mode ▸ hmode) h₃
    · next hmode =>
      have hauto : s.world.mode = .AUTO := by
        rw [htouched.mode] at hmode
        cases h : s.world.mode with
        | AUTO => rfl
        | MANUAL => exact absurd h hmode
      have hgates : s₃.world.resources.gates = s.world.resources.gates := by
        rw [h₃.world]
        exact htouched.ofType "gate" fun r hr q hq => (ResourceTable.gate_distinct_alarm hq hr).1
      refine (safe_controlGates hf waterLevel inflowRate outFlowRate).mono fun out s' h' => ?_
      rw [hgates, h₃.world, htouched.thresholds] at h'
      exact .auto halarms hauto (h'.of_quiet h₃)

/-- How a cycle ends: nothing without fresh data, `Controlled` with
them. -/
def CycleEnds (f : Action F → Fault) (maxStale : Int) (s : State F)
    (out : Except JException Unit) (s' : State F) : Prop :=
  match cycleInputs maxStale s.world with
  | none => Quiet s s' ∧ ∀ message, out ≠ .error (.coapException message)
  | some (waterLevel, inflowRate, outFlowRate) =>
      Controlled f waterLevel inflowRate outFlowRate s out s'

theorem CycleEnds.quiet {maxStale : Int} {out : Except JException Unit} {s' : State F}
    (h : cycleInputs maxStale s.world = none) (hq : Quiet s s')
    (hout : ∀ message, out ≠ .error (.coapException message)) :
    CycleEnds f maxStale s out s' := by
  unfold CycleEnds
  rw [h]
  exact ⟨hq, hout⟩

theorem CycleEnds.controlled {maxStale : Int} {waterLevel inflowRate outFlowRate : F}
    {out : Except JException Unit} {s' : State F}
    (h : cycleInputs maxStale s.world = some (waterLevel, inflowRate, outFlowRate))
    (hc : Controlled f waterLevel inflowRate outFlowRate s out s') :
    CycleEnds f maxStale s out s' := by
  unfold CycleEnds
  rw [h]
  exact hc

/-- **One cycle**: nothing without fresh data, `Controlled` with them. -/
theorem safe_cycle (hf : Answering f) (maxStale : Int) :
    (under t f).Safe (cycle maxStale) (fun out s' =>
      match cycleInputs maxStale s.world with
      | none => Quiet s s' ∧ ∀ message, out ≠ .error (.coapException message)
      | some (waterLevel, inflowRate, outFlowRate) =>
          Controlled f waterLevel inflowRate outFlowRate s out s') s := by
  change (under t f).Safe (cycle maxStale) (CycleEnds f maxStale s) s
  unfold cycle
  rw [Contract.safe_bind]
  refine DataManager.safe_retrieveWaterLevel hf fun s₁ h₁ => ?_
  dsimp only
  rw [Contract.safe_bind]
  refine DataManager.safe_retrieveFlowRate hf INFLOW fun s₂ h₂ => ?_
  have hq₂ := h₁.trans h₂
  simp only [h₁.world]
  cases hinflow : retrieveFlowRate s.world.collation s.world.flowRates INFLOW with
  | none =>
    refine .quiet ?_ hq₂ fun message => by simp
    simp only [cycleInputs, hinflow, Option.bind_none]
  | some inflow =>
    simp only [deref, Prog.pure_eq, Prog.pure_bind]
    rw [Contract.safe_bind]
    refine DataManager.safe_retrieveOutFlowRate hf (fun hnull s₃ h₃ => ?_) fun o ho s₃ h₃ => ?_
    · refine .quiet ?_ (hq₂.trans h₃) fun message => by simp
      rw [hq₂.world] at hnull
      simp only [cycleInputs, hinflow, hnull, Option.bind_some, Option.bind_none]
    rw [hq₂.world] at ho
    have hq₃ := hq₂.trans h₃
    dsimp only
    rw [Contract.safe_bind]
    refine safe_now fun s₄ h₄ => ?_
    have hq₄ := hq₃.trans h₄
    simp only [hq₃.world]
    cases hlevel : retrieveWaterLevel s.world.waterLevels with
    | none =>
      refine .quiet ?_ hq₄ fun message => by simp
      simp only [cycleInputs, hinflow, ho, hlevel, Option.bind_some, Option.bind_none]
    | some waterLevel =>
      have hin : cycleInputs maxStale s.world =
          if waterLevel.timestamp < s.world.clock - maxStale * 60000 then none
          else some (waterLevel.value, inflow.value, o) := by
        simp only [cycleInputs, hinflow, ho, hlevel, Option.bind_some]
      dsimp only
      split
      · next hstale => exact .quiet (hin.trans (if_pos hstale)) hq₄ fun message => by simp
      · next hfresh =>
        refine (safe_actuate hf _ _ _).mono fun out s' h' => ?_
        exact .controlled (hin.trans (if_neg hfresh)) (h'.of_quiet hq₄)

/-- **One run of the control unit**: it always returns. -/
theorem safe_run (hf : Answering f) (maxStale : Int) :
    (under t f).Safe (AutomaticControlUnit.run maxStale) (fun out s' =>
      out = .ok () ∧
      match cycleInputs maxStale s.world with
      | none => Quiet s s'
      | some (waterLevel, inflowRate, outFlowRate) =>
          ∃ out, Controlled f waterLevel inflowRate outFlowRate s out s') s := by
  unfold AutomaticControlUnit.run
  rw [Contract.safe_tryCatch]
  refine (safe_cycle hf maxStale).mono fun out s' h => ?_
  cases out with
  | ok _ =>
    refine ⟨rfl, ?_⟩
    cases hin : cycleInputs maxStale s.world with
    | none => rw [hin] at h; exact h.1
    | some inputs => rw [hin] at h; exact ⟨_, h⟩
  | error ex =>
    refine ⟨rfl, ?_⟩
    cases hin : cycleInputs maxStale s.world with
    | none => rw [hin] at h; exact h.1
    | some inputs => rw [hin] at h; exact ⟨_, h⟩

/-! ## §4 The round of a gate, the round of an alarm -/

section GateRound

variable {s' : State F} {θ : Thresholds F} {w i o : F} {gate : Resource} {c d : Int}

/-- A round that succeeds takes the gate to its next level. -/
theorem Treated.gate_ok (h : Treated f s gate (gateTreatment θ w i o gate) (.ok ()) s')
    (huri : s.world.resources.uri gate.name = some gate.uri)
    (hc : s.world.resources.value gate.name = some c)
    (hd : s.world.level gate.uri = some d) :
    s'.world.resources.value gate.name = some ((gateNext θ w i o gate c).getD c) ∧
      s'.world.level gate.uri = some ((gateNext θ w i o gate c).getD d) := by
  rcases gateTreatment_cases θ w i o gate with ⟨ht, -⟩ | ⟨ht, hnone⟩ | ht
  · rw [ht] at h
    cases h
  · rw [ht] at h
    cases h with
    | ignored quiet =>
      rw [quiet.world, hc, hd, hnone]
      exact ⟨rfl, rfl⟩
  · rw [ht] at h
    cases h with
    | updated h =>
      refine ⟨?_, (h.gate_ok hc hd).1⟩
      rw [h.ok_value huri hc]
      cases hnext : gateNext θ w i o gate c <;> simp [gateCommand, hnext]

/-- A round that succeeds has not been refused. -/
theorem Treated.gate_accepts (h : Treated f s gate (gateTreatment θ w i o gate) (.ok ()) s')
    (hc : s.world.resources.value gate.name = some c)
    (hd : s.world.level gate.uri = some d) :
    ∀ L, gateNext θ w i o gate c = some L → ResGate.Accepts L := by
  intro L hL
  rcases gateTreatment_cases θ w i o gate with ⟨ht, -⟩ | ⟨ht, hnone⟩ | ht
  · rw [ht] at h
    cases h
  · rw [hnone] at hL
    cases hL
  · rw [ht] at h
    cases h with
    | updated h => exact (h.gate_ok hc hd).2 L hL

/-- A round that throws has met a missing tag, a fault or a refusal. -/
theorem Treated.gate_error {ex : JException}
    (h : Treated f s gate (gateTreatment θ w i o gate) (.error ex) s')
    (hc : s.world.resources.value gate.name = some c)
    (hd : s.world.level gate.uri = some d) :
    (gate.tag = none ∧ ¬θ.safe < w ∧ ex = .nullPointerException) ∨
      ∃ L, gateNext θ w i o gate c = some L ∧
        (f (.clientPut gate.uri (ResGate.openingLevelNode L)) ≠ .none ∨
          (∃ message, f (.updateValue gate.name L) = .failed message) ∨
          (¬ResGate.Accepts L ∧ ∃ message, ex = .coapException message)) := by
  rcases gateTreatment_cases θ w i o gate with ⟨ht, htag, hsafe⟩ | ⟨ht, -⟩ | ht
  · rw [ht] at h
    cases h with
    | broken quiet => exact Or.inl ⟨htag, hsafe, rfl⟩
  · rw [ht] at h
    cases h
  · rw [ht] at h
    cases h with
    | updated h => exact Or.inr (h.gate_error hc hd)

end GateRound

section AlarmRound

variable {s' : State F} {status b : Bool} {alarm : Resource} {c : Int}

omit [JavaFloat F]

/-- A round that succeeds leaves an alarm whose registered value agrees
with its device in the wanted state, in the registry and on the device. -/
theorem Treated.alarm_ok (h : Treated f s alarm (alarmTreatment status alarm) (.ok ()) s')
    (huri : s.world.resources.uri alarm.name = some alarm.uri)
    (hc : s.world.resources.value alarm.name = some (statusValue b))
    (hb : s.world.alarmState alarm.uri = some b) :
    s'.world.resources.value alarm.name = some (statusValue status) ∧
      s'.world.alarmState alarm.uri = some status := by
  cases h with
  | updated h =>
    have hval := h.ok_value huri hc
    have hstate := h.alarm_ok hc hb
    have hb1 : decide (statusValue b = 1) = b := by cases b <;> rfl
    rw [hb1] at hstate
    rw [hval, hstate]
    by_cases heq : b = status
    · subst heq
      simp [alarmCommand, hb1]
    · simp [alarmCommand, hb1, heq]

/-- A round that throws was to change the alarm and has met a fault. -/
theorem Treated.alarm_error {ex : JException}
    (h : Treated f s alarm (alarmTreatment status alarm) (.error ex) s')
    (hc : s.world.resources.value alarm.name = some c)
    (hb : s.world.alarmState alarm.uri = some b) :
    decide (c = 1) ≠ status ∧
      (f (.clientPut alarm.uri (ResAlarm.stateNode status)) ≠ .none ∨
        ∃ message, f (.updateValue alarm.name (statusValue status)) = .failed message) := by
  cases h with
  | updated h => exact h.alarm_error hc hb

end AlarmRound

/-! ## §5 The loop over the alarms -/

section AlarmLoop

variable {s' : State F} {status : Bool} {out : Except JException Unit}

omit [JavaFloat F]

/-- Every registered alarm has a value and an alarm behind its URI. -/
def AlarmsReady (w : World F) : Prop :=
  ∀ r ∈ w.resources.alarms, ∃ c b, r.value = some c ∧ w.alarmState r.uri = some b

/-- Every registered alarm shows in the registry the state of its
device. -/
def AlarmsAgree (w : World F) : Prop :=
  ∀ r ∈ w.resources.alarms, ∃ b, r.value = some (statusValue b) ∧ w.alarmState r.uri = some b

/-- Every registered gate shows in the registry the level of its device. -/
def GatesAgree (w : World F) : Prop :=
  ∀ r ∈ w.resources.gates, ∃ c, r.value = some c ∧ w.level r.uri = some c

theorem AlarmsAgree.ready {w : World F} (h : AlarmsAgree w) : AlarmsReady w := by
  intro r hr
  obtain ⟨b, hv, hb⟩ := h r hr
  exact ⟨statusValue b, b, hv, hb⟩

/-- The row and the device of an alarm: the registered value is `c`, the
state `b`. -/
abbrev AlarmIs (c : Int) (b : Bool) (r : Resource) (w : World F) : Prop :=
  AlarmCell (fun _ => some c) (fun _ => some b) r w

/-- An alarm in the wanted state, in the registry and on the device. -/
abbrev AlarmAt (status : Bool) (r : Resource) (w : World F) : Prop :=
  AlarmIs (statusValue status) status r w

theorem alarmIs_of_mem {w : World F} {r : Resource} (hr : r ∈ w.resources.alarms) {c : Int}
    {b : Bool} (hc : r.value = some c) (hb : w.alarmState r.uri = some b) : AlarmIs c b r w := by
  have hmem := ResourceTable.mem_of_alarm hr
  exact ⟨ResourceTable.uri_of_mem hmem, (ResourceTable.value_of_mem hmem).trans hc, hb⟩

theorem AlarmsAgree.alarmAt {w : World F} (h : AlarmsAgree w) {r : Resource}
    (hr : r ∈ w.resources.alarms) : ∃ b, AlarmAt b r w := by
  obtain ⟨b, hv, hb⟩ := h r hr
  exact ⟨b, alarmIs_of_mem hr hv hb⟩

theorem AlarmsReady.alarmIs {w : World F} (h : AlarmsReady w) {r : Resource}
    (hr : r ∈ w.resources.alarms) : ∃ c b, AlarmIs c b r w := by
  obtain ⟨c, b, hv, hb⟩ := h r hr
  exact ⟨c, b, alarmIs_of_mem hr hv hb⟩

theorem local_alarmReady : Local (F := F) fun r w => ∃ c b, AlarmIs c b r w := by
  intro r rs w w' h hd ⟨c, b, hr⟩
  exact ⟨c, b, local_alarmCell _ _ r rs w w' h hd hr⟩

/-- A loop that comes to its end leaves every alarm that agreed with its
device in the wanted state. -/
theorem Swept.alarm_at {rs : List Resource}
    (h : Swept f (alarmTreatment status) rs s (.ok ()) s') (hd : rs.Pairwise Distinct)
    {r : Resource} (hr : r ∈ rs) {b : Bool} (hat : AlarmAt b r s.world) :
    AlarmAt status r s'.world := by
  refine h.establishes (local_alarmCell (fun _ => some (statusValue b)) (fun _ => some b))
    (local_alarmCell _ _) rfl hd hr hat fun s₁ s₂ ⟨huri, hv, hb⟩ round => ?_
  exact ⟨(round.touched.uri _).trans huri, round.alarm_ok huri hv hb⟩

/-- Without faults the loop comes to its end. -/
theorem Swept.alarms_ok {rs : List Resource}
    (h : Swept (fun _ => Fault.none) (alarmTreatment status) rs s out s')
    (hd : rs.Pairwise Distinct) (hready : ∀ r ∈ rs, ∃ c b, AlarmIs c b r s.world) :
    out = .ok () := by
  refine h.ok_of_rounds local_alarmReady hd hready fun r _ s s' ex ⟨c, b, huri, hv, hb⟩ round => ?_
  obtain ⟨-, hfault | ⟨message, hfault⟩⟩ := round.alarm_error hv hb
  · exact hfault rfl
  · cases hfault

end AlarmLoop

/-! ## §6 Runs -/

/-- The control unit runs once under the faults `f`. -/
def runWith (f : Action F → Fault) (maxStale : Int) (s : State F) : State F :=
  (run .scheduler f (AutomaticControlUnit.run maxStale) s).2

/-- The control unit runs once and nothing fails. -/
def faultFreeRun (maxStale : Int) (s : State F) : State F := runWith (fun _ => .none) maxStale s

omit [JavaFloat F] in
theorem faultFree_answering : Answering (F := F) fun _ => Fault.none := by
  intro _ _ _ h
  cases h

/-- Without fresh data a run does nothing. -/
theorem runWith_quiet {f : Action F → Fault} (hf : Answering f) {maxStale : Int} {s : State F}
    (h : cycleInputs maxStale s.world = none) : Quiet s (runWith f maxStale s) := by
  have hrun := run_of_safe (safe_run (t := .scheduler) (s := s) hf maxStale)
  rw [h] at hrun
  exact hrun.2

/-- With fresh data a run is `Controlled`. -/
theorem runWith_controlled {f : Action F → Fault} (hf : Answering f) {maxStale : Int}
    {s : State F} {w i o : F} (h : cycleInputs maxStale s.world = some (w, i, o)) :
    ∃ out, Controlled f w i o s out (runWith f maxStale s) := by
  have hrun := run_of_safe (safe_run (t := .scheduler) (s := s) hf maxStale)
  rw [h] at hrun
  exact hrun.2

/-- Once its loop has come to its end, the alarms stay as it left them:
the gates' loop touches no alarm. -/
theorem Controlled.alarms_at {w i o : F} {s s' : State F} {out : Except JException Unit}
    (h : Controlled (fun _ => Fault.none) w i o s out s') (hagree : AlarmsAgree s.world) :
    ∀ r ∈ s.world.resources.alarms,
      AlarmAt (decide (s.world.thresholds.safe < w)) r s'.world := by
  have hd := s.world.resources.ofType_distinct "alarm"
  intro r hr
  obtain ⟨b, hb⟩ := hagree.alarmAt hr
  cases h with
  | alarmsFailed alarms =>
    cases alarms.alarms_ok hd fun r hr => hagree.ready.alarmIs hr
  | manual alarms mode quiet =>
    rw [quiet.world]
    exact alarms.alarm_at hd hr hb
  | auto alarms mode gates =>
    exact local_alarmCell _ _ r _ _ _ gates.touched
      (fun q hq => ResourceTable.gate_distinct_alarm hq hr) (alarms.alarm_at hd hr hb)

end DamMonitoring.Controller
