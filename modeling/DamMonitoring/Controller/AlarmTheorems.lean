/-
DamMonitoring.Controller.AlarmTheorems — when a cycle serves the alarms.

The cycle reads the flow rates before it looks at the alarms, and a
missing flow rate ends it with a null reference. So the alarms follow the
water level exactly when there is a row of the inflow channel and a row
of some outflow channel, or when nothing had to change
(`run_alarm_iff`); `run_alarm_without_flows` is a flood with the alarm
off.
-/
import DamMonitoring.Controller.Demo

namespace DamMonitoring.Controller

open Program Java Motes Persistence
open ControlLogic AutomaticControlUnit

variable {F : Type} [JavaFloat F]

/-! ## §1 Which data a cycle needs -/

/-- There is an inflow row, and a row of some outflow channel. -/
def FlowsRecorded (col : Collation) (rows : List (FlowRate F)) : Prop :=
  channelRows col rows INFLOW ≠ [] ∧ outflowRows col rows ≠ []

/-- With a fresh water level, the cycle goes on exactly if both flow
rates are recorded. -/
theorem cycleInputs_eq_none_iff {maxStale : Int} {w : World F} {m : WaterLevel F}
    (hm : retrieveWaterLevel w.waterLevels = some m)
    (hfresh : w.clock - maxStale * 60000 ≤ m.timestamp) :
    cycleInputs maxStale w = none ↔ ¬FlowsRecorded w.collation w.flowRates := by
  unfold FlowsRecorded
  have hin : retrieveFlowRate w.collation w.flowRates INFLOW = none ↔
      channelRows w.collation w.flowRates INFLOW = [] :=
    retrieveFlowRate_eq_none
  have hout : retrieveOutFlowRate w.collation w.flowRates = none ↔
      outflowRows w.collation w.flowRates = [] :=
    retrieveOutFlowRate_eq_none
  simp only [ne_eq, ← hin, ← hout]
  unfold cycleInputs
  cases retrieveFlowRate w.collation w.flowRates INFLOW with
  | none => simp
  | some inflow =>
    cases retrieveOutFlowRate w.collation w.flowRates with
    | none => simp
    | some outflow => simp [hm, if_neg (not_lt.mpr hfresh)]

/-- The level a cycle acts on is the last one. -/
theorem cycleInputs_level {maxStale : Int} {w : World F} {m : WaterLevel F} {l i o : F}
    (hm : retrieveWaterLevel w.waterLevels = some m)
    (h : cycleInputs maxStale w = some (l, i, o)) : l = m.value := by
  unfold cycleInputs at h
  simp only [hm, Option.bind_some] at h
  obtain ⟨inflow, -, h⟩ := Option.bind_eq_some_iff.mp h
  obtain ⟨outflow, -, h⟩ := Option.bind_eq_some_iff.mp h
  split at h
  · cases h
  · cases h
    rfl

/-! ## §2 The alarms follow the water -/

/-- **When the alarms follow the water level.** After a fault-free run
that finds a fresh water level, in either mode, every alarm is on exactly
when the water is above the safe threshold — if and only if both flow
rates are recorded, or every alarm was in its right state already. -/
theorem run_alarm_iff {maxStale : Int} {s : State F} {m : WaterLevel F}
    (hm : retrieveWaterLevel s.world.waterLevels = some m)
    (hfresh : s.world.clock - maxStale * 60000 ≤ m.timestamp) (hagree : AlarmsAgree s.world) :
    (∀ r ∈ s.world.resources.alarms, (faultFreeRun maxStale s).world.alarmState r.uri =
        some (decide (s.world.thresholds.safe < m.value))) ↔
      FlowsRecorded s.world.collation s.world.flowRates ∨ ∀ r ∈ s.world.resources.alarms,
        s.world.alarmState r.uri = some (decide (s.world.thresholds.safe < m.value)) := by
  have hnone := cycleInputs_eq_none_iff hm hfresh
  cases hin : cycleInputs maxStale s.world with
  | none =>
    have hquiet := runWith_quiet faultFree_answering hin
    have hflows := hnone.mp hin
    constructor
    · intro h
      refine Or.inr fun r hr => ?_
      have hr' := h r hr
      rw [faultFreeRun, hquiet.world] at hr'
      exact hr'
    · rintro (h | h) r hr
      · exact absurd h hflows
      · rw [faultFreeRun, hquiet.world]
        exact h r hr
  | some inputs =>
    obtain ⟨w, i, o⟩ := inputs
    have hlevel : w = m.value := cycleInputs_level hm hin
    subst hlevel
    obtain ⟨out, h⟩ := runWith_controlled faultFree_answering hin
    have hflows : FlowsRecorded s.world.collation s.world.flowRates := by
      by_contra hne
      rw [hnone.mpr hne] at hin
      cases hin
    exact ⟨fun _ => Or.inl hflows, fun _ r hr => (h.alarms_at hagree r hr).2.2⟩

/-- The demo deployment with both flow rates recorded. -/
theorem run_alarm_iff_demo :
    (faultFreeRun 5 (demoState .MANUAL 0 0 false 70 30 20)).world.alarmState alarmUri =
      some true := by
  have hmem : demoAlarm false ∈ (demoTable 0 0 false).alarms := by simp [demoTable_alarms]
  have hflows : FlowsRecorded .ascii (demoState .MANUAL 0 0 false 70 30 20).world.flowRates := by
    constructor <;> decide +kernel
  have h := (run_alarm_iff (s := demoState .MANUAL 0 0 false 70 30 20) demo_waterLevel
    (show (0 : Int) - 5 * 60000 ≤ 0 by decide) (demo_alarmsAgree _ _ _ _ _ _ _)).mpr
    (Or.inl hflows) _ hmem
  have hhigh : decide (demoThresholds.safe < 70) = true := by decide
  exact h.trans (congrArg some hhigh)

/-- The failing input: the water is above the safe threshold and just
measured, the alarm is off, no flow rate is recorded. -/
def floodWithoutFlows : State ℚ :=
  ⟨{ demoWorld .AUTO 0 0 false 70 0 0 with flowRates := [] }, []⟩

theorem floodWithoutFlows_alarms :
    floodWithoutFlows.world.resources.alarms = [demoAlarm false] := demoTable_alarms

/-- The flood goes by without an alarm. -/
theorem run_alarm_without_flows :
    ∃ m, retrieveWaterLevel floodWithoutFlows.world.waterLevels = some m ∧
      floodWithoutFlows.world.clock - 5 * 60000 ≤ m.timestamp ∧
      AlarmsAgree floodWithoutFlows.world ∧
      floodWithoutFlows.world.thresholds.safe < m.value ∧
      ∃ r ∈ floodWithoutFlows.world.resources.alarms,
        (faultFreeRun 5 floodWithoutFlows).world.alarmState r.uri = some false := by
  have hagree : AlarmsAgree floodWithoutFlows.world := demo_alarmsAgree .AUTO 0 0 false 70 0 0
  have hin : cycleInputs 5 floodWithoutFlows.world = none := rfl
  have hquiet := runWith_quiet faultFree_answering hin
  refine ⟨_, rfl, show (0 : Int) - 5 * 60000 ≤ 0 by decide, hagree,
    show (60 : ℚ) < 70 by decide, demoAlarm false, ?_, ?_⟩
  · simp [floodWithoutFlows_alarms]
  · rw [faultFreeRun, hquiet.world]
    rfl

end DamMonitoring.Controller
