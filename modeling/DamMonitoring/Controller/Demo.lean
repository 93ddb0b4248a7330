/-
DamMonitoring.Controller.Demo — the demo deployment: `mote-1` with its
two gates and its alarm, registered.

The concrete runs of the development start here. `demoWorld` has registry
and devices in agreement; the thresholds are those of
`controller.properties`.
-/
import DamMonitoring.Controller.Cycle
import DamMonitoring.Controller.System

namespace DamMonitoring.Controller

open Program Java Motes Persistence Collector
open ControlLogic (InRange)

/-! ## §1 Registry -/

def demoAddr : String := "fd00::203:3:3:3"

def gate1Uri : Uri := "coap://[fd00::203:3:3:3]/actuator/gate/outflow-1"

def gate2Uri : Uri := "coap://[fd00::203:3:3:3]/actuator/gate/outflow-2"

def alarmUri : Uri := "coap://[fd00::203:3:3:3]/actuator/alarm"

def demoGate1 (v : Int) : Resource :=
  { gateResource "outflow-1" "Primary" gate1Uri with value := some v }

def demoGate2 (v : Int) : Resource :=
  { gateResource "outflow-2" "Emergency" gate2Uri with value := some v }

def demoAlarm (b : Bool) : Resource :=
  { alarmResource "alarm" alarmUri with value := some (if b then 1 else 0) }

/-- The rows of `mote-1` with the given values. -/
def demoTable (v₁ v₂ : Int) (b : Bool) : ResourceTable where
  rows := [demoGate1 v₁, demoGate2 v₂, demoAlarm b]
  names_nodup := by
    change [fold "outflow-1", fold "outflow-2", fold "alarm"].Nodup
    decide
  uris_nodup := by
    change [gate1Uri, gate2Uri, alarmUri].Nodup
    decide

/-- The rows after the first registration. -/
example : (handlePOST .empty (mote1Registration demoAddr)).1.rows =
    (demoTable 0 0 false).rows := by decide

/-! ## §2 Devices and world -/

def demoGate (level : Int) : Device := ⟨fun _ => 3, .gate { ResGate.boot with openingLevel := level }⟩

def demoSiren (state : Bool) : Device := ⟨fun _ => 3, .alarm { ResAlarm.boot with state }⟩

/-- The servers of `mote-1`. -/
def demoDevices (v₁ v₂ : Int) (b : Bool) (uri : Uri) : Option Device :=
  if uri = gate1Uri then some (demoGate v₁)
  else if uri = gate2Uri then some (demoGate v₂)
  else if uri = alarmUri then some (demoSiren b)
  else none

/-- The thresholds of `controller.properties`. -/
def demoThresholds : Thresholds ℚ := ⟨52, 48, 60⟩

/-- The demo deployment with gates at `v₁` and `v₂` and the alarm in state
`b`, in the registry and on the devices; the last measurements are `w`,
`i` and `o`, just taken. -/
def demoWorld (mode : OperativeMode) (v₁ v₂ : Int) (b : Bool) (w i o : ℚ) : World ℚ where
  collation := .ascii
  resources := demoTable v₁ v₂ b
  waterLevels := [⟨1, 0, w⟩]
  flowRates := [⟨1, "inflow", 0, i⟩, ⟨2, "outflow-1", 0, o⟩]
  devices := demoDevices v₁ v₂ b
  thresholds := demoThresholds
  mode := mode
  clock := 0

def demoState (mode : OperativeMode) (v₁ v₂ : Int) (b : Bool) (w i o : ℚ) : State ℚ :=
  ⟨demoWorld mode v₁ v₂ b w i o, []⟩

variable {mode : OperativeMode} {v₁ v₂ : Int} {b : Bool} {w i o : ℚ}

theorem demoTable_gates : (demoTable v₁ v₂ b).gates = [demoGate1 v₁, demoGate2 v₂] := by
  have halarm : equalsIgnoreCase "alarm" "gate" = false := by decide
  simp [ResourceTable.gates, ResourceTable.ofType, demoTable, demoGate1, demoGate2, demoAlarm,
    gateResource, alarmResource, halarm]

theorem demoTable_alarms : (demoTable v₁ v₂ b).alarms = [demoAlarm b] := by
  have hgate : equalsIgnoreCase "gate" "alarm" = false := by decide
  simp [ResourceTable.alarms, ResourceTable.ofType, demoTable, demoGate1, demoGate2, demoAlarm,
    gateResource, alarmResource, hgate]

theorem demo_level₁ : (demoWorld mode v₁ v₂ b w i o).level gate1Uri = some v₁ := rfl

theorem demo_level₂ : (demoWorld mode v₁ v₂ b w i o).level gate2Uri = some v₂ := rfl

theorem demo_alarmState : (demoWorld mode v₁ v₂ b w i o).alarmState alarmUri = some b := rfl

/-- The data a cycle on the demo deployment reads. -/
theorem demo_waterLevel :
    retrieveWaterLevel (demoWorld mode v₁ v₂ b w i o).waterLevels = some ⟨1, 0, w⟩ := rfl

theorem demo_inflow (col : Collation) :
    retrieveFlowRate col (demoWorld mode v₁ v₂ b w i o).flowRates "inflow" =
      some ⟨1, "inflow", 0, i⟩ := by
  have hin : col.same "outflow-1" "inflow" = false :=
    (Collation.same_plain (by decide) (by decide)).trans (by decide)
  simp [retrieveFlowRate, channelRows, demoWorld, hin]

theorem demo_outflow (col : Collation) :
    retrieveOutFlowRate col (demoWorld mode v₁ v₂ b w i o).flowRates = some o := by
  have hin : col.same "outflow-1" "inflow" = false :=
    (Collation.same_plain (by decide) (by decide)).trans (by decide)
  have hids : lastOutflowIds col (demoWorld mode v₁ v₂ b w i o).flowRates = [2] := by
    simp [lastOutflowIds, outflowRows, demoWorld, hin]
  unfold retrieveOutFlowRate
  rw [hids]
  change some (o + 0) = some o
  rw [add_zero]

theorem demo_measured (mode : OperativeMode) (v₁ v₂ : Int) (b : Bool) (w i o : ℚ) :
    Measured 5 (demoWorld mode v₁ v₂ b w i o) w i o :=
  ⟨⟨_, demo_waterLevel, rfl, show (0 : Int) - 5 * 60000 ≤ 0 by decide⟩, ⟨_, demo_inflow _, rfl⟩,
    demo_outflow _⟩

theorem demo_alarmsAgree (mode : OperativeMode) (v₁ v₂ : Int) (b : Bool) (w i o : ℚ) :
    AlarmsAgree (demoWorld mode v₁ v₂ b w i o) := by
  intro r hr
  change r ∈ (demoTable v₁ v₂ b).alarms at hr
  rw [demoTable_alarms, List.mem_singleton] at hr
  subst hr
  exact ⟨b, rfl, demo_alarmState⟩

/-- Registry and device of both gates. -/
theorem demo_gate_cases {r : Resource}
    (hr : r ∈ (demoWorld mode v₁ v₂ b w i o).resources.gates) :
    (r = demoGate1 v₁ ∧ (demoWorld mode v₁ v₂ b w i o).level r.uri = some v₁) ∨
      (r = demoGate2 v₂ ∧ (demoWorld mode v₁ v₂ b w i o).level r.uri = some v₂) := by
  change r ∈ (demoTable v₁ v₂ b).gates at hr
  rw [demoTable_gates, List.mem_cons, List.mem_singleton] at hr
  rcases hr with rfl | rfl
  · exact Or.inl ⟨rfl, demo_level₁⟩
  · exact Or.inr ⟨rfl, demo_level₂⟩

theorem demo_gatesAgree (mode : OperativeMode) (v₁ v₂ : Int) (b : Bool) (w i o : ℚ) :
    GatesAgree (demoWorld mode v₁ v₂ b w i o) := by
  intro r hr
  rcases demo_gate_cases hr with ⟨rfl, h⟩ | ⟨rfl, h⟩
  · exact ⟨v₁, rfl, h⟩
  · exact ⟨v₂, rfl, h⟩

theorem demo_ordered : demoThresholds.Ordered := ⟨by decide, by decide⟩

/-- Both gates are subject to the law while their levels are in range. -/
theorem demo_gatesInLaw (mode : OperativeMode) (b : Bool) (w i o : ℚ) (h₁ : InRange v₁)
    (h₂ : InRange v₂) : ∀ r ∈ (demoWorld mode v₁ v₂ b w i o).resources.gates, r.tag ≠ none ∧
      ∃ c, InRange c ∧ r.value = some c ∧ (demoWorld mode v₁ v₂ b w i o).level r.uri = some c := by
  intro r hr
  rcases demo_gate_cases hr with ⟨rfl, h⟩ | ⟨rfl, h⟩
  · exact ⟨by simp [demoGate1, gateResource], v₁, h₁, rfl, h⟩
  · exact ⟨by simp [demoGate2, gateResource], v₂, h₂, rfl, h⟩

/-! ## §3 One gate -/

/-- `outflow-1` alone. -/
def oneGate (v : Int) : ResourceTable where
  rows := [demoGate1 v]
  names_nodup := by simp
  uris_nodup := by simp

/-- A flood on a dam with one gate, closed, and no alarm. -/
def oneGateFlood (mode : OperativeMode) : State ℚ :=
  ⟨{ demoWorld mode 0 0 false 70 30 20 with resources := oneGate 0 }, []⟩

theorem oneGate_gates (v : Int) : (oneGate v).gates = [demoGate1 v] := by
  simp [ResourceTable.gates, ResourceTable.ofType, oneGate, demoGate1, gateResource]

theorem oneGate_mem : demoGate1 0 ∈ (oneGateFlood mode).world.resources.gates := by
  change demoGate1 0 ∈ (oneGate 0).gates
  rw [oneGate_gates]
  exact List.mem_cons_self

theorem oneGate_agree (mode : OperativeMode) : GatesAgree (oneGateFlood mode).world := by
  intro r hr
  change r ∈ (oneGate 0).gates at hr
  rw [oneGate_gates, List.mem_singleton] at hr
  subst hr
  exact ⟨0, rfl, rfl⟩

/-! ## §4 Schedules -/

section Schedules

variable {allowed : Fault → Action ℚ → Prop} {env : World ℚ → World ℚ → Prop}

/-- In AUTO mode a cycle on `outflow-1` comes to its PUT after eleven
actions. -/
def cycleToPut : Schedule ℚ :=
  .start .scheduler (AutomaticControlUnit.run 5) :: steps .scheduler 11

/-- The operator sets MANUAL. -/
def setManual : Schedule ℚ :=
  .start .shell (Mode.call (some "MANUAL")) :: (steps .shell 3 ++ [.finish .shell])

/-- The operator asks for 50; the command comes to its PUT. -/
def gateToPut : Schedule ℚ :=
  .start .shell (Gate.call false (some "outflow-1") (some 50)) :: steps .shell 3

/-- `n` last actions of a thread. -/
def ends (t : Thread) (n : Nat) : Schedule ℚ := steps t n ++ [.finish t]

/-- Every decision of the schedule is one of the system's. -/
def Admits (allowed : Fault → Action ℚ → Prop) (env : World ℚ → World ℚ → Prop)
    (cs : Schedule ℚ) : Prop :=
  ∀ c ∈ cs, (system 5 allowed env).ChoiceOk c

theorem Admits.append {cs cs' : Schedule ℚ} (h : Admits allowed env cs)
    (h' : Admits allowed env cs') : Admits allowed env (cs ++ cs') := by
  intro c hc
  rcases List.mem_append.mp hc with hc | hc
  · exact h c hc
  · exact h' c hc

variable (hnone : ∀ a, allowed .none a)
include hnone

theorem admits_steps (t : Thread) (n : Nat) : Admits allowed env (steps t n) := by
  intro c hc
  rw [(List.mem_replicate.mp hc).2]
  exact fun a _ => hnone a

theorem admits_ends (t : Thread) (n : Nat) : Admits allowed env (ends t n) := by
  refine (admits_steps hnone t n).append fun c hc => ?_
  rw [List.mem_singleton.mp hc]
  trivial

theorem admits_cycleToPut : Admits allowed env cycleToPut := by
  intro c hc
  rcases List.mem_cons.mp hc with rfl | hc
  · exact rfl
  · exact admits_steps hnone .scheduler 11 c hc

theorem admits_setManual : Admits allowed env setManual := by
  intro c hc
  rcases List.mem_cons.mp hc with rfl | hc
  · exact Command.mode (some "MANUAL")
  · exact admits_ends hnone .shell 3 c hc

theorem admits_gateToPut : Admits allowed env gateToPut := by
  intro c hc
  rcases List.mem_cons.mp hc with rfl | hc
  · exact Command.gate false (some "outflow-1") (some 50)
  · exact admits_steps hnone .shell 3 c hc

end Schedules

end DamMonitoring.Controller
