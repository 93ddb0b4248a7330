/-
DamMonitoring.Deployment.Echo — the flow sensor of the inflow and the
Collector, which hear each other.

The sensor reports the flow, the Collector makes a percentage of it, and
the percentage comes back to the sensor as `gate-inflow`. While a report
and its echo are on their way the button can move the target, and the
echo moves it back. (`demo/mote-2` passes over `gate-inflow`.)

Beside the parties the state carries what no party knows: the value the
button has set last, and for each message that value at the time its flow
was read.

  §1 the parties and their messages
  §2 one step
  §3 when the echo leaves the target alone
-/
import DamMonitoring.Deployment.Inflow
import DamMonitoring.Motes.FlowSensor

namespace DamMonitoring.Deployment

open Program.Machine Collector
open Motes hiding maxInflow

/-! ## §1 The parties -/

/-- The message of the flow sensor, as the Collector reads it
(`readValue_flowSensorMessage`). -/
def flowSensorRecord (addr : LinkAddr) (flow : Int) : Payload ℚ :=
  .record ⟨some (urn addr), some "m3/s", some [measured id "inflow" flow]⟩

/-- A message on the topic flow-rate. -/
structure Report where
  flow : Int
  set : Int

/-- A message on the topic simulation. -/
structure Echo where
  level : Int
  set : Int

/-- `set` is the value the most recent button event has set, and both
queues hold the oldest message first. -/
structure EchoLoop where
  sensor : FlowSensor
  set : Int
  reports : List Report
  collector : CollectorState
  echoes : List Echo

namespace EchoLoop

def init (flowRateId waterLevelId : Int) : EchoLoop :=
  ⟨.init .inflow, Channel.inflow.initFlow, [], .init flowRateId waterLevelId, []⟩

inductive Event where
  | button (e : ButtonEvent)
  | tick (random : Rand)
  | publish
  | process (h : Handling)
  | deliver (keyBuf : Motes.Channel → List Char)

/-- What the button of the sensor acts on. -/
def knob (s : EchoLoop) : Button := ⟨s.sensor.flow, s.sensor.targetFlow, s.sensor.btnRelease⟩

def step (c : Settings) (addr : LinkAddr) (s : EchoLoop) : Event → Option EchoLoop
  | .button e =>
    let sensor := s.sensor.button .inflow e
    some { s with sensor, set := if s.knob.Sets e then sensor.targetFlow else s.set }
  | .tick random => (s.sensor.simulateReadFlow random).map fun sensor => { s with sensor }
  | .publish => some { s with reports := s.reports ++ [⟨s.sensor.flow, s.set⟩] }
  | .process h =>
    match s.reports with
    | [] => none
    | report :: reports =>
      let handled := s.collector.handle c (h.delivery (flowSensorRecord addr report.flow))
      some { s with
        reports
        collector := handled.1
        echoes := s.echoes ++ handled.2.map fun level => ⟨level, report.set⟩ }
  | .deliver keyBuf =>
    match s.echoes with
    | [] => none
    | echo :: echoes =>
      let chunk : Chunk := ⟨(gateNode .inflow echo.level).tokens, keyBuf, saturate⟩
      some { s with sensor := s.sensor.handleMessage .inflow chunk, echoes }

/-- The target is what the button has set. -/
def Kept (s : EchoLoop) : Prop := s.sensor.targetFlow = s.set

/-- The echo that is delivered is of a flow that was read after the button
had set its last value, or set the same value before. -/
def Fresh (s : EchoLoop) : Event → Prop
  | .deliver _ => ∀ echo ∈ s.echoes.head?, echo.set = s.set
  | _ => True

/-! ## §2 One step -/

variable {c : Settings} {addr : LinkAddr} {s s' : EchoLoop} {e : Event}

theorem readValue_flowSensorMessage {readValue : String → Payload ℚ} (hreads : Reads id readValue)
    (addr : LinkAddr) {flow : Int} (h : 0 ≤ flow ∧ flow < 2 ^ 31) :
    readValue (flowSensorMessage .inflow addr flow) = flowSensorRecord addr flow :=
  hreads.flowSensor .inflow addr h

theorem flowSensorRecord_reports (addr : LinkAddr) (h : Handling) (flow : Int) :
    CollectorState.Reports (h.delivery (flowSensorRecord addr flow)) flow := by
  simp [CollectorState.Reports, Handling.delivery, flowSensorRecord, Delivery.turns,
    Delivery.turnsOf, measured, Turn.reading?]

/-- The button sets tenths, the flow stays in its band, and every message
on its way is about a value that the button had set. -/
structure Sound (s : EchoLoop) : Prop where
  tenth : Tenth s.set
  steady : distance s.sensor.flow s.set = 0
  reports : ∀ report ∈ s.reports, Tenth report.set ∧ |report.flow - report.set| ≤ 150
  echoes : ∀ echo ∈ s.echoes, 0 ≤ echo.level ∧ echo.level ≤ 100 ∧ echo.level * 800 = echo.set

theorem init_sound (flowRateId waterLevelId : Int) : Sound (init flowRateId waterLevelId) :=
  ⟨⟨4, by decide, by decide, rfl⟩, rfl, by simp [init], by simp [init]⟩

/-- A button event sets the target, or leaves it. -/
theorem Sound.button (h : s.Sound) (hkept : s.Kept) (e : ButtonEvent)
    (hstep : step c addr s (.button e) = some s') : s'.Sound ∧ s'.Kept := by
  obtain rfl := Option.some.inj hstep
  have hknob : s.knob.targetFlow = s.set := hkept
  have htenth := Button.step_tenth (b := s.knob) (hknob ▸ h.tenth) e
  have hsteady := Button.step_steady (b := s.knob) (hknob ▸ h.steady) e
  have htarget : (s.sensor.button .inflow e).targetFlow = (s.knob.step e).targetFlow := rfl
  have hset : (if s.knob.Sets e then (s.sensor.button .inflow e).targetFlow else s.set) =
      (s.knob.step e).targetFlow := by
    split
    · exact htarget
    · next hsets => rw [Button.step_of_not_sets hsets, hknob]
  simp only [hset]
  exact ⟨⟨htenth, hsteady, h.reports, h.echoes⟩, htarget⟩

/-- A tick moves the flow in its band. -/
theorem Sound.tick {random : Rand} (h : s.Sound) (hkept : s.Kept)
    (hstep : step c addr s (.tick random) = some s') : s'.Sound ∧ s'.Kept := by
  have hnonneg := h.tenth.range.1
  obtain ⟨sensor, hsensor, rfl⟩ := Option.map_eq_some_iff.mp hstep
  obtain ⟨v, hv, rfl⟩ := FlowSensor.simulateReadFlow_eq_some.mp hsensor
  rw [show s.sensor.targetFlow = s.set from hkept] at hv
  obtain ⟨w, hw, -, hsteady⟩ := readFlow_inside random hnonneg h.steady
  obtain rfl : v = w := by simpa [hv] using hw
  exact ⟨⟨h.tenth, hsteady, h.reports, h.echoes⟩, hkept⟩

/-- A report is about the value set last. -/
theorem Sound.publish (h : s.Sound) (hkept : s.Kept)
    (hstep : step c addr s .publish = some s') : s'.Sound ∧ s'.Kept := by
  obtain rfl := Option.some.inj hstep
  refine ⟨⟨h.tenth, h.steady, ?_, h.echoes⟩, hkept⟩
  intro report hreport
  rcases List.mem_append.mp hreport with hold | hnew
  · exact h.reports report hold
  · obtain rfl := List.mem_singleton.mp hnew
    exact ⟨h.tenth, distance_eq_zero_iff_abs.mp h.steady⟩

/-- An echo is about the value its report is about. -/
theorem Sound.process {handling : Handling} (h : s.Sound) (hkept : s.Kept)
    (hstep : step c addr s (.process handling) = some s') : s'.Sound ∧ s'.Kept := by
  simp only [step] at hstep
  split at hstep
  · cases hstep
  · next report reports hqueue =>
    obtain rfl := Option.some.inj hstep
    obtain ⟨htenth, hband⟩ := h.reports report (by simp [hqueue])
    have hreports : ∀ r ∈ reports, Tenth r.set ∧ |r.flow - r.set| ≤ 150 :=
      fun r hr => h.reports r (by simp [hqueue, hr])
    refine ⟨⟨h.tenth, h.steady, hreports, ?_⟩, hkept⟩
    intro echo hecho
    rcases List.mem_append.mp hecho with hold | hnew
    · exact h.echoes echo hold
    · obtain ⟨level, hlevel, rfl⟩ := List.mem_map.mp hnew
      exact CollectorState.of_mem_handle (flowSensorRecord_reports addr handling report.flow)
        htenth hband hlevel

/-- **What an echo does**: it sets the target to the value it is about. -/
theorem Sound.deliver {keyBuf : Motes.Channel → List Char} (h : s.Sound)
    (hstep : step c addr s (.deliver keyBuf) = some s') :
    (s'.Kept → s'.Sound) ∧ (s'.Kept ↔ s.Fresh (.deliver keyBuf)) := by
  simp only [step] at hstep
  split at hstep
  · cases hstep
  · next echo echoes hqueue =>
    obtain rfl := Option.some.inj hstep
    obtain ⟨hlo, hhi, hlevel⟩ := h.echoes echo (by simp [hqueue])
    obtain ⟨hflow, -, htarget⟩ := s.sensor.handleMessage_flow .inflow
      ⟨(gateNode .inflow echo.level).tokens, keyBuf, saturate⟩
    simp only [accepted_gateNode, hlo, hhi, and_self, if_true, Channel.maxFlow_inflow, hlevel]
      at htarget
    have hechoes : ∀ r ∈ echoes, 0 ≤ r.level ∧ r.level ≤ 100 ∧ r.level * 800 = r.set :=
      fun r hr => h.echoes r (by simp [hqueue, hr])
    refine ⟨fun _ => ⟨h.tenth, ?_, h.reports, hechoes⟩, ?_⟩
    · rw [hflow]
      exact h.steady
    · simp [Kept, Fresh, hqueue, htarget]

/-! ## §3 The condition -/

/-- **When no echo undoes the button**: the target is what the button has
set last, in every state of a run, exactly if each echo that is delivered
is fresh. -/
theorem echo_keeps_iff (c : Settings) (addr : LinkAddr) (flowRateId waterLevelId : Int)
    (es : List Event) :
    Always (step c addr) Kept (init flowRateId waterLevelId) es ↔
      Each (step c addr) Fresh (init flowRateId waterLevelId) es := by
  refine always_iff_each (I := Sound) ?_ ?_ (init_sound flowRateId waterLevelId) rfl
  · intro s e s' hsound hkept hstep
    cases e with
    | button e =>
      have hnext := hsound.button hkept e hstep
      simp [Fresh, hnext]
    | tick random =>
      have hnext := hsound.tick hkept hstep
      simp [Fresh, hnext]
    | publish =>
      have hnext := hsound.publish hkept hstep
      simp [Fresh, hnext]
    | process handling =>
      have hnext := hsound.process hkept hstep
      simp [Fresh, hnext]
    | deliver keyBuf => exact hsound.deliver hstep
  · intro s e _ _ hstep
    cases e with
    | deliver keyBuf =>
      have hempty : s.echoes = [] := by
        cases hqueue : s.echoes with
        | nil => rfl
        | cons echo echoes => simp [step, hqueue] at hstep
      simp [Fresh, hempty]
    | button e => simp [Fresh]
    | tick random => simp [Fresh]
    | publish => simp [Fresh]
    | process handling => simp [Fresh]

/-- The button raises the inflow to 50 %, and again while the echo of the
50 % is on its way. -/
def lateEcho : List Event :=
  [.button .release, .publish, .process ⟨0, fun _ => 0, fun _ => .committed⟩, .button .release,
    .deliver fun _ => []]

/-- The button has set 48000, and the echo has set 40000. -/
theorem late_echo_undoes_button :
    (run (step ⟨3, 0⟩ zeros) (init 1 1) lateEcho).map (fun s => (s.sensor.targetFlow, s.set)) =
        some (40000, 48000) ∧
      ¬Always (step ⟨3, 0⟩ zeros) Kept (init 1 1) lateEcho := by
  have hrun : (run (step ⟨3, 0⟩ zeros) (init 1 1) lateEcho).map
      (fun s => (s.sensor.targetFlow, s.set)) = some (40000, 48000) := by decide +kernel
  refine ⟨hrun, fun halways => ?_⟩
  obtain ⟨s, hs, hvalues⟩ := Option.map_eq_some_iff.mp hrun
  have hkept : s.sensor.targetFlow = s.set :=
    always_iff.mp halways lateEcho List.prefix_rfl s hs
  simp [hkept] at hvalues
  omega

end EchoLoop

end DamMonitoring.Deployment
