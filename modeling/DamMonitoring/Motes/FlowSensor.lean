/-
DamMonitoring.Motes.FlowSensor — `firmwares/flow-sensor`, built once for
each channel.

A build reads and writes one cell of the arrays `flow` and
`target_flow`, the one of its `FLOW`; the build for the inflow also has
the button. The MQTT client and the LEDs, which touch neither, are left
out.

  §1 the firmware
  §2 the range of the flow
-/
import DamMonitoring.Motes.SensorSim
import DamMonitoring.Program.Runs

namespace DamMonitoring.Motes

open Program.Machine

/-! ## §1 The firmware -/

/-- `flow[FLOW]`, `target_flow[FLOW]` and two static variables. -/
structure FlowSensor where
  flow : Int
  targetFlow : Int
  newGateValue : Int
  btnRelease : Bool
  deriving DecidableEq, Repr

namespace FlowSensor

def init (FLOW : Channel) : FlowSensor := ⟨FLOW.initFlow, FLOW.initFlow, 0, true⟩

/-- `simulate_read_flow`; `none` if it divides by zero. -/
def simulateReadFlow (random : Rand) (s : FlowSensor) : Option FlowSensor :=
  (readFlow random s.flow s.targetFlow).map fun flow => { s with flow }

/-- `new_gate_value * MAX_FLOW`, where the macro has no brackets. -/
def timesMaxFlow : Channel → Int → Int
  | .inflow, newGateValue => newGateValue * 80 * multiplier / 100
  | .outflow1, newGateValue => newGateValue * 100 * multiplier / 100
  | .outflow2, newGateValue => newGateValue * 35 * multiplier / 100

def handleMessage (FLOW : Channel) (chunk : Chunk) (s : FlowSensor) : FlowSensor :=
  match gateUpdate FLOW chunk s.newGateValue with
  | (newGateValue, some level) => { s with newGateValue, targetFlow := timesMaxFlow FLOW level }
  | (newGateValue, none) => { s with newGateValue }

/-- The events of the button, `#if FLOW == 0`. -/
def button (FLOW : Channel) (e : ButtonEvent) (s : FlowSensor) : FlowSensor :=
  if FLOW = .inflow then
    let b := (⟨s.flow, s.targetFlow, s.btnRelease⟩ : Button).step e
    { s with flow := b.flow, targetFlow := b.targetFlow, btnRelease := b.btnRelease }
  else s

inductive Event where
  | message (chunk : Chunk)
  | tick (random : Rand)
  | button (e : ButtonEvent)

def step (FLOW : Channel) (s : FlowSensor) : Event → Option FlowSensor
  | .message chunk => some (s.handleMessage FLOW chunk)
  | .tick random => s.simulateReadFlow random
  | .button e => some (s.button FLOW e)

variable {FLOW : Channel} {s s' : FlowSensor} {chunk : Chunk} {random : Rand} {e : Event}

theorem timesMaxFlow_eq (FLOW : Channel) (level : Int) :
    timesMaxFlow FLOW level = level * FLOW.maxFlow := by
  cases FLOW <;> simp [timesMaxFlow, multiplier] <;> omega

/-- **What a message does**: nothing, or it sets the target. -/
theorem handleMessage_flow (FLOW : Channel) (chunk : Chunk) (s : FlowSensor) :
    (s.handleMessage FLOW chunk).flow = s.flow ∧
      (s.handleMessage FLOW chunk).btnRelease = s.btnRelease ∧
      (s.handleMessage FLOW chunk).targetFlow =
        match chunk.accepted FLOW with
        | some level => level * FLOW.maxFlow
        | none => s.targetFlow := by
  unfold handleMessage
  rw [← gateUpdate_snd FLOW chunk s.newGateValue]
  split
  · next newGateValue level h => simp [h, timesMaxFlow_eq]
  · next newGateValue h => simp [h]

/-- A tick moves the flow only. -/
theorem simulateReadFlow_eq_some :
    s.simulateReadFlow random = some s' ↔
      ∃ flow, readFlow random s.flow s.targetFlow = some flow ∧ s' = { s with flow } := by
  simp [simulateReadFlow, eq_comm]

/-! ## §2 The range of the flow -/

/-- The target is a percentage of the maximum, and the flow is within
what a steady flow varies by. -/
structure Bounded (FLOW : Channel) (s : FlowSensor) : Prop where
  target_nonneg : 0 ≤ s.targetFlow
  target_le : s.targetFlow ≤ 100 * FLOW.maxFlow
  flow_nonneg : 0 ≤ s.flow
  flow_le : s.flow ≤ 100 * FLOW.maxFlow + 150

/-- A short press that finds the inflow less than a step below its
maximum. -/
def Overshoots (FLOW : Channel) (s : FlowSensor) (e : Event) : Prop :=
  FLOW = .inflow ∧ e = .button .release ∧ s.btnRelease = true ∧
    72000 < s.targetFlow ∧ s.targetFlow < 80000

theorem init_bounded (FLOW : Channel) : Bounded FLOW (init FLOW) := by
  cases FLOW <;> exact ⟨by decide, by decide, by decide, by decide⟩

theorem Bounded.message (h : Bounded FLOW s) (chunk : Chunk) :
    Bounded FLOW (s.handleMessage FLOW chunk) := by
  obtain ⟨hflow, -, htarget⟩ := s.handleMessage_flow FLOW chunk
  cases haccepted : chunk.accepted FLOW with
  | none =>
    simp only [haccepted] at htarget
    exact ⟨htarget ▸ h.1, htarget ▸ h.2, hflow ▸ h.3, hflow ▸ h.4⟩
  | some level =>
    simp only [haccepted] at htarget
    obtain ⟨hlo, hhi⟩ := Chunk.accepted_range haccepted
    have hpos := FLOW.maxFlow_pos
    have hscaled : 0 ≤ level * FLOW.maxFlow ∧ level * FLOW.maxFlow ≤ 100 * FLOW.maxFlow :=
      ⟨Int.mul_nonneg hlo (by omega), Int.mul_le_mul_of_nonneg_right hhi (by omega)⟩
    exact ⟨by omega, by omega, hflow ▸ h.3, hflow ▸ h.4⟩

theorem Bounded.tick (h : Bounded FLOW s) (hstep : s.simulateReadFlow random = some s') :
    Bounded FLOW s' := by
  obtain ⟨v, hread, rfl⟩ := simulateReadFlow_eq_some.mp hstep
  obtain ⟨h0, hmax, hf0, hfmax⟩ := h
  obtain ⟨hv, hband | ⟨h10, hbelow, rfl⟩⟩ := readFlow_cases h0 hf0 hread
  · rw [distance_eq_zero] at hband
    exact ⟨h0, hmax, hv, by dsimp only; omega⟩
  · obtain ⟨hlo, hhi⟩ := ramp_bounds random h10
    have hdistance : distance s.flow s.targetFlow =
        max (max (s.targetFlow - 150 - s.flow) (s.flow - (s.targetFlow + 150))) 0 := rfl
    exact ⟨h0, hmax, hv, by dsimp only; omega⟩

/-- A button event keeps the bounds exactly if it does not overshoot. -/
theorem Bounded.button_iff (h : Bounded FLOW s) (b : ButtonEvent) :
    Bounded FLOW (s.button FLOW b) ↔ ¬Overshoots FLOW s (.button b) := by
  obtain ⟨h0, hmax, hf0, hfmax⟩ := h
  by_cases hFLOW : FLOW = .inflow
  · subst hFLOW
    simp only [Channel.maxFlow_inflow] at hmax hfmax
    simp only [button, if_true, Overshoots, Event.button.injEq, true_and]
    rcases Button.step_cases ⟨s.flow, s.targetFlow, s.btnRelease⟩ b with
      ⟨rfl, hstep⟩ | ⟨rfl, hrelease, hbelow, hstep⟩ | ⟨hsets, hflow, htarget⟩
    · simp only [hstep, reduceCtorEq, false_and, not_false_iff, iff_true]
      exact ⟨by simp, by simp, by simp, by simp⟩
    · rw [hstep]
      dsimp only at hrelease hbelow
      simp only [hrelease, hbelow, true_and, and_true]
      constructor
      · intro hbounded hover
        have hle : s.targetFlow + 8000 ≤ 100 * 800 := hbounded.target_le
        omega
      · intro hover
        have hle : s.targetFlow + 8000 ≤ 100 * 800 := by omega
        exact ⟨by dsimp only; omega, hle, by dsimp only; omega, by simp; omega⟩
    · have hover : ¬(b = .release ∧ s.btnRelease = true ∧ 72000 < s.targetFlow ∧
          s.targetFlow < 80000) := by
        intro hover
        obtain ⟨rfl, hrelease, -, hbelow⟩ := hover
        exact hsets ⟨hrelease, hbelow⟩
      simp only [hflow, htarget, hover, not_false_iff, iff_true]
      exact ⟨h0, hmax, hf0, hfmax⟩
  · have hsame : s.button FLOW b = s := by simp [button, hFLOW]
    simp only [hsame, Overshoots, hFLOW, false_and, not_false_iff, iff_true]
    exact ⟨h0, hmax, hf0, hfmax⟩

/-- **When the flow stays in range**: in every run of every build, as long
as no short press finds the inflow between nine tenths of its maximum and
the maximum. The builds for the outflows always stay in range. -/
theorem bounded_iff (FLOW : Channel) (es : List Event) :
    Always (step FLOW) (Bounded FLOW) (init FLOW) es ↔
      Each (step FLOW) (fun s e => ¬Overshoots FLOW s e) (init FLOW) es := by
  refine always_iff_each (I := fun _ => True) ?_ ?_ trivial (init_bounded FLOW)
  · intro s e s' _ hbounded hstep
    cases e with
    | message chunk =>
      obtain rfl := Option.some.inj hstep
      simpa [Overshoots] using hbounded.message chunk
    | tick random => simpa [Overshoots] using hbounded.tick hstep
    | button b =>
      obtain rfl := Option.some.inj hstep
      simpa using hbounded.button_iff b
  · intro s e _ _ hstep
    cases e with
    | tick random => simp [Overshoots]
    | message chunk => cases hstep
    | button b => cases hstep

/-- The simulation sets the inflow to 95 %, and then the button is
pressed. -/
def nearMaximum : List Event :=
  [.message ⟨(gateNode .inflow 95).tokens, fun _ => [], saturate⟩, .button .release]

/-- The target is 84000, above the maximum of 80000. -/
theorem button_overshoots :
    run (step .inflow) (init .inflow) nearMaximum = some ⟨84000, 84000, 95, true⟩ ∧
      ¬Always (step .inflow) (Bounded .inflow) (init .inflow) nearMaximum := by
  have hrun : run (step .inflow) (init .inflow) nearMaximum = some ⟨84000, 84000, 95, true⟩ := by
    decide
  refine ⟨hrun, fun halways => ?_⟩
  have hle := (always_iff.mp halways nearMaximum List.prefix_rfl _ hrun).target_le
  exact absurd hle (by decide)

end FlowSensor

end DamMonitoring.Motes
