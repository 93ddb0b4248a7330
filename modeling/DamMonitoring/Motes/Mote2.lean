/-
DamMonitoring.Motes.Mote2 — `demo/mote-2`, which simulates all three
flows and has the button of the inflow.

Unlike the firmware of a single flow sensor it passes over what a message
says about the inflow: `handle_message` starts at channel 1. The MQTT
client and the LEDs, which touch no flow, are left out.

  §1 the firmware
  §2 what each event does
  §3 the divisor of `LINEAR_VAR`
  §4 the button
-/
import DamMonitoring.Motes.SensorSim
import DamMonitoring.Program.Runs

namespace DamMonitoring.Motes

open Program.Machine

/-! ## §1 The firmware -/

/-- The two arrays and two static variables. -/
structure Mote2 where
  flow : Channel → Int
  targetFlow : Channel → Int
  newGateValue : Int
  btnRelease : Bool

namespace Mote2

def init : Mote2 := ⟨Channel.initFlow, Channel.initFlow, 0, true⟩

/-- One round of the loop of `simulate_read_flow`. -/
def readChannel (random : Rand) (s : Mote2) (i : Channel) : Option Mote2 :=
  (readFlow random (s.flow i) (s.targetFlow i)).map fun v =>
    { s with flow := Function.update s.flow i v }

/-- `simulate_read_flow`; `none` if it divides by zero. -/
def simulateReadFlow (random : Channel → Rand) (s : Mote2) : Option Mote2 :=
  [.inflow, .outflow1, .outflow2].foldlM (fun s i => s.readChannel (random i) i) s

/-- One round of the loop of `handle_message`. -/
def handleGate (chunk : Chunk) (s : Mote2) (i : Channel) : Mote2 :=
  match gateUpdate i chunk s.newGateValue with
  | (newGateValue, some level) =>
    { s with newGateValue, targetFlow := Function.update s.targetFlow i (level * i.maxFlow) }
  | (newGateValue, none) => { s with newGateValue }

def handleMessage (chunk : Chunk) (s : Mote2) : Mote2 :=
  [.outflow1, .outflow2].foldl (handleGate chunk) s

/-- The events of the button. -/
def button (e : ButtonEvent) (s : Mote2) : Mote2 :=
  let b := (⟨s.flow .inflow, s.targetFlow .inflow, s.btnRelease⟩ : Button).step e
  { s with
    flow := Function.update s.flow .inflow b.flow
    targetFlow := Function.update s.targetFlow .inflow b.targetFlow
    btnRelease := b.btnRelease }

inductive Event where
  | message (chunk : Chunk)
  | tick (random : Channel → Rand)
  | button (e : ButtonEvent)

def step (s : Mote2) : Event → Option Mote2
  | .message chunk => some (s.handleMessage chunk)
  | .tick random => s.simulateReadFlow random
  | .button e => some (s.button e)

/-! ## §2 Events -/

variable {s s' : Mote2} {chunk : Chunk} {random : Channel → Rand} {i : Channel}

/-- A tick moves every flow on its own. -/
theorem simulateReadFlow_eq_some (h : s.simulateReadFlow random = some s') :
    (∀ i, readFlow (random i) (s.flow i) (s.targetFlow i) = some (s'.flow i)) ∧
      s' = { s with flow := s'.flow } := by
  simp only [simulateReadFlow, readChannel, List.foldlM_cons, List.foldlM_nil, Option.bind_eq_bind,
    Option.bind_eq_some_iff, Option.map_eq_some_iff, Option.pure_def, Option.some.injEq] at h
  obtain ⟨_, ⟨v₀, h₀, rfl⟩, _, ⟨v₁, h₁, rfl⟩, _, ⟨v₂, h₂, rfl⟩, rfl⟩ := h
  simp only [Function.update_of_ne, ne_eq, reduceCtorEq, not_false_iff] at h₁ h₂
  refine ⟨fun i => ?_, rfl⟩
  cases i <;> simp [h₀, h₁, h₂]

/-- It divides by zero if it does so for some channel. -/
theorem simulateReadFlow_eq_none :
    s.simulateReadFlow random = none ↔
      ∃ i, readFlow (random i) (s.flow i) (s.targetFlow i) = none := by
  constructor
  · intro h
    by_contra hall
    simp only [not_exists] at hall
    obtain ⟨v₀, h₀⟩ := Option.ne_none_iff_exists'.mp (hall .inflow)
    obtain ⟨v₁, h₁⟩ := Option.ne_none_iff_exists'.mp (hall .outflow1)
    obtain ⟨v₂, h₂⟩ := Option.ne_none_iff_exists'.mp (hall .outflow2)
    simp [simulateReadFlow, readChannel, h₀, h₁, h₂] at h
  · intro h
    obtain ⟨i, hi⟩ := h
    by_contra hsome
    obtain ⟨s', hs'⟩ := Option.ne_none_iff_exists'.mp hsome
    rw [(simulateReadFlow_eq_some hs').1 i] at hi
    cases hi

/-- A round sets the target of its own channel, or nothing. -/
theorem handleGate_eq (chunk : Chunk) (s : Mote2) (i : Channel) :
    ∃ newGateValue, s.handleGate chunk i =
      ⟨s.flow, Function.update s.targetFlow i
        (match chunk.accepted i with
          | some level => level * i.maxFlow
          | none => s.targetFlow i), newGateValue, s.btnRelease⟩ := by
  unfold handleGate
  rw [← gateUpdate_snd i chunk s.newGateValue]
  split
  · next newGateValue level h => exact ⟨newGateValue, by simp [h]⟩
  · next newGateValue h => exact ⟨newGateValue, by simp [h]⟩

/-- **What a message does**: it sets targets of outflows. -/
theorem handleMessage_eq (chunk : Chunk) (s : Mote2) :
    (s.handleMessage chunk).flow = s.flow ∧
      (s.handleMessage chunk).btnRelease = s.btnRelease ∧
      ∀ i, (s.handleMessage chunk).targetFlow i =
        if i = .inflow then s.targetFlow .inflow
        else match chunk.accepted i with
          | some level => level * i.maxFlow
          | none => s.targetFlow i := by
  obtain ⟨n₁, h₁⟩ := s.handleGate_eq chunk .outflow1
  obtain ⟨n₂, h₂⟩ := (s.handleGate chunk .outflow1).handleGate_eq chunk .outflow2
  have hmessage : s.handleMessage chunk =
      (s.handleGate chunk .outflow1).handleGate chunk .outflow2 := rfl
  rw [hmessage, h₂, h₁]
  refine ⟨rfl, rfl, fun i => ?_⟩
  cases i <;> simp

/-- A button event acts on the inflow alone. -/
theorem button_other (e : ButtonEvent) (s : Mote2) (h : i ≠ .inflow) :
    (s.button e).flow i = s.flow i ∧ (s.button e).targetFlow i = s.targetFlow i := by
  simp [button, Function.update_of_ne h]

/-! ## §3 Division by zero -/

/-- From here a tick divides by zero. -/
def Gap (flow target : Int) : Prop := 1 ≤ distance flow target ∧ distance flow target < 10

/-- A draw stops the climb of a flow just below its band. -/
def Stops (random : Rand) (flow target : Int) : Prop :=
  10 ≤ target - 150 - flow ∧
    target - 150 - flow - 109 ≤ random % ((target - 150 - flow) / 10) ∧
    random % ((target - 150 - flow) / 10) ≤ target - 150 - flow - 101

/-- The events that lead to a division by zero: a message that moves the
band of an outflow away from the flow by less than 10, and a tick whose
draw stops an outflow just below its band. -/
def LeadsToGap (s : Mote2) : Event → Prop
  | .message chunk => ∃ i, i ≠ .inflow ∧
      ∃ level, chunk.accepted i = some level ∧ Gap (s.flow i) (level * i.maxFlow)
  | .tick random => ∃ i, i ≠ .inflow ∧ Stops (random i) (s.flow i) (s.targetFlow i)
  | .button _ => False

/-- No tick divides by zero, whatever it draws. -/
def TicksDefined (s : Mote2) : Prop := ∀ random, s.simulateReadFlow random ≠ none

theorem ticksDefined_iff_not_gap (s : Mote2) :
    s.TicksDefined ↔ ∀ i, ¬Gap (s.flow i) (s.targetFlow i) := by
  simp only [TicksDefined, ne_eq, simulateReadFlow_eq_none, readFlow_eq_none, not_exists, Gap]
  exact forall_const _

/-- The flows are those of water, and the inflow never leaves its band. -/
structure Regular (s : Mote2) : Prop where
  flow_nonneg : ∀ i, 0 ≤ s.flow i
  target_nonneg : ∀ i, 0 ≤ s.targetFlow i
  steady : distance (s.flow .inflow) (s.targetFlow .inflow) = 0

theorem init_regular : Regular init :=
  ⟨fun i => by cases i <;> decide, fun i => by cases i <;> decide, by decide⟩

theorem Regular.message (h : s.Regular) (chunk : Chunk) : (s.handleMessage chunk).Regular := by
  obtain ⟨hflow, -, htarget⟩ := s.handleMessage_eq chunk
  refine ⟨fun i => hflow ▸ h.flow_nonneg i, fun i => ?_, ?_⟩
  · rw [htarget]
    split
    · exact h.target_nonneg .inflow
    · split
      · next level haccepted =>
        have hpos := i.maxFlow_pos
        exact Int.mul_nonneg (Chunk.accepted_range haccepted).1 (by omega)
      · exact h.target_nonneg i
  · rw [hflow, htarget]
    exact h.steady

theorem Regular.tick (h : s.Regular) (hstep : s.simulateReadFlow random = some s') :
    s'.Regular := by
  obtain ⟨hread, hs'⟩ := simulateReadFlow_eq_some hstep
  have htarget : s'.targetFlow = s.targetFlow := by rw [hs']
  refine ⟨fun i => ?_, fun i => htarget ▸ h.target_nonneg i, ?_⟩
  · exact (readFlow_cases (h.target_nonneg i) (h.flow_nonneg i) (hread i)).1
  · obtain ⟨v, hv, -, hsteady⟩ :=
      readFlow_inside (random .inflow) (h.target_nonneg .inflow) h.steady
    obtain rfl : s'.flow .inflow = v := by simpa [hread] using hv
    rw [htarget]
    exact hsteady

theorem Regular.button (h : s.Regular) (e : ButtonEvent) : (s.button e).Regular := by
  have hknob := Button.step_nonneg (b := ⟨s.flow .inflow, s.targetFlow .inflow, s.btnRelease⟩)
    (h.flow_nonneg .inflow) (h.target_nonneg .inflow) e
  have hsteady := Button.step_steady (b := ⟨s.flow .inflow, s.targetFlow .inflow, s.btnRelease⟩)
    h.steady e
  refine ⟨fun i => ?_, fun i => ?_, ?_⟩
  · by_cases hi : i = .inflow
    · simpa [Mote2.button, hi] using hknob.1
    · exact (button_other e s hi).1 ▸ h.flow_nonneg i
  · by_cases hi : i = .inflow
    · simpa [Mote2.button, hi] using hknob.2
    · exact (button_other e s hi).2 ▸ h.target_nonneg i
  · simpa [Mote2.button] using hsteady

/-- A tick leaves a flow in the gap exactly if its draw stops it there. -/
theorem gap_iff_stops {random : Rand} {flow target v : Int} (htarget : 0 ≤ target)
    (hflow : 0 ≤ flow) (h : readFlow random flow target = some v) :
    Gap v target ↔ Stops random flow target := by
  by_cases h10 : 10 ≤ target - 150 - flow
  · rw [readFlow_below random hflow h10 rfl] at h
    obtain rfl := Option.some.inj h
    have hbounds := ramp_bounds random h10
    simp only [Gap, Stops, distance, varThreshold_eq]
    unfold ramp at *
    omega
  · have hstops : ¬Stops random flow target := fun hstops => h10 hstops.1
    obtain ⟨-, hband | ⟨hfar, hlow, -⟩⟩ := readFlow_cases htarget hflow h
    · simp [Gap, hband, hstops]
    · have hdistance : distance flow target =
          max (max (target - 150 - flow) (flow - (target + 150))) 0 := rfl
      omega

/-- The inflow of a regular state is not in the gap. -/
theorem Regular.not_gap (h : s.Regular) : ¬Gap (s.flow .inflow) (s.targetFlow .inflow) := by
  simp [Gap, h.steady]

/-- Only the outflows can be. -/
theorem Regular.ticksDefined_iff (h : s.Regular) :
    s.TicksDefined ↔ ¬∃ i, i ≠ .inflow ∧ Gap (s.flow i) (s.targetFlow i) := by
  rw [ticksDefined_iff_not_gap]
  constructor
  · intro hall hsome
    obtain ⟨i, -, hgap⟩ := hsome
    exact hall i hgap
  · intro hnone i hgap
    by_cases hi : i = .inflow
    · exact h.not_gap (hi ▸ hgap)
    · exact hnone ⟨i, hi, hgap⟩

/-- A message that sets no outflow to the edge of the gap leaves the ticks
defined. -/
theorem Regular.message_defined_iff (h : s.Regular) (hdefined : s.TicksDefined) (chunk : Chunk) :
    (s.handleMessage chunk).TicksDefined ↔ ¬s.LeadsToGap (.message chunk) := by
  have hnone := h.ticksDefined_iff.mp hdefined
  obtain ⟨hflow, -, htarget⟩ := s.handleMessage_eq chunk
  rw [(h.message chunk).ticksDefined_iff, not_iff_not]
  refine exists_congr fun i => and_congr_right fun hi => ?_
  rw [hflow, htarget, if_neg hi]
  cases haccepted : chunk.accepted i with
  | none =>
    simp only [reduceCtorEq, false_and, exists_false, iff_false]
    exact fun hgap => hnone ⟨i, hi, hgap⟩
  | some level => simp

theorem Regular.tick_defined_iff (h : s.Regular) (hstep : s.simulateReadFlow random = some s') :
    s'.TicksDefined ↔ ¬s.LeadsToGap (.tick random) := by
  obtain ⟨hread, hs'⟩ := simulateReadFlow_eq_some hstep
  have htarget : s'.targetFlow = s.targetFlow := by rw [hs']
  rw [(h.tick hstep).ticksDefined_iff, not_iff_not]
  refine exists_congr fun i => and_congr_right fun hi => ?_
  rw [htarget]
  exact gap_iff_stops (h.target_nonneg i) (h.flow_nonneg i) (hread i)

theorem Regular.button_defined (h : s.Regular) (hdefined : s.TicksDefined) (e : ButtonEvent) :
    (s.button e).TicksDefined := by
  have hnone := h.ticksDefined_iff.mp hdefined
  rw [(h.button e).ticksDefined_iff]
  intro hsome
  obtain ⟨i, hi, hgap⟩ := hsome
  rw [(button_other e s hi).1, (button_other e s hi).2] at hgap
  exact hnone ⟨i, hi, hgap⟩

/-- **When no tick divides by zero**: as long as no event leads into the
gap of an outflow. -/
theorem flow_ticks_defined_iff (es : List Event) :
    Always step TicksDefined init es ↔ Each step (fun s e => ¬s.LeadsToGap e) init es := by
  have hinit : init.TicksDefined := by
    rw [ticksDefined_iff_not_gap]
    intro i
    cases i <;> simp [Gap, init, distance, Channel.initFlow]
  refine always_iff_each (I := Regular) ?_ ?_ init_regular hinit
  · intro s e s' hregular hdefined hstep
    cases e with
    | message chunk =>
      obtain rfl := Option.some.inj hstep
      exact ⟨fun _ => hregular.message chunk, hregular.message_defined_iff hdefined chunk⟩
    | tick random => exact ⟨fun _ => hregular.tick hstep, hregular.tick_defined_iff hstep⟩
    | button e =>
      obtain rfl := Option.some.inj hstep
      exact ⟨fun _ => hregular.button e, by
        simp [LeadsToGap, hregular.button_defined hdefined e]⟩
  · intro s e _ hdefined hstep
    cases e with
    | message chunk => cases hstep
    | button e => cases hstep
    | tick random => exact absurd hstep (hdefined random)

/-- The simulation opens outflow-1 to 1 %, and the draws take the flow to
845, which is 5 below the band. -/
def stoppedShort : List Event :=
  .message ⟨(gateNode .outflow1 1).tokens, fun _ => [], saturate⟩ ::
    ([40, 0, 0, 0, 0, 0, 0, 5] : List Rand).map fun random => .tick fun _ => random

/-- The next tick divides by zero. -/
theorem stoppedShort_divides_by_zero :
    (run step init stoppedShort).map (fun s => (s.flow .outflow1, s.targetFlow .outflow1)) =
        some (845, 1000) ∧
      ¬Always step TicksDefined init stoppedShort := by
  have hflow : (run step init stoppedShort).map
      (fun s => (s.flow .outflow1, s.targetFlow .outflow1)) = some (845, 1000) := by decide
  refine ⟨hflow, fun halways => ?_⟩
  obtain ⟨s, hrun, hs⟩ := Option.map_eq_some_iff.mp hflow
  have hdefined := always_iff.mp halways stoppedShort List.prefix_rfl s hrun
  rw [ticksDefined_iff_not_gap] at hdefined
  obtain ⟨h845, h1000⟩ : s.flow .outflow1 = 845 ∧ s.targetFlow .outflow1 = 1000 := by
    simpa using hs
  have hgap := hdefined .outflow1
  rw [h845, h1000] at hgap
  exact hgap ⟨by decide, by decide⟩

/-! ## §4 The button -/

/-- The events of a press held for `seconds`. -/
def press (seconds : Nat) : List ButtonEvent :=
  (List.range seconds).map (fun n => .periodic (n + 1)) ++ [.release]

/-- What a press is meant to do to the target. -/
def pressed (target : Int) (seconds : Nat) : Int :=
  if 3 ≤ seconds then 0 else min (target + 8000) 80000

/-- The button event an event is, if it is one. -/
def Event.button? : Event → Option ButtonEvent
  | .button e => some e
  | _ => none

/-- The target of the inflow and `btn_release` after a button event. -/
def turn : Int × Bool → ButtonEvent → Int × Bool
  | (target, true), .release => (if target < 80000 then target + 8000 else target, true)
  | (target, false), .release => (target, true)
  | (target, btnRelease), .periodic seconds =>
    if seconds = 3 then (0, false) else (target, btnRelease)

def dial (s : Mote2) : Int × Bool := (s.targetFlow .inflow, s.btnRelease)

/-- Only the button turns the dial. -/
theorem step_dial {e : Event} (h : step s e = some s') :
    s'.dial = match e.button? with
      | some b => turn s.dial b
      | none => s.dial := by
  cases e with
  | message chunk =>
    obtain rfl := Option.some.inj h
    obtain ⟨-, hrelease, htarget⟩ := s.handleMessage_eq chunk
    simp [dial, Event.button?, hrelease, htarget]
  | tick random =>
    rw [(simulateReadFlow_eq_some h).2]
    rfl
  | button b =>
    obtain rfl := Option.some.inj h
    simp only [dial, Mote2.button, Function.update_self, Event.button?]
    cases b with
    | periodic seconds =>
      by_cases h3 : seconds = 3 <;> simp [Button.step, Button.periodic, turn, h3]
    | release =>
      have hmax : maxInflow * 100 = 80000 := rfl
      have htenth : maxInflow * 10 = 8000 := rfl
      cases hrelease : s.btnRelease
      · simp [Button.step, Button.release, turn]
      · by_cases hbelow : s.targetFlow .inflow < 80000
        · have hnot : ¬80000 ≤ s.targetFlow .inflow := by omega
          simp [Button.step, Button.release, turn, hmax, htenth, hbelow, hnot]
        · simp [Button.step, Button.release, turn, hmax, hbelow]

theorem pressed_tenth {target : Int} (h : Tenth target) (seconds : Nat) :
    Tenth (pressed target seconds) := by
  unfold pressed
  split
  · exact ⟨0, by decide⟩
  · obtain ⟨k, hlo, hhi, rfl⟩ := h
    exact ⟨min (k + 1) 10, by omega, by omega, by omega⟩

/-- While the button is held. -/
theorem foldl_turn_held (target : Int) (seconds : Nat) :
    ((List.range seconds).map fun n => ButtonEvent.periodic (n + 1)).foldl turn (target, true) =
      if 3 ≤ seconds then (0, false) else (target, true) := by
  induction seconds with
  | zero => rfl
  | succ n ih =>
    rw [List.range_succ, List.map_append, List.foldl_append, ih]
    by_cases hheld : 3 ≤ n
    · have hnot : n ≠ 2 := by omega
      have hheld' : 3 ≤ n + 1 := by omega
      simp [turn, hheld, hheld', hnot]
    · by_cases h2 : n = 2
      · simp [turn, h2]
      · have hheld' : ¬3 ≤ n + 1 := by omega
        simp [turn, hheld, hheld', h2]

/-- **A complete press**: the release after a long press counts for
nothing, and a short press stops at the maximum since no tenth is less
than a tenth below it. -/
theorem foldl_turn_press {target : Int} (h : Tenth target) (seconds : Nat) :
    (press seconds).foldl turn (target, true) = (pressed target seconds, true) := by
  rw [press, List.foldl_append, foldl_turn_held]
  by_cases hheld : 3 ≤ seconds
  · simp [turn, pressed, hheld]
  · obtain ⟨k, hlo, hhi, rfl⟩ := h
    have hcap : (if 8000 * k < 80000 then 8000 * k + 8000 else 8000 * k) =
        min (8000 * k + 8000) 80000 := by
      split <;> omega
    simp [turn, pressed, hheld, hcap]

theorem foldl_turn_presses {target : Int} (h : Tenth target) (presses : List Nat) :
    (presses.flatMap press).foldl turn (target, true) = (presses.foldl pressed target, true) := by
  induction presses generalizing target with
  | nil => rfl
  | cons seconds presses ih =>
    rw [List.flatMap_cons, List.foldl_append, foldl_turn_press h, ih (pressed_tenth h seconds),
      List.foldl_cons]

/-- The dial after a run is what its button events have turned it to. -/
theorem run_dial {es : List Event} (h : run step init es = some s) :
    s.dial = (es.filterMap Event.button?).foldl turn (32000, true) := by
  rw [List.foldl_filterMap]
  refine run_foldl (fun s e s' hstep => ?_) h
  rw [step_dial hstep]
  cases e.button? <;> rfl

/-- The target stays a tenth of the maximum. -/
theorem button_tenth (h : Tenth (s.targetFlow .inflow)) (e : ButtonEvent) :
    Tenth ((s.button e).targetFlow .inflow) := by
  simpa [Mote2.button] using Button.step_tenth
    (b := ⟨s.flow .inflow, s.targetFlow .inflow, s.btnRelease⟩) h e

theorem run_tenth {es : List Event} (h : run step init es = some s) :
    Tenth (s.targetFlow .inflow) := by
  refine run_invariant (I := fun s => Tenth (s.targetFlow .inflow)) ?_
    ⟨4, by decide, by decide, by decide⟩ h
  intro s e s' htenth hstep
  cases e with
  | message chunk =>
    obtain rfl := Option.some.inj hstep
    simpa [(s.handleMessage_eq chunk).2.2] using htenth
  | tick random =>
    rw [(simulateReadFlow_eq_some hstep).2]
    exact htenth
  | button b =>
    obtain rfl := Option.some.inj hstep
    exact button_tenth htenth b

theorem run_regular {es : List Event} (h : run step init es = some s) : s.Regular := by
  refine run_invariant (I := Regular) ?_ init_regular h
  intro s e s' hregular hstep
  cases e with
  | message chunk => exact Option.some.inj hstep ▸ hregular.message chunk
  | tick random => exact hregular.tick hstep
  | button b => exact Option.some.inj hstep ▸ hregular.button b

/-- **The button commands the inflow**: after any complete presses, and
whatever else has happened, the target is what they were meant to set;
and at all times it is in range and the flow is in its band. -/
theorem button_faithful {es : List Event} (h : run step init es = some s) :
    (∀ presses : List Nat, es.filterMap Event.button? = presses.flatMap press →
      s.targetFlow .inflow = presses.foldl pressed 32000) ∧
    0 ≤ s.targetFlow .inflow ∧ s.targetFlow .inflow ≤ 80000 ∧
      |s.flow .inflow - s.targetFlow .inflow| ≤ 150 := by
  have htenth := run_tenth h
  refine ⟨fun presses hpresses => ?_, htenth.range.1, htenth.range.2,
    distance_eq_zero_iff_abs.mp (run_regular h).steady⟩
  have hdial := run_dial h
  rw [hpresses, foldl_turn_presses ⟨4, by decide, by decide, by decide⟩] at hdial
  exact congrArg Prod.fst hdial

/-- Seven short presses, a long one and a short one, with a tick and a
message among them. -/
def demoPresses : List Event :=
  (([0, 1, 2, 0, 0, 0, 0] : List Nat).flatMap press).map .button ++
    [.tick fun _ => 0] ++ (press 4).map .button ++
    [.message ⟨(gateNode .outflow1 50).tokens, fun _ => [], saturate⟩] ++ (press 2).map .button

theorem button_faithful_demo : ∃ s, run step init demoPresses = some s ∧
    s.targetFlow .inflow = 8000 ∧ |s.flow .inflow - s.targetFlow .inflow| ≤ 150 := by
  have hruns : (run step init demoPresses).isSome = true := by decide
  obtain ⟨s, hrun⟩ := Option.isSome_iff_exists.mp hruns
  obtain ⟨htarget, -, -, hflow⟩ := button_faithful hrun
  have hpresses := htarget [0, 1, 2, 0, 0, 0, 0, 4, 2] (by decide)
  exact ⟨s, hrun, hpresses.trans (by decide), hflow⟩

end Mote2

end DamMonitoring.Motes
