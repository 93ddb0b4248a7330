/-
DamMonitoring.Deployment.Agreement — `demo/mote-2`, the Collector and
`demo/mote-3`.

The button of mote-2 sets the inflow, and mote-3 is meant to simulate the
water with the same inflow. The value gets there as noise around a
target, thousandths in a message, a percentage, and a percentage of the
maximum again. The Controller speaks on the topic simulation as well, but
about the outflows.

Beside the parties the state counts the button events, and notes at how
many of them the flows of a message were read.

  §1 the parties and their messages
  §2 what is on its way
  §3 one step
  §4 agreement
-/
import DamMonitoring.Deployment.Inflow
import DamMonitoring.Motes.Mote1
import DamMonitoring.Motes.Mote2
import DamMonitoring.Motes.WaterLevelSensor

namespace DamMonitoring.Deployment

open Program.Machine Collector
open Motes hiding maxInflow

/-! ## §1 The parties -/

/-- The message of mote-2, as the Collector reads it
(`readValue_mote2Message`). -/
def mote2Record (addr : LinkAddr) (flow : Motes.Channel → Int) : Payload ℚ :=
  .record ⟨some (urn addr), some "m3/s", some [measured id "inflow" (flow .inflow),
    measured id "outflow-1" (flow .outflow1), measured id "outflow-2" (flow .outflow2)]⟩

namespace Demo

/-- A message on the topic flow-rate, and the number of button events
before its flows were read. -/
structure Report where
  flow : Motes.Channel → Int
  presses : Nat

/-- A message on the topic simulation. -/
structure Command where
  gate : String
  level : Int
  deriving DecidableEq, Repr

def Command.chunk (command : Command) (keyBuf : Motes.Channel → List Char) : Chunk :=
  ⟨(gateMessage command.gate command.level).tokens, keyBuf, saturate⟩

end Demo

/-- Every queue holds the oldest message first. `sampled` is the number of
button events before the inflow was read that the Collector has stored
last; a row counts as stored once `recordFlowRate` has returned it. -/
structure Demo where
  mote2 : Mote2
  presses : Nat
  reports : List Demo.Report
  collector : CollectorState
  sampled : Option Nat
  toMote2 : List Demo.Command
  toMote3 : List Demo.Command
  mote3 : WaterLevelSensor

namespace Demo

def init (flowRateId waterLevelId : Int) : Demo :=
  ⟨.init, 0, [], .init flowRateId waterLevelId, none, [], [], .init⟩

inductive Event where
  | button (e : ButtonEvent)
  | tick (random : Motes.Channel → Rand)
  | publish
  | process (h : Handling)
  /-- The Collector handles a message on the topic water-level. -/
  | processWaterLevel (payload : Payload ℚ) (h : Handling)
  /-- The Controller publishes. -/
  | control (o : Outflow) (level : Int)
  | deliverMote2 (keyBuf : Motes.Channel → List Char)
  | deliverMote3 (keyBuf : Motes.Channel → List Char)
  | tickMote3 (random₁ random₂ : Rand)
  | buttonMote3 (e : ButtonEvent)

/-- Both motes subscribe to the topic simulation. -/
def simulation (commands : List Command) (s : Demo) : Demo :=
  { s with toMote2 := s.toMote2 ++ commands, toMote3 := s.toMote3 ++ commands }

def handle (c : Settings) (d : Delivery ℚ) (s : Demo) : Demo :=
  let handled := s.collector.handle c d
  { s with collector := handled.1 }.simulation (handled.2.map fun level => ⟨"inflow", level⟩)

def step (c : Settings) (addr : LinkAddr) (s : Demo) : Event → Option Demo
  | .button e => some { s with mote2 := s.mote2.button e, presses := s.presses + 1 }
  | .tick random => (s.mote2.simulateReadFlow random).map fun mote2 => { s with mote2 }
  | .publish => some { s with reports := s.reports ++ [⟨s.mote2.flow, s.presses⟩] }
  | .process h =>
    match s.reports with
    | [] => none
    | report :: reports =>
      let d := h.delivery (mote2Record addr report.flow)
      let sampled := if s.collector.stores c d then some report.presses else s.sampled
      some ({ s with reports, sampled }.handle c d)
  | .processWaterLevel payload h =>
    some (s.handle c ⟨"water-level", payload, h.now, h.clock, h.save⟩)
  | .control o level => some (s.simulation [⟨o.name, level⟩])
  | .deliverMote2 keyBuf =>
    match s.toMote2 with
    | [] => none
    | command :: toMote2 =>
      some { s with mote2 := s.mote2.handleMessage (command.chunk keyBuf), toMote2 }
  | .deliverMote3 keyBuf =>
    match s.toMote3 with
    | [] => none
    | command :: toMote3 =>
      some { s with mote3 := s.mote3.handleMessage (command.chunk keyBuf), toMote3 }
  | .tickMote3 random₁ random₂ =>
    (s.mote3.simulateReadWaterLevel random₁ random₂).map fun mote3 => { s with mote3 }
  | .buttonMote3 e => some { s with mote3 := s.mote3.button e }

/-! ## §2 On the way -/

variable {c : Settings} {addr : LinkAddr} {s s' : Demo}

/-- The inflow of mote-3 once it has had these messages. -/
def told (flow : Int) (commands : List Command) : Int :=
  commands.foldl (fun flow command => if command.gate = "inflow" then command.level * 800 else flow)
    flow

theorem told_append (flow : Int) (commands commands' : List Command) :
    told flow (commands ++ commands') = told (told flow commands) commands' := by
  simp [told]

/-- The Controller does not speak about the inflow. -/
theorem Outflow.name_ne_inflow (o : Outflow) : o.name ≠ "inflow" := by
  cases o <;> decide

/-- A level in range is what mote-3 makes of the message. -/
theorem handleMessage_inflow {command : Command} (keyBuf : Motes.Channel → List Char)
    (mote3 : WaterLevelSensor)
    (h : command.gate = "inflow" → 0 ≤ command.level ∧ command.level ≤ 100) :
    (mote3.handleMessage (command.chunk keyBuf)).flow .inflow =
      told (mote3.flow .inflow) [command] := by
  have hgate : Channel.inflow.gate = "inflow" := rfl
  rw [Command.chunk, WaterLevelSensor.handleMessage_gateMessage]
  simp only [WaterLevelSensor.told, hgate, told, List.foldl_cons, List.foldl_nil,
    Channel.maxFlow_inflow]
  by_cases hinflow : command.gate = "inflow"
  · simp [hinflow, h hinflow]
  · simp [hinflow]

/-- A report of the target, or of an older one. -/
structure Report.Sound (presses : Nat) (target : Int) (report : Report) : Prop where
  past : report.presses ≤ presses
  band : ∃ t, Tenth t ∧ |report.flow .inflow - t| ≤ 150 ∧ (report.presses = presses → t = target)

/-- What the Collector has published last reaches mote-3 last, and it is
the target if it comes from a flow read since the last button event. -/
structure Sound (s : Demo) : Prop where
  regular : s.mote2.Regular
  tenth : Tenth (s.mote2.targetFlow .inflow)
  reports : ∀ report ∈ s.reports, report.Sound s.presses (s.mote2.targetFlow .inflow)
  sampled : ∀ n, s.sampled = some n → n ≤ s.presses ∧ (n = s.presses →
    ∃ p, s.collector.inflowGate = some p ∧ p * 800 = s.mote2.targetFlow .inflow)
  levels : ∀ command ∈ s.toMote3, command.gate = "inflow" →
    0 ≤ command.level ∧ command.level ≤ 100
  pending : ∀ p, s.collector.inflowGate = some p →
    told (s.mote3.flow .inflow) s.toMote3 = p * 800

theorem init_sound (flowRateId waterLevelId : Int) : Sound (init flowRateId waterLevelId) where
  regular := Mote2.init_regular
  tenth := ⟨4, by decide, by decide, rfl⟩
  reports := by simp [init]
  sampled := by simp [init]
  levels := by simp [init]
  pending := by simp [init, CollectorState.init]

/-! ## §3 One step -/

/-- After a button event no report is of the target. -/
theorem Sound.button (h : s.Sound) (e : ButtonEvent) :
    Sound { s with mote2 := s.mote2.button e, presses := s.presses + 1 } where
  regular := h.regular.button e
  tenth := Mote2.button_tenth h.tenth e
  reports report hreport := by
    obtain ⟨hpast, t, ht, hband, -⟩ := h.reports report hreport
    exact ⟨by dsimp only; omega, t, ht, hband, fun hsame => by dsimp only at hsame; omega⟩
  sampled n hn := by
    obtain ⟨hpast, -⟩ := h.sampled n hn
    exact ⟨by dsimp only; omega, fun hsame => by dsimp only at hsame; omega⟩
  levels := h.levels
  pending := h.pending

/-- Nothing else that mote-2 does moves the target. -/
theorem Sound.mote2 {mote2 : Mote2} (h : s.Sound) (hregular : mote2.Regular)
    (htarget : mote2.targetFlow .inflow = s.mote2.targetFlow .inflow) (toMote2 : List Command) :
    Sound { s with mote2, toMote2 } where
  regular := hregular
  tenth := htarget ▸ h.tenth
  reports := htarget ▸ h.reports
  sampled := htarget ▸ h.sampled
  levels := h.levels
  pending := h.pending

theorem Sound.publish (h : s.Sound) :
    Sound { s with reports := s.reports ++ [⟨s.mote2.flow, s.presses⟩] } where
  regular := h.regular
  tenth := h.tenth
  reports report hreport := by
    rcases List.mem_append.mp hreport with hold | hnew
    · exact h.reports report hold
    · obtain rfl := List.mem_singleton.mp hnew
      exact ⟨le_rfl, _, h.tenth, distance_eq_zero_iff_abs.mp h.regular.steady, fun _ => rfl⟩
  sampled := h.sampled
  levels := h.levels
  pending := h.pending

theorem readValue_mote2Message {readValue : String → Payload ℚ} (hreads : Reads id readValue)
    (addr : LinkAddr) {flow : Motes.Channel → Int} (h : ∀ i, 0 ≤ flow i ∧ flow i < 2 ^ 31) :
    readValue (mote2Message addr (flow .inflow) (flow .outflow1) (flow .outflow2)) =
      mote2Record addr flow :=
  hreads.mote2 addr (h .inflow) (h .outflow1) (h .outflow2)

theorem mote2Record_reports (addr : LinkAddr) (h : Handling) (flow : Motes.Channel → Int) :
    CollectorState.Reports (h.delivery (mote2Record addr flow)) (flow .inflow) := by
  have h₁ : Java.equalsIgnoreCase "outflow-1" "inflow" = false := by decide
  have h₂ : Java.equalsIgnoreCase "outflow-2" "inflow" = false := by decide
  simp [CollectorState.Reports, Handling.delivery, mote2Record, Delivery.turns, Delivery.turnsOf,
    measured, Turn.reading?, h₁, h₂]

/-- **A report** that is stored puts its percentage behind all others,
unless it is the last of them anyway. -/
theorem Sound.process {handling : Handling} {report : Report} {reports : List Report}
    (h : s.Sound) (hqueue : s.reports = report :: reports) :
    let d := handling.delivery (mote2Record addr report.flow)
    let sampled := if s.collector.stores c d then some report.presses else s.sampled
    Sound ({ s with reports, sampled }.handle c d) := by
  intro d sampled
  obtain ⟨hpast, t, ht, hband, hlast⟩ := h.reports report (by simp [hqueue])
  have hreports : ∀ r ∈ reports, r.Sound s.presses (s.mote2.targetFlow .inflow) :=
    fun r hr => h.reports r (by simp [hqueue, hr])
  rcases CollectorState.handle_cases (c := c) (mote2Record_reports addr handling report.flow) ht
    hband s.collector with ⟨hstores, hgate, hnone⟩ | ⟨p, -, -, hp, hstores, hgate, hpublished⟩
  · refine ⟨h.regular, h.tenth, hreports, ?_, ?_, ?_⟩
    · simpa [handle, simulation, sampled, d, hstores, hgate] using h.sampled
    · simpa [handle, simulation, d, hnone] using h.levels
    · simpa [handle, simulation, d, hnone, hgate] using h.pending
  · refine ⟨h.regular, h.tenth, hreports, ?_, ?_, ?_⟩
    · intro n hn
      obtain rfl : report.presses = n := by
        simpa [handle, simulation, sampled, d, hstores] using hn
      exact ⟨hpast, fun hsame => ⟨p, hgate, hp.trans (hlast hsame)⟩⟩
    · intro command hcommand hinflow
      rcases List.mem_append.mp hcommand with hold | hnew
      · exact h.levels command hold hinflow
      · obtain ⟨level, hlevel, rfl⟩ := List.mem_map.mp hnew
        obtain ⟨hlo, hhi, -⟩ := CollectorState.of_mem_handle
          (mote2Record_reports addr handling report.flow) ht hband hlevel
        exact ⟨hlo, hhi⟩
    · intro q hq
      obtain rfl : p = q := Option.some.inj (hgate.symm.trans hq)
      show told _ (s.toMote3 ++ ((s.collector.handle c d).2.map _)) = _
      rw [told_append, hpublished]
      split
      · next hsame => exact h.pending p hsame
      · simp [told]

/-- A message on another topic publishes nothing. -/
theorem Sound.processWaterLevel {d : Delivery ℚ} (h : s.Sound) (htopic : d.topic ≠ "flow-rate") :
    Sound (s.handle c d) := by
  obtain ⟨-, hgate, hnone⟩ := CollectorState.handle_of_topic_ne htopic c s.collector
  refine ⟨h.regular, h.tenth, h.reports, ?_, ?_, ?_⟩
  · simpa [handle, simulation, hgate] using h.sampled
  · simpa [handle, simulation, hnone] using h.levels
  · simpa [handle, simulation, hnone, hgate] using h.pending

/-- A message about an outflow is passed over. -/
theorem Sound.control (h : s.Sound) (o : Outflow) (level : Int) :
    Sound (s.simulation [⟨o.name, level⟩]) := by
  refine ⟨h.regular, h.tenth, h.reports, h.sampled, ?_, ?_⟩
  · intro command hcommand hinflow
    rcases List.mem_append.mp hcommand with hold | hnew
    · exact h.levels command hold hinflow
    · obtain rfl := List.mem_singleton.mp hnew
      exact absurd hinflow (Outflow.name_ne_inflow o)
  · intro p hp
    show told (s.mote3.flow .inflow) (s.toMote3 ++ _) = _
    rw [told_append, h.pending p hp]
    simp [told, Outflow.name_ne_inflow o]

/-- Delivering a message to mote-3 only moves it out of the queue. -/
theorem Sound.deliverMote3 {command : Command} {toMote3 : List Command} (h : s.Sound)
    (hqueue : s.toMote3 = command :: toMote3) (keyBuf : Motes.Channel → List Char) :
    Sound { s with mote3 := s.mote3.handleMessage (command.chunk keyBuf), toMote3 } := by
  refine ⟨h.regular, h.tenth, h.reports, h.sampled, ?_, ?_⟩
  · exact fun r hr => h.levels r (by simp [hqueue, hr])
  · intro p hp
    show told _ toMote3 = _
    rw [handleMessage_inflow keyBuf s.mote3 (h.levels command (by simp [hqueue])), ← told_append,
      List.singleton_append, ← hqueue]
    exact h.pending p hp

/-- Nothing else that mote-3 does moves its inflow. -/
theorem Sound.mote3 {mote3 : WaterLevelSensor} (h : s.Sound) (hflow : mote3.flow = s.mote3.flow) :
    Sound { s with mote3 } where
  regular := h.regular
  tenth := h.tenth
  reports := h.reports
  sampled := h.sampled
  levels := h.levels
  pending := hflow ▸ h.pending

theorem Sound.step {e : Event} (h : s.Sound) (hstep : step c addr s e = some s') : s'.Sound := by
  cases e with
  | button e => exact Option.some.inj hstep ▸ h.button e
  | tick random =>
    obtain ⟨mote2, hmote2, rfl⟩ := Option.map_eq_some_iff.mp hstep
    exact h.mote2 (h.regular.tick hmote2) (by rw [(Mote2.simulateReadFlow_eq_some hmote2).2]) s.toMote2
  | publish => exact Option.some.inj hstep ▸ h.publish
  | process handling =>
    simp only [Demo.step] at hstep
    split at hstep
    · cases hstep
    · next report reports hqueue => exact Option.some.inj hstep ▸ h.process hqueue
  | processWaterLevel payload handling =>
    exact Option.some.inj hstep ▸ h.processWaterLevel (by simp)
  | control o level => exact Option.some.inj hstep ▸ h.control o level
  | deliverMote2 keyBuf =>
    simp only [Demo.step] at hstep
    split at hstep
    · cases hstep
    · next command toMote2 hqueue =>
      have htarget := (s.mote2.handleMessage_eq (command.chunk keyBuf)).2.2 .inflow
      exact Option.some.inj hstep ▸ h.mote2 (h.regular.message (command.chunk keyBuf)) htarget toMote2
  | deliverMote3 keyBuf =>
    simp only [Demo.step] at hstep
    split at hstep
    · cases hstep
    · next command toMote3 hqueue => exact Option.some.inj hstep ▸ h.deliverMote3 hqueue keyBuf
  | tickMote3 random₁ random₂ =>
    obtain ⟨mote3, hmote3, rfl⟩ := Option.map_eq_some_iff.mp hstep
    refine h.mote3 ?_
    rw [WaterLevelSensor.simulateReadWaterLevel_frame hmote3]
  | buttonMote3 e =>
    exact Option.some.inj hstep ▸ h.mote3 (s.mote3.button_frame e).1

/-! ## §4 Agreement -/

/-- **The inflow of mote-3 is the target of mote-2** in every state a run
can reach in which mote-3 has had all its messages and the inflow that
the Collector has stored last was read after the last button event,
whatever the queue of the Collector holds. -/
theorem inflow_agreement {flowRateId waterLevelId : Int} {es : List Event}
    (hrun : run (step c addr) (init flowRateId waterLevelId) es = some s)
    (hdelivered : s.toMote3 = []) (hsampled : s.sampled = some s.presses) :
    s.mote3.flow .inflow = s.mote2.targetFlow .inflow := by
  have hsound : s.Sound :=
    run_invariant (I := Sound) (fun _ _ _ h hstep => h.step hstep)
      (init_sound flowRateId waterLevelId) hrun
  obtain ⟨p, hgate, htarget⟩ := (hsound.sampled s.presses hsampled).2 rfl
  have hpending := hsound.pending p hgate
  rw [hdelivered] at hpending
  exact hpending.trans htarget

/-- The button raises the inflow, and the message gets through. -/
def raised : List Event :=
  [.button .release, .tick fun _ => ⟨7, by decide⟩, .publish,
    .process ⟨0, fun _ => 0, fun _ => .committed⟩, .control .outflow1 20, .deliverMote3 fun _ => [],
    .deliverMote3 fun _ => []]

theorem inflow_agreement_demo : ∃ s, run (step ⟨3, 0⟩ zeros) (init 1 1) raised = some s ∧
    s.mote2.flow .inflow = 39857 ∧ s.mote3.flow .inflow = s.mote2.targetFlow .inflow := by
  have hvalues : (run (step ⟨3, 0⟩ zeros) (init 1 1) raised).map
      (fun s => (s.mote2.flow .inflow, s.toMote3, s.sampled, s.presses)) =
        some (39857, [], some 1, 1) := by decide +kernel
  obtain ⟨s, hrun, hs⟩ := Option.map_eq_some_iff.mp hvalues
  obtain ⟨hflow, hdelivered, hsampled, hpresses⟩ : s.mote2.flow .inflow = 39857 ∧
      s.toMote3 = [] ∧ s.sampled = some 1 ∧ s.presses = 1 := by simpa using hs
  exact ⟨s, hrun, hflow, inflow_agreement hrun hdelivered (by rw [hsampled, hpresses])⟩

end Demo

end DamMonitoring.Deployment
