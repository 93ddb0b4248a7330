/-
DamMonitoring.Deployment.ClosedLoop — from the water to the gates and back.

mote-3 publishes the level of the simulated water, the Collector stores
it, the Controller reads it in a cycle and commands the gates of
`mote-1`, and what it registers is published for mote-3, whose water then
flows through the gates as they are. Every message may take its time, on
the way to the Collector and on the way back; nothing is lost, nobody
gives commands, and `mote-1` does not boot again.

  §1 one cycle of a Controller at work
  §2 the parties
  §3 what the Collector stores
  §4 what stays true of the parties
-/
import DamMonitoring.Collector.Senml
import DamMonitoring.Controller.AlarmTheorems
import DamMonitoring.Controller.Freshness
import DamMonitoring.Deployment.Telling
import DamMonitoring.Motes.Draining

namespace DamMonitoring.Deployment

open Program Java Persistence Collector Controller
open ControlLogic AutomaticControlUnit
open Motes hiding maxInflow

/-! ## §1 One cycle -/

/-- Registry, gates and alarms are in agreement, and the gates are left to
the Controller. -/
structure AtWork (host : String) (w : World ℚ) : Prop where
  deployed : Deployed w.resources
  hosts : ∃ m, Hosts host m w
  gates : GatesReady w
  alarms : AlarmsAgree w
  auto : w.mode = .AUTO
  ordered : w.thresholds.Ordered

variable {host : String} {maxStale : Int} {s : State ℚ} {l i o : ℚ}

/-- The world after a cycle does not depend on the log. -/
theorem faultFreeRun_world (maxStale : Int) (s : State ℚ) :
    (faultFreeRun maxStale s).world = afterCycle maxStale s.world := by
  have hanswers : ∀ fault a (s s' : State ℚ), s.world = s'.world →
      (handler .scheduler fault a s).1 = (handler .scheduler fault a s').1 ∧
        (handler .scheduler fault a s).2.world = (handler .scheduler fault a s').2.world := by
    intro fault a s s' h
    simp only [handler, h, and_self]
  have hstart : s.world = (State.mk s.world []).world := rfl
  exact (Contract.exec_related (R := fun s s' : State ℚ => s.world = s'.world) hanswers _ _
    hstart).2

/-- A cycle writes no measurement and no parameter. -/
structure SameData (w w' : World ℚ) : Prop where
  collation : w'.collation = w.collation
  waterLevels : w'.waterLevels = w.waterLevels
  flowRates : w'.flowRates = w.flowRates
  thresholds : w'.thresholds = w.thresholds
  mode : w'.mode = w.mode
  clock : w'.clock = w.clock

theorem keeps_sameData_perform (w : World ℚ) (t : Thread) {a : Action ℚ}
    (ha : (∃ uri payload, a = .clientPut uri payload) ∨ (∃ name value, a = .updateValue name value) ∨
      a.isSilent = true) :
    (under t fun _ => .none).Keeps (ε := JException) (fun s => SameData w s.world) (perform a) := by
  refine keeps_perform fun s hs => ?_
  rcases ha with ⟨uri, payload, rfl⟩ | ⟨name, value, rfl⟩ | ha
  · obtain ⟨devices, hput⟩ := @World.clientPut_frame ℚ s.world uri payload .none
    have hworld : (handler t .none (.clientPut uri payload) s).2.world =
      { s.world with devices } := hput
    rw [hworld]
    exact ⟨hs.collation, hs.waterLevels, hs.flowRates, hs.thresholds, hs.mode, hs.clock⟩
  · exact ⟨hs.collation, hs.waterLevels, hs.flowRates, hs.thresholds, hs.mode, hs.clock⟩
  · cases a <;> first | exact hs | cases ha

theorem cycle_sameData (maxStale : Int) (s : State ℚ) :
    SameData s.world (faultFreeRun maxStale s).world := by
  have hsilent : Silent (under .scheduler fun _ => .none) fun s' : State ℚ =>
      SameData s.world s'.world :=
    fun a ha => keeps_sameData_perform s.world .scheduler (.inr (.inr ha))
  have hput : ∀ uri payload, (under Thread.scheduler fun _ => .none).Keeps (ε := JException)
      (fun s' : State ℚ => SameData s.world s'.world) (perform (.clientPut uri payload)) :=
    fun uri payload => keeps_sameData_perform s.world .scheduler (.inl ⟨uri, payload, rfl⟩)
  have hwrite : ∀ name value, (under Thread.scheduler fun _ => .none).Keeps (ε := JException)
      (fun s' : State ℚ => SameData s.world s'.world) (perform (.updateValue name value)) :=
    fun name value => keeps_sameData_perform s.world .scheduler (.inr (.inl ⟨name, value, rfl⟩))
  refine run_of_safe (Q := fun _ s' => SameData s.world s'.world) ?_
  refine keeps_run hsilent maxStale (fun w i o => ?_) s ⟨rfl, rfl, rfl, rfl, rfl, rfl⟩
  refine keeps_actuate hsilent w i o (fun status => ?_) fun name next _ => ?_
  · exact keeps_setAlarmStatus hsilent status fun alarm =>
      keeps_updateAlarm hsilent status alarm (fun uri => hput uri _) (hwrite _ _)
  · exact keeps_updateGate hsilent name next (fun uri _ => hput uri _) fun _ => hwrite name _

/-- The registry knows a level for each gate. -/
theorem AtWork.values {w : World ℚ} (h : AtWork host w) (o : Outflow) :
    ∃ v, w.resources.value o.name = some v := by
  obtain ⟨r, hr, hname⟩ := h.deployed.outflows o
  obtain ⟨-, c, -, hvalue, -⟩ := h.gates r hr
  exact ⟨c, by rw [← hname, ResourceTable.value_of_mem (ResourceTable.mem_of_gate hr), hvalue]⟩

theorem Deployed.of_rows {t t' : ResourceTable} (h : Deployed t)
    (hrows : t'.rows.map unvalued = t.rows.map unvalued) : Deployed t' where
  gates r hr := by
    obtain ⟨q, hq, hname, -⟩ := gates_of_rows hrows hr
    exact hname ▸ h.gates q hq
  outflows o := by
    obtain ⟨r, hr, hname⟩ := h.outflows o
    obtain ⟨q, hq, hname', -⟩ := gates_of_rows hrows.symm hr
    exact ⟨q, hq, hname'.trans hname⟩
  alarms r hr o := by
    obtain ⟨q, hq, hname, -⟩ := ofType_of_rows hrows hr
    exact hname ▸ h.alarms q hq o

theorem measured_of_inputs {w : World ℚ} (h : cycleInputs maxStale w = some (l, i, o)) :
    Measured maxStale w l i o := by
  have hrecent := recent_of_inputs h
  obtain ⟨inflow, hinflow, h⟩ := Option.bind_eq_some_iff.mp h
  obtain ⟨sum, hsum, h⟩ := Option.bind_eq_some_iff.mp h
  obtain ⟨m, hm, h⟩ := Option.bind_eq_some_iff.mp h
  split at h
  · cases h
  · cases h
    exact ⟨⟨m, hm, rfl, hrecent m hm⟩, ⟨inflow, hinflow, rfl⟩, hsum⟩

/-- An alarm is registered after a cycle as it was before. -/
theorem alarms_of_rows {w w' : World ℚ} {b : Bool}
    (hrows : w'.resources.rows.map unvalued = w.resources.rows.map unvalued)
    (h : ∀ r ∈ w.resources.alarms, AlarmAt b r w') :
    ∀ r ∈ w'.resources.alarms, r.value = some (statusValue b) ∧ w'.alarmState r.uri = some b := by
  intro r' hr'
  obtain ⟨r, hr, hname, -, huri⟩ := ofType_of_rows hrows hr'
  obtain ⟨-, hvalue, hstate⟩ := h r hr
  rw [hname, ResourceTable.value_of_mem (ResourceTable.mem_of_alarm hr')] at hvalue
  exact ⟨hvalue, huri ▸ hstate⟩

/-- **A Controller at work stays at work.** -/
theorem AtWork.cycle (h : AtWork host s.world) (maxStale : Int) :
    AtWork host (faultFreeRun maxStale s).world := by
  obtain ⟨m, hm⟩ := h.hosts
  have hdata := cycle_sameData maxStale s
  have hrows : (faultFreeRun maxStale s).world.resources.rows.map unvalued =
      s.world.resources.rows.map unvalued := runWith_rows (fun _ => Fault.none) maxStale s
  have hhosts := (cycle_tells h.deployed hm h.values maxStale).hosts
  have hgates : GatesReady (faultFreeRun maxStale s).world ∧
      AlarmsAgree (faultFreeRun maxStale s).world := by
    cases hin : cycleInputs maxStale s.world with
    | none =>
      have hquiet := runWith_quiet faultFree_answering hin
      rw [faultFreeRun, hquiet.world]
      exact ⟨h.gates, h.alarms⟩
    | some inputs =>
      obtain ⟨l, i, o⟩ := inputs
      obtain ⟨out, hcontrolled⟩ := runWith_controlled faultFree_answering hin
      refine ⟨?_, fun r hr => ⟨_, alarms_of_rows hrows (hcontrolled.alarms_at h.alarms) r hr⟩⟩
      rw [faultFreeRun_world]
      exact cycle_gatesReady h.gates h.alarms.ready h.auto h.ordered (measured_of_inputs hin)
  exact ⟨h.deployed.of_rows hrows, hhosts, hgates.1, hgates.2, hdata.mode ▸ h.auto,
    hdata.thresholds ▸ h.ordered⟩

/-- Every gate is open, and every alarm is on. -/
structure Floodgates (w : World ℚ) : Prop where
  gates : ∀ r ∈ w.resources.gates, r.value = some FULL_OPEN ∧ w.level r.uri = some FULL_OPEN
  alarms : ∀ r ∈ w.resources.alarms, w.alarmState r.uri = some true

/-- **A cycle that measures a flood** opens every gate. -/
theorem AtWork.floodgates (h : AtWork host s.world) (hm : Measured maxStale s.world l i o)
    (hflood : s.world.thresholds.safe < l) : Floodgates (faultFreeRun maxStale s).world where
  gates r' hr' := by
    have hrows : (faultFreeRun maxStale s).world.resources.rows.map unvalued =
        s.world.resources.rows.map unvalued := runWith_rows (fun _ => Fault.none) maxStale s
    obtain ⟨r, hr, hname, -, huri⟩ := gates_of_rows hrows hr'
    obtain ⟨-, c, -, hvalue, -⟩ := h.gates r hr
    have hopen := cycle_gateAt h.gates h.alarms.ready h.auto h.ordered hm
      (GateAt.of_mem h.gates hr hvalue)
    have htop : (law s.world.thresholds h.ordered).opening l (i - o) (isEmergencyGate r) c =
        FULL_OPEN := if_pos hflood
    rw [htop, ← faultFreeRun_world] at hopen
    obtain ⟨hregistered, hlevel⟩ := hopen.shown
    rw [hname, ResourceTable.value_of_mem (ResourceTable.mem_of_gate hr')] at hregistered
    exact ⟨hregistered, huri ▸ hlevel⟩
  alarms := by
    obtain ⟨out, hcontrolled⟩ := runWith_controlled faultFree_answering hm.cycleInputs
    have hon := hcontrolled.alarms_at h.alarms
    rw [decide_eq_true hflood] at hon
    exact fun r hr => (alarms_of_rows (runWith_rows (fun _ => Fault.none) maxStale s) hon r hr).2

/-- Where no PUT went to a gate, nothing has been published. -/
theorem Tells.silent {s₀ : State ℚ} {sent : List (Uri × ObjectNode)} (h : Tells host s₀ s)
    (hputs : s.puts = sent ++ s₀.puts) (hnone : gatePuts host sent = []) :
    published s = published s₀ := by
  obtain ⟨messages, sent', hpublished, hputs', hcount, -⟩ := h.sent
  obtain rfl : sent' = sent := List.append_cancel_right (hputs'.symm.trans hputs)
  rw [hnone, List.length_nil, Nat.le_zero, List.length_eq_zero_iff] at hcount
  rw [hpublished, hcount, List.append_nil]

/-- No alarm is behind the URI of a gate. -/
theorem AtWork.alarm_ne_gate {w : World ℚ} (h : AtWork host w) {r : Resource}
    (hr : r ∈ w.resources.alarms) (o : Outflow) : r.uri ≠ gateUri host o := by
  obtain ⟨m, hm⟩ := h.hosts
  obtain ⟨q, hq, hname⟩ := h.deployed.outflows o
  have huri : q.uri = gateUri host o := by
    have hrow := hm.rows o
    rw [← hname, ResourceTable.uri_of_mem (ResourceTable.mem_of_gate hq)] at hrow
    exact Option.some.inj hrow
  exact huri ▸ (ResourceTable.gate_distinct_alarm hq hr).2.symm

/-- **A cycle that finds every gate as it wants it** publishes nothing. -/
theorem AtWork.cycle_silent (h : AtWork host s.world) (maxStale : Int)
    (hsame : ∀ r ∈ s.world.resources.gates,
      (faultFreeRun maxStale s).world.resources.value r.name = s.world.resources.value r.name) :
    published (faultFreeRun maxStale s) = published s := by
  obtain ⟨m, hm⟩ := h.hosts
  have htells := cycle_tells h.deployed hm h.values maxStale
  cases hin : cycleInputs maxStale s.world with
  | none =>
    have hquiet := runWith_quiet faultFree_answering hin
    exact htells.silent (hquiet.puts.trans (List.nil_append _).symm) rfl
  | some inputs =>
    obtain ⟨l, i, o⟩ := inputs
    have hlaw := faultFreeRun_followsLaw maxStale h.ordered (measured_of_inputs hin)
      h.alarms.ready fun r hr => by
        obtain ⟨c, -, hready⟩ := h.gates.gateReady hr
        exact ⟨c, c, hready⟩
    obtain ⟨sent, hsent, hputs⟩ := hlaw.puts
    refine htells.silent hsent (List.filter_eq_nil_iff.mpr fun p hp => ?_)
    rcases hputs p hp with ⟨r, hr, huri, -⟩ | ⟨r, hr, -, hmoved⟩
    · simp [huri, h.alarm_ne_gate hr]
    · exact absurd (hsame r hr) hmoved

/-- The measurements and the time are nothing to the actuators. -/
theorem AtWork.data {w : World ℚ} (h : AtWork host w) (waterLevels : List (WaterLevel ℚ))
    (flowRates : List (FlowRate ℚ)) (clock : Int) :
    AtWork host { w with waterLevels, flowRates, clock } := by
  obtain ⟨m, hm⟩ := h.hosts
  exact ⟨h.deployed, ⟨m, hm.rows, hm.devices⟩, h.gates, h.alarms, h.auto, h.ordered⟩

/-! ## §2 The parties -/

/-- What does not change while the parties run. `addr` is the address of
mote-3, `readValue` what the Collector reads messages with. -/
structure Site where
  host : String
  maxStale : Int
  settings : Settings
  addr : LinkAddr
  readValue : String → Payload ℚ
  reads : Reads id readValue

/-- `reports` are the levels that mote-3 has published and the Collector
has not had, oldest first. -/
structure Loop where
  plant : Plant ℚ
  reports : List Int
  subscriber : Subscriber ℚ

namespace Loop

abbrev world (s : Loop) : World ℚ := s.plant.controller.world

abbrev sensor (s : Loop) : WaterLevelSensor := s.plant.sensor

/-- The Collector handles a message, and the Controller reads the tables
it has written. -/
def collect (site : Site) (d : Delivery ℚ) (s : Loop) : Loop :=
  let subscriber := messageArrived site.settings d s.subscriber
  let waterLevels := subscriber.waterLevel
  let flowRates := subscriber.flowRate
  { s with
    subscriber
    plant := { s.plant with
      controller := ⟨{ s.world with waterLevels, flowRates }, s.plant.controller.log⟩ } }

/-- The message about a level. -/
def report (site : Site) (level : Int) (s : Loop) : Delivery ℚ :=
  delivery "water-level" (site.readValue (mote3Message site.addr level)) s.world.clock
    fun _ => s.world.clock

inductive Event where
  | tick (random₁ random₂ : Rand)
  /-- mote-3 is told of the inflow. -/
  | inflow (level : Int) (keyBuf : Motes.Channel → List Char)
  | publish
  | process
  /-- The Collector handles a message on the topic flow-rate. -/
  | processFlowRate (payload : Payload ℚ) (save : Nat → Save)
  | cycle
  | deliver (keyBuf : Motes.Channel → List Char)
  | wait (milliseconds : Nat)

def step (site : Site) (s : Loop) : Event → Option Loop
  | .tick random₁ random₂ =>
    (s.plant.step site.host (.tick random₁ random₂)).map fun plant => { s with plant }
  | .inflow level keyBuf =>
    let sensor := s.sensor.handleMessage ⟨(gateMessage "inflow" level).tokens, keyBuf, saturate⟩
    some { s with plant := { s.plant with sensor } }
  | .publish => some { s with reports := s.reports ++ [s.sensor.waterLevel] }
  | .process =>
    match s.reports with
    | [] => none
    | level :: reports => some (collect site (s.report site level) { s with reports })
  | .processFlowRate payload save =>
    some (s.collect site ⟨"flow-rate", payload, s.world.clock, fun _ => s.world.clock, save⟩)
  | .cycle =>
    let controller := faultFreeRun site.maxStale s.plant.controller
    some { s with plant := { s.plant with controller } }
  | .deliver keyBuf =>
    (s.plant.step site.host (.deliver keyBuf)).map fun plant => { s with plant }
  | .wait milliseconds =>
    let clock := s.world.clock + milliseconds
    let controller := ⟨{ s.world with clock }, s.plant.controller.log⟩
    some { s with plant := { s.plant with controller } }

end Loop

/-! ## §3 What the Collector stores -/

section Tables

variable {F : Type} {c : Settings} {sub sub' : Subscriber F}

/-- A message on another topic stores no level. -/
theorem waterLevel_of_topic_ne {d : Delivery F} (h : d.topic ≠ "water-level") (c : Settings)
    (sub : Subscriber F) : (messageArrived c d sub).waterLevel = sub.waterLevel := by
  have hkeeps : ∀ {vs : List (Visit F)} {s s' : Subscriber F}, Path c s vs s' →
      (∀ v ∈ vs, v.delivery = d) → s'.waterLevel = s.waterLevel := by
    intro vs s s' hpath hvs
    induction hpath with
    | nil => rfl
    | @cons v vs s' hpath ih =>
      rw [ih fun v hv => hvs v (List.mem_cons_of_mem _ hv)]
      rcases v.after_cases c with hsame | ⟨m, x, -, hx, hafter⟩
      · rw [hsame]
      · have htopic := hx.topic
        rw [hvs v List.mem_cons_self] at htopic
        cases hrow : x.row with
        | flowRate row => simp [hafter, Subscriber.waterLevel, hrow]
        | waterLevel row =>
          rw [hrow] at htopic
          exact absurd htopic.symm h
  exact hkeeps (d.path_visits c sub) fun v hv => Delivery.visits_delivery hv

/-- No message takes away the flow rates that a cycle needs. -/
theorem flowsRecorded_messageArrived {col : Collation} {d : Delivery ℚ} {sub : Subscriber ℚ}
    (h : FlowsRecorded col sub.flowRate) :
    FlowsRecorded col (messageArrived c d sub).flowRate := by
  obtain ⟨added, hadded⟩ := (d.path_visits c sub).stored_suffix
  have htable : sub.flowRate <:+ (messageArrived c d sub).flowRate := by
    unfold Subscriber.flowRate
    rw [← hadded, List.filterMap_append]
    exact List.suffix_append _ _
  obtain ⟨rows, hrows⟩ := htable
  rw [← hrows]
  simp only [FlowsRecorded, channelRows, outflowRows, List.filter_append, ne_eq,
    List.append_eq_nil_iff] at h ⊢
  exact ⟨fun hnil => h.1 hnil.2, fun hnil => h.2 hnil.2⟩

end Tables

namespace Loop

variable {site : Site} {s s' : Loop}

/-- Whether the Collector would hold back a level now. -/
def held (site : Site) (s : Loop) : Bool :=
  s.subscriber.lastRecord.holds (s.world.clock - site.settings.period)
    (urn site.addr ++ "water-level")

/-- A level that is held back changes nothing. -/
theorem messageArrived_of_held {level : Int} (hlevel : 0 ≤ level ∧ level ≤ maxWaterLevel)
    (h : s.held site = true) :
    messageArrived site.settings (s.report site level) s.subscriber = s.subscriber := by
  have hlong : maxWaterLevel < 2 ^ 31 := by decide
  rw [report, site.reads.mote3 site.addr ⟨hlevel.1, by omega⟩]
  have hkey : concat (some (urn site.addr)) (some "water-level") =
      urn site.addr ++ "water-level" := rfl
  have hheld : s.subscriber.lastRecord.holds (s.world.clock - site.settings.period)
      (urn site.addr ++ "water-level") = true := h
  simp [messageArrived, delivery, Delivery.turnsOf, measured, rounds, Collector.round, hkey,
    Delivery.minNextTime, hheld]

/-- A level that is not held back is stored, with the time of the
Collector. -/
theorem waterLevel_of_not_held {level : Int}
    (hlevel : 0 ≤ level ∧ level ≤ maxWaterLevel) (h : s.held site = false) :
    ∃ id, (messageArrived site.settings (s.report site level) s.subscriber).waterLevel =
      ⟨id, site.settings.datetime s.world.clock, (level / 1000 : ℚ)⟩ :: s.subscriber.waterLevel := by
  have hlong : maxWaterLevel < 2 ^ 31 := by decide
  have hstored := mote3_stored (c := site.settings) site.reads site.addr (n := level)
    ⟨hlevel.1, by omega⟩ s.world.clock (fun _ => s.world.clock) h
  refine ⟨s.subscriber.waterLevelId, ?_⟩
  unfold Subscriber.waterLevel report
  rw [hstored]
  rfl

/-! ## §4 What stays true -/

/-- The Controller is at work with the thresholds `θ`, reads what the
Collector has written, and has flow rates to read; what is on its way
brings the plant the registered levels. -/
structure Sound (site : Site) (θ : Thresholds ℚ) (s : Loop) : Prop where
  work : AtWork site.host s.world
  thresholds : s.world.thresholds = θ
  recorded : FlowsRecorded s.world.collation s.world.flowRates
  waterLevels : s.world.waterLevels = s.subscriber.waterLevel
  flowRates : s.world.flowRates = s.subscriber.flowRate
  past : ∀ row ∈ s.world.waterLevels, row.timestamp ≤ site.settings.datetime s.world.clock
  delivered : s.plant.delivered ≤ (published s.plant.controller).length
  flows : FlowsAre s.world (Plant.told s.sensor.flow s.plant.pending)
  tracks : ∃ n, s.sensor.Tracks n ∧ ∀ i, 0 ≤ n i ∧ n i ≤ 100
  level : 0 ≤ s.sensor.waterLevel ∧ s.sensor.waterLevel ≤ maxWaterLevel
  reports : ∀ level ∈ s.reports, 0 ≤ level ∧ level ≤ maxWaterLevel

variable {θ : Thresholds ℚ}

/-- A tick reports a level in range, whatever it does to the reservoir. -/
theorem tick_level {m m' : WaterLevelSensor} {random₁ random₂ : Rand}
    (h : m.simulateReadWaterLevel random₁ random₂ = some m') :
    0 ≤ m'.waterLevel ∧ m'.waterLevel ≤ maxWaterLevel := by
  have hdivisor : m.balanceFlow ≠ -1000 := by
    intro hzero
    rw [WaterLevelSensor.simulateReadWaterLevel_eq_none.mpr (by omega)] at h
    cases h
  rw [WaterLevelSensor.simulateReadWaterLevel_eq_some random₁ random₂ hdivisor] at h
  obtain rfl := Option.some.inj h
  have hmax : maxWaterLevel = 64000 := rfl
  dsimp only
  split <;> omega

/-- What is on its way after a cycle. -/
theorem pending_cycle {plant : Plant ℚ} {controller : State ℚ} {messages : List (String × Int)}
    (h : plant.delivered ≤ (published plant.controller).length)
    (hpublished : published controller = published plant.controller ++ messages) :
    ({ plant with controller } : Plant ℚ).pending = plant.pending ++ messages := by
  simp only [Plant.pending, hpublished]
  exact List.drop_append_of_le_length h

/-- What a gate is told depends on its own flow only. -/
theorem told_congr {flow flow' : Motes.Channel → Int} {i : Motes.Channel} (h : flow i = flow' i)
    (messages : List (String × Int)) :
    Plant.told flow messages i = Plant.told flow' messages i := by
  induction messages generalizing flow flow' with
  | nil => exact h
  | cons message messages ih =>
    refine ih ?_
    simp only [WaterLevelSensor.told, h]

/-- **The sensor's part of a step.** -/
theorem Sound.sensor {sensor : WaterLevelSensor} (h : s.Sound site θ)
    (hflows : FlowsAre s.world (Plant.told sensor.flow s.plant.pending))
    (htracks : ∃ n, sensor.Tracks n ∧ ∀ i, 0 ≤ n i ∧ n i ≤ 100)
    (hlevel : 0 ≤ sensor.waterLevel ∧ sensor.waterLevel ≤ maxWaterLevel) :
    Sound site θ { s with plant := { s.plant with sensor } } where
  work := h.work
  thresholds := h.thresholds
  recorded := h.recorded
  waterLevels := h.waterLevels
  flowRates := h.flowRates
  past := h.past
  delivered := h.delivered
  flows := hflows
  tracks := htracks
  level := hlevel
  reports := h.reports

/-- A message leaves the percentages in range. -/
theorem tracks_message {m : WaterLevelSensor} (chunk : Chunk)
    (h : ∃ n, m.Tracks n ∧ ∀ i, 0 ≤ n i ∧ n i ≤ 100) :
    ∃ n, (m.handleMessage chunk).Tracks n ∧ ∀ i, 0 ≤ n i ∧ n i ≤ 100 := by
  obtain ⟨n, htracks, hn⟩ := h
  refine ⟨_, htracks.message chunk, fun i => ?_⟩
  rw [WaterLevelSensor.levels_eq]
  cases hread : WaterLevelSensor.reading i (.message chunk) with
  | none => exact hn i
  | some level => exact WaterLevelSensor.reading_range hread

theorem Sound.tick {random₁ random₂ : Rand} (h : s.Sound site θ)
    (hstep : step site s (.tick random₁ random₂) = some s') : s'.Sound site θ := by
  obtain ⟨plant, hplant, rfl⟩ := Option.map_eq_some_iff.mp hstep
  obtain ⟨sensor, htick, rfl⟩ := Option.map_eq_some_iff.mp hplant
  have hframe := WaterLevelSensor.simulateReadWaterLevel_frame htick
  refine h.sensor ?_ ?_ (tick_level htick)
  · rw [hframe]
    exact h.flows
  · obtain ⟨n, htracks, hn⟩ := h.tracks
    refine ⟨n, ?_, hn⟩
    rw [hframe]
    exact ⟨htracks.flow_eq, htracks.balance_eq⟩

theorem Sound.inflow (h : s.Sound site θ) (level : Int) (keyBuf : Motes.Channel → List Char) :
    Sound site θ { s with plant := { s.plant with
      sensor := s.sensor.handleMessage
        ⟨(gateMessage "inflow" level).tokens, keyBuf, saturate⟩ } } := by
  refine h.sensor (fun o => ?_) (tracks_message _ h.tracks) ?_
  · obtain ⟨v, hv, hflow⟩ := h.flows o
    refine ⟨v, hv, Eq.trans (told_congr ?_ _) hflow⟩
    have hother : "inflow" ≠ (channel o).gate := gate_channel o ▸ (by cases o <;> decide)
    rw [WaterLevelSensor.handleMessage_gateMessage, WaterLevelSensor.told,
      if_neg fun h => hother h.1]
  · rw [(WaterLevelSensor.handleMessage_frame _ _).1]
    exact h.level

theorem Sound.deliver {keyBuf : Motes.Channel → List Char} (h : s.Sound site θ)
    (hstep : step site s (.deliver keyBuf) = some s') : s'.Sound site θ := by
  obtain ⟨plant, hplant, rfl⟩ := Option.map_eq_some_iff.mp hstep
  simp only [Plant.step] at hplant
  split at hplant
  · cases hplant
  · next gate level rest hqueue =>
    obtain rfl := Option.some.inj hplant
    have hrest : (published s.plant.controller).drop (s.plant.delivered + 1) = rest := by
      rw [← List.tail_drop]
      exact congrArg List.tail hqueue
    have hlt : s.plant.delivered + 1 ≤ (published s.plant.controller).length := by
      have hpending : s.plant.pending ≠ [] := by simp [hqueue]
      have hle : ¬(published s.plant.controller).length ≤ s.plant.delivered := by
        simpa [Plant.pending, List.drop_eq_nil_iff] using hpending
      omega
    refine ⟨h.work, h.thresholds, h.recorded, h.waterLevels, h.flowRates, h.past, hlt, ?_,
      tracks_message _ h.tracks, ?_, h.reports⟩
    · have hflows := h.flows
      rw [hqueue] at hflows
      simp only [Loop.sensor, Plant.pending, hrest, WaterLevelSensor.handleMessage_gateMessage]
      exact hflows
    · simp only [Loop.sensor, (WaterLevelSensor.handleMessage_frame _ _).1]
      exact h.level

/-- **A cycle keeps the plant right**, whatever it measures. -/
theorem Sound.cycle (h : s.Sound site θ) :
    Sound site θ { s with plant := { s.plant with
      controller := faultFreeRun site.maxStale s.plant.controller } } := by
  obtain ⟨m, hm⟩ := h.work.hosts
  have hdata := cycle_sameData site.maxStale s.plant.controller
  have htells := cycle_tells h.work.deployed hm h.work.values site.maxStale
  obtain ⟨messages, -, hpublished, -, -, hflows⟩ := htells.sent
  refine ⟨AtWork.cycle h.work site.maxStale, hdata.thresholds.trans h.thresholds,
    ?_, hdata.waterLevels.trans h.waterLevels, hdata.flowRates.trans h.flowRates, ?_, ?_, ?_,
    h.tracks, h.level, h.reports⟩
  · simp only [Loop.world, hdata.flowRates, hdata.collation]
    exact h.recorded
  · simp only [Loop.world, hdata.waterLevels, hdata.clock]
    exact h.past
  · have hlength := h.delivered
    simp only [hpublished, List.length_append]
    omega
  · rw [pending_cycle h.delivered hpublished, Plant.told, List.foldl_append]
    exact hflows _ h.flows

theorem Sound.wait (h : s.Sound site θ) (milliseconds : Nat) :
    Sound site θ { s with plant := { s.plant with
      controller := ⟨{ s.world with clock := s.world.clock + milliseconds },
        s.plant.controller.log⟩ } } where
  work := h.work.data _ _ _
  thresholds := h.thresholds
  recorded := h.recorded
  waterLevels := h.waterLevels
  flowRates := h.flowRates
  past row hrow := by
    refine (h.past row hrow).trans (site.settings.datetime_mono ?_)
    simp [Loop.world]
  delivered := h.delivered
  flows := h.flows
  tracks := h.tracks
  level := h.level
  reports := h.reports

theorem Sound.publish (h : s.Sound site θ) :
    Sound site θ { s with reports := s.reports ++ [s.sensor.waterLevel] } where
  work := h.work
  thresholds := h.thresholds
  recorded := h.recorded
  waterLevels := h.waterLevels
  flowRates := h.flowRates
  past := h.past
  delivered := h.delivered
  flows := h.flows
  tracks := h.tracks
  level := h.level
  reports level hlevel := by
    rcases List.mem_append.mp hlevel with hold | hnew
    · exact h.reports level hold
    · exact List.mem_singleton.mp hnew ▸ h.level

/-- **What the Collector stores** is in the past of the Controller. -/
theorem Sound.collect {d : Delivery ℚ} (h : s.Sound site θ)
    (hpast : ∀ row ∈ (messageArrived site.settings d s.subscriber).waterLevel,
      row.timestamp ≤ site.settings.datetime s.world.clock) :
    Sound site θ (s.collect site d) where
  work := h.work.data _ _ _
  thresholds := h.thresholds
  recorded := flowsRecorded_messageArrived (h.flowRates ▸ h.recorded)
  waterLevels := rfl
  flowRates := rfl
  past := hpast
  delivered := h.delivered
  flows := h.flows
  tracks := h.tracks
  level := h.level
  reports := h.reports

theorem Sound.process {level : Int} {reports : List Int} (h : s.Sound site θ)
    (hqueue : s.reports = level :: reports) :
    Sound site θ (Loop.collect site (s.report site level) { s with reports }) := by
  have hlevel := h.reports level (by simp [hqueue])
  have hrest : Sound site θ { s with reports } :=
    ⟨h.work, h.thresholds, h.recorded, h.waterLevels, h.flowRates, h.past, h.delivered, h.flows,
      h.tracks, h.level, fun l hl => h.reports l (by simp [hqueue, hl])⟩
  refine hrest.collect fun row hrow => ?_
  cases hheld : s.held site with
  | true =>
    rw [messageArrived_of_held hlevel hheld, ← h.waterLevels] at hrow
    exact h.past row hrow
  | false =>
    obtain ⟨id, htable⟩ := waterLevel_of_not_held hlevel hheld
    rw [htable, ← h.waterLevels] at hrow
    rcases List.mem_cons.mp hrow with rfl | hold
    · exact le_rfl
    · exact h.past row hold

theorem Sound.processFlowRate (h : s.Sound site θ) (payload : Payload ℚ) (save : Nat → Save) :
    Sound site θ (s.collect site
      ⟨"flow-rate", payload, s.world.clock, fun _ => s.world.clock, save⟩) := by
  refine h.collect fun row hrow => ?_
  rw [waterLevel_of_topic_ne (by simp), ← h.waterLevels] at hrow
  exact h.past row hrow

/-- **Every step keeps this.** -/
theorem Sound.step {e : Event} (h : s.Sound site θ) (hstep : step site s e = some s') :
    s'.Sound site θ := by
  cases e with
  | tick random₁ random₂ => exact h.tick hstep
  | inflow level keyBuf => exact Option.some.inj hstep ▸ h.inflow level keyBuf
  | publish => exact Option.some.inj hstep ▸ h.publish
  | process =>
    simp only [Loop.step] at hstep
    split at hstep
    · cases hstep
    · next level reports hqueue => exact Option.some.inj hstep ▸ h.process hqueue
  | processFlowRate payload save => exact Option.some.inj hstep ▸ h.processFlowRate payload save
  | cycle => exact Option.some.inj hstep ▸ h.cycle
  | deliver keyBuf => exact h.deliver hstep
  | wait milliseconds => exact Option.some.inj hstep ▸ h.wait milliseconds

/-- **The loop stays in agreement**, whatever is measured and in whatever
order things happen: registry and device show the same level of each gate
and the same state of each alarm, and once the messages on their way are
in, the simulated water flows through gates of the registered levels. -/
theorem loop_agrees {es : List Event} (h : s.Sound site θ)
    (hrun : Machine.run (step site) s es = some s') :
    GatesAgree s'.world ∧ AlarmsAgree s'.world ∧ ∀ o : Outflow, ∃ v, InRange v ∧
      s'.world.resources.value o.name = some v ∧
      Plant.told s'.sensor.flow s'.plant.pending (channel o) = v * (channel o).maxFlow := by
  have hsound : s'.Sound site θ :=
    Machine.run_invariant (fun s e s' h hstep => h.step hstep) h hrun
  refine ⟨fun r hr => ?_, hsound.work.alarms, fun o => ?_⟩
  · obtain ⟨-, c, -, hvalue, hlevel⟩ := hsound.work.gates r hr
    exact ⟨c, hvalue, hlevel⟩
  · obtain ⟨r, hr, hname⟩ := hsound.work.deployed.outflows o
    obtain ⟨-, c, hrange, hvalue, -⟩ := hsound.work.gates r hr
    obtain ⟨v, hv, hflow⟩ := hsound.flows o
    have hregistered : s'.world.resources.value o.name = some c := by
      rw [← hname, ResourceTable.value_of_mem (ResourceTable.mem_of_gate hr), hvalue]
    obtain rfl : c = v := Option.some.inj (hregistered.symm.trans hv)
    exact ⟨c, hrange, hv, hflow⟩

def demoSite : Site where
  host := demoAddr
  maxStale := 5
  settings := ⟨3, 0⟩
  addr := zeros
  readValue := readRecord id
  reads := readRecord_reads id

/-- The inflow is at its maximum, and the water just below the mark. -/
def filling : WaterLevelSensor where
  balanceFlow := 80000
  waterLevel := 60000
  reservoir := 61445000
  flow i := if i = .inflow then 80000 else 0
  newGateValue := 0
  btnRelease := true

/-- An inflow and an outflow have been stored, but no level. -/
def beforeFlood : Loop :=
  let subscriber : Subscriber ℚ := ⟨Control.Limiter.empty,
    [storedFlowRate ⟨3, 0⟩ 2 (urn zeros) "outflow-1" 0 0,
      storedFlowRate ⟨3, 0⟩ 1 (urn zeros) "inflow" 0 80], 3, 1⟩
  let waterLevels := subscriber.waterLevel
  let flowRates := subscriber.flowRate
  ⟨⟨⟨{ demoWorld .AUTO 0 0 false 50 20 20 with waterLevels, flowRates }, []⟩, 0, filling⟩, [],
    subscriber⟩

theorem demo_atWork : AtWork demoAddr (demoWorld .AUTO 0 0 false 50 20 20) where
  deployed := by
    refine ⟨fun r hr => ?_, fun o => ?_, fun r hr => ?_⟩
    · rcases demo_gate_cases hr with ⟨rfl, -⟩ | ⟨rfl, -⟩
      · exact ⟨.outflow1, rfl⟩
      · exact ⟨.outflow2, rfl⟩
    · have hgates : (demoWorld .AUTO 0 0 false 50 20 20).resources.gates =
          [demoGate1 0, demoGate2 0] := demoTable_gates
      rw [hgates]
      cases o with
      | outflow1 => exact ⟨demoGate1 0, by simp, rfl⟩
      | outflow2 => exact ⟨demoGate2 0, by simp, rfl⟩
    · have halarms : (demoWorld .AUTO 0 0 false 50 20 20).resources.alarms = [demoAlarm false] :=
        demoTable_alarms
      rw [halarms, List.mem_singleton] at hr
      subst hr
      exact fun o => by cases o <;> decide
  hosts := ⟨_, Plant.closed_hosts.rows, Plant.closed_hosts.devices⟩
  gates := demo_gatesInLaw .AUTO false 50 20 20 ⟨le_rfl, by decide⟩ ⟨le_rfl, by decide⟩
  alarms := demo_alarmsAgree .AUTO 0 0 false 50 20 20
  auto := rfl
  ordered := demo_ordered

theorem beforeFlood_sound : beforeFlood.Sound demoSite demoThresholds where
  work := demo_atWork.data _ _ _
  thresholds := rfl
  recorded := by
    constructor <;> decide +kernel
  waterLevels := rfl
  flowRates := rfl
  past := by
    intro row hrow
    cases hrow
  delivered := Nat.le_refl 0
  flows := fun o => by cases o <;> exact ⟨0, rfl, rfl⟩
  tracks := ⟨fun i => if i = .inflow then 100 else 0,
    ⟨fun i => by cases i <;> rfl, rfl⟩, fun i => by cases i <;> decide⟩
  level := by decide
  reports := by
    intro level hlevel
    cases hlevel

/-- The water rises as fast as it can; its level is published, stored and
acted on, and both gates are open in the plant before the next tick. -/
def flood : List Event :=
  [.tick (Fin.last 65535) (Fin.last 65535), .publish, .process, .cycle, .deliver fun _ => [],
    .deliver fun _ => [], .tick (Fin.last 65535) (Fin.last 65535)]

theorem loop_agrees_demo : ∃ s, Machine.run (step demoSite) beforeFlood flood = some s ∧
    s.world.resources.value "outflow-1" = some 100 ∧ s.sensor.flow .outflow1 = 100000 := by
  have hruns : (Machine.run (step demoSite) beforeFlood flood).map (fun s =>
      (s.plant.pending, s.world.resources.value "outflow-1")) = some ([], some 100) := by
    decide +kernel
  obtain ⟨s, hrun, hs⟩ := Option.map_eq_some_iff.mp hruns
  obtain ⟨hpending, hvalue⟩ := Prod.mk.inj hs
  obtain ⟨-, -, hplant⟩ := loop_agrees beforeFlood_sound hrun
  obtain ⟨v, -, hv, hflow⟩ := hplant .outflow1
  obtain rfl : v = 100 := Option.some.inj (hv.symm.trans hvalue)
  rw [hpending] at hflow
  exact ⟨s, hrun, hvalue, hflow⟩

end Loop

end DamMonitoring.Deployment
