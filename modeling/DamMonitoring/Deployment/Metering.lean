/-
DamMonitoring.Deployment.Metering — the flows that the Controller measures.

The Controller sets gates and reads flows, and nothing tells it when the
flows it reads are those of its gates. A level reaches mote-2 as a
target, the flow follows by steps of its own and then stays in a band
around it, mote-2 publishes what the flow is at the time, and the
Collector drops what comes too soon after the last report.
`balance_measured` says how long that may take, and that afterwards the
inflow and the outflow of the next cycle are right up to the bands.

  §1 the parties
  §2 the flows of mote-2
  §3 the rows of the Collector
  §4 what every step keeps
  §5 what steps keep while no gate moves
  §6 what is measured
-/
import DamMonitoring.Deployment.ClosedLoop
import DamMonitoring.Deployment.Supply
import DamMonitoring.Motes.Ramp

namespace DamMonitoring.Deployment

open Program Java Persistence Collector Controller
open ControlLogic AutomaticControlUnit
open Motes hiding maxInflow

/-! ## §1 The parties -/

/-- The loop over mote-3, and mote-2. `heard` counts the messages of the
Controller that mote-2 has had, and `reports` are the flows that it has
published and the Collector has not had, oldest first. -/
structure Metered where
  loop : Loop
  heard : Nat
  mote2 : Mote2
  reports : List (Motes.Channel → Int)

namespace Metered

abbrev world (s : Metered) : World ℚ := s.loop.world

/-- The messages on their way to mote-2, oldest first. -/
def unheard (s : Metered) : List (String × Int) :=
  (published s.loop.plant.controller).drop s.heard

inductive Event where
  | loop (e : Loop.Event)
  | hear (keyBuf : Motes.Channel → List Char)
  /-- mote-2 hears what the Collector publishes. -/
  | hearInflow (level : Int) (keyBuf : Motes.Channel → List Char)
  | tick (random : Motes.Channel → Rand)
  | button (e : ButtonEvent)
  | publish
  | process

namespace Event

def isTick : Event → Bool
  | .tick _ => true
  | _ => false

def isProcess : Event → Bool
  | .process => true
  | _ => false

end Event

/-- The message of the mote at `addr` about its flows, handled now. -/
def arrival (addr : LinkAddr) (flow : Motes.Channel → Int) (s : Loop) : Arrival :=
  ⟨addr, .flows (flow .inflow) (flow .outflow1) (flow .outflow2), s.world.clock,
    fun _ => s.world.clock⟩

def step (site : Site) (addr : LinkAddr) (s : Metered) : Event → Option Metered
  | .loop e =>
    match e with
    | .processFlowRate _ _ => none  -- nobody else publishes flows
    | e => (s.loop.step site e).map fun loop => { s with loop }
  | .hear keyBuf =>
    match s.unheard with
    | [] => none
    | (gate, level) :: _ =>
      some { s with
        heard := s.heard + 1
        mote2 := s.mote2.handleMessage ⟨(gateMessage gate level).tokens, keyBuf, saturate⟩ }
  | .hearInflow level keyBuf =>
    some { s with
      mote2 := s.mote2.handleMessage ⟨(gateMessage "inflow" level).tokens, keyBuf, saturate⟩ }
  | .tick random => (s.mote2.simulateReadFlow random).map fun mote2 => { s with mote2 }
  | .button e => some { s with mote2 := s.mote2.button e }
  | .publish => some { s with reports := s.reports ++ [s.mote2.flow] }
  | .process =>
    match s.reports with
    | [] => none
    | flow :: reports =>
      some { s with
        loop := s.loop.collect site ((arrival addr flow s.loop).delivery site.readValue)
        reports }

end Metered

/-! ## §2 mote-2 -/

/-- The targets are those of percentages, and the flows are on their way
between them. -/
structure Flowing (m : Mote2) : Prop where
  regular : m.Regular
  tenth : Tenth (m.targetFlow .inflow)
  target_le : ∀ i, m.targetFlow i ≤ 100 * i.maxFlow
  flow_le : ∀ i, m.flow i ≤ 100 * i.maxFlow + 150

namespace Flowing

variable {m m' : Mote2}

theorem message (h : Flowing m) (chunk : Chunk) : Flowing (m.handleMessage chunk) := by
  obtain ⟨hflow, -, htarget⟩ := m.handleMessage_eq chunk
  refine ⟨h.regular.message chunk, ?_, fun i => ?_, fun i => hflow ▸ h.flow_le i⟩
  · rw [htarget, if_pos rfl]
    exact h.tenth
  · rw [htarget]
    split
    · next hi => exact hi ▸ h.target_le .inflow
    · split
      · next level haccepted =>
        have hrange := (Chunk.accepted_range haccepted).2
        have hpos := i.maxFlow_pos
        exact Int.mul_le_mul_of_nonneg_right hrange (by omega)
      · exact h.target_le i

theorem tick {random : Motes.Channel → Rand} (h : Flowing m)
    (hstep : m.simulateReadFlow random = some m') : Flowing m' := by
  obtain ⟨hread, hm'⟩ := Mote2.simulateReadFlow_eq_some hstep
  have htarget : m'.targetFlow = m.targetFlow := by rw [hm']
  refine ⟨h.regular.tick hstep, htarget ▸ h.tenth, fun i => htarget ▸ h.target_le i, fun i => ?_⟩
  have hle := h.target_le i
  obtain ⟨-, hband | ⟨h10, hlow, hclimb⟩⟩ :=
    readFlow_cases (h.regular.target_nonneg i) (h.regular.flow_nonneg i) (hread i)
  · have hedges := distance_eq_zero.mp hband
    omega
  · obtain ⟨-, hmost⟩ := ramp_bounds (random i) h10
    have hdistance : distance (m.flow i) (m.targetFlow i) = m.targetFlow i - 150 - m.flow i := by
      unfold distance
      rw [varThreshold_eq]
      omega
    omega

theorem button (h : Flowing m) (e : ButtonEvent) : Flowing (m.button e) := by
  have htenth := Mote2.button_tenth h.tenth e
  have hsteady := distance_eq_zero.mp (h.regular.button e).steady
  have hrange := htenth.range.2
  refine ⟨h.regular.button e, htenth, fun i => ?_, fun i => ?_⟩
  · by_cases hi : i = .inflow
    · subst hi
      simpa using hrange
    · exact (Mote2.button_other e m hi).2 ▸ h.target_le i
  · by_cases hi : i = .inflow
    · subst hi
      rw [Channel.maxFlow_inflow]
      omega
    · exact (Mote2.button_other e m hi).1 ▸ h.flow_le i

/-- What mote-2 publishes fits its message. -/
theorem ints (h : Flowing m) (i : Motes.Channel) : 0 ≤ m.flow i ∧ m.flow i < 2 ^ 31 := by
  have hle := h.flow_le i
  refine ⟨h.regular.flow_nonneg i, ?_⟩
  cases i with
  | inflow => rw [Channel.maxFlow_inflow] at hle; omega
  | outflow1 => rw [Channel.maxFlow_outflow1] at hle; omega
  | outflow2 => rw [Channel.maxFlow_outflow2] at hle; omega

end Flowing

/-- As many ticks take every flow into its band. -/
def ticksNeeded (m : Mote2) : Nat :=
  max ((distance (m.flow .outflow1) (m.targetFlow .outflow1) + 99) / 100).toNat
    ((distance (m.flow .outflow2) (m.targetFlow .outflow2) + 99) / 100).toNat

theorem Flowing.ticksNeeded_le {m : Mote2} (h : Flowing m) : ticksNeeded m ≤ 1000 := by
  have hfar : ∀ i, distance (m.flow i) (m.targetFlow i) ≤ 100000 := by
    intro i
    have hflow := h.flow_le i
    have htarget := h.target_le i
    have hpos := h.regular.flow_nonneg i
    have hpos' := h.regular.target_nonneg i
    have hmax : i.maxFlow ≤ 1000 := by cases i <;> decide
    unfold distance
    rw [varThreshold_eq]
    omega
  have h₁ := hfar .outflow1
  have h₂ := hfar .outflow2
  unfold ticksNeeded
  omega

theorem Flowing.distance_le {m : Mote2} (h : Flowing m) (i : Motes.Channel) :
    distance (m.flow i) (m.targetFlow i) ≤ 100 * ticksNeeded m := by
  unfold ticksNeeded
  cases i with
  | inflow =>
    rw [h.regular.steady]
    omega
  | outflow1 => omega
  | outflow2 => omega

/-- What mote-2 makes of a message about a gate. -/
theorem targetFlow_gateMessage (m : Mote2) (keyBuf : Motes.Channel → List Char) (gate : String)
    (level : Int) (o : Outflow) :
    (m.handleMessage ⟨(gateMessage gate level).tokens, keyBuf, saturate⟩).targetFlow (channel o) =
      WaterLevelSensor.told m.targetFlow gate level (channel o) := by
  have ho : channel o ≠ .inflow := by cases o <;> decide
  rw [(m.handleMessage_eq _).2.2, if_neg ho, accepted_gateMessage, WaterLevelSensor.told]
  by_cases h : gate = (channel o).gate ∧ 0 ≤ level ∧ level ≤ 100 <;> simp [h]

/-- It passes over the inflow. -/
theorem handleMessage_inflowMessage (m : Mote2) (keyBuf : Motes.Channel → List Char)
    (level : Int) :
    let m' := m.handleMessage ⟨(gateMessage "inflow" level).tokens, keyBuf, saturate⟩
    m'.flow = m.flow ∧ m'.targetFlow = m.targetFlow := by
  obtain ⟨hflow, -, htarget⟩ :=
    m.handleMessage_eq ⟨(gateMessage "inflow" level).tokens, keyBuf, saturate⟩
  refine ⟨hflow, funext fun i => ?_⟩
  rw [htarget, accepted_gateMessage]
  cases i with
  | inflow => rfl
  | outflow1 => rfl
  | outflow2 => rfl

/-! ## §3 Rows -/

section Rows

variable {site : Site} {Right : Motes.Channel × Int → Prop} {since : Int} {ms : List Arrival}
  {m : Arrival} {s t : Loop}

/-- The rows of the Collector come from the messages `ms`, each handled in
a moment of its own, and the flows of those handled after `since` are
right. -/
structure Filing (site : Site) (Right : Motes.Channel × Int → Prop) (since : Int)
    (ms : List Arrival) (s : Loop) : Prop where
  kept : Kept site.settings id ms s.subscriber
  written : Written site.settings s.subscriber
  punctual : ∀ m ∈ ms, ∀ k, m.clock k = m.now
  past : ∀ m ∈ ms, m.now ≤ s.world.clock
  right : ∀ m ∈ ms, since < m.now → ∀ v ∈ m.report.values, Right v

/-- A row was stored when its message was handled. -/
theorem Filing.clock_le (h : Filing site Right since ms s) {x : Stored ℚ}
    (hx : x ∈ s.subscriber.stored) : x.clock ≤ s.world.clock := by
  obtain ⟨m, hm, htraced⟩ := h.kept.traced x hx
  cases htraced with
  | flow recordId k hvalue => exact (h.punctual m hm k).le.trans (h.past m hm)
  | level recordId k hreport => exact (h.punctual m hm k).le.trans (h.past m hm)

/-- No message has been handled after now. -/
theorem Filing.anew (h : Filing site Right since ms s) (Right' : Motes.Channel × Int → Prop) :
    Filing site Right' s.world.clock ms s where
  kept := h.kept
  written := h.written
  punctual := h.punctual
  past := h.past
  right m hm hlate := absurd (h.past m hm) (not_le.mpr hlate)

/-- Time passes. -/
theorem Filing.later (h : Filing site Right since ms s)
    (hsubscriber : t.subscriber = s.subscriber) (hclock : s.world.clock ≤ t.world.clock) :
    Filing site Right since ms t where
  kept := hsubscriber ▸ h.kept
  written := hsubscriber ▸ h.written
  punctual := h.punctual
  past m hm := (h.past m hm).trans hclock
  right := h.right

/-- **One more message.** -/
theorem Filing.arrive (h : Filing site Right since ms s) (hperiod : 0 ≤ site.settings.period)
    (hints : m.report.Ints) (hnow : m.now = s.world.clock)
    (hclock : m.clock = fun _ => s.world.clock)
    (hright : since < m.now → ∀ v ∈ m.report.values, Right v)
    (hsubscriber : t.subscriber =
      messageArrived site.settings (m.delivery site.readValue) s.subscriber)
    (hclock' : t.world.clock = s.world.clock) :
    Filing site Right since (ms ++ [m]) t ∧
      (∀ x ∈ s.subscriber.stored, x ∈ t.subscriber.stored) ∧
      ∀ name ∈ m.report.names, Supplied site.settings t.subscriber m name := by
  have hregular : m.Regular := ⟨hints, fun n => by rw [hclock, hnow]⟩
  have hm : m ∈ ms ++ [m] := List.mem_append_right _ List.mem_cons_self
  obtain ⟨hkept, hstored, hsupplied⟩ :=
    (h.kept.more m).message site.reads hm hregular hperiod
  let d := m.delivery site.readValue
  have hclocks : ∀ turn ∈ d.turns, turn.clock = s.world.clock := by
    intro turn hturn
    unfold Delivery.turns at hturn
    split at hturn
    · obtain ⟨n, hn, rfl⟩ := List.mem_mapIdx.mp hturn
      exact congrFun hclock n
    · cases hturn
  have htimed : Timed (d.visits site.settings s.subscriber) := by
    have hvisits : ∀ v ∈ d.visits site.settings s.subscriber, v.turn.clock = s.world.clock :=
      fun v hv => hclocks _ ((d.visits_turns _ _).subset (List.mem_map_of_mem hv))
    refine ⟨List.pairwise_of_forall_mem_list fun v hv w hw => ?_, fun v hv => ?_⟩
    · exact ((hvisits v hv).trans (hvisits w hw).symm).le
    · rw [hvisits v hv, Delivery.visits_delivery hv]
      exact hnow.le
  have hwritten := ((d.path_visits site.settings s.subscriber).timed htimed
    (fun x hx v hv => (h.clock_le hx).trans
      (hclocks _ ((d.visits_turns _ _).subset (List.mem_map_of_mem hv))).ge)
    h.written fun v _ hw _ hpast => hw.after hpast).1
  rw [hsubscriber]
  refine ⟨⟨hsubscriber ▸ hkept, hsubscriber ▸ hwritten, fun m' hm' => ?_, fun m' hm' => ?_,
    fun m' hm' => ?_⟩, hstored, hsupplied⟩
  · rcases List.mem_append.mp hm' with hold | hnew
    · exact h.punctual m' hold
    · obtain rfl := List.mem_singleton.mp hnew
      exact fun k => by rw [hclock, hnow]
  · rw [hclock']
    rcases List.mem_append.mp hm' with hold | hnew
    · exact h.past m' hold
    · obtain rfl := List.mem_singleton.mp hnew
      exact hnow.le
  · rcases List.mem_append.mp hm' with hold | hnew
    · exact h.right m' hold
    · obtain rfl := List.mem_singleton.mp hnew
      exact hright

/-- **The newest row of a channel is right** once a message has been stored
a second after `since`. -/
theorem Filing.newest_right (h : Filing site Right since ms s)
    (hsupplied : ∀ i : Motes.Channel, Supplied site.settings s.subscriber m i.gate)
    (hlate : since + site.settings.period + 1000 ≤ m.now) {row : FlowRate ℚ}
    {col : Collation}
    (hrow : row ∈ s.subscriber.flowRate) (hnewest : Newest col s.subscriber.flowRate row) :
    ∃ (i : Motes.Channel) (f : Int), row.flowChannel = i.gate ∧ row.value = (f / 1000 : ℚ) ∧
      Right (i, f) := by
  obtain ⟨m', hm', i, f, k, hvalue, hchannel, hnumber, htime⟩ := h.kept.reported_flow hrow
  obtain ⟨row', hrow', hchannel', clock, htime', hclock⟩ := h.kept.flowRow (hsupplied i)
  have hle := hnewest row' hrow' (congrArg col.weight (hchannel'.trans hchannel.symm))
  rw [htime, htime', h.punctual m' hm' k] at hle
  unfold Settings.datetime at hle
  refine ⟨i, f, hchannel, hnumber, h.right m' hm' (by omega) (i, f) hvalue⟩

/-- **The outflow is that of the two last rows**, where no other channel
has rows. -/
theorem outflow_of_channels (col : Collation) {rows : List (FlowRate ℚ)} (h : InOrder rows)
    (hchannels : ∀ row ∈ rows, ∃ i : Motes.Channel, row.flowChannel = i.gate)
    (hboth : ∀ o : Outflow, ∃ row ∈ rows, row.flowChannel = o.name) :
    ∃ last : Outflow → FlowRate ℚ,
      (∀ o, last o ∈ rows ∧ (last o).flowChannel = o.name ∧ Last col rows (last o)) ∧
      retrieveOutFlowRate col rows = some ((last .outflow1).value + (last .outflow2).value) := by
  have hlasts : OnePer (FlowRate.channel col) (outflowRows col rows) (lastRows col rows) :=
    onePer_last h
  have hout : ∀ o : Outflow, col.weight o.name ≠ col.weight (Channel.gate .inflow) := by
    intro o hweight
    rw [← gate_channel] at hweight
    have hchannel := weight_gate_injective col hweight
    cases o <;> cases hchannel
  have hlast : ∀ o : Outflow, ∃ r, r ∈ lastRows col rows ∧ r.flowChannel = o.name := by
    intro o
    obtain ⟨row, hrow, hname⟩ := hboth o
    have hmem : row ∈ outflowRows col rows := by
      refine mem_outflowRows.mpr ⟨hrow, ?_⟩
      rw [FlowRate.channel, hname]
      exact hout o
    obtain ⟨r, hr, hchannel⟩ := List.mem_map.mp (hlasts.covers row hmem)
    obtain ⟨i, hi⟩ := hchannels r (mem_outflowRows.mp (hlasts.subset r hr)).1
    have hsame : i = channel o := by
      refine weight_gate_injective col ?_
      rw [gate_channel, ← hname, ← hi]
      exact hchannel
    exact ⟨r, hr, by rw [hi, hsame, gate_channel]⟩
  obtain ⟨last, hlast⟩ := Classical.axiomOfChoice hlast
  have hne : outflowRows col rows ≠ [] :=
    List.ne_nil_of_mem (hlasts.subset _ (hlast .outflow1).1)
  have hpair : OnePer (FlowRate.channel col) (outflowRows col rows)
      [last .outflow1, last .outflow2] := by
    refine ⟨?_, ?_, fun row hrow => ?_⟩
    · simp only [List.forall_mem_cons]
      exact ⟨hlasts.subset _ (hlast _).1, hlasts.subset _ (hlast _).1, by simp⟩
    · have hdistinct : col.weight Outflow.outflow1.name ≠ col.weight Outflow.outflow2.name := by
        intro hweight
        rw [← gate_channel, ← gate_channel] at hweight
        cases weight_gate_injective col hweight
      simpa only [List.map_cons, List.map_nil, FlowRate.channel, (hlast _).2, List.nodup_cons,
        List.mem_singleton, List.not_mem_nil, not_false_eq_true, List.nodup_nil, and_true]
        using hdistinct
    · obtain ⟨hmem, hother⟩ := mem_outflowRows.mp hrow
      obtain ⟨i, hi⟩ := hchannels row hmem
      simp only [List.map_cons, List.map_nil, FlowRate.channel, (hlast _).2, hi]
      rw [FlowRate.channel, hi] at hother
      cases i with
      | inflow => exact absurd rfl hother
      | outflow1 => exact List.mem_cons_self
      | outflow2 => exact List.mem_cons_of_mem _ List.mem_cons_self
  have hsum := hlasts.sum_eq hpair FlowRate.value fun a ha b hb hkey => by
    have hb : b ∈ lastRows col rows := by
      rcases List.mem_pair.mp hb with rfl | rfl <;> exact (hlast _).1
    rw [hlasts.eq_of_key ha hb hkey]
  refine ⟨last, fun o => ?_, ?_⟩
  · obtain ⟨hout, hlatest⟩ := (mem_lastRows h).mp (hlast o).1
    exact ⟨(mem_outflowRows.mp hout).1, (hlast o).2, hlatest⟩
  · rw [retrieveOutFlowRate_eq hne, hsum]
    simp

end Rows

/-! ## §4 Every step -/

section Loops

variable {site : Site} {θ : Thresholds ℚ} {Right : Motes.Channel × Int → Prop} {since : Int}
  {ms : List Arrival} {s s' : Loop} {e : Loop.Event}

/-- What the Controller registers it publishes, and nothing is published
unless in a cycle. -/
theorem loop_tells (h : s.Sound site θ) (hstep : s.step site e = some s') :
    ∃ messages, published s'.plant.controller = published s.plant.controller ++ messages ∧
      (∀ flow, FlowsAre s.world flow → FlowsAre s'.world (Plant.told flow messages)) ∧
      (e ≠ .cycle → messages = []) := by
  have hnothing : s'.plant.controller.log = s.plant.controller.log →
      s'.world.resources = s.world.resources →
      ∃ messages, published s'.plant.controller = published s.plant.controller ++ messages ∧
        (∀ flow, FlowsAre s.world flow → FlowsAre s'.world (Plant.told flow messages)) ∧
        (e ≠ .cycle → messages = []) := by
    intro hlog hresources
    refine ⟨[], ?_, fun flow hflow o => ?_, fun _ => rfl⟩
    · rw [published, published, hlog, List.append_nil]
    · rw [hresources]
      exact hflow o
  cases e with
  | tick random₁ random₂ =>
    obtain ⟨plant, hplant, rfl⟩ := Option.map_eq_some_iff.mp hstep
    obtain ⟨sensor, -, rfl⟩ := Option.map_eq_some_iff.mp hplant
    exact hnothing rfl rfl
  | inflow level keyBuf =>
    obtain rfl := Option.some.inj hstep
    exact hnothing rfl rfl
  | publish =>
    obtain rfl := Option.some.inj hstep
    exact hnothing rfl rfl
  | process =>
    simp only [Loop.step] at hstep
    split at hstep
    · cases hstep
    · obtain rfl := Option.some.inj hstep
      exact hnothing rfl rfl
  | processFlowRate payload save =>
    obtain rfl := Option.some.inj hstep
    exact hnothing rfl rfl
  | cycle =>
    obtain ⟨m, hm⟩ := h.work.hosts
    obtain ⟨messages, -, hpublished, -, -, hflows⟩ :=
      (cycle_tells h.work.deployed hm h.work.values site.maxStale).sent
    rw [← Option.some.inj hstep]
    exact ⟨messages, hpublished, hflows, fun hne => absurd rfl hne⟩
  | deliver keyBuf =>
    obtain ⟨plant, hplant, rfl⟩ := Option.map_eq_some_iff.mp hstep
    simp only [Plant.step] at hplant
    split at hplant
    · cases hplant
    · obtain rfl := Option.some.inj hplant
      exact hnothing rfl rfl
  | wait milliseconds =>
    obtain rfl := Option.some.inj hstep
    exact hnothing rfl rfl

/-- The only messages that the loop itself has for the Collector are about
the level. -/
theorem Filing.loop (h : Filing site Right since ms s) (hperiod : 0 ≤ site.settings.period)
    (hsound : s.Sound site θ) (hflows : ∀ payload save, e ≠ .processFlowRate payload save)
    (hstep : s.step site e = some s') : ∃ ms, Filing site Right since ms s' := by
  cases e with
  | tick random₁ random₂ =>
    obtain ⟨plant, hplant, rfl⟩ := Option.map_eq_some_iff.mp hstep
    obtain ⟨sensor, -, rfl⟩ := Option.map_eq_some_iff.mp hplant
    exact ⟨ms, h.later rfl le_rfl⟩
  | inflow level keyBuf => exact Option.some.inj hstep ▸ ⟨ms, h.later rfl le_rfl⟩
  | publish => exact Option.some.inj hstep ▸ ⟨ms, h.later rfl le_rfl⟩
  | process =>
    simp only [Loop.step] at hstep
    split at hstep
    · cases hstep
    · next level reports hqueue =>
      obtain ⟨hlo, hhi⟩ := hsound.reports level (by simp [hqueue])
      have hmax : maxWaterLevel < 2 ^ 31 := by decide
      have hints : (MoteReport.level level).Ints := ⟨hlo, by omega⟩
      let m : Arrival := ⟨site.addr, .level level, s.world.clock, fun _ => s.world.clock⟩
      obtain rfl := Option.some.inj hstep
      refine ⟨ms ++ [m], And.left (h.arrive hperiod hints rfl rfl (fun _ v hv => ?_) rfl rfl)⟩
      cases hv
  | processFlowRate payload save => exact absurd rfl (hflows payload save)
  | cycle =>
    obtain rfl := Option.some.inj hstep
    exact ⟨ms, h.later rfl (cycle_sameData site.maxStale s.plant.controller).clock.ge⟩
  | deliver keyBuf =>
    obtain ⟨plant, hplant, rfl⟩ := Option.map_eq_some_iff.mp hstep
    simp only [Plant.step] at hplant
    split at hplant
    · cases hplant
    · exact Option.some.inj hplant ▸ ⟨ms, h.later rfl le_rfl⟩
  | wait milliseconds =>
    obtain rfl := Option.some.inj hstep
    refine ⟨ms, h.later rfl ?_⟩
    simp [Loop.world]

/-- No row is taken out of a table. -/
theorem loop_stored (hstep : s.step site e = some s') :
    s.subscriber.stored <:+ s'.subscriber.stored := by
  have harrived : ∀ d : Delivery ℚ,
      s.subscriber.stored <:+ (messageArrived site.settings d s.subscriber).stored :=
    fun d => (d.path_visits site.settings s.subscriber).stored_suffix
  cases e with
  | tick random₁ random₂ =>
    obtain ⟨plant, -, rfl⟩ := Option.map_eq_some_iff.mp hstep
    exact List.suffix_rfl
  | inflow level keyBuf => exact Option.some.inj hstep ▸ List.suffix_rfl
  | publish => exact Option.some.inj hstep ▸ List.suffix_rfl
  | process =>
    simp only [Loop.step] at hstep
    split at hstep
    · cases hstep
    · exact Option.some.inj hstep ▸ harrived _
  | processFlowRate payload save => exact Option.some.inj hstep ▸ harrived _
  | cycle => exact Option.some.inj hstep ▸ List.suffix_rfl
  | deliver keyBuf =>
    obtain ⟨plant, -, rfl⟩ := Option.map_eq_some_iff.mp hstep
    exact List.suffix_rfl
  | wait milliseconds => exact Option.some.inj hstep ▸ List.suffix_rfl

end Loops

namespace Metered

variable {site : Site} {addr : LinkAddr} {θ : Thresholds ℚ} {s s' : Metered} {e : Event}
  {Right : Motes.Channel × Int → Prop} {since : Int} {ms : List Arrival}

/-- What is on its way brings mote-2 the registered levels, and all rows of
flows come from mote-2. -/
structure Sound (site : Site) (θ : Thresholds ℚ) (s : Metered) : Prop where
  loop : s.loop.Sound site θ
  heard : s.heard ≤ (published s.loop.plant.controller).length
  targets : FlowsAre s.world (Plant.told s.mote2.targetFlow s.unheard)
  flowing : Flowing s.mote2
  reports : ∀ flow ∈ s.reports, ∀ i, 0 ≤ flow i ∧ flow i < 2 ^ 31
  filing : ∃ ms, Filing site (fun _ => True) 0 ms s.loop

/-- The steps of the loop are those without a message of mote-2. -/
theorem step_loop {e : Loop.Event} (hstep : step site addr s (.loop e) = some s') :
    (∀ payload save, e ≠ .processFlowRate payload save) ∧
      ∃ loop, s.loop.step site e = some loop ∧ s' = { s with loop } := by
  simp only [step] at hstep
  split at hstep
  · cases hstep
  · next hother =>
    obtain ⟨loop, hloop, hs'⟩ := Option.map_eq_some_iff.mp hstep
    exact ⟨hother, loop, hloop, hs'.symm⟩

/-- A message of mote-2 is one of the Collector. -/
theorem step_process (hstep : step site addr s .process = some s') :
    ∃ flow reports, s.reports = flow :: reports ∧ s' = { s with
      loop := s.loop.collect site ((arrival addr flow s.loop).delivery site.readValue)
      reports } := by
  simp only [step] at hstep
  split at hstep
  · cases hstep
  · next flow reports hqueue => exact ⟨flow, reports, hqueue, (Option.some.inj hstep).symm⟩

theorem step_hear {keyBuf : Motes.Channel → List Char}
    (hstep : step site addr s (.hear keyBuf) = some s') :
    ∃ gate level rest, s.unheard = (gate, level) :: rest ∧ s' = { s with
      heard := s.heard + 1
      mote2 := s.mote2.handleMessage ⟨(gateMessage gate level).tokens, keyBuf, saturate⟩ } := by
  simp only [step] at hstep
  split at hstep
  · cases hstep
  · next gate level rest hqueue =>
    exact ⟨gate, level, rest, hqueue, (Option.some.inj hstep).symm⟩

/-- A message of mote-2, handled now. -/
theorem Filing.process {flow : Motes.Channel → Int} (h : Filing site Right since ms s.loop)
    (hperiod : 0 ≤ site.settings.period) (hflow : ∀ i, 0 ≤ flow i ∧ flow i < 2 ^ 31)
    (hright : ∀ i, Right (i, flow i)) :
    let m := arrival addr flow s.loop
    let loop := s.loop.collect site (m.delivery site.readValue)
    Filing site Right since (ms ++ [m]) loop ∧
      ∀ i : Motes.Channel, Supplied site.settings loop.subscriber m i.gate := by
  intro m loop
  obtain ⟨hfiling, -, hsupplied⟩ := h.arrive (m := m) (t := loop) hperiod
    ⟨hflow .inflow, hflow .outflow1, hflow .outflow2⟩ rfl rfl
    (fun _ v hv => by
      simp only [m, arrival, MoteReport.values, List.mem_cons, List.not_mem_nil, or_false] at hv
      rcases hv with rfl | rfl | rfl <;> exact hright _) rfl rfl
  refine ⟨hfiling, fun i => hsupplied i.gate ?_⟩
  cases i <;> simp [m, arrival, MoteReport.names, MoteReport.values]

/-- **What each step does to the rows.** -/
theorem Filing.step (h : Filing site Right since ms s.loop) (hperiod : 0 ≤ site.settings.period)
    (hsound : s.Sound site θ) (hright : ∀ flow ∈ s.reports, ∀ i, Right (i, flow i))
    (hstep : step site addr s e = some s') : ∃ ms, Filing site Right since ms s'.loop := by
  cases e with
  | loop e =>
    obtain ⟨hflows, loop, hloop, rfl⟩ := step_loop hstep
    exact h.loop hperiod hsound.loop hflows hloop
  | hear keyBuf =>
    obtain ⟨gate, level, rest, -, rfl⟩ := step_hear hstep
    exact ⟨ms, h⟩
  | hearInflow level keyBuf => exact Option.some.inj hstep ▸ ⟨ms, h⟩
  | tick random =>
    obtain ⟨mote2, -, rfl⟩ := Option.map_eq_some_iff.mp hstep
    exact ⟨ms, h⟩
  | button e => exact Option.some.inj hstep ▸ ⟨ms, h⟩
  | publish => exact Option.some.inj hstep ▸ ⟨ms, h⟩
  | process =>
    obtain ⟨flow, reports, hqueue, rfl⟩ := step_process hstep
    have hflow : flow ∈ s.reports := hqueue ▸ List.mem_cons_self
    exact ⟨_, (Filing.process h hperiod (hsound.reports flow hflow) (hright flow hflow)).1⟩

theorem stored_step (hstep : step site addr s e = some s') :
    s.loop.subscriber.stored <:+ s'.loop.subscriber.stored := by
  cases e with
  | loop e =>
    obtain ⟨-, loop, hloop, rfl⟩ := step_loop hstep
    exact loop_stored hloop
  | hear keyBuf =>
    obtain ⟨gate, level, rest, -, rfl⟩ := step_hear hstep
    exact List.suffix_rfl
  | hearInflow level keyBuf => exact Option.some.inj hstep ▸ List.suffix_rfl
  | tick random =>
    obtain ⟨mote2, -, rfl⟩ := Option.map_eq_some_iff.mp hstep
    exact List.suffix_rfl
  | button e => exact Option.some.inj hstep ▸ List.suffix_rfl
  | publish => exact Option.some.inj hstep ▸ List.suffix_rfl
  | process =>
    obtain ⟨flow, reports, -, rfl⟩ := step_process hstep
    exact (Delivery.path_visits site.settings _ s.loop.subscriber).stored_suffix

/-- A new message is the last on its way. -/
theorem unheard_append {loop : Loop} {messages : List (String × Int)}
    (h : s.heard ≤ (published s.loop.plant.controller).length)
    (hpublished : published loop.plant.controller =
      published s.loop.plant.controller ++ messages) :
    ({ s with loop } : Metered).unheard = s.unheard ++ messages := by
  simp only [unheard, hpublished]
  exact List.drop_append_of_le_length h

theorem Sound.loopStep {e : Loop.Event} {loop : Loop} (h : s.Sound site θ)
    (hfiling : ∃ ms, Filing site (fun _ => True) 0 ms loop)
    (hstep : s.loop.step site e = some loop) : Sound site θ { s with loop } := by
  obtain ⟨messages, hpublished, hflows, -⟩ := loop_tells h.loop hstep
  refine ⟨h.loop.step hstep, ?_, ?_, h.flowing, h.reports, hfiling⟩
  · have hlength := h.heard
    simp only [hpublished, List.length_append]
    omega
  · rw [unheard_append h.heard hpublished, Plant.told, List.foldl_append]
    exact hflows _ h.targets

/-- A message that is heard only moves out of the queue. -/
theorem Sound.hear {keyBuf : Motes.Channel → List Char} {gate : String} {level : Int}
    {rest : List (String × Int)} (h : s.Sound site θ)
    (hqueue : s.unheard = (gate, level) :: rest) :
    Sound site θ { s with
      heard := s.heard + 1
      mote2 := s.mote2.handleMessage ⟨(gateMessage gate level).tokens, keyBuf, saturate⟩ } := by
  have hrest : (published s.loop.plant.controller).drop (s.heard + 1) = rest := by
    rw [← List.tail_drop]
    exact congrArg List.tail hqueue
  have hlt : s.heard + 1 ≤ (published s.loop.plant.controller).length := by
    have hle : ¬(published s.loop.plant.controller).length ≤ s.heard := by
      have hne : s.unheard ≠ [] := by simp [hqueue]
      simpa [unheard, List.drop_eq_nil_iff] using hne
    omega
  refine ⟨h.loop, hlt, fun o => ?_, h.flowing.message _, h.reports, h.filing⟩
  obtain ⟨v, hv, hflow⟩ := h.targets o
  refine ⟨v, hv, Eq.trans ?_ hflow⟩
  rw [hqueue]
  simp only [unheard, hrest]
  exact Loop.told_congr (targetFlow_gateMessage s.mote2 keyBuf gate level o) rest

/-- Whatever else mote-2 does leaves the targets of the outflows. -/
theorem Sound.mote2 {mote2 : Mote2} (h : s.Sound site θ) (hflowing : Flowing mote2)
    (htarget : ∀ o : Outflow,
      mote2.targetFlow (channel o) = s.mote2.targetFlow (channel o)) :
    Sound site θ { s with mote2 } where
  loop := h.loop
  heard := h.heard
  targets o := by
    obtain ⟨v, hv, hflow⟩ := h.targets o
    exact ⟨v, hv, (Loop.told_congr (htarget o) _).trans hflow⟩
  flowing := hflowing
  reports := h.reports
  filing := h.filing

/-- **Every step keeps this.** -/
theorem Sound.step (h : s.Sound site θ) (hperiod : 0 ≤ site.settings.period)
    (hstep : step site addr s e = some s') : s'.Sound site θ := by
  obtain ⟨ms, hms⟩ := h.filing
  have hfiling := Filing.step hms hperiod h (fun _ _ _ => trivial) hstep
  cases e with
  | loop e =>
    obtain ⟨-, loop, hloop, rfl⟩ := step_loop hstep
    exact h.loopStep hfiling hloop
  | hear keyBuf =>
    obtain ⟨gate, level, rest, hqueue, rfl⟩ := step_hear hstep
    exact h.hear hqueue
  | hearInflow level keyBuf =>
    obtain rfl := Option.some.inj hstep
    have htarget := (handleMessage_inflowMessage s.mote2 keyBuf level).2
    exact h.mote2 (h.flowing.message _) fun o => congrFun htarget _
  | tick random =>
    obtain ⟨mote2, hmote2, rfl⟩ := Option.map_eq_some_iff.mp hstep
    refine h.mote2 (h.flowing.tick hmote2) fun o => ?_
    rw [(Mote2.simulateReadFlow_eq_some hmote2).2]
  | button e =>
    obtain rfl := Option.some.inj hstep
    refine h.mote2 (h.flowing.button e) fun o => (Mote2.button_other e s.mote2 ?_).2
    cases o <;> decide
  | publish =>
    obtain rfl := Option.some.inj hstep
    refine ⟨h.loop, h.heard, h.targets, h.flowing, fun flow hflow => ?_, h.filing⟩
    rcases List.mem_append.mp hflow with hold | hnew
    · exact h.reports flow hold
    · rw [List.mem_singleton.mp hnew]
      exact h.flowing.ints
  | process =>
    obtain ⟨flow, reports, hqueue, rfl⟩ := step_process hstep
    let d := (arrival addr flow s.loop).delivery site.readValue
    have hprocess : s.loop.step site (.processFlowRate d.payload d.save) =
        some (s.loop.collect site d) := rfl
    have hsound := h.loopStep hfiling hprocess
    exact ⟨hsound.loop, hsound.heard, hsound.targets, hsound.flowing,
      fun flow hflow => h.reports flow (hqueue ▸ List.mem_cons_of_mem _ hflow), hsound.filing⟩

/-! ## §5 While no gate moves -/

/-- The Controller finds every gate as it wants it, and nobody presses the
button. -/
def Quiet (site : Site) (s : Metered) : Event → Prop
  | .loop .cycle => published (faultFreeRun site.maxStale s.loop.plant.controller) =
      published s.loop.plant.controller
  | .button _ => False
  | _ => True

instance : Decidable (Quiet site s e) :=
  match e with
  | .loop .cycle => inferInstanceAs (Decidable (_ = _))
  | .button _ => isFalse id
  | .loop (.tick _ _) | .loop (.inflow _ _) | .loop .publish | .loop .process
  | .loop (.processFlowRate _ _) | .loop (.deliver _) | .loop (.wait _) => isTrue trivial
  | .hear _ | .hearInflow _ _ | .tick _ | .publish | .process => isTrue trivial

/-- mote-2 has had all messages, and these are its targets. -/
structure Targets (site : Site) (θ : Thresholds ℚ) (target : Motes.Channel → Int)
    (s : Metered) : Prop where
  sound : s.Sound site θ
  heard : s.unheard = []
  target_eq : s.mote2.targetFlow = target

variable {target : Motes.Channel → Int}

/-- **What a quiet step leaves**: the targets, and of the flows all that no
tick moves. -/
theorem Targets.step (h : s.Targets site θ target) (hperiod : 0 ≤ site.settings.period)
    (hquiet : Quiet site s e) (hstep : step site addr s e = some s') :
    s'.Targets site θ target ∧
      ((∃ random, e = .tick random ∧ s.mote2.simulateReadFlow random = some s'.mote2) ∨
        e.isTick = false ∧ s'.mote2.flow = s.mote2.flow) ∧
      (e ≠ .process →
        ∃ new, s'.reports = s.reports ++ new ∧ ∀ flow ∈ new, flow = s.mote2.flow) := by
  have hsound := h.sound.step hperiod hstep
  have hsame : ∃ new, s.reports = s.reports ++ new ∧ ∀ flow ∈ new, flow = s.mote2.flow :=
    ⟨[], (List.append_nil _).symm, by simp⟩
  cases e with
  | loop e =>
    obtain ⟨-, loop, hloop, rfl⟩ := step_loop hstep
    refine ⟨⟨hsound, ?_, h.target_eq⟩, .inr ⟨rfl, rfl⟩, fun _ => hsame⟩
    obtain ⟨messages, hpublished, -, hcycle⟩ := loop_tells h.sound.loop hloop
    have hnone : messages = [] := by
      by_cases he : e = .cycle
      · subst he
        obtain rfl := Option.some.inj hloop
        exact List.append_right_eq_self.mp (hpublished.symm.trans hquiet)
      · exact hcycle he
    rw [unheard_append h.sound.heard hpublished, hnone, h.heard]
    rfl
  | hear keyBuf =>
    obtain ⟨gate, level, rest, hqueue, -⟩ := step_hear hstep
    rw [h.heard] at hqueue
    cases hqueue
  | hearInflow level keyBuf =>
    obtain rfl := Option.some.inj hstep
    obtain ⟨hflow, htarget⟩ := handleMessage_inflowMessage s.mote2 keyBuf level
    exact ⟨⟨hsound, h.heard, htarget.trans h.target_eq⟩, .inr ⟨rfl, hflow⟩, fun _ => hsame⟩
  | tick random =>
    obtain ⟨mote2, hmote2, rfl⟩ := Option.map_eq_some_iff.mp hstep
    refine ⟨⟨hsound, h.heard, ?_⟩, .inl ⟨random, rfl, hmote2⟩, fun _ => hsame⟩
    rw [(Mote2.simulateReadFlow_eq_some hmote2).2]
    exact h.target_eq
  | button e => exact absurd hquiet id
  | publish =>
    obtain rfl := Option.some.inj hstep
    exact ⟨⟨hsound, h.heard, h.target_eq⟩, .inr ⟨rfl, rfl⟩,
      fun _ => ⟨[s.mote2.flow], rfl, fun _ hflow => List.mem_singleton.mp hflow⟩⟩
  | process =>
    obtain ⟨flow, reports, hqueue, rfl⟩ := step_process hstep
    exact ⟨⟨hsound, h.heard, h.target_eq⟩, .inr ⟨rfl, rfl⟩, fun hne => absurd rfl hne⟩

/-- Every flow is `n` ticks from its band at most. -/
structure Nearing (site : Site) (θ : Thresholds ℚ) (target : Motes.Channel → Int) (n : Nat)
    (s : Metered) : Prop where
  targets : s.Targets site θ target
  near : ∀ i, distance (s.mote2.flow i) (target i) ≤ 100 * n

theorem Nearing.step {n : Nat} (h : s.Nearing site θ target n)
    (hperiod : 0 ≤ site.settings.period) (hquiet : Quiet site s e)
    (hstep : step site addr s e = some s') :
    s'.Nearing site θ target (if e.isTick then n - 1 else n) := by
  obtain ⟨htargets, hflows, -⟩ := h.targets.step hperiod hquiet hstep
  refine ⟨htargets, fun i => ?_⟩
  have hle := h.near i
  rcases hflows with ⟨random, rfl, hmote2⟩ | ⟨hother, hflow⟩
  · have hread := (Mote2.simulateReadFlow_eq_some hmote2).1 i
    rw [h.targets.target_eq] at hread
    have hregular := h.targets.sound.flowing.regular
    have hcloser := (readFlow_approaches (h.targets.target_eq ▸ hregular.target_nonneg i)
      (hregular.flow_nonneg i) hread).2.1
    simp only [Event.isTick, if_true]
    omega
  · rw [hflow, hother]
    exact hle

/-- All flows are in their bands, and so are those on their way but for the
`n` oldest. -/
structure Settled (site : Site) (θ : Thresholds ℚ) (target : Motes.Channel → Int) (n : Nat)
    (s : Metered) : Prop where
  targets : s.Targets site θ target
  flows : ∀ i, distance (s.mote2.flow i) (target i) = 0
  reports : ∀ flow ∈ s.reports.drop n, ∀ i, distance (flow i) (target i) = 0

theorem Settled.step {n : Nat} (h : s.Settled site θ target n)
    (hperiod : 0 ≤ site.settings.period) (hquiet : Quiet site s e)
    (hstep : step site addr s e = some s') :
    s'.Settled site θ target (if e.isProcess then n - 1 else n) := by
  obtain ⟨htargets, -, hreports⟩ := h.targets.step hperiod hquiet hstep
  refine ⟨htargets, fun i => ?_, ?_⟩
  · have hnearing : s.Nearing site θ target 0 := ⟨h.targets, fun i => (h.flows i).le⟩
    have hnone := (hnearing.step hperiod hquiet hstep).near i
    rw [Nat.zero_sub, ite_self] at hnone
    exact le_antisymm hnone (distance_nonneg _ _)
  · by_cases he : e = .process
    · subst he
      obtain ⟨flow, reports, hqueue, rfl⟩ := step_process hstep
      intro flow' hflow'
      refine h.reports flow' ?_
      rw [hqueue]
      cases n with
      | zero => exact List.mem_cons_of_mem _ hflow'
      | succ n => exact hflow'
    · have hother : e.isProcess = false := by
        cases e <;> first | rfl | exact absurd rfl he
      obtain ⟨new, hnew, hflows⟩ := hreports he
      rw [hother, hnew]
      intro flow hflow
      rw [List.drop_append] at hflow
      rcases List.mem_append.mp hflow with hold | hlast
      · exact h.reports flow hold
      · rw [hflows flow (List.mem_of_mem_drop hlast)]
        exact h.flows

/-! ## §6 Measurements -/

/-- A run of quiet steps. -/
structure Calm (site : Site) (addr : LinkAddr) (s : Metered) (es : List Event)
    (s' : Metered) : Prop where
  run : Machine.run (step site addr) s es = some s'
  quiet : Machine.Each (step site addr) (Quiet site) s es

/-- In its band. -/
def InBand (target : Motes.Channel → Int) (v : Motes.Channel × Int) : Prop :=
  distance v.2 (target v.1) = 0

variable {es : List Event} {n : Nat}

/-- The ticks take the flows into their bands. -/
theorem Calm.settles (hcalm : Calm site addr s es s') (hperiod : 0 ≤ site.settings.period)
    (h : s.Targets site θ target) (hticks : ticksNeeded s.mote2 ≤ es.countP Event.isTick) :
    s'.Settled site θ target s'.reports.length := by
  have hfar : s.Nearing site θ target (ticksNeeded s.mote2) := by
    refine ⟨h, fun i => ?_⟩
    rw [← h.target_eq]
    exact h.sound.flowing.distance_le i
  have hnear := Machine.run_countdown (R := fun n s => s.Nearing site θ target n)
    (fun n s e s' h hquiet hstep => h.step hperiod hquiet hstep) hfar hcalm.quiet hcalm.run
  rw [Nat.sub_eq_zero_of_le hticks] at hnear
  refine ⟨hnear.targets, fun i => ?_, by simp⟩
  exact le_antisymm (hnear.near i) (distance_nonneg _ _)

/-- The Collector handles what was on its way. -/
theorem Calm.drains (hcalm : Calm site addr s es s') (hperiod : 0 ≤ site.settings.period)
    (h : s.Settled site θ target n) (hn : n ≤ es.countP Event.isProcess) :
    s'.Settled site θ target 0 := by
  have hrest := Machine.run_countdown (R := fun n s => s.Settled site θ target n)
    (fun n s e s' h hquiet hstep => h.step hperiod hquiet hstep) h hcalm.quiet hcalm.run
  rwa [Nat.sub_eq_zero_of_le hn] at hrest

/-- All it handles then is in the bands. -/
theorem Calm.files (hcalm : Calm site addr s es s') (hperiod : 0 ≤ site.settings.period)
    (h : s.Settled site θ target 0) (hfiling : ∃ ms, Filing site (InBand target) since ms s.loop) :
    s'.Settled site θ target 0 ∧ ∃ ms, Filing site (InBand target) since ms s'.loop := by
  refine Machine.run_guarded (C := Quiet site)
    (I := fun s => s.Settled site θ target 0 ∧
      ∃ ms, Filing site (InBand target) since ms s.loop)
    (fun s e s' h hquiet hstep => ?_) ⟨h, hfiling⟩ hcalm.quiet hcalm.run
  obtain ⟨hsettled, ms, hms⟩ := h
  refine ⟨?_, Filing.step hms hperiod hsettled.targets.sound
    (fun flow hflow i => hsettled.reports flow hflow i) hstep⟩
  have hnext := hsettled.step hperiod hquiet hstep
  rwa [Nat.zero_sub, ite_self] at hnext

theorem Calm.stored (hcalm : Calm site addr s es s') :
    s.loop.subscriber.stored <:+ s'.loop.subscriber.stored :=
  Machine.run_invariant (I := fun t => s.loop.subscriber.stored <:+ t.loop.subscriber.stored)
    (fun _ _ _ h hstep => h.trans (stored_step hstep)) List.suffix_rfl hcalm.run

theorem abs_of_inBand {f t : Int} (h : distance f t = 0) :
    |(f / 1000 : ℚ) - t / 1000| ≤ 15 / 100 := by
  obtain ⟨hlo, hhi⟩ := abs_le.mp (distance_eq_zero_iff_abs.mp h)
  have hlo : (-150 : ℚ) ≤ f - t := by exact_mod_cast hlo
  have hhi : (f - t : ℚ) ≤ 150 := by exact_mod_cast hhi
  rw [abs_le]
  constructor <;> linarith

/-- Where the newest rows are in the bands, so are the measurements. -/
theorem Filing.measured {m : Arrival} (h : Filing site (InBand target) since ms s.loop)
    (hsound : s.Sound site θ)
    (hsupplied : ∀ i : Motes.Channel, Supplied site.settings s.loop.subscriber m i.gate)
    (hlate : since + site.settings.period + 1000 ≤ m.now) :
    (∃ row, retrieveFlowRate s.world.collation s.world.flowRates "inflow" = some row ∧
      |row.value - target .inflow / 1000| ≤ 15 / 100) ∧
    ∃ outflow, retrieveOutFlowRate s.world.collation s.world.flowRates = some outflow ∧
      |outflow - (target .outflow1 / 1000 + target .outflow2 / 1000)| ≤ 30 / 100 := by
  have hnear : ∀ {row : FlowRate ℚ} {i : Motes.Channel}, row ∈ s.loop.subscriber.flowRate →
      Newest s.world.collation s.loop.subscriber.flowRate row →
      row.channel s.world.collation = s.world.collation.weight i.gate →
      |row.value - target i / 1000| ≤ 15 / 100 := by
    intro row i hrow hnewest hchannel
    obtain ⟨j, f, hj, hvalue, hband⟩ := h.newest_right hsupplied hlate hrow hnewest
    obtain rfl : j = i := weight_gate_injective s.world.collation
      ((congrArg s.world.collation.weight hj).symm.trans hchannel)
    rw [hvalue]
    exact abs_of_inBand hband
  have hrows : ∀ i : Motes.Channel, ∃ row ∈ s.loop.subscriber.flowRate,
      row.flowChannel = i.gate := by
    intro i
    obtain ⟨row, hrow, hname, -⟩ := h.kept.flowRow (hsupplied i)
    exact ⟨row, hrow, hname⟩
  have horder := h.written.inOrder
  rw [show s.world.flowRates = s.loop.subscriber.flowRate from hsound.loop.flowRates]
  constructor
  · obtain ⟨row, hrow, hname⟩ := hrows .inflow
    obtain ⟨newest, hfound⟩ := exists_retrieveFlowRate hrow
      (congrArg s.world.collation.weight hname)
    obtain ⟨hmem, hchannel, hnewest⟩ := newest_of_retrieveFlowRate hfound
    exact ⟨newest, hfound, hnear hmem hnewest hchannel⟩
  · have hchannels : ∀ row ∈ s.loop.subscriber.flowRate,
        ∃ i : Motes.Channel, row.flowChannel = i.gate := by
      intro row hrow
      obtain ⟨-, -, i, -, -, -, hname, -⟩ := h.kept.reported_flow hrow
      exact ⟨i, hname⟩
    obtain ⟨last, hlast, hsum⟩ := outflow_of_channels s.world.collation horder hchannels fun o =>
      gate_channel o ▸ hrows (channel o)
    have hlasts : ∀ o, |(last o).value - target (channel o) / 1000| ≤ 15 / 100 := by
      intro o
      obtain ⟨hmem, hname, hlatest⟩ := hlast o
      refine hnear hmem (hlatest.newest horder hmem) ?_
      rw [FlowRate.channel, hname, gate_channel]
    refine ⟨_, hsum, ?_⟩
    obtain ⟨h₁, h₁'⟩ := abs_le.mp (hlasts .outflow1)
    obtain ⟨h₂, h₂'⟩ := abs_le.mp (hlasts .outflow2)
    rw [abs_le]
    simp only [channel] at h₁ h₁' h₂ h₂'
    constructor <;> linarith

/-- Once a report has been handled, the rows of all channels are no older,
or not by more than a period. -/
theorem Calm.supplies {es : List Event} (hcalm : Calm site addr s (.process :: es) s')
    (hperiod : 0 ≤ site.settings.period) (h : s.Settled site θ target 0)
    (hfiling : ∃ ms, Filing site (InBand target) since ms s.loop) :
    ∃ m : Arrival, m.now = s.world.clock ∧
      ∀ i : Motes.Channel, Supplied site.settings s'.loop.subscriber m i.gate := by
  obtain ⟨ms, hms⟩ := hfiling
  obtain ⟨t, hprocess, hrest⟩ := Machine.run_cons_eq_some.mp hcalm.run
  have hthen : Calm site addr t es s' := ⟨hrest, hcalm.quiet.2 t hprocess⟩
  obtain ⟨flow, reports, hqueue, ht⟩ := step_process hprocess
  have hflow : flow ∈ s.reports := hqueue ▸ List.mem_cons_self
  obtain ⟨-, hsupplied⟩ := Filing.process hms hperiod
    (h.targets.sound.reports flow hflow) (h.reports flow hflow)
  refine ⟨arrival addr flow s.loop, rfl, fun i => ?_⟩
  refine (hsupplied i).mono fun x hx => hthen.stored.subset ?_
  rw [ht]
  exact hx

/-- **The Controller measures what it has set.** Once mote-2 has had all
messages (`a`), has ticked as often as its flows need (`b`), the Collector
has handled what was on its way (`c`), and a report is handled a period
and a second later (`d`), the inflow of the next cycle is the one the
button has set, and the outflow that of the registered levels, up to the
bands: as long as the Controller moves no gate and nobody presses the
button. -/
theorem balance_measured {a b c d e : List Event} {s₁ s₂ s₃ s₄ : Metered}
    (hperiod : 0 ≤ site.settings.period) (h : s.Sound site θ)
    (ha : Machine.run (step site addr) s a = some s₁) (hheard : s₁.unheard = [])
    (hb : Calm site addr s₁ b s₂) (hticks : ticksNeeded s₁.mote2 ≤ b.countP Event.isTick)
    (hc : Calm site addr s₂ c s₃) (hdrained : s₂.reports.length ≤ c.countP Event.isProcess)
    (hd : Calm site addr s₃ d s₄)
    (hlate : s₃.world.clock + site.settings.period + 1000 ≤ s₄.world.clock)
    (he : Calm site addr s₄ (.process :: e) s') :
    ticksNeeded s₁.mote2 ≤ 1000 ∧
    (∃ row, retrieveFlowRate s'.world.collation s'.world.flowRates "inflow" = some row ∧
      |row.value - s'.mote2.targetFlow .inflow / 1000| ≤ 15 / 100) ∧
    ∃ v₁ v₂ outflow, s'.world.resources.value "outflow-1" = some v₁ ∧
      s'.world.resources.value "outflow-2" = some v₂ ∧
      retrieveOutFlowRate s'.world.collation s'.world.flowRates = some outflow ∧
      |outflow - (v₁ + 35 / 100 * v₂)| ≤ 30 / 100 := by
  have h₁ : s₁.Sound site θ :=
    Machine.run_invariant (fun _ _ _ h hstep => h.step hperiod hstep) h ha
  have hsettled := hc.drains hperiod (hb.settles hperiod ⟨h₁, hheard, rfl⟩ hticks) hdrained
  obtain ⟨ms, hms⟩ := hsettled.targets.sound.filing
  -- nothing has been handled later than this, so that from here on all rows are right
  obtain ⟨hsettled₄, ms₄, hms₄⟩ := hd.files hperiod hsettled ⟨ms, hms.anew _⟩
  obtain ⟨hsettled', ms', hms'⟩ := he.files hperiod hsettled₄ ⟨ms₄, hms₄⟩
  obtain ⟨m, hnow, hsupplied⟩ := he.supplies hperiod hsettled₄ ⟨ms₄, hms₄⟩
  have htargets := hsettled'.targets
  obtain ⟨hinflow, outflow, hout, hnear⟩ :=
    Filing.measured hms' htargets.sound hsupplied (hnow.symm ▸ hlate)
  refine ⟨h₁.flowing.ticksNeeded_le, htargets.target_eq ▸ hinflow, ?_⟩
  have hflows := htargets.sound.targets
  rw [htargets.heard, htargets.target_eq] at hflows
  obtain ⟨v₁, hv₁, hflow₁⟩ := hflows .outflow1
  obtain ⟨v₂, hv₂, hflow₂⟩ := hflows .outflow2
  refine ⟨v₁, v₂, outflow, hv₁, hv₂, hout, ?_⟩
  have hflow₁ : s₁.mote2.targetFlow .outflow1 = v₁ * 1000 := hflow₁
  have hflow₂ : s₁.mote2.targetFlow .outflow2 = v₂ * 350 := hflow₂
  rw [hflow₁, hflow₂] at hnear
  push_cast at hnear
  have hsame : (v₁ * 1000 / 1000 + v₂ * 350 / 1000 : ℚ) = v₁ + 35 / 100 * v₂ := by ring
  rwa [hsame] at hnear

/-- Both gates are closed, and the Collector has had a report from when
outflow-1 was open by 1 %. -/
def closedReport : Arrival := ⟨zeros, .flows 32000 1000 0, 0, fun _ => 0⟩

def closedSubscriber : Subscriber ℚ :=
  arrive ⟨3, 0⟩ ([closedReport].map (Arrival.delivery (readRecord id))) (Subscriber.init 1 1)

/-- mote-2 has just been told. -/
def closedMote2 : Mote2 :=
  { Mote2.init with flow := Function.update Channel.initFlow .outflow1 1000 }

theorem closedMote2_flowing : Flowing closedMote2 := by
  refine ⟨⟨fun i => ?_, fun i => ?_, ?_⟩, ⟨4, by decide, by decide, rfl⟩, fun i => ?_, fun i => ?_⟩
  · cases i <;> decide
  · cases i <;> decide
  · decide
  · cases i <;> decide
  · cases i <;> decide

def justClosed (subscriber : Subscriber ℚ) : Metered where
  loop :=
    ⟨⟨⟨{ demoWorld .AUTO 0 0 false 50 20 20 with
      waterLevels := subscriber.waterLevel, flowRates := subscriber.flowRate }, []⟩, 0, .init⟩, [],
      subscriber⟩
  heard := 0
  mote2 := closedMote2
  reports := []

theorem justClosed_sound {subscriber : Subscriber ℚ}
    (hrecorded : FlowsRecorded .ascii subscriber.flowRate)
    (hlevels : subscriber.waterLevel = [])
    (hfiling : ∃ ms, Filing Loop.demoSite (fun _ => True) 0 ms (justClosed subscriber).loop) :
    (justClosed subscriber).Sound Loop.demoSite demoThresholds where
  loop :=
    { work := Loop.demo_atWork.data _ _ _
      thresholds := rfl
      recorded := hrecorded
      waterLevels := rfl
      flowRates := rfl
      past := fun row hrow => by
        have hnone : row ∈ subscriber.waterLevel := hrow
        rw [hlevels] at hnone
        cases hnone
      delivered := Nat.le_refl 0
      flows := fun o => by cases o <;> exact ⟨0, rfl, rfl⟩
      tracks := ⟨fun i => if i = .inflow then 40 else 0,
        ⟨fun i => by cases i <;> rfl, rfl⟩, fun i => by cases i <;> decide⟩
      level := show 0 ≤ WaterLevelSensor.init.waterLevel ∧
        WaterLevelSensor.init.waterLevel ≤ maxWaterLevel by decide
      reports := fun level hlevel => by cases hlevel }
  heard := Nat.le_refl 0
  targets o := by cases o <;> exact ⟨0, rfl, rfl⟩
  flowing := closedMote2_flowing
  reports flow hflow := by cases hflow
  filing := hfiling

theorem justClosed_filing {subscriber : Subscriber ℚ}
    (hkept : Kept ⟨3, 0⟩ id [closedReport] subscriber) (hwritten : Written ⟨3, 0⟩ subscriber) :
    Filing Loop.demoSite (fun _ => True) 0 [closedReport] (justClosed subscriber).loop where
  kept := hkept
  written := hwritten
  punctual := List.forall_mem_singleton.mpr fun _ => rfl
  past := List.forall_mem_singleton.mpr (show (0 : Int) ≤ 0 by decide)
  right _ _ _ _ _ := trivial

theorem closedReport_ints : closedReport.report.Ints := by
  simp [closedReport, MoteReport.Ints]

theorem closedReport_delivery : closedReport.delivery (readRecord (F := ℚ) id) =
    Collector.delivery "flow-rate" (.record ⟨some (urn zeros), some "m3/s",
      some [measured id "inflow" 32000, measured id "outflow-1" 1000,
        measured id "outflow-2" 0]⟩) 0 fun _ => 0 :=
  congrArg (Collector.delivery "flow-rate" · 0 fun _ => 0)
    (MoteReport.read_flows (readRecord_reads id) zeros closedReport_ints rfl)

theorem closedSubscriber_sound :
    (justClosed closedSubscriber).Sound Loop.demoSite demoThresholds := by
  have hrecorded : FlowsRecorded .ascii closedSubscriber.flowRate := by
    simp only [closedSubscriber, List.map_cons, closedReport_delivery, FlowsRecorded]
    decide +kernel
  have hlevels : closedSubscriber.waterLevel = [] := by
    simp only [closedSubscriber, List.map_cons, closedReport_delivery]
    decide +kernel
  have hregular : ∀ m ∈ [closedReport], m.Regular :=
    List.forall_mem_singleton.mpr ⟨closedReport_ints, fun _ => le_rfl⟩
  have hordered : NonDecreasing
      ([closedReport].map (Arrival.delivery (readRecord (F := ℚ) id))) := by
    simp only [List.map_cons, closedReport_delivery, NonDecreasing]
    decide +kernel
  have hkept := (kept_run (c := ⟨3, 0⟩) (readRecord_reads id) (by decide) 1 1 hregular).1
  exact justClosed_sound hrecorded hlevels
    ⟨_, justClosed_filing hkept (written_of_run hordered ⟨3, 0⟩ 1 1)⟩

/-- Nine ticks, and a report four seconds later. -/
def nineTicks : List Event := List.replicate 9 (.tick fun _ => Fin.last 65535)

theorem balance_measured_demo : ∃ s' v₁ v₂ outflow,
    Machine.run (step Loop.demoSite zeros) (justClosed closedSubscriber)
      (nineTicks ++ [.publish, .loop (.wait 4000), .process]) = some s' ∧
    s'.world.resources.value "outflow-1" = some v₁ ∧
    s'.world.resources.value "outflow-2" = some v₂ ∧
    retrieveOutFlowRate s'.world.collation s'.world.flowRates = some outflow ∧
    |outflow - (v₁ + 35 / 100 * v₂)| ≤ 30 / 100 := by
  have hticks : (Machine.run (step Loop.demoSite zeros) (justClosed closedSubscriber)
      nineTicks).map (fun s => s.reports.length) = some 0 := by decide +kernel
  have hquiet : Machine.Each (step Loop.demoSite zeros) (Quiet Loop.demoSite)
      (justClosed closedSubscriber) nineTicks := by decide +kernel
  obtain ⟨s₂, hrun₂, hnone⟩ := Option.map_eq_some_iff.mp hticks
  have hreports : s₂.reports = [] := List.length_eq_zero_iff.mp hnone
  obtain ⟨s₄, hrun₄, hclock, hreports₄⟩ : ∃ s₄,
      Machine.run (step Loop.demoSite zeros) s₂ [.publish, .loop (.wait 4000)] = some s₄ ∧
        s₄.world.clock = s₂.world.clock + 4000 ∧ s₄.reports = s₂.reports ++ [s₂.mote2.flow] :=
    ⟨_, rfl, rfl, rfl⟩
  obtain ⟨s', hprocess⟩ : ∃ s', step Loop.demoSite zeros s₄ .process = some s' := by
    rw [hreports, List.nil_append] at hreports₄
    simp [step, hreports₄]
  have hperiod : Loop.demoSite.settings.period = 3000 := rfl
  have hrun' : Machine.run (step Loop.demoSite zeros) s₄ [.process] = some s' := by
    rw [Machine.run_cons, hprocess]
    rfl
  obtain ⟨-, -, v₁, v₂, outflow, hv₁, hv₂, hout, hnear⟩ :=
    balance_measured (a := []) (c := []) (by decide) closedSubscriber_sound rfl rfl
      ⟨hrun₂, hquiet⟩ (by decide) ⟨rfl, trivial⟩ hnone.le
      ⟨hrun₄, trivial, fun _ _ => ⟨trivial, fun _ _ => trivial⟩⟩ (by omega)
      ⟨hrun', trivial, fun _ _ => trivial⟩
  refine ⟨s', v₁, v₂, outflow, ?_, hv₁, hv₂, hout, hnear⟩
  have hsplit : ([.publish, .loop (.wait 4000), .process] : List Event) =
      [.publish, .loop (.wait 4000)] ++ [.process] := rfl
  rw [Machine.run_append, hrun₂, Option.bind_some, hsplit, Machine.run_append, hrun₄]
  exact hrun'

end Metered

end DamMonitoring.Deployment
