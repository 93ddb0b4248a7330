/-
DamMonitoring.Controller.Freshness — how old the data behind a gate
command may be.

A cycle tests the timestamp of the water level ("Do nothing if no fresh
data are available") and of nothing else; the inflow row and the rows of
the outflow sum may be from last year. `fresh_data_iff` says which
measurements keep the cycle from acting on old data, whatever is
registered: recent flow rows, or one of the guards at its beginning
(`HeldBack`). Where neither is given, some gate is moved on old rows
(`acts_on_old_flows`).

  §1 the rows a cycle uses
  §2 when a cycle commands a gate
  §3 fresh data
-/
import DamMonitoring.Controller.RegisteredValues
import Mathlib.Tactic.NormNum

namespace DamMonitoring.Controller

open Program Java Motes Persistence
open ControlLogic AutomaticControlUnit

variable {F : Type} [JavaFloat F] {maxStale : Int} {f : Action F → Fault}

/-! ## §1 Rows -/

/-- Not more than `maxStale` minutes before the cycle. -/
def Recent (maxStale : Int) (w : World F) (timestamp : Int) : Prop :=
  w.clock - maxStale * 60000 ≤ timestamp

/-- The rows that contribute to `retrieveOutFlowRate`. -/
def outflowContributors (col : Collation) (rows : List (FlowRate F)) : List (FlowRate F) :=
  rows.filter fun r => r.recordId ∈ lastOutflowIds col rows

/-- The flow rows a cycle uses are recent. -/
structure FlowsRecent (maxStale : Int) (w : World F) : Prop where
  inflow : ∀ m, retrieveFlowRate w.collation w.flowRates INFLOW = some m →
    Recent maxStale w m.timestamp
  outflow : ∀ m ∈ outflowContributors w.collation w.flowRates, Recent maxStale w m.timestamp

/-- All rows a cycle uses are recent. -/
structure DataRecent (maxStale : Int) (w : World F) : Prop extends FlowsRecent maxStale w where
  level : ∀ m, retrieveWaterLevel w.waterLevels = some m → Recent maxStale w m.timestamp

omit [JavaFloat F] in
/-- The sum is the sum over the contributing rows. -/
theorem retrieveOutFlowRate_contributors [JavaFloat F] (col : Collation)
    (rows : List (FlowRate F)) :
    retrieveOutFlowRate col rows = if outflowContributors col rows = [] then none
      else some ((outflowContributors col rows).map FlowRate.value).sum := by
  unfold retrieveOutFlowRate outflowContributors
  cases rows.filter fun r => r.recordId ∈ lastOutflowIds col rows with
  | nil => rfl
  | cons m rest => rfl

/-- A cycle that has inputs has a recent water level. -/
theorem recent_of_inputs {w : World F} {l i o : F} (h : cycleInputs maxStale w = some (l, i, o)) :
    ∀ m, retrieveWaterLevel w.waterLevels = some m → Recent maxStale w m.timestamp := by
  intro m hm
  obtain ⟨inflow, -, h⟩ := Option.bind_eq_some_iff.mp h
  obtain ⟨sum, -, h⟩ := Option.bind_eq_some_iff.mp h
  rw [hm, Option.bind_some] at h
  split at h
  · cases h
  · next hfresh => exact Int.not_lt.mp hfresh

/-! ## §2 Gate commands -/

/-- The run sends a PUT to a gate. -/
def CommandsGate (f : Action F → Fault) (maxStale : Int) (s : State F) : Prop :=
  ∃ gate ∈ s.world.resources.gates, ∃ payload,
    Sends s (runWith f maxStale s) (gate.uri, payload)

/-- What lies between the inputs `l`, `i`, `o` and a gate command: AUTO
mode, no alarm that ends the cycle, no gate that ends it before, and a
gate to be moved. -/
def CommandReached (f : Action F → Fault) (w : World F) (l i o : F) : Prop :=
  w.mode = .AUTO ∧
    (∀ alarm ∈ w.resources.alarms,
      Passes f alarm w (alarmTreatment (decide (w.thresholds.safe < l)) alarm)) ∧
    ∃ pre gate post, w.resources.gates = pre ++ gate :: post ∧
      (∀ q ∈ pre, Passes f q w (gateTreatment w.thresholds l i o q)) ∧
      ∃ payload, MaySend (gateTreatment w.thresholds l i o) w gate (gate.uri, payload)

/-- The cycle has inputs, and they lead to a gate command. -/
def ComesToCommand (f : Action F → Fault) (maxStale : Int) (w : World F) : Prop :=
  ∃ l i o, cycleInputs maxStale w = some (l, i, o) ∧ CommandReached f w l i o

variable {s s' : State F} {l i o : F} {out : Except JException Unit}

omit [JavaFloat F] in
/-- The loop over the alarms leaves every gate as it is. -/
theorem Touched.gate_asIn {w w' : World F} (h : Touched w.resources.alarms w w') {gate : Resource}
    (hg : gate ∈ w.resources.gates) : AsIn w gate w' :=
  local_asIn w gate _ _ _ h
    (fun _ hq => (ResourceTable.gate_distinct_alarm hg hq).symm) (.refl gate w)

omit [JavaFloat F] in
/-- What a loop over the alarms sends goes to no gate. -/
theorem Swept.alarms_send_no_gate {status : Bool}
    (h : Swept f (alarmTreatment status) s.world.resources.alarms s out s') {gate : Resource}
    (hg : gate ∈ s.world.resources.gates) (payload : ObjectNode) :
    ¬Sends s s' (gate.uri, payload) := by
  intro h'
  obtain ⟨sent, hsent, hp⟩ := h'
  obtain ⟨sent', hsent', hmay⟩ := h.puts_mem (s.world.resources.ofType_distinct "alarm")
  obtain rfl : sent = sent' := List.append_cancel_right (hsent.symm.trans hsent')
  obtain ⟨r, hr, hsend⟩ := hmay _ hp
  exact alarm_put_ne_gate hsend hr hg rfl

/-- A cycle with inputs commands a gate exactly if they lead to it. -/
theorem Controlled.commands_iff (h : Controlled f l i o s out s') :
    (∃ gate ∈ s.world.resources.gates, ∃ payload, Sends s s' (gate.uri, payload)) ↔
      CommandReached f s.world l i o := by
  have hda := s.world.resources.ofType_distinct "alarm"
  have hdg := s.world.resources.ofType_distinct "gate"
  cases h with
  | alarmsFailed alarms =>
    constructor
    · intro h'
      obtain ⟨gate, hg, payload, hsend⟩ := h'
      exact absurd hsend (alarms.alarms_send_no_gate hg payload)
    · intro h'
      obtain ⟨-, hpass, -⟩ := h'
      cases (alarms.ok_iff hda).mpr hpass
  | manual alarms mode quiet =>
    constructor
    · intro h'
      obtain ⟨gate, hg, payload, sent, hsent, hp⟩ := h'
      exact absurd ⟨sent, quiet.puts.symm.trans hsent, hp⟩
        (alarms.alarms_send_no_gate hg payload)
    · intro h'
      obtain ⟨hauto, -⟩ := h'
      rw [mode] at hauto
      cases hauto
  | @auto s₁ _ _ alarms mode gates =>
    obtain ⟨sent₁, hsent₁, -⟩ := alarms.sends hda
    obtain ⟨sent₂, hsent₂, hmem⟩ := gates.sends hdg
    have hall : s'.puts = sent₂ ++ sent₁ ++ s.puts := by
      rw [hsent₂, hsent₁, List.append_assoc]
    have hasIn : ∀ q ∈ s.world.resources.gates, AsIn s.world q s₁.world := fun q hq =>
      alarms.touched.gate_asIn hq
    have hcalled : ∀ p, p ∈ sent₂ ↔
        Called f (gateTreatment s.world.thresholds l i o) s.world s.world.resources.gates p :=
      fun p => (hmem p).trans (called_congr hasIn)
    constructor
    · intro h'
      obtain ⟨gate, hg, payload, sent, hsent, hp⟩ := h'
      obtain rfl : sent = sent₂ ++ sent₁ := List.append_cancel_right (hsent.symm.trans hall)
      rcases List.mem_append.mp hp with hp | hp
      · obtain ⟨pre, r, post, heq, hpre, hsend⟩ := (hcalled _).mp hp
        exact ⟨mode, (alarms.ok_iff hda).mp rfl, pre, r, post, heq, hpre, payload, rfl, hsend.2⟩
      · exact absurd ⟨sent₁, hsent₁, hp⟩ (alarms.alarms_send_no_gate hg payload)
    · intro h'
      obtain ⟨-, -, pre, r, post, heq, hpre, payload, hsend⟩ := h'
      have hr : r ∈ s.world.resources.gates := heq ▸ List.mem_append_right _ List.mem_cons_self
      have hp : (r.uri, payload) ∈ sent₂ := (hcalled _).mpr ⟨pre, r, post, heq, hpre, hsend⟩
      exact ⟨r, hr, payload, sent₂ ++ sent₁, hall, List.mem_append_left _ hp⟩

/-- **When a run commands a gate.** -/
theorem commandsGate_iff (hf : Answering f) :
    CommandsGate f maxStale s ↔ ComesToCommand f maxStale s.world := by
  unfold ComesToCommand
  cases hin : cycleInputs maxStale s.world with
  | none =>
    have hquiet := runWith_quiet hf hin
    constructor
    · intro h'
      obtain ⟨gate, -, payload, hsend⟩ := h'
      exact absurd hsend (not_sends_of_puts hquiet.puts)
    · intro h'
      obtain ⟨l, i, o, h, -⟩ := h'
      cases h
  | some inputs =>
    obtain ⟨l, i, o⟩ := inputs
    obtain ⟨out, h⟩ := runWith_controlled hf hin
    rw [CommandsGate, h.commands_iff]
    constructor
    · exact fun hreached => ⟨l, i, o, rfl, hreached⟩
    · intro h'
      obtain ⟨l', i', o', heq, hreached⟩ := h'
      cases heq
      exact hreached

/-! ## §3 Fresh data -/

/-- The state with another registry. -/
def State.registering (s : State F) (resources : ResourceTable) : State F :=
  ⟨{ s.world with resources }, s.log⟩

/-- What keeps a cycle from the gates before it looks at any: a flow is
missing, there is no recent water level, or the mode is MANUAL. -/
inductive HeldBack (maxStale : Int) (w : World F) : Prop where
  | noInflow : retrieveFlowRate w.collation w.flowRates INFLOW = none → HeldBack maxStale w
  | noOutflow : retrieveOutFlowRate w.collation w.flowRates = none → HeldBack maxStale w
  | noLevel : (∀ m, retrieveWaterLevel w.waterLevels = some m → ¬Recent maxStale w m.timestamp) →
      HeldBack maxStale w
  | manual : w.mode = .MANUAL → HeldBack maxStale w

/-- Without inputs a cycle is held back. -/
theorem heldBack_of_no_inputs {w : World F} (h : cycleInputs maxStale w = none) :
    HeldBack maxStale w := by
  unfold cycleInputs at h
  cases hin : retrieveFlowRate w.collation w.flowRates INFLOW with
  | none => exact .noInflow hin
  | some inflow =>
    cases hout : retrieveOutFlowRate w.collation w.flowRates with
    | none => exact .noOutflow hout
    | some sum =>
      rw [hin, hout, Option.bind_some, Option.bind_some] at h
      refine .noLevel fun m hm hrecent => ?_
      rw [hm, Option.bind_some, if_neg (Int.not_lt.mpr hrecent)] at h
      cases h

/-- A cycle that is held back comes to no gate. -/
theorem HeldBack.not_comesToCommand {w : World F} (h : HeldBack maxStale w) :
    ¬ComesToCommand f maxStale w := by
  intro hcomes
  obtain ⟨l, i, o, hin, hauto, -⟩ := hcomes
  cases h with
  | noInflow hnone => simp [cycleInputs, hnone] at hin
  | noOutflow hnone => simp [cycleInputs, hnone] at hin
  | noLevel hold =>
    cases hm : retrieveWaterLevel w.waterLevels with
    | none => simp [cycleInputs, hm] at hin
    | some m => exact hold m hm (recent_of_inputs hin m hm)
  | manual hmode =>
    rw [hmode] at hauto
    cases hauto

/-- An emergency gate that is neither closed nor fully open. -/
def ajar : Resource := ⟨"outflow-2", "gate", none, some "Emergency", "coap://outflow-2", some 50⟩

def ajarTable : ResourceTable := ⟨[ajar], List.nodup_singleton _, List.nodup_singleton _⟩

/-- A cycle in AUTO mode always moves it: above the safe threshold it is
opened, at or below it closed. -/
theorem commandReached_ajar {w : World F} (hauto : w.mode = .AUTO) (l i o : F) :
    CommandReached f { w with resources := ajarTable } l i o := by
  have hvalue : ajarTable.value ajar.name = some 50 := by decide
  have hgate : ajarTable.gates = [ajar] := by decide
  have halarms : ajarTable.alarms = [] := by decide
  obtain ⟨level, hne, htreat⟩ : ∃ level, 50 ≠ level ∧
      gateTreatment w.thresholds l i o ajar = .update (gateCommand (setNext level)) := by
    unfold gateTreatment
    by_cases hsafe : w.thresholds.safe < l
    · exact ⟨FULL_OPEN, by decide, if_pos hsafe⟩
    · exact ⟨FULL_CLOSE, by decide, if_neg hsafe⟩
  refine ⟨hauto, fun alarm halarm => ?_, [], ajar, [], hgate, by simp,
    ResGate.openingLevelNode level, rfl, gateCommand (setNext level), 50, level, htreat, hvalue, ?_⟩
  · change alarm ∈ ajarTable.alarms at halarm
    rw [halarms] at halarm
    cases halarm
  · rw [gateCommand, setNext, if_pos hne, Option.map_some]

/-- Old flow rows move a gate unless the cycle is held back. -/
theorem acts_on_old_flows (hf : Answering f) (hold : ¬FlowsRecent maxStale s.world)
    (hnot : ¬HeldBack maxStale s.world) :
    CommandsGate f maxStale (s.registering ajarTable) ∧
      ¬DataRecent maxStale (s.registering ajarTable).world := by
  have hauto : s.world.mode = .AUTO := by
    cases hmode : s.world.mode with
    | AUTO => rfl
    | MANUAL => exact absurd (.manual hmode) hnot
  obtain ⟨⟨l, i, o⟩, hin⟩ : ∃ inputs, cycleInputs maxStale s.world = some inputs :=
    Option.ne_none_iff_exists'.mp fun hnone => hnot (heldBack_of_no_inputs hnone)
  refine ⟨(commandsGate_iff hf).mpr ⟨l, i, o, hin, commandReached_ajar hauto l i o⟩, fun h => ?_⟩
  exact hold ⟨h.inflow, h.outflow⟩

/-- **When a run acts on fresh data only**, whatever is registered: the
flow rows it uses are recent, or the measurements or the mode hold it
back. -/
theorem fresh_data_iff (hf : Answering f) (maxStale : Int) (s : State F) :
    (∀ resources, CommandsGate f maxStale (s.registering resources) →
        DataRecent maxStale (s.registering resources).world) ↔
      FlowsRecent maxStale s.world ∨ HeldBack maxStale s.world := by
  constructor
  · intro h
    by_contra hneither
    obtain ⟨hold, hnot⟩ := not_or.mp hneither
    obtain ⟨hcommand, hstale⟩ := acts_on_old_flows hf hold hnot
    exact hstale (h ajarTable hcommand)
  · rintro (hflows | hheld) resources hcommand
    · obtain ⟨l, i, o, hin, -⟩ := (commandsGate_iff hf).mp hcommand
      exact ⟨⟨hflows.inflow, hflows.outflow⟩, recent_of_inputs hin⟩
    · -- the registry is nothing to what holds a cycle back
      have hheld' : HeldBack maxStale (s.registering resources).world := by
        cases hheld with
        | noInflow hnone => exact .noInflow hnone
        | noOutflow hnone => exact .noOutflow hnone
        | noLevel hold => exact .noLevel hold
        | manual hmode => exact .manual hmode
      exact absurd ((commandsGate_iff hf).mp hcommand) hheld'.not_comesToCommand

omit [JavaFloat F] in
/-- Where every flow row is recent, those a cycle uses are. -/
theorem flowsRecent_of_all {w : World F} (h : ∀ m ∈ w.flowRates, Recent maxStale w m.timestamp) :
    FlowsRecent maxStale w where
  inflow m hm := h m (List.mem_filter.mp (List.argmax_mem hm)).1
  outflow m hm := h m (List.mem_filter.mp hm).1

/-- The demo deployment commands a gate whenever its inputs are these,
whatever the age of the rows. -/
theorem demo_commandsGate {waterLevels : List (WaterLevel ℚ)} {clock : Int} {w : World ℚ}
    (hw : w = { demoWorld .AUTO 50 0 false 55 30 20 with waterLevels, clock })
    (hinputs : cycleInputs 5 w = some (55, 30, 20)) :
    CommandsGate (fun _ => .none) 5 ⟨w, []⟩ := by
  refine (commandsGate_iff faultFree_answering).mpr ⟨55, 30, 20, hinputs, ?_, ?_, ?_⟩
  · rw [hw]
    rfl
  · intro alarm halarm
    subst hw
    change alarm ∈ (demoTable 50 0 false).alarms at halarm
    rw [demoTable_alarms, List.mem_singleton] at halarm
    subst halarm
    have hquiet : decide (demoThresholds.safe < 55) = false := by decide
    change Passes _ _ _ (alarmTreatment (decide (demoThresholds.safe < 55)) (demoAlarm false))
    rw [hquiet]
    have hvalue : (demoTable 50 0 false).value (demoAlarm false).name = some 0 := by decide
    exact ⟨0, hvalue, fun _ _ hmove => by cases hmove⟩
  · subst hw
    refine ⟨[], demoGate1 50, [demoGate2 0], demoTable_gates, by simp,
      ResGate.openingLevelNode 60, rfl, gateCommand (stepNext 10), 50, 60, ?_, ?_, ?_⟩
    · have htag : equalsIgnoreCase "Primary" "emergency" = false := by decide
      norm_num [gateTreatment, closeTreatment, primaryTreatment, delta, demoWorld,
        demoThresholds, demoGate1, Collector.gateResource, htag, LONG_STEP]
    · have hvalue : (demoTable 50 0 false).value (demoGate1 50).name = some 50 := by decide
      exact hvalue
    · decide

/-- The demo deployment, all of whose data have just been taken. -/
theorem fresh_data_iff_demo :
    CommandsGate (fun _ => .none) 5 (demoState .AUTO 50 0 false 55 30 20) ∧
      DataRecent 5 (demoState .AUTO 50 0 false 55 30 20).world := by
  have hcommand : CommandsGate (fun _ => .none) 5 (demoState .AUTO 50 0 false 55 30 20) :=
    demo_commandsGate rfl (demo_measured .AUTO 50 0 false 55 30 20).cycleInputs
  refine ⟨hcommand, (fresh_data_iff faultFree_answering 5 (demoState .AUTO 50 0 false 55 30 20)).mpr
    (Or.inl ?_) (demoTable 50 0 false) hcommand⟩
  refine flowsRecent_of_all fun m hm => ?_
  simp only [demoState, demoWorld, List.mem_cons, List.not_mem_nil, or_false] at hm
  rcases hm with rfl | rfl <;> exact show (0 : Int) - 5 * 60000 ≤ 0 by decide

/-- The demo deployment ten minutes later; only the water level has been
measured again. -/
def staleFlows : State ℚ :=
  ⟨{ demoWorld .AUTO 50 0 false 55 30 20 with
      waterLevels := [⟨1, 600000, 55⟩]
      clock := 600000 }, []⟩

theorem staleFlows_inputs : cycleInputs 5 staleFlows.world = some (55, 30, 20) := by
  have hbefore := demo_measured .AUTO 50 0 false 55 30 20
  have hm : Measured 5 staleFlows.world 55 30 20 :=
    ⟨⟨⟨1, 600000, 55⟩, rfl, rfl, show (600000 : Int) - 5 * 60000 ≤ 600000 by decide⟩,
      hbefore.inflow, hbefore.outflow⟩
  exact hm.cycleInputs

/-- **Flows of ten minutes ago move a gate.** -/
theorem stale_flows_move_gate :
    ¬(CommandsGate (fun _ => .none) 5 staleFlows → DataRecent 5 staleFlows.world) := by
  intro h
  have hcommand : CommandsGate (fun _ => .none) 5 staleFlows :=
    demo_commandsGate rfl staleFlows_inputs
  have hrow : retrieveFlowRate .ascii staleFlows.world.flowRates INFLOW =
      some ⟨1, "inflow", 0, 30⟩ :=
    @demo_inflow .AUTO 50 0 false 55 30 20 .ascii
  have hinflow := (h hcommand).inflow _ hrow
  exact absurd hinflow (show ¬((600000 : Int) - 5 * 60000 ≤ 0) by decide)

end DamMonitoring.Controller
