/-
DamMonitoring.Deployment.Plant — the Controller, the gates of `mote-1`
and the simulated plant.

A gate operation moves the gate, records the new level, and publishes it
for the water-level mote. A reboot of `mote-1` closes its gates, and the
registration that follows records that, but neither is published: the
water keeps flowing through a gate that is closed.

`GateRecord` says what registry and plant hold of one gate, by what has
happened to it; `plant_follows` connects it with the parties.

  §1 gate operations
  §2 the parties
  §3 one gate
  §4 the plant
-/
import DamMonitoring.Controller.GateProtocol
import DamMonitoring.Motes.WaterLevelSensor
import DamMonitoring.Program.Runs

namespace DamMonitoring.Deployment

open Program Java Persistence Collector Controller
open Motes hiding maxInflow

variable {F : Type} [JavaFloat F]

/-! ## §1 Operations -/

/-- What an entry has published, if it has. -/
def Entry.published? : Entry F → Option (String × Int)
  | .did _ (.publish gate level) (.ok _) => some (gate, level)
  | _ => none

/-- The messages published so far, oldest first. -/
def published (s : State F) : List (String × Int) := (s.log.filterMap Entry.published?).reverse

inductive GateOp where
  | setGateOpening (openingLevel : Int)
  | increaseGateOpening (step : Int)
  | decreaseGateOpening (step : Int)
  deriving DecidableEq, Repr

namespace GateOp

def method (gateName : String) : GateOp → Java F Unit
  | .setGateOpening openingLevel => ControlLogic.setGateOpening gateName openingLevel
  | .increaseGateOpening step => ControlLogic.increaseGateOpening gateName step
  | .decreaseGateOpening step => ControlLogic.decreaseGateOpening gateName step

/-- The level an operation asks the gate for, if it asks. -/
def next : GateOp → Int → Option Int
  | .setGateOpening openingLevel => ControlLogic.setNext openingLevel
  | .increaseGateOpening step => ControlLogic.increaseNext step
  | .decreaseGateOpening step => ControlLogic.decreaseNext step

omit [JavaFloat F] in
theorem method_eq (gateName : String) (op : GateOp) :
    (op.method gateName : Java F Unit) = ControlLogic.updateGate gateName op.next := by
  cases op <;> rfl

/-- The level it moves the gate to, if it moves it. -/
def target (op : GateOp) (value : Int) : Option Int :=
  (op.next value).filter fun level => ResGate.Accepts level

/-- An operation that meets no fault. -/
def operate (gateName : String) (op : GateOp) (s : State F) : State F :=
  (Controller.run .shell (fun _ => .none) (op.method gateName) s).2

end GateOp

variable {host gateName : String} {m : Mote1} {s s' : State F} {o : Outflow} {value : Int}
  {t : Thread}

/-- Neither the registry nor the simulation has been told anything. -/
structure Untold (host : String) (s s' : State F) : Prop where
  hosts : ∃ m, Hosts host m s'.world
  resources : s'.world.resources = s.world.resources
  published : published s' = published s

/-- A gate takes the levels it accepts. -/
theorem safe_setGateOpening (h : Hosts host m s.world) (hname : fold gateName = fold o.name)
    (level : Int) :
    (under t fun _ => .none).Safe (CoapManager.setGateOpening gateName level)
      (fun out s' => Untold host s s' ∧ ((∃ text, out = .ok text) ↔ ResGate.Accepts level)) s := by
  obtain ⟨row, hrow, huri⟩ := Option.map_eq_some_iff.mp
    ((ResourceTable.uri_congr hname).trans (h.rows o))
  obtain ⟨code, text, m', hreply, hsuccess, hhosts, -⟩ := h.serve_openingLevel o level
  have hpayload : [("opening_level", JsonValue.num level)] = ResGate.openingLevelNode level := rfl
  simp only [CoapManager.setGateOpening, CoapManager.coapPutRequest, CoapManager.URILookup,
    DataManager.lookupResource, DataManager.session, perform, Prog.perform_bind,
    Contract.safe_bind, Contract.safe_tryCatch, under_act, handler, World.perform, Fault.query,
    Prog.pure_eq, Contract.safe_pure, hrow, huri, hpayload, World.clientPut_of_reply _ hreply,
    CoapManager.readPutAnswer_message, hsuccess, decide_eq_true_eq]
  have huntold : Untold host s ⟨(s.world.serve (gateUri host o) (ResGate.openingLevelNode level)).2,
      .did t (.clientPut (gateUri host o) (ResGate.openingLevelNode level))
          (.response (.message code text)) ::
        .did t (.getResource gateName) (.ok (some row)) :: s.log⟩ :=
    ⟨⟨m', hhosts⟩, s.world.serve_resources, rfl⟩
  by_cases haccepts : ResGate.Accepts level
  · simp only [haccepts, if_true, Contract.safe_pure]
    exact ⟨huntold, iff_of_true ⟨text, rfl⟩ trivial⟩
  · simp only [haccepts, if_false, Contract.safe_throw]
    exact ⟨huntold, iff_of_false (by simp) not_false⟩

/-- How an operation ends that moves the gate to `level`, if to any. -/
def Moved (host gateName : String) (s : State F) (level : Option Int) (s' : State F) : Prop :=
  match level with
  | some level => (∃ m, Hosts host m s'.world) ∧
      s'.world.resources = s.world.resources.setValue gateName level ∧
      published s' = published s ++ [(gateName, level)]
  | none => Untold host s s'

/-- **A gate operation** moves its gate, records the level and publishes
it, or does none of this. -/
theorem safe_updateGate_moves (h : Hosts host m s.world) (hname : fold gateName = fold o.name)
    (hvalue : s.world.resources.value o.name = some value) (next : Int → Option Int) :
    (under t fun _ => .none).Safe (ControlLogic.updateGate gateName next)
      (fun _ s' => Moved host gateName s
        ((next value).filter fun level => ResGate.Accepts level) s') s := by
  obtain ⟨row, hrow, -⟩ := Option.map_eq_some_iff.mp
    ((ResourceTable.uri_congr hname).trans (h.rows o))
  have hrowValue : row.value = some value := by
    simpa [ResourceTable.value, hrow] using (ResourceTable.value_congr hname).trans hvalue
  simp only [ControlLogic.updateGate, DataManager.getResourceValue, perform, Prog.perform_bind,
    Contract.safe_bind, under_act, handler, World.perform, Fault.query, DataManager.session,
    Prog.pure_eq, Prog.pure_bind, Contract.safe_pure, hrow, hrowValue, deref]
  cases next value with
  | none => exact ⟨⟨m, h⟩, rfl, rfl⟩
  | some level =>
    have hput := safe_setGateOpening
      (t := t) (s := ⟨s.world, .did t (.getResource gateName) (.ok (some row)) :: s.log⟩) h hname
      level
    rw [Contract.safe_bind]
    refine hput.mono fun out s₁ h₁ => ?_
    obtain ⟨⟨hhosts, hresources, hpublished⟩, haccepts⟩ := h₁
    cases out with
    | error ex =>
      have hrefused : ¬ResGate.Accepts level := by simpa using haccepts
      simp only [Option.filter_some, hrefused, decide_false]
      exact ⟨hhosts, hresources, hpublished⟩
    | ok text =>
      have haccepted : ResGate.Accepts level := haccepts.mp ⟨text, rfl⟩
      simp only [Option.filter_some, haccepted, decide_true, if_true,
        DataManager.setResourceValue, ControlLogic.simulate, DataManager.session, perform,
        Prog.perform_bind, under_act, handler, World.perform, World.updateValue, Fault.query,
        Prog.pure_eq, Contract.safe_bind, Contract.safe_pure]
      obtain ⟨m', hm'⟩ := hhosts
      refine ⟨⟨m', fun o' => ?_, hm'.devices⟩, ?_, ?_⟩
      · simpa [World.setValue] using hm'.rows o'
      · simp [World.setValue, hresources]
      · have hsame : published s₁ = published s := hpublished
        rw [← hsame]
        exact List.reverse_cons

theorem updateGate_moves (h : Hosts host m s.world) (hname : fold gateName = fold o.name)
    (hvalue : s.world.resources.value o.name = some value) (next : Int → Option Int) :
    Moved host gateName s ((next value).filter fun level => ResGate.Accepts level)
      (Controller.run .shell (fun _ => .none) (ControlLogic.updateGate gateName next) s).2 :=
  run_of_safe (Q := fun _ s' =>
    Moved host gateName s ((next value).filter fun level => ResGate.Accepts level) s')
    (safe_updateGate_moves h hname hvalue next)

theorem GateOp.operate_moves (h : Hosts host m s.world) (hname : fold gateName = fold o.name)
    (hvalue : s.world.resources.value o.name = some value) (op : GateOp) :
    Moved host gateName s (op.target value) (op.operate gateName s) := by
  rw [operate, method_eq]
  exact updateGate_moves h hname hvalue op.next

/-! ## §2 The parties -/

/-- A text under which the registry finds a gate. -/
structure GateName where
  text : String
  gate : Outflow
  spells : fold text = fold gate.name

/-- The index of a gate in the array `flow`. -/
def channel : Outflow → Motes.Channel
  | .outflow1 => .outflow1
  | .outflow2 => .outflow2

theorem gate_channel (o : Outflow) : (channel o).gate = o.name := by
  cases o <;> rfl

/-- No text names both gates. -/
theorem fold_name_injective {o o' : Outflow} (h : fold o.name = fold o'.name) : o = o' := by
  cases o <;> cases o' <;> first | rfl | exact absurd h (by decide)

/-- `delivered` counts the published messages that the water-level mote
has had. -/
structure Plant (F : Type) where
  controller : State F
  delivered : Nat
  sensor : WaterLevelSensor

namespace Plant

def init (w : World F) : Plant F := ⟨⟨w, []⟩, 0, .init⟩

/-- The messages on their way, oldest first. -/
def pending (s : Plant F) : List (String × Int) := (published s.controller).drop s.delivered

/-- `mote-1` boots again, with all its resources. -/
def reboot (host : String) (w : World F) : World F :=
  { w with devices := fun uri =>
      if uri ∈ (mote1Registration host).map Resource.uri then (w.devices uri).map Device.reboot
      else w.devices uri }

inductive Event where
  | operate (name : GateName) (op : GateOp)
  /-- `mote-1` boots again and registers. -/
  | reboot
  | deliver (keyBuf : Motes.Channel → List Char)
  | tick (random₁ random₂ : Rand)
  | button (e : ButtonEvent)

def step (host : String) (s : Plant F) : Event → Option (Plant F)
  | .operate name op => some { s with controller := op.operate name.text s.controller }
  | .reboot =>
    match handlePOST s.controller.world.resources (mote1Registration host) with
    | (resources, true) =>
      some { s with
        controller := ⟨{ reboot host s.controller.world with resources }, s.controller.log⟩ }
    | (_, false) => none  -- a registration that is refused is not part of a run
  | .deliver keyBuf =>
    match s.pending with
    | [] => none
    | (gate, level) :: _ =>
      some { s with
        delivered := s.delivered + 1
        sensor := s.sensor.handleMessage ⟨(gateMessage gate level).tokens, keyBuf, saturate⟩ }
  | .tick random₁ random₂ =>
    (s.sensor.simulateReadWaterLevel random₁ random₂).map fun sensor => { s with sensor }
  | .button e => some { s with sensor := s.sensor.button e }

end Plant

/-! ## §3 One gate -/

/-- The registered value of a gate, and the level the plant has been told
last. -/
structure GateRecord where
  value : Int
  sent : Int
  deriving DecidableEq, Repr

/-- What an event does to them. The plant knows a gate by the name it is
registered under. -/
def GateRecord.step (o : Outflow) (r : GateRecord) : Plant.Event → GateRecord
  | .operate name op =>
    if name.gate = o then
      match op.target r.value with
      | some level => ⟨level, if name.text = o.name then level else r.sent⟩
      | none => r
    else r
  | .reboot => { r with value := 0 }
  | _ => r

/-- The record of a gate that was closed at first. -/
def GateRecord.after (o : Outflow) (es : List Plant.Event) : GateRecord :=
  es.foldl (GateRecord.step o) ⟨0, 0⟩

namespace Plant

/-- An event after which the plant still holds what the registry holds: an
operation that names its gate as it is registered, and a reboot after
which the plant is right to hold the gate closed. -/
def Told (o : Outflow) (r : GateRecord) : Event → Prop
  | .operate name _ => name.gate = o → name.text = o.name
  | .reboot => r.sent = 0
  | _ => True

theorem Told.step {r : GateRecord} {e : Event} (h : Told o r e) (hr : r.sent = r.value) :
    (r.step o e).sent = (r.step o e).value := by
  cases e with
  | operate name op =>
    by_cases hgate : name.gate = o
    · have hname := h hgate
      cases htarget : op.target r.value <;> simp [GateRecord.step, hgate, htarget, hname, hr]
    · simpa [GateRecord.step, hgate] using hr
  | reboot => exact h
  | deliver keyBuf => exact hr
  | tick random₁ random₂ => exact hr
  | button e => exact hr

theorem Told.foldl {es : List Event} {r : GateRecord}
    (h : Machine.Each (fun r e => some (GateRecord.step o r e)) (Told o) r es)
    (hr : r.sent = r.value) :
    (es.foldl (GateRecord.step o) r).sent = (es.foldl (GateRecord.step o) r).value := by
  induction es generalizing r with
  | nil => exact hr
  | cons e es ih => exact ih (h.2 _ rfl) (h.1.step hr)

/-! ## §4 The plant -/

/-- The flows of the water-level mote once it has had these messages. -/
def told (flow : Motes.Channel → Int) (messages : List (String × Int)) : Motes.Channel → Int :=
  messages.foldl (fun flow message => WaterLevelSensor.told flow message.1 message.2) flow

/-- Registry and plant hold what the records say, once the plant has had
its messages. -/
structure Tracks (host : String) (r : Outflow → GateRecord) (s : Plant F) : Prop where
  hosts : ∃ m, Hosts host m s.controller.world
  values : ∀ o : Outflow, s.controller.world.resources.value o.name = some (r o).value
  flows : ∀ o, told s.sensor.flow s.pending (channel o) = (r o).sent * (channel o).maxFlow
  delivered : s.delivered ≤ (published s.controller).length

variable {r : Outflow → GateRecord} {s s' : Plant F}

omit [JavaFloat F]

theorem init_tracks {w : World F} {linkAddr : LinkAddr} (hhosts : Hosts host (.boot linkAddr) w)
    (hclosed : ∀ o : Outflow, w.resources.value o.name = some 0) :
    Tracks host (fun _ => ⟨0, 0⟩) (init w) where
  hosts := ⟨_, hhosts⟩
  values := hclosed
  flows o := by cases o <;> rfl
  delivered := Nat.le_refl 0

/-- A new message is the last on its way. -/
theorem pending_append {controller : State F} {message : String × Int}
    (h : s.delivered ≤ (published s.controller).length)
    (hpublished : published controller = published s.controller ++ [message]) :
    ({ s with controller } : Plant F).pending = s.pending ++ [message] := by
  simp only [pending, hpublished]
  exact List.drop_append_of_le_length h

theorem Tracks.untold {controller : State F} (h : Tracks host r s)
    (huntold : Untold host s.controller controller) :
    Tracks host r { s with controller } where
  hosts := huntold.hosts
  values o := huntold.resources ▸ h.values o
  flows o := by
    have hpending : ({ s with controller } : Plant F).pending = s.pending := by
      simp only [pending, huntold.published]
    rw [hpending]
    exact h.flows o
  delivered := huntold.published ▸ h.delivered

theorem Tracks.told (h : Tracks host r s) {controller : State F} {name : GateName} {level : Int}
    (hhosts : ∃ m, Hosts host m controller.world)
    (hresources : controller.world.resources =
      s.controller.world.resources.setValue name.text level)
    (hpublished : published controller = published s.controller ++ [(name.text, level)])
    (haccepts : ResGate.Accepts level) :
    Tracks host (fun o => if name.gate = o then
      ⟨level, if name.text = o.name then level else (r o).sent⟩ else r o) { s with controller } where
  hosts := hhosts
  values o := by
    obtain ⟨m, hm⟩ := h.hosts
    have huri := (ResourceTable.uri_congr name.spells).trans (hm.rows name.gate)
    rw [hresources]
    by_cases hgate : name.gate = o
    · subst hgate
      simp [ResourceTable.value_setValue_self huri name.spells.symm]
    · have hother : fold o.name ≠ fold name.text :=
        fun hfold => hgate (fold_name_injective (hfold.trans name.spells)).symm
      simp [hgate, ResourceTable.value_setValue_of_ne _ hother, h.values o]
  flows o := by
    have hrange : 0 ≤ level ∧ level ≤ 100 := haccepts
    have hflows := h.flows o
    rw [pending_append h.delivered hpublished]
    simp only [Plant.told, List.foldl_append, List.foldl_cons, List.foldl_nil] at hflows ⊢
    simp only [WaterLevelSensor.told, gate_channel, hrange, and_true]
    by_cases hgate : name.gate = o
    · by_cases hname : name.text = o.name <;> simp [hgate, hname, hflows]
    · have hname : name.text ≠ o.name := fun hname =>
        hgate (fold_name_injective (name.spells.symm.trans (congrArg fold hname)))
      simp [hgate, hname, hflows]
  delivered := by
    rw [hpublished, List.length_append]
    exact Nat.le_add_right_of_le h.delivered

/-- A reboot closes the gates and the registration says so, but the plant
is not told. -/
theorem Tracks.reboot {resources : ResourceTable} (h : Tracks host r s)
    (hrows : s.controller.world.resources.addResources (mote1Registration host) = some resources) :
    Tracks host (fun o => { r o with value := 0 }) { s with
      controller := ⟨{ reboot host s.controller.world with resources }, s.controller.log⟩ } where
  hosts := by
    obtain ⟨m, hm⟩ := h.hosts
    refine ⟨.boot m.linkAddr, hosts_of_registration hrows fun o => ?_⟩
    obtain ⟨tag, hrow⟩ := gateResource_mem host o
    have huri : gateUri host o ∈ (mote1Registration host).map Resource.uri :=
      List.mem_map_of_mem hrow
    simp only [Plant.reboot, huri, if_true, hm.devices o]
    rfl
  values o := by
    obtain ⟨tag, hrow⟩ := gateResource_mem host o
    have hvalue := ResourceTable.value_addResources hrows (mote1Registration_distinct host) hrow
    rwa [gateResource] at hvalue
  flows := h.flows
  delivered := h.delivered

/-- Delivering a message only moves it out of the queue. -/
theorem Tracks.deliver {message : String × Int} {rest : List (String × Int)} (h : Tracks host r s)
    (hqueue : s.pending = message :: rest) (keyBuf : Motes.Channel → List Char) :
    Tracks host r { s with
      delivered := s.delivered + 1
      sensor := s.sensor.handleMessage
        ⟨(gateMessage message.1 message.2).tokens, keyBuf, saturate⟩ } where
  hosts := h.hosts
  values := h.values
  flows o := by
    have hrest : (published s.controller).drop (s.delivered + 1) = rest := by
      rw [← List.tail_drop]
      exact congrArg List.tail hqueue
    have hflows := h.flows o
    rw [hqueue] at hflows
    simp only [pending, hrest, WaterLevelSensor.handleMessage_gateMessage]
    exact hflows
  delivered := by
    have hpending : s.pending ≠ [] := by simp [hqueue]
    have hlt : ¬(published s.controller).length ≤ s.delivered := by
      simpa [pending, List.drop_eq_nil_iff] using hpending
    exact Nat.lt_of_not_le hlt

/-- The water and the button move no flow. -/
theorem Tracks.sensor {sensor : WaterLevelSensor} (h : Tracks host r s)
    (hflow : sensor.flow = s.sensor.flow) : Tracks host r { s with sensor } where
  hosts := h.hosts
  values := h.values
  flows := hflow ▸ h.flows
  delivered := h.delivered

/-- An operation either leaves its gate or has its level published. -/
theorem Tracks.operate [JavaFloat F] (h : Tracks host r s) (name : GateName) (op : GateOp) :
    Tracks host (fun o => (r o).step o (.operate name op))
      { s with controller := op.operate name.text s.controller } := by
  obtain ⟨m, hm⟩ := h.hosts
  have hmoves := GateOp.operate_moves hm name.spells (h.values name.gate) op
  cases htarget : op.target (r name.gate).value with
  | none =>
    rw [htarget] at hmoves
    have hrecord : (fun o => (r o).step o (.operate name op)) = r := by
      funext o
      by_cases hgate : name.gate = o
      · subst hgate
        simp [GateRecord.step, htarget]
      · simp [GateRecord.step, hgate]
    rw [hrecord]
    exact h.untold hmoves
  | some level =>
    rw [htarget] at hmoves
    obtain ⟨hhosts, hresources, hpublished⟩ := hmoves
    have haccepts : ResGate.Accepts level := by
      simpa using (Option.filter_eq_some_iff.mp htarget).2
    have hrecord : (fun o => (r o).step o (.operate name op)) = fun o =>
        if name.gate = o then ⟨level, if name.text = o.name then level else (r o).sent⟩
        else r o := by
      funext o
      by_cases hgate : name.gate = o
      · subst hgate
        simp [GateRecord.step, htarget]
      · simp [GateRecord.step, hgate]
    rw [hrecord]
    exact h.told hhosts hresources hpublished haccepts

theorem Tracks.step [JavaFloat F] {e : Event} (h : Tracks host r s)
    (hstep : step host s e = some s') : Tracks host (fun o => (r o).step o e) s' := by
  cases e with
  | operate name op => exact Option.some.inj hstep ▸ h.operate name op
  | reboot =>
    simp only [Plant.step] at hstep
    split at hstep
    · next resources hregistered =>
      exact Option.some.inj hstep ▸ h.reboot (handlePOST_created.mp hregistered)
    · cases hstep
  | deliver keyBuf =>
    simp only [Plant.step] at hstep
    split at hstep
    · cases hstep
    · next gate level rest hqueue => exact Option.some.inj hstep ▸ h.deliver hqueue keyBuf
  | tick random₁ random₂ =>
    obtain ⟨sensor, hsensor, rfl⟩ := Option.map_eq_some_iff.mp hstep
    refine h.sensor ?_
    rw [WaterLevelSensor.simulateReadWaterLevel_frame hsensor]
  | button e => exact Option.some.inj hstep ▸ h.sensor (s.sensor.button_frame e).1

/-- Each gate has its own record. -/
theorem foldl_records (es : List Event) (r : Outflow → GateRecord) (o : Outflow) :
    es.foldl (fun r e o => GateRecord.step o (r o) e) r o = es.foldl (GateRecord.step o) (r o) := by
  induction es generalizing r with
  | nil => rfl
  | cons e es ih => exact ih _

/-- **The plant follows what it is told**: whenever it has had all
messages, a flow is that of the level that was published last under the
registered name of its gate. This is the registered value as long as no
reboot finds the gate open in the plant and no operation spells its name
in another way. -/
theorem plant_follows [JavaFloat F] {w : World F} {linkAddr : LinkAddr} {es : List Event}
    (hhosts : Hosts host (.boot linkAddr) w)
    (hclosed : ∀ o : Outflow, w.resources.value o.name = some 0)
    (hrun : Machine.run (step host) (init w) es = some s) (hpending : s.pending = [])
    (o : Outflow) :
    let r := GateRecord.after o es
    s.sensor.flow (channel o) = (channel o).maxFlow * r.sent ∧
      s.controller.world.resources.value o.name = some r.value ∧
      (Machine.Each (fun r e => some (GateRecord.step o r e)) (Told o) ⟨0, 0⟩ es →
        s.sensor.flow (channel o) = (channel o).maxFlow * r.value) := by
  intro r
  have htracks : Tracks host (es.foldl (fun r e o => GateRecord.step o (r o) e) fun _ => ⟨0, 0⟩) s :=
    Machine.run_record (R := fun r s => Tracks host r s) (fun r s e s' h hstep => h.step hstep)
      (init_tracks hhosts hclosed) hrun
  have hflows := htracks.flows o
  have hvalue := htracks.values o
  rw [foldl_records] at hflows hvalue
  rw [hpending] at hflows
  have hsent : s.sensor.flow (channel o) = (channel o).maxFlow * r.sent :=
    hflows.trans (Int.mul_comm _ _)
  refine ⟨hsent, hvalue, fun htold => ?_⟩
  rw [hsent]
  exact congrArg ((channel o).maxFlow * ·) (Told.foldl htold rfl)

/-- The world of the demo deployment, freshly registered. -/
def closed : World ℚ := demoWorld .MANUAL 0 0 false 50 20 20

theorem closed_hosts : Hosts demoAddr (.boot fun _ => 3) closed :=
  ⟨fun o => by cases o <;> rfl, fun o => by cases o <;> rfl⟩

/-- Outflow-1 is opened, and a reboot finds outflow-2 closed. -/
def opened : List Event :=
  [.operate ⟨"outflow-2", .outflow2, rfl⟩ (.setGateOpening 101), .reboot,
    .operate ⟨"outflow-1", .outflow1, rfl⟩ (.setGateOpening 40),
    .operate ⟨"outflow-1", .outflow1, rfl⟩ (.increaseGateOpening 10), .deliver fun _ => [],
    .deliver fun _ => []]

theorem plant_follows_demo : ∃ s, Machine.run (step demoAddr) (init closed) opened = some s ∧
    s.sensor.flow .outflow1 = 50000 ∧ s.controller.world.resources.value "outflow-1" = some 50 := by
  have hruns : (Machine.run (step demoAddr) (init closed) opened).map (·.pending) = some [] := by
    decide +kernel
  obtain ⟨s, hrun, hpending⟩ := Option.map_eq_some_iff.mp hruns
  obtain ⟨hflow, hvalue, -⟩ := plant_follows closed_hosts
    (fun o => by cases o <;> rfl) hrun hpending .outflow1
  exact ⟨s, hrun, hflow.trans (by decide +kernel), hvalue.trans (by decide +kernel)⟩

/-- Outflow-1 is opened to 50 %, and `mote-1` boots again. -/
def rebootedOpen : List Event :=
  [.operate ⟨"outflow-1", .outflow1, rfl⟩ (.setGateOpening 50), .deliver fun _ => [], .reboot]

/-- Outflow-1 is opened by a name that only the registry understands. -/
def openedInCapitals : List Event :=
  [.operate ⟨"OUTFLOW-1", .outflow1, by decide⟩ (.setGateOpening 50), .deliver fun _ => []]

/-- What is on its way, the registered value of outflow-1, and its flow in
the plant. -/
def outflow1 (s : Plant ℚ) : List (String × Int) × Option Int × Int :=
  (s.pending, s.controller.world.resources.value "outflow-1", s.sensor.flow .outflow1)

/-- The water flows through a closed gate, and not through an open one. -/
theorem plant_departs_from_registry :
    (Machine.run (step demoAddr) (init closed) rebootedOpen).map outflow1 =
        some ([], some 0, 50000) ∧
      (Machine.run (step demoAddr) (init closed) openedInCapitals).map outflow1 =
        some ([], some 50, 0) := by
  decide +kernel

end Plant

end DamMonitoring.Deployment
