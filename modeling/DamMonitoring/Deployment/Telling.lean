/-
DamMonitoring.Deployment.Telling — what a cycle tells the simulated plant.

A cycle moves the gates one after the other, records each level, and
publishes it for the water-level mote. `Tells` compares two moments of the
Controller: whatever flows stood for the registered levels at the first
stand for them at the second, once the messages between the two are in.
It holds of every cycle (`cycle_tells`), whatever the cycle measures and
whatever branch it takes.

  §1 the deployment
  §2 one gate, one alarm
  §3 one cycle
-/
import DamMonitoring.Controller.SustainedWater
import DamMonitoring.Deployment.Plant

namespace DamMonitoring.Deployment

open Program Java Persistence Collector Controller
open ControlLogic AutomaticControlUnit
open Motes hiding maxInflow

variable {F : Type} [JavaFloat F]

/-! ## §1 The deployment -/

/-- The gates of the registry are those of `mote-1`, each under its own
name. -/
structure Deployed (t : ResourceTable) : Prop where
  gates : ∀ r ∈ t.gates, ∃ o : Outflow, r.name = o.name
  outflows : ∀ o : Outflow, ∃ r ∈ t.gates, r.name = o.name
  alarms : ∀ r ∈ t.alarms, ∀ o : Outflow, fold o.name ≠ fold r.name

/-- The flows are those of the registered levels. -/
def FlowsAre (w : World F) (flow : Motes.Channel → Int) : Prop :=
  ∀ o : Outflow, ∃ v, w.resources.value o.name = some v ∧
    flow (channel o) = v * (channel o).maxFlow

/-- The PUTs to the gates of `mote-1`. -/
def gatePuts (host : String) (puts : List (Uri × ObjectNode)) : List (Uri × ObjectNode) :=
  puts.filter fun p => p.1 = gateUri host .outflow1 ∨ p.1 = gateUri host .outflow2

theorem mem_gatePuts (host : String) (o : Outflow) (payload : ObjectNode) :
    gatePuts host [(gateUri host o, payload)] = [(gateUri host o, payload)] := by
  cases o <;> simp [gatePuts]

/-- From the one state to the other the plant is told what is registered,
with at most one message for each PUT to a gate. -/
structure Tells (host : String) (s₀ s : State F) : Prop where
  hosts : ∃ m, Hosts host m s.world
  rows : RowsAre (s₀.world.resources.rows.map unvalued) s
  values : ∀ o : Outflow, ∃ v, s.world.resources.value o.name = some v
  sent : ∃ messages puts, published s = published s₀ ++ messages ∧ s.puts = puts ++ s₀.puts ∧
    messages.length ≤ (gatePuts host puts).length ∧
    ∀ flow, FlowsAre s₀.world flow → FlowsAre s.world (Plant.told flow messages)

variable {host : String} {s₀ s s' : State F} {t : Thread}

omit [JavaFloat F]

theorem Tells.refl {m : Mote1} (hosts : Hosts host m s.world)
    (values : ∀ o : Outflow, ∃ v, s.world.resources.value o.name = some v) : Tells host s s where
  hosts := ⟨m, hosts⟩
  rows := rfl
  values := values
  sent := ⟨[], [], (List.append_nil _).symm, rfl, Nat.le_refl _, fun _ h => h⟩

/-- More of the same. -/
theorem Tells.next (h : Tells host s₀ s) (messages : List (String × Int))
    (puts : List (Uri × ObjectNode)) (hosts : ∃ m, Hosts host m s'.world)
    (rows : RowsAre (s₀.world.resources.rows.map unvalued) s')
    (values : ∀ o : Outflow, ∃ v, s'.world.resources.value o.name = some v)
    (hpublished : published s' = published s ++ messages) (hputs : s'.puts = puts ++ s.puts)
    (hcount : messages.length ≤ (gatePuts host puts).length)
    (hflows : ∀ flow, FlowsAre s.world flow → FlowsAre s'.world (Plant.told flow messages)) :
    Tells host s₀ s' := by
  obtain ⟨earlier, sent, hearlier, hsent, hlength, htold⟩ := h.sent
  refine ⟨hosts, rows, values, earlier ++ messages, puts ++ sent, ?_, ?_, ?_, fun flow hflow => ?_⟩
  · rw [hpublished, hearlier, List.append_assoc]
  · rw [hputs, hsent, List.append_assoc]
  · simp only [gatePuts, List.filter_append, List.length_append] at hcount hlength ⊢
    omega
  · have hall := hflows _ (htold flow hflow)
    rwa [Plant.told, Plant.told, ← List.foldl_append] at hall

/-! ## §2 One gate, one alarm -/

/-- One message about a gate sets its flow and no other. -/
theorem FlowsAre.told {w w' : World F} {flow : Motes.Channel → Int} {o : Outflow} {level : Int}
    {uri : Uri} (h : FlowsAre w flow) (huri : w.resources.uri o.name = some uri)
    (hw' : w'.resources = w.resources.setValue o.name level) (hlevel : ResGate.Accepts level) :
    FlowsAre w' (Plant.told flow [(o.name, level)]) := by
  have hrange : 0 ≤ level ∧ level ≤ 100 := hlevel
  intro o'
  simp only [Plant.told, List.foldl_cons, List.foldl_nil, WaterLevelSensor.told, gate_channel,
    hrange, and_true]
  by_cases ho : o = o'
  · subst ho
    exact ⟨level, hw' ▸ ResourceTable.value_setValue_self huri rfl level, by simp⟩
  · have hfold : fold o'.name ≠ fold o.name := fun hfold => ho (fold_name_injective hfold).symm
    have hname : o.name ≠ o'.name := fun hname => hfold (congrArg fold hname.symm)
    obtain ⟨v, hv, hflow⟩ := h o'
    refine ⟨v, ?_, by simp [hname, hflow]⟩
    rw [hw', ResourceTable.value_setValue_of_ne _ hfold]
    exact hv

/-- What `updateGate` leaves of the rows. -/
theorem keeps_rowsAre_updateGate [JavaFloat F] {rows : List Resource} (name : String)
    (next : Int → Option Int) :
    (under t fun _ => .none).Keeps (RowsAre rows) (updateGate name next : Java F Unit) :=
  keeps_updateGate silent_rowsAre name next (fun uri _ => keeps_rowsAre_put uri _)
    fun L => keeps_rowsAre_update name L

/-- **A gate operation tells the plant what it registers.** -/
theorem keeps_tells_updateGate [JavaFloat F] (o : Outflow) (next : Int → Option Int) :
    (under t fun _ => .none).Keeps (Tells host s₀) (updateGate o.name next) := by
  intro s h
  obtain ⟨m, hm⟩ := h.hosts
  obtain ⟨v, hv⟩ := h.values o
  have hmoves := safe_updateGate_moves (t := t) hm rfl hv next
  have hupdated := safe_updateGate (t := t) answering_none (hm.rows o) next
  have hrows := keeps_rowsAre_updateGate (t := t) o.name next s h.rows
  refine ((hmoves.and hupdated).and hrows).mono fun out s' h' => ?_
  obtain ⟨⟨hmoved, hup⟩, hrow⟩ := h'
  cases hlevel : (next v).filter fun level => ResGate.Accepts level with
  | none =>
    rw [hlevel] at hmoved
    obtain ⟨hhosts, hresources, hpublished⟩ := hmoved
    have hputs : ∃ puts, s'.puts = puts ++ s.puts := by
      cases hup with
      | unset value quiet => exact ⟨[], quiet.puts⟩
      | kept value keep quiet => exact ⟨[], quiet.puts⟩
      | commanded value move result => cases result <;> exact ⟨[_], ‹s'.puts = _›⟩
    obtain ⟨puts, hputs⟩ := hputs
    refine h.next [] puts hhosts hrow (fun o' => ?_)
      (by rw [hpublished, List.append_nil]) hputs (Nat.zero_le _) fun flow hflow o' => ?_
    · rw [hresources]
      exact h.values o'
    · rw [hresources]
      exact hflow o'
  | some level =>
    rw [hlevel] at hmoved
    obtain ⟨hhosts, hresources, hpublished⟩ := hmoved
    obtain ⟨hnext, haccepts⟩ := Option.filter_eq_some_iff.mp hlevel
    have haccepts : ResGate.Accepts level := of_decide_eq_true haccepts
    -- a level to move to is sent before it is published
    have hputs : s'.puts = [(gateUri host o, ResGate.openingLevelNode level)] ++ s.puts := by
      cases hup with
      | unset value quiet =>
        rw [hv] at value
        cases value
      | kept value keep quiet =>
        rw [hv] at value
        obtain rfl := Option.some.inj value
        simp [gateCommand, hnext] at keep
      | commanded value move result =>
        rw [hv] at value
        obtain rfl := Option.some.inj value
        obtain ⟨rfl, rfl⟩ : ResGate.openingLevelNode level = _ ∧ level = _ := by
          simpa [gateCommand, hnext] using move
        cases result <;> exact ‹s'.puts = _›
    refine h.next [(o.name, level)] [_] hhosts hrow (fun o' => ?_) hpublished hputs
      (by rw [mem_gatePuts]; rfl) fun flow hflow => hflow.told (hm.rows o) hresources haccepts
    rw [hresources]
    by_cases ho : o' = o
    · subst ho
      exact ⟨level, ResourceTable.value_setValue_self (hm.rows o') rfl level⟩
    · have hfold : fold o'.name ≠ fold o.name := fun hfold => ho (fold_name_injective hfold)
      rw [ResourceTable.value_setValue_of_ne _ hfold]
      exact h.values o'

/-- What is not published and changes no gate leaves the plant right. -/
theorem Tells.untold {puts : List (Uri × ObjectNode)} (h : Tells host s₀ s)
    (hosts : ∃ m, Hosts host m s'.world)
    (rows : RowsAre (s₀.world.resources.rows.map unvalued) s')
    (values : ∀ o : Outflow, s'.world.resources.value o.name = s.world.resources.value o.name)
    (hpublished : published s' = published s) (hputs : s'.puts = puts ++ s.puts) :
    Tells host s₀ s' := by
  refine h.next [] puts hosts rows (fun o => values o ▸ h.values o)
    (by rw [hpublished, List.append_nil]) hputs (Nat.zero_le _) fun flow hflow o => ?_
  rw [values o]
  exact hflow o

theorem tells_reading [JavaFloat F] :
    Reading (under t fun _ => .none) (Tells host s₀) := by
  intro a ha
  refine keeps_perform fun s hs => ?_
  have hworld : (handler t .none a s).2.world = s.world := by
    cases a <;> first | rfl | cases ha
  have hpublished : published (handler t .none a s).2 = published s := by
    cases a <;> first | rfl | cases ha
  have hputs : (handler t .none a s).2.puts = [] ++ s.puts := by
    cases a <;> first | rfl | cases ha
  exact hs.untold (hworld ▸ hs.hosts) (by rw [RowsAre, hworld]; exact hs.rows)
    (fun o => by rw [hworld]) hpublished hputs

/-- A PUT of an alarm state changes no level, wherever it goes. -/
theorem hosts_serve_state {m : Mote1} {w : World F} (h : Hosts host m w) (uri : Uri)
    (b : Bool) : ∃ m', Hosts host m' (w.clientPut uri (ResAlarm.stateNode b) .none).2 := by
  have hserved : ∃ m', Hosts host m' (w.serve uri (ResAlarm.stateNode b)).2 := by
    by_cases hgate : ∃ o, uri = gateUri host o
    · obtain ⟨o, rfl⟩ := hgate
      obtain ⟨-, m', -, -, hm'⟩ := h.serve o (ResAlarm.stateNode b)
      exact ⟨m', hm'⟩
    · refine ⟨m, fun o => ?_, fun o => ?_⟩
      · rw [World.serve_resources]
        exact h.rows o
      · rw [w.serve_devices_of_ne fun heq => hgate ⟨o, heq.symm⟩]
        exact h.devices o
  rcases w.clientPut_cases uri (ResAlarm.stateNode b) with ⟨-, hput⟩ | ⟨code, text, -, hput⟩
  · exact ⟨m, by rw [hput]; exact h⟩
  · rw [hput]
    exact hserved

theorem keeps_tells_updateAlarm [JavaFloat F] (status : Bool) {alarm : Resource}
    (hname : ∀ o : Outflow, fold o.name ≠ fold alarm.name) :
    (under t fun _ => .none).Keeps (Tells host s₀) (updateAlarm status alarm : Java F Unit) := by
  refine reads_updateAlarm tells_reading status alarm (fun uri => keeps_perform fun s hs => ?_)
    (keeps_perform fun s hs => ?_)
  · obtain ⟨m, hm⟩ := hs.hosts
    refine hs.untold (hosts_serve_state hm uri status) ?_ (fun o => ?_) rfl
      (show _ = [(uri, ResAlarm.stateNode status)] ++ s.puts from rfl)
    · rw [RowsAre, handler, World.perform, World.clientPut_resources]
      exact hs.rows
    · rw [handler, World.perform, World.clientPut_resources]
  · obtain ⟨m, hm⟩ := hs.hosts
    have hresources : (handler t .none (.updateValue alarm.name (statusValue status)) s).2.world =
        s.world.setValue alarm.name (statusValue status) := rfl
    have hrows := keeps_rowsAre_update (F := F) (t := t) (f := fun _ => .none) alarm.name
      (statusValue status) s hs.rows
    refine hs.untold ⟨m, fun o => ?_, hm.devices⟩ (under_act.mp hrows) (fun o => ?_) rfl
      (List.nil_append _).symm
    · simpa [hresources, World.setValue] using hm.rows o
    · rw [hresources, World.setValue, ResourceTable.value_setValue_of_ne _ (hname o)]

/-! ## §3 One cycle -/

/-- What is done with the resources of a type is done with those that
were registered. -/
theorem keeps_ofType [JavaFloat F] {P : State F → Prop} (hread : Reading (under t fun _ => .none) P)
    (type : String) (k : List Resource → Java F Unit)
    (h : ∀ s, P s → (under t fun _ => .none).Keeps P (k (s.world.resources.ofType type))) :
    (under t fun _ => .none).Keeps P
      (perform (.resourcesOfType type) >>= fun answer => DataManager.session answer >>= k) := by
  intro s hs
  have hafter := hread (.resourcesOfType type) rfl s hs
  rw [show perform (.resourcesOfType type) = .act _ .pure from rfl, under_act] at hafter
  simp only [perform, Prog.perform_bind, under_act, handler, World.perform, Fault.query,
    DataManager.session, Prog.pure_eq, Prog.pure_bind]
  exact h s hs _ hafter

theorem keeps_tells_actuate [JavaFloat F] (h : Deployed s₀.world.resources) (w i o : F) :
    (under t fun _ => .none).Keeps (Tells host s₀) (actuate w i o) := by
  have hread : Reading (under t fun _ => .none) (Tells host s₀) := tells_reading
  refine reads_query hread rfl _ fun safe => Contract.Keeps.bind ?_ fun _ => ?_
  · refine keeps_ofType hread "alarm" _ fun s hs => Contract.Keeps.forEach fun alarm halarm => ?_
    obtain ⟨r, hr, hname, -⟩ := ofType_of_rows hs.rows halarm
    exact keeps_tells_updateAlarm _ fun o => hname ▸ h.alarms r hr o
  · refine reads_query hread rfl _ fun mode => ?_
    split
    · exact Contract.keeps_pure ()
    · rw [controlGates_eq]
      refine keeps_ofType hread "gate" _ fun s hs => (reads_readBranch hread w).bind fun b => ?_
      refine keeps_branchLoop_of_mem i o _ b fun gate hgate next _ => ?_
      obtain ⟨r, hr, hname, -⟩ := gates_of_rows hs.rows hgate
      obtain ⟨o, ho⟩ := h.gates r hr
      rw [← hname, ho]
      exact keeps_tells_updateGate o next

/-- **A fault-free cycle tells the plant what it registers.** -/
theorem cycle_tells [JavaFloat F] {m : Mote1} (h : Deployed s.world.resources)
    (hosts : Hosts host m s.world)
    (values : ∀ o : Outflow, ∃ v, s.world.resources.value o.name = some v) (maxStale : Int) :
    Tells host s (faultFreeRun maxStale s) :=
  run_of_safe (Q := fun _ => Tells host s) (reads_run tells_reading maxStale
    (fun w i o => keeps_tells_actuate h w i o) s (.refl hosts values))

end DamMonitoring.Deployment
