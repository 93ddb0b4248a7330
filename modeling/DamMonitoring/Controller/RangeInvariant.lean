/-
DamMonitoring.Controller.RangeInvariant — every opening level stays in
0..100, whatever happens.

The bound is enforced in three places that do not know of each other: the
gate refuses what is out of range, a cycle moves from levels in range to
levels in range, and the registry is written after an accepted PUT only.
Together they are an invariant of `system` under every fault, every move
of the environment and every interleaving (`range_invariant`).

  §1 the invariant
  §2 what each thread promises
  §3 cycles and commands keep their promises
  §4 every reachable state
-/
import DamMonitoring.Controller.Actuation
import DamMonitoring.Controller.Demo
import DamMonitoring.Controller.System

namespace DamMonitoring.Controller

open Program Java Motes Persistence Collector
open ControlLogic AutomaticControlUnit

variable {F : Type}

/-! ## §1 The invariant -/

/-- Every registered value and every opening level is in range, and so
was every level a cycle has sent. -/
structure InBounds (s : State F) : Prop where
  rows : ∀ r ∈ s.world.resources.rows, ∃ c, r.value = some c ∧ InRange c
  devices : ∀ uri d, s.world.devices uri = some d → d.InBounds
  sent : ∀ uri L answer,
    .did .scheduler (.clientPut uri (ResGate.openingLevelNode L)) answer ∈ s.log → InRange L

/-- What an action of thread `t` must be like for the invariant. -/
def Tame (t : Thread) : Action F → Prop
  | .updateValue _ v => InRange v
  | .clientPut _ payload => t = .scheduler → ∀ L, payload = ResGate.openingLevelNode L → InRange L
  | _ => True

theorem tame_of_silent {t : Thread} {a : Action F} (ha : a.isSilent = true) : Tame t a := by
  cases a with
  | updateValue => cases ha
  | clientPut => cases ha
  | _ => trivial

theorem openingLevelNode_inj {L L' : Int}
    (h : ResGate.openingLevelNode L = ResGate.openingLevelNode L') : L = L' := by
  simpa [ResGate.openingLevelNode] using h

theorem stateNode_ne_openingLevelNode (b : Bool) (L : Int) :
    ResAlarm.stateNode b ≠ ResGate.openingLevelNode L := by
  simp [ResAlarm.stateNode, ResGate.openingLevelNode]

theorem statusValue_inRange (b : Bool) : InRange (statusValue b) := by
  cases b <;> exact ⟨by decide, by decide⟩

/-- The rows of the registry in range. -/
theorem rows_setValue {t : ResourceTable} (h : ∀ r ∈ t.rows, ∃ c, r.value = some c ∧ InRange c)
    (name : String) {v : Int} (hv : InRange v) :
    ∀ r ∈ (t.setValue name v).rows, ∃ c, r.value = some c ∧ InRange c := by
  intro r hr
  obtain ⟨q, hq, rfl⟩ := List.mem_map.mp hr
  unfold ResourceTable.updateRow
  split
  · exact ⟨v, rfl, hv⟩
  · exact h q hq

theorem devices_serve {w : World F} (h : ∀ uri d, w.devices uri = some d → d.InBounds) (uri : Uri)
    (payload : ObjectNode) :
    ∀ u d, (w.serve uri payload).2.devices u = some d → d.InBounds := by
  intro u d hd
  by_cases hu : u = uri
  · subst hu
    unfold World.serve at hd
    split at hd
    · exact h u d hd
    · next d₀ hd₀ =>
      simp only [Function.update_self] at hd
      cases hd
      exact (h u d₀ hd₀).put _
  · rw [w.serve_devices_of_ne hu] at hd
    exact h u d hd

/-- A PUT, delivered or not, takes no device out of range. -/
theorem devices_clientPut {w : World F} (h : ∀ uri d, w.devices uri = some d → d.InBounds)
    (uri : Uri) (payload : ObjectNode) (fault : Fault) :
    ∀ u d, (w.clientPut uri payload fault).2.devices u = some d → d.InBounds := by
  have hserve := devices_serve h uri payload
  cases fault with
  | requestLost => exact h
  | failed message => exact h
  | responseLost => exact hserve
  | none =>
    rcases w.clientPut_cases uri payload with ⟨-, hput⟩ | ⟨code, text, -, hput⟩
    · rw [hput]
      exact h
    · rw [hput]
      exact hserve

variable [JavaFloat F]

/-- **Every tame action keeps the invariant.** -/
theorem InBounds.act {s : State F} (h : InBounds s) {t : Thread} {a : Action F} (ha : Tame t a)
    (fault : Fault) : InBounds (handler t fault a s).2 where
  rows := by
    cases a with
    | updateValue name v =>
      cases fault with
      | failed message => exact h.rows
      | _ => exact rows_setValue h.rows name ha
    | clientPut uri payload =>
      change ∀ r ∈ (s.world.clientPut uri payload fault).2.resources.rows, _
      rw [World.clientPut_resources]
      exact h.rows
    | _ => exact h.rows
  devices := by
    cases a with
    | updateValue name v =>
      cases fault with
      | failed message => exact h.devices
      | _ => exact h.devices
    | clientPut uri payload => exact devices_clientPut h.devices uri payload fault
    | _ => exact h.devices
  sent uri L answer hmem := by
    rcases List.mem_cons.mp hmem with heq | hmem
    · cases heq
      exact ha rfl L rfl
    · exact h.sent uri L answer hmem

/-! ## §2 Contracts -/

/-- Thread `t` performs tame actions, and the others keep the invariant
between them. -/
def boundsContract (t : Thread) : Contract (Action F) Action.Answer Fault (State F) where
  handler := handler t
  allowed := fun _ _ _ => True
  rely := fun _ s' => InBounds s'
  guar := fun _ a _ => Tame t a

open Contract

variable {t : Thread}

theorem bounds_act {a : Action F} (ha : Tame t a) :
    (boundsContract t).Keeps (ε := JException) (fun _ => True) (perform a) := by
  intro _ _ _ _ _ _
  exact ⟨ha, trivial⟩

theorem bounds_silent : Silent (F := F) (boundsContract t) fun _ => True := by
  intro _ ha
  exact bounds_act (tame_of_silent ha)

/-! ## §3 Programs -/

/-- A value read from the registry is in range. -/
theorem bounds_getResourceValue (name : String) (s : State F) :
    (boundsContract t).Safe (DataManager.getResourceValue name : Java F (Option Int))
      (fun out _ => ∀ c, out = .ok (some c) → InRange c) s := by
  intro s' hs' fault _
  refine ⟨trivial, ?_⟩
  simp only [boundsContract, handler, World.perform]
  rcases fault.query_cases (s'.world.resources.get name) with hquery | ⟨message, hquery⟩
  · rw [hquery]
    cases hget : s'.world.resources.get name with
    | none =>
      intro c h
      cases h
    | some r =>
      intro c h
      obtain ⟨c', hc', hrange⟩ := hs'.rows r (ResourceTable.get_mem hget)
      have heq : r.value = some c := Except.ok.inj h
      rw [hc'] at heq
      exact Option.some.inj heq ▸ hrange
  · rw [hquery]
    intro c h
    cases h

/-- A success is the answer of a gate that accepts the level. -/
theorem bounds_readPutAnswer (w : World F) (uri : Uri) (L : Int) (fault : Fault) (s : State F) :
    (boundsContract t).Safe
      (CoapManager.readPutAnswer (w.clientPut uri (ResGate.openingLevelNode L) fault).1)
      (fun out _ => ∀ text, out = .ok text → InRange L) s := by
  rcases w.clientPut_openingLevel uri L fault with
    hanswer | ⟨message, hanswer⟩ | ⟨code, text, hanswer, hsuccess⟩
  · rw [hanswer]
    intro text h
    cases h
  · rw [hanswer]
    intro text h
    cases h
  · rw [hanswer, CoapManager.readPutAnswer_message]
    split
    · next hcode => exact fun _ _ => hsuccess hcode
    · intro text h
      cases h

/-- A level that `setGateOpening` gets through is in range. -/
theorem bounds_setGateOpening (name : String) {L : Int} (hL : t = .scheduler → InRange L)
    (s : State F) : (boundsContract t).Safe (CoapManager.setGateOpening name L : Java F String)
      (fun out _ => ∀ text, out = .ok text → InRange L) s := by
  have hrequest : (boundsContract t).Safe
      (CoapManager.coapPutRequest name (ResGate.openingLevelNode L) : Java F String)
      (fun out _ => ∀ text, out = .ok text → InRange L) s := by
    unfold CoapManager.coapPutRequest
    rw [safe_bind]
    refine (keeps_URILookup bounds_silent name s trivial).mono fun out s₁ _ => ?_
    cases out with
    | error ex =>
      intro text h
      cases h
    | ok uri =>
      intro s₂ _ fault _
      exact ⟨fun ht L' heq => openingLevelNode_inj heq ▸ hL ht,
        bounds_readPutAnswer s₂.world uri L fault _⟩
  unfold CoapManager.setGateOpening
  rw [safe_tryCatch]
  refine hrequest.mono fun out s' h => ?_
  cases out with
  | ok text => exact h
  | error ex =>
    intro text h
    cases h

/-- **Moving a gate**: the level recorded is one the gate has accepted. -/
theorem bounds_updateGate (name : String) {next : Int → Option Int}
    (hnext : t = .scheduler → Stepping next) :
    (boundsContract t).Keeps (fun _ => True) (updateGate name next : Java F Unit) := by
  intro s _
  unfold updateGate
  rw [safe_bind]
  refine (bounds_getResourceValue name s).mono fun out s₁ hout => ?_
  cases out with
  | error ex => trivial
  | ok value =>
    cases value with
    | none => trivial
    | some c =>
      have hc := hout c rfl
      simp only [deref, Prog.pure_eq, Prog.pure_bind]
      cases hL : next c with
      | none => trivial
      | some L =>
        dsimp only
        rw [safe_bind]
        refine (bounds_setGateOpening name (fun ht => hnext ht c L hc hL) s₁).mono
          fun out s₂ hout => ?_
        cases out with
        | error ex => trivial
        | ok text =>
          have hwrite : (boundsContract t).Keeps (fun _ => True)
              (DataManager.setResourceValue name L : Java F Unit) :=
            Keeps.bind (bounds_act (hout text rfl)) fun answer => keeps_session answer
          exact (hwrite.bind fun _ => keeps_simulate bounds_silent name L) s₂ trivial

theorem bounds_setAlarmStatus (status : Bool) :
    (boundsContract t).Keeps (fun _ => True) (ControlLogic.setAlarmStatus status : Java F Unit) := by
  refine keeps_setAlarmStatus bounds_silent status fun alarm =>
    keeps_updateAlarm bounds_silent status alarm (fun uri => bounds_act ?_)
      (bounds_act (statusValue_inRange status))
  intro _ L heq
  exact absurd heq (stateNode_ne_openingLevelNode status L)

theorem bounds_run (maxStale : Int) : (boundsContract .scheduler).Keeps (fun _ => True)
    (AutomaticControlUnit.run maxStale : Java F Unit) :=
  keeps_run bounds_silent maxStale fun w i o =>
    keeps_actuate bounds_silent w i o bounds_setAlarmStatus fun name _ hnext =>
      bounds_updateGate name fun _ => hnext

theorem bounds_command {p : Java F Unit} (hp : Command p) :
    (boundsContract .shell).Keeps (fun _ => True) p := by
  cases hp with
  | gate list gateName openingLevel =>
    refine keeps_gateCall bounds_silent list gateName openingLevel fun name L => ?_
    refine keeps_query bounds_silent rfl _ fun mode => ?_
    split
    · exact keeps_throw _
    · exact bounds_updateGate name fun ht => by cases ht
  | mode mode => exact keeps_modeCall bounds_silent mode fun _ => bounds_act trivial
  | threshold threshold value =>
    exact keeps_thresholdCall bounds_silent threshold value fun _ _ => bounds_act trivial

/-! ## §4 Reachable states -/

omit [JavaFloat F] in
theorem InBounds.log {s : State F} (h : InBounds s) {e : Entry F}
    (he : ∀ t a answer, e ≠ .did t a answer) : InBounds ⟨s.world, e :: s.log⟩ where
  rows := h.rows
  devices := h.devices
  sent uri L answer hmem := by
    rcases List.mem_cons.mp hmem with heq | hmem
    · exact absurd heq.symm (he _ _ _)
    · exact h.sent uri L answer hmem

omit [JavaFloat F] in
/-- The environment keeps the invariant. -/
theorem InBounds.moves {w w' : World F} {log : List (Entry F)} (h : InBounds ⟨w, log⟩)
    (hmove : Moves w w') : InBounds ⟨w', log⟩ := by
  cases hmove with
  | measures hm =>
    obtain ⟨waterLevels, flowRates, clock, rfl⟩ := hm
    exact ⟨h.rows, h.devices, h.sent⟩
  | registers hfirmware =>
    refine ⟨fun r hr => ?_, h.devices, h.sent⟩
    rcases mem_handlePOST hr with hold | ⟨resource, hmem, name, rfl⟩
    · exact h.rows r hold
    · have hzero : resource.value = some 0 := by
        cases hfirmware with
        | mote1 addr => exact mote1Registration_value hmem
        | gateController FLOW addr => exact gateControllerRegistration_value hmem
      exact ⟨0, hzero, by decide, by decide⟩
  | reboots uri =>
    refine ⟨h.rows, fun u d hd => ?_, h.sent⟩
    by_cases hu : u = uri
    · subst hu
      simp only [Function.update_self, Option.map_eq_some_iff] at hd
      obtain ⟨d₀, -, rfl⟩ := hd
      exact d₀.reboot_inBounds
    · simp only [Function.update_of_ne hu] at hd
      exact h.devices u d hd

/-- The two contracts fit together. -/
theorem bounds_sound (maxStale : Int) :
    (system (F := F) maxStale (fun _ _ => True) Moves).Sound InBounds (fun _ _ => True)
      boundsContract where
  handler _ := rfl
  allowed _ := rfl
  refl _ _ h := h
  trans := by
    intro t a b c _ h
    exact h
  idle_stable _ _ _ _ h := h
  act_inv _ fault _ _ _ h ha := h.act ha fault
  act_rely _ _ fault _ _ _ _ h ha := h.act ha fault
  start_inv _ _ h := h.log fun _ _ _ => by simp
  start_rely _ _ _ _ h := h.log fun _ _ _ => by simp
  start_safe t p s hp _ _ := by
    cases t with
    | scheduler =>
      obtain rfl := hp
      exact bounds_run maxStale _ trivial
    | shell => exact bounds_command hp _ trivial
  env_inv := by
    rintro s ⟨world, log⟩ ⟨hmove, hlog⟩ h
    cases hlog
    exact h.moves hmove
  env_rely := by
    rintro u s ⟨world, log⟩ ⟨hmove, hlog⟩ h
    cases hlog
    exact h.moves hmove

/-- **The range invariant.** From an empty registry and devices that have
just booted: whatever registers, reboots, is measured, is lost or fails,
and however cycles and commands interleave, in every reachable state each
gate is registered with a level in 0..100, each gate device is at a level
in 0..100, and every level a cycle has sent lies in 0..100. -/
theorem range_invariant (maxStale : Int) {w : World F} (hempty : w.resources = .empty)
    (hboot : ∀ uri d, w.devices uri = some d → d = d.reboot)
    {P : Pool Thread (Action F) Action.Answer (State F) JException Unit}
    (hP : (system maxStale (fun _ _ => True) Moves).Reachable ⟨w, []⟩ P) :
    (∀ r ∈ P.shared.world.resources.gates, ∃ c, r.value = some c ∧ InRange c) ∧
      (∀ uri c, P.shared.world.level uri = some c → InRange c) ∧
      ∀ uri L answer,
        .did .scheduler (.clientPut uri (ResGate.openingLevelNode L)) answer ∈ P.shared.log →
          InRange L := by
  have hstart : InBounds (⟨w, []⟩ : State F) := by
    refine ⟨fun r hr => ?_, fun uri d hd => ?_, fun uri L answer hmem => by cases hmem⟩
    · change r ∈ w.resources.rows at hr
      rw [hempty] at hr
      cases hr
    · rw [hboot uri d hd]
      exact d.reboot_inBounds
  obtain ⟨hinv, -⟩ := (bounds_sound maxStale).reachable hstart (fun _ => trivial) hP
  refine ⟨fun r hr => hinv.rows r (ResourceTable.mem_of_gate hr), fun uri c hc => ?_, hinv.sent⟩
  unfold World.level at hc
  split at hc
  · next addr g hd =>
    cases hc
    exact hinv.devices uri _ hd
  · cases hc

/-- The motes of the demo deployment have booted, nothing is registered. -/
def bootWorld : World ℚ :=
  { demoWorld .MANUAL 0 0 false 50 20 20 with resources := .empty }

/-- `mote-1` registers. -/
theorem range_invariant_registered :
    let t := (handlePOST bootWorld.resources (mote1Registration demoAddr)).1
    ∀ r ∈ t.gates, ∃ c, r.value = some c ∧ InRange c := by
  have hboot : ∀ uri d, bootWorld.devices uri = some d → d = d.reboot := by
    intro uri d hd
    change demoDevices 0 0 false uri = some d at hd
    unfold demoDevices at hd
    split at hd
    · cases hd; rfl
    · split at hd
      · cases hd; rfl
      · split at hd
        · cases hd; rfl
        · cases hd
  have hstep : (system 5 (fun _ _ => True) Moves).Reachable ⟨bootWorld, []⟩
      ⟨⟨{ bootWorld with
          resources := (handlePOST bootWorld.resources (mote1Registration demoAddr)).1 }, []⟩,
        fun _ => none⟩ :=
    .single (.env ⟨.registers bootWorld (.mote1 demoAddr), rfl⟩)
  exact (range_invariant 5 rfl hboot hstep).1

end DamMonitoring.Controller
