/-
DamMonitoring.Controller.System — the Controller as a system of two
threads.

The scheduler runs one cycle after the other, the shell one command after
the other, and the environment moves in between: motes register and
reboot, measurements arrive, time passes. `system` leaves open which
faults and which moves of the environment are admitted; each theorem
about all interleavings says which it admits.

  §1 the system
  §2 actions without effect on the devices, the registry or the parameters
  §3 a cycle and a command keep what their parts keep
-/
import DamMonitoring.Collector.Registration
import DamMonitoring.Controller.Commands
import DamMonitoring.Controller.Decisions
import DamMonitoring.Program.Pool

namespace DamMonitoring.Controller

open Program Java Motes Persistence Collector
open ControlLogic AutomaticControlUnit

variable {F : Type} [JavaFloat F]

/-! ## §1 The system -/

/-- The commands an operator can give. -/
inductive Command : Java F Unit → Prop where
  | gate (list : Bool) (gateName : Option String) (openingLevel : Option Int) :
      Command (Gate.call list gateName openingLevel)
  | mode (mode : Option String) : Command (Mode.call mode)
  | threshold (threshold : Option String) (value : Option F) :
      Command (Threshold.call threshold value)

/-- What the actuator firmwares register. -/
inductive Firmware : List Resource → Prop where
  | mote1 (addr : String) : Firmware (mote1Registration addr)
  | gateController (FLOW : Nat) (addr : String) :
      Firmware (gateControllerRegistration FLOW addr)

omit [JavaFloat F] in
/-- New measurements, and time passing. -/
def Measures (w w' : World F) : Prop :=
  ∃ waterLevels flowRates clock, w' = { w with waterLevels, flowRates, clock }

omit [JavaFloat F] in
/-- A move of the environment. -/
inductive Moves : World F → World F → Prop where
  | measures {w w' : World F} (h : Measures w w') : Moves w w'
  | registers (w : World F) {resources : List Resource} (h : Firmware resources) :
      Moves w { w with resources := (handlePOST w.resources resources).1 }
  | reboots (w : World F) (uri : Uri) :
      Moves w { w with
        devices := Function.update w.devices uri ((w.devices uri).map Device.reboot) }

/-- The Controller under the faults `allowed` and the moves `env` of the
environment. -/
def system (maxStale : Int) (allowed : Fault → Action F → Prop) (env : World F → World F → Prop) :
    System Thread (Action F) Action.Answer Fault (State F) JException Unit where
  handler := handler
  allowed fault a _ := allowed fault a
  starts
    | .scheduler, p => p = AutomaticControlUnit.run maxStale
    | .shell, p => Command p
  onStart t s := { s with log := .started t :: s.log }
  env s s' := env s.world s'.world ∧ s'.log = s.log

omit [JavaFloat F] in
/-- Scheduling decisions of a concrete run. -/
abbrev Schedule (F : Type) : Type :=
  List (System.Choice Thread (Action F) Action.Answer Fault JException Unit)

omit [JavaFloat F] in
/-- `n` actions of thread `t`, none of which fails. -/
def steps (t : Thread) (n : Nat) : Schedule F := List.replicate n (.act t .none)

/-! ## §2 Silent actions -/

/-- The actions that change neither the devices nor the registry nor the
parameters. -/
def Action.isSilent : Action F → Bool
  | .updateValue _ _ | .clientPut _ _ | .setThreshold _ _ | .setMode _ => false
  | _ => true

/-- The silent actions that publish nothing either. -/
def Action.isRead : Action F → Bool
  | .updateValue _ _ | .clientPut _ _ | .setThreshold _ _ | .setMode _ | .publish _ _ => false
  | _ => true

/-! ## §3 Routines -/

section Routines

open Contract

variable {C : Contract (Action F) Action.Answer Fault (State F)} {P : State F → Prop}

omit [JavaFloat F]

theorem keeps_deref {α : Type} (x : Option α) : C.Keeps P (deref x : Java F α) := by
  cases x with
  | none => exact keeps_throw _
  | some x => exact keeps_pure x

theorem keeps_session {α : Type} (q : Query α) : C.Keeps P (DataManager.session q : Java F α) := by
  cases q with
  | ok x => exact keeps_pure x
  | error message => exact keeps_throw _

theorem keeps_readPutAnswer (answer : CoapAnswer) :
    C.Keeps P (CoapManager.readPutAnswer answer : Java F String) := by
  cases answer with
  | response r =>
    unfold CoapManager.readPutAnswer
    dsimp only
    split
    · refine (keeps_deref _).bind fun message => ?_
      split
      · exact keeps_pure _
      · exact keeps_throw _
    · exact keeps_throw _
  | noResponse => exact keeps_throw _
  | ioError message => exact keeps_throw _

theorem keeps_readOpeningLevel (answer : CoapAnswer) :
    C.Keeps P (CoapManager.readOpeningLevel answer : Java F Int) := by
  cases answer with
  | response r =>
    unfold CoapManager.readOpeningLevel
    dsimp only
    split
    · refine (keeps_deref _).bind fun n => (keeps_deref _).bind fun u =>
        (keeps_deref _).bind fun v => ?_
      split
      · exact keeps_throw _
      · exact keeps_pure _
    · exact keeps_throw _
  | noResponse => exact keeps_throw _
  | ioError message => exact keeps_throw _

/-- The part of a contract the routines share: silent actions are
harmless. -/
def Silent (C : Contract (Action F) Action.Answer Fault (State F)) (P : State F → Prop) : Prop :=
  ∀ a : Action F, a.isSilent = true → C.Keeps (ε := JException) P (perform a)

/-- The moves a cycle makes: to a level in range from a value in range. -/
def Stepping (next : Int → Option Int) : Prop :=
  ∀ c L, InRange c → next c = some L → InRange L

theorem setNext_stepping {L : Int} (hL : InRange L) : Stepping (setNext L) := by
  intro c L' _ h
  unfold setNext at h
  split at h
  · cases h
    exact hL
  · cases h

theorem increaseNext_stepping {step : Int} (hstep : step ≤ 100) : Stepping (increaseNext step) := by
  intro c L ⟨hlo, hhi⟩ h
  unfold increaseNext at h
  split at h
  · next hcond =>
    have hL := Option.some.inj h
    have hint : int32 (c + step) = c + step := by
      simp only [FULL_CLOSE, FULL_OPEN] at hlo hhi
      exact int32_of_isInt32 ⟨by omega, by omega⟩
    simp only [hint, InRange, FULL_CLOSE, FULL_OPEN] at *
    omega
  · cases h

theorem decreaseNext_stepping {step : Int} (hstep : step ≤ 100) : Stepping (decreaseNext step) := by
  intro c L ⟨hlo, hhi⟩ h
  unfold decreaseNext at h
  split at h
  · next hcond =>
    have hL := Option.some.inj h
    have hint : int32 (c - step) = c - step := by
      simp only [FULL_CLOSE, FULL_OPEN] at hlo hhi
      exact int32_of_isInt32 ⟨by omega, by omega⟩
    simp only [hint, InRange, FULL_CLOSE, FULL_OPEN] at *
    omega
  · cases h

/-- The routines that only read need less. -/
def Reading (C : Contract (Action F) Action.Answer Fault (State F)) (P : State F → Prop) : Prop :=
  ∀ a : Action F, a.isRead = true → C.Keeps (ε := JException) P (perform a)

theorem Silent.reading (h : Silent C P) : Reading C P := by
  intro a ha
  refine h a ?_
  cases a <;> first | rfl | cases ha

section Reading

variable (hread : Reading C P)
include hread

theorem reads_query {α : Type} {a : Action F} (ha : a.isRead = true) (f : a.Answer → Java F α)
    (hf : ∀ answer, C.Keeps P (f answer)) : C.Keeps P (perform a >>= f) :=
  (hread a ha).bind hf

theorem reads_URILookup (name : String) : C.Keeps P (CoapManager.URILookup name : Java F Uri) := by
  unfold CoapManager.URILookup DataManager.lookupResource
  refine Keeps.bind (reads_query hread rfl _ fun answer => keeps_session answer) fun row => ?_
  cases row with
  | none => exact keeps_throw _
  | some r => exact keeps_pure _

theorem reads_getResourceValue (name : String) :
    C.Keeps P (DataManager.getResourceValue name : Java F (Option Int)) := by
  refine reads_query hread rfl _ fun answer => (keeps_session answer).bind fun row => ?_
  cases row with
  | none => exact keeps_throw _
  | some r => exact keeps_pure _

theorem reads_getLevel (name : String) : C.Keeps P (Gate.getLevel name : Java F Unit) := by
  have hget : C.Keeps P (CoapManager.getGateOpening name : Java F Int) := by
    refine Keeps.tryCatch ?_ fun ex => keeps_throw _
    exact (reads_URILookup hread name).bind fun uri => reads_query hread rfl _ keeps_readOpeningLevel
  exact hget.bind fun _ => keeps_pure ()

/-- A round of the alarm loop keeps what its PUT and its update keep. -/
theorem reads_updateAlarm (status : Bool) (alarm : Resource)
    (hput : ∀ uri, C.Keeps (ε := JException) P
      (perform (.clientPut uri (ResAlarm.stateNode status))))
    (hwrite : C.Keeps (ε := JException) P
      (perform (.updateValue alarm.name (statusValue status)))) :
    C.Keeps P (updateAlarm status alarm : Java F Unit) := by
  unfold updateAlarm
  refine (reads_getResourceValue hread alarm.name).bind fun value =>
    (keeps_deref value).bind fun c => ?_
  dsimp only
  split
  · refine Keeps.bind (Keeps.tryCatch ?_ fun ex => keeps_throw _) fun _ =>
      hwrite.bind fun answer => keeps_session answer
    exact (reads_URILookup hread alarm.name).bind fun uri =>
      (hput uri).bind fun answer => keeps_readPutAnswer answer
  · exact keeps_pure ()

variable [JavaFloat F]

theorem reads_readBranch (w : F) : C.Keeps P (readBranch w : Java F Branch) := by
  unfold readBranch
  refine reads_query hread rfl _ fun safe => ?_
  split
  · exact keeps_pure _
  refine reads_query hread rfl _ fun max => ?_
  split
  · exact keeps_pure _
  refine reads_query hread rfl _ fun min => ?_
  split
  · exact keeps_pure _
  · exact keeps_pure _

omit [JavaFloat F] in
/-- Reading the data keeps everything. -/
theorem reads_inputs (maxStale : Int) : C.Keeps P (inputs maxStale : Java F _) := by
  unfold inputs
  refine Keeps.bind (reads_query hread rfl _ fun answer => keeps_session answer)
    fun waterLevel => ?_
  refine Keeps.bind (reads_query hread rfl _ fun answer => keeps_session answer)
    fun inflow => (keeps_deref inflow).bind fun inflow => ?_
  refine Keeps.bind ?_ fun outFlowRate => reads_query hread rfl _ fun now => ?_
  · exact reads_query hread rfl _ fun answer =>
      (keeps_session answer).bind fun sum => keeps_deref sum
  cases waterLevel with
  | none => exact keeps_pure none
  | some waterLevel =>
    dsimp only
    split
    · exact keeps_pure none
    · exact keeps_pure _

/-- A run keeps what acting on its data keeps. -/
theorem reads_run (maxStale : Int) (hact : ∀ w i o : F, C.Keeps P (actuate w i o)) :
    C.Keeps P (AutomaticControlUnit.run maxStale) := by
  refine Keeps.tryCatch ?_ fun ex => keeps_pure ()
  rw [cycle_eq]
  refine (reads_inputs hread maxStale).bind fun data => ?_
  match data with
  | none => exact keeps_pure ()
  | some (w, i, o) => exact hact w i o

end Reading

variable (hsilent : Silent C P)
include hsilent

theorem keeps_query {α : Type} {a : Action F} (ha : a.isSilent = true) (f : a.Answer → Java F α)
    (hf : ∀ answer, C.Keeps P (f answer)) : C.Keeps P (perform a >>= f) :=
  (hsilent a ha).bind hf

theorem keeps_URILookup (name : String) : C.Keeps P (CoapManager.URILookup name : Java F Uri) :=
  reads_URILookup hsilent.reading name

theorem keeps_getResourceValue (name : String) :
    C.Keeps P (DataManager.getResourceValue name : Java F (Option Int)) :=
  reads_getResourceValue hsilent.reading name

theorem keeps_simulate (name : String) (L : Int) : C.Keeps P (simulate name L : Java F Unit) :=
  keeps_query hsilent rfl _ fun _ => keeps_pure ()

/-- Moving a gate keeps what its PUT and its update keep. -/
theorem keeps_updateGate (name : String) (next : Int → Option Int)
    (hput : ∀ uri L, C.Keeps (ε := JException) P
      (perform (.clientPut uri (ResGate.openingLevelNode L))))
    (hwrite : ∀ L, C.Keeps (ε := JException) P (perform (.updateValue name L))) :
    C.Keeps P (updateGate name next : Java F Unit) := by
  unfold updateGate
  refine (keeps_getResourceValue hsilent name).bind fun value =>
    (keeps_deref value).bind fun c => ?_
  cases next c with
  | none => exact keeps_pure ()
  | some L =>
    refine Keeps.bind (Keeps.tryCatch ?_ fun ex => keeps_throw _) fun _ =>
      Keeps.bind ((hwrite L).bind fun answer => keeps_session answer) fun _ =>
        keeps_simulate hsilent name L
    exact (keeps_URILookup hsilent name).bind fun uri =>
      (hput uri L).bind fun answer => keeps_readPutAnswer answer

theorem keeps_updateAlarm (status : Bool) (alarm : Resource)
    (hput : ∀ uri, C.Keeps (ε := JException) P
      (perform (.clientPut uri (ResAlarm.stateNode status))))
    (hwrite : C.Keeps (ε := JException) P
      (perform (.updateValue alarm.name (statusValue status)))) :
    C.Keeps P (updateAlarm status alarm : Java F Unit) :=
  reads_updateAlarm hsilent.reading status alarm hput hwrite

/-- The alarms' part of a cycle keeps what its rounds keep. -/
theorem keeps_setAlarmStatus (status : Bool)
    (hround : ∀ alarm, C.Keeps P (updateAlarm status alarm : Java F Unit)) :
    C.Keeps P (ControlLogic.setAlarmStatus status : Java F Unit) := by
  refine Keeps.bind (keeps_query hsilent rfl _ fun answer => keeps_session answer)
    fun alarms => ?_
  exact Keeps.forEach fun alarm _ => hround alarm

theorem keeps_getLevel (name : String) : C.Keeps P (Gate.getLevel name : Java F Unit) :=
  reads_getLevel hsilent.reading name

/-- A `Gate` command without a level only reads. -/
theorem keeps_gateCall (list : Bool) (gateName : Option String) (openingLevel : Option Int)
    (hset : ∀ name L, C.Keeps P (Gate.setLevel name L : Java F Unit)) :
    C.Keeps P (Gate.call list gateName openingLevel : Java F Unit) := by
  have hgates : C.Keeps P (DataManager.gateResources : Java F (List Resource)) :=
    keeps_query hsilent rfl _ fun answer => keeps_session answer
  unfold Gate.call
  split
  · exact hgates.bind fun _ => keeps_pure ()
  · cases gateName with
    | none =>
      exact hgates.bind fun gates => Keeps.forEach fun gate _ => keeps_getLevel hsilent gate.name
    | some name =>
      cases openingLevel with
      | none => exact keeps_getLevel hsilent name
      | some L => exact hset name L

/-- A `Mode` command keeps what the two writes of the mode keep. -/
theorem keeps_modeCall (mode : Option String)
    (hset : ∀ m, C.Keeps (ε := JException) P (perform (.setMode m))) :
    C.Keeps P (Mode.call mode : Java F Unit) := by
  have hmode : C.Keeps P (getRunningMode : Java F OperativeMode) := hsilent _ rfl
  have hstart : C.Keeps P (startAutomaticControlUnit : Java F OperativeMode) := by
    refine hmode.bind fun m => ?_
    split
    · exact keeps_throw _
    · exact (hset .AUTO).bind fun _ => hmode
  have hstop : C.Keeps P (stopAutomaticControlUnit : Java F OperativeMode) := by
    refine hmode.bind fun m => ?_
    split
    · exact keeps_throw _
    · exact (hset .MANUAL).bind fun _ => hmode
  have hcatch : ∀ ex, C.Keeps P (Mode.catchControl ex : Java F Unit) := by
    intro ex
    cases ex with
    | controlException message => exact keeps_pure ()
    | _ => exact keeps_throw _
  unfold Mode.call
  cases mode with
  | none => exact hmode.bind fun _ => keeps_pure ()
  | some mode =>
    refine Keeps.tryCatch ?_ hcatch
    split
    · exact hstart.bind fun _ => keeps_pure ()
    · split
      · exact hstop.bind fun _ => keeps_pure ()
      · exact keeps_pure ()

variable [JavaFloat F]

omit hsilent [JavaFloat F] in
theorem keeps_thresholdName (threshold : String) :
    C.Keeps P (Threshold.name threshold : Java F ThresholdName) := by
  unfold Threshold.name
  split
  · exact keeps_pure _
  · split
    · exact keeps_pure _
    · split
      · exact keeps_pure _
      · exact keeps_throw _

omit [JavaFloat F] in
theorem keeps_thresholdGet (name : ThresholdName) :
    C.Keeps P (Threshold.get name : Java F F) := by
  have hread : ∀ name, C.Keeps (ε := JException) P (perform (.getThreshold name)) :=
    fun name => hsilent _ rfl
  cases name <;> exact hread _

/-- A setter: two tests, then the write. -/
theorem keeps_thresholdSet (name : ThresholdName) (v : F)
    (hset : ∀ name v, C.Keeps (ε := JException) P (perform (.setThreshold name v))) :
    C.Keeps P (Threshold.set name v : Java F Unit) := by
  have hread : ∀ name, C.Keeps (ε := JException) P (perform (.getThreshold name)) :=
    fun name => hsilent _ rfl
  have hwrite : ∀ (a b : ThresholdName) (p q : F → Prop) [DecidablePred p] [DecidablePred q]
      (name : ThresholdName) (v : F), C.Keeps P (do
        if p (← perform (.getThreshold a)) then throw inconsistent
        else
          if q (← perform (.getThreshold b)) then throw inconsistent
          else perform (.setThreshold name v) : Java F Unit) := by
    intro a b p q _ _ name v
    refine (hread a).bind fun x => ?_
    split
    · exact keeps_throw _
    · refine (hread b).bind fun y => ?_
      split
      · exact keeps_throw _
      · exact hset name v
  cases name with
  | max => exact hwrite .safe .min (· < v) (v < ·) .max v
  | min => exact hwrite .max .safe (· < v) (· < v) .min v
  | safe => exact hwrite .min .max (v < ·) (v < ·) .safe v

/-- A `Threshold` command keeps what the write of a threshold keeps. -/
theorem keeps_thresholdCall (threshold : Option String) (value : Option F)
    (hset : ∀ name v, C.Keeps (ε := JException) P (perform (.setThreshold name v))) :
    C.Keeps P (Threshold.call threshold value) := by
  have hread : ∀ name, C.Keeps (ε := JException) P (perform (.getThreshold name)) :=
    fun name => hsilent _ rfl
  unfold Threshold.call
  cases threshold with
  | none => exact (hread _).bind fun _ => (hread _).bind fun _ => (hread _).bind fun _ => keeps_pure ()
  | some threshold =>
    have hname := keeps_thresholdName (C := C) (P := P) threshold
    cases value with
    | none =>
      exact hname.bind fun name => (keeps_thresholdGet hsilent name).bind fun _ => keeps_pure ()
    | some v => exact hname.bind fun name => keeps_thresholdSet hsilent name v hset

omit hsilent [JavaFloat F] in
/-- An emergency gate is closed, any other is left to `primary`. -/
theorem keeps_closeEmergency {primary : Resource → Java F Unit} (gate : Resource)
    (hclose : C.Keeps P (ControlLogic.setGateOpening gate.name FULL_CLOSE : Java F Unit))
    (hprimary : C.Keeps P (primary gate)) : C.Keeps P (closeEmergency primary gate) := by
  unfold closeEmergency isEmergency
  refine Keeps.bind ((keeps_deref _).bind fun tag => keeps_pure _) fun emergency => ?_
  split
  · exact hclose
  · exact hprimary

omit hsilent in
/-- The loop of a branch keeps what moving one of its gates keeps. -/
theorem keeps_branchLoop_of_mem (i o : F) (onlineGates : List Resource) (b : Branch)
    (hgate : ∀ gate ∈ onlineGates, ∀ next, Stepping next →
      C.Keeps P (updateGate gate.name next : Java F Unit)) :
    C.Keeps P (branchLoop i o onlineGates b) := by
  have hemergency : ∀ (primary : Resource → Java F Unit),
      (∀ gate ∈ onlineGates, C.Keeps P (primary gate)) →
      C.Keeps P (Prog.forEach onlineGates (closeEmergency primary)) := by
    intro primary hprimary
    refine Keeps.forEach fun gate hmem => keeps_closeEmergency gate ?_ (hprimary gate hmem)
    exact hgate gate hmem _ (setNext_stepping ⟨le_rfl, by decide⟩)
  have hstep : ∀ x y : F, (if x < y then LONG_STEP else STEP) ≤ 100 := by
    intro x y
    split <;> decide
  have hnormal : normalStep i o ≤ 100 := (normalStep_bounds i o).2.trans (by decide)
  cases b with
  | aboveSafe =>
    exact Keeps.forEach fun gate hmem => hgate gate hmem _ (setNext_stepping ⟨by decide, le_rfl⟩)
  | aboveMax =>
    exact hemergency _ fun gate hmem => hgate gate hmem _ (increaseNext_stepping (hstep _ _))
  | belowMin =>
    exact hemergency _ fun gate hmem => hgate gate hmem _ (decreaseNext_stepping (hstep _ _))
  | normal =>
    refine hemergency _ fun gate hmem => ?_
    unfold normalPrimary
    split
    · exact hgate gate hmem _ (increaseNext_stepping hnormal)
    · split
      · exact hgate gate hmem _ (decreaseNext_stepping hnormal)
      · exact keeps_pure ()

omit hsilent in
theorem keeps_branchLoop (i o : F) (onlineGates : List Resource) (b : Branch)
    (hgate : ∀ name next, Stepping next → C.Keeps P (updateGate name next : Java F Unit)) :
    C.Keeps P (branchLoop i o onlineGates b) :=
  keeps_branchLoop_of_mem i o onlineGates b fun gate _ => hgate gate.name

theorem keeps_readBranch (w : F) : C.Keeps P (readBranch w : Java F Branch) :=
  reads_readBranch hsilent.reading w

/-- The gates' part of a cycle keeps what moving one gate keeps. -/
theorem keeps_controlGates (w i o : F)
    (hgate : ∀ name next, Stepping next → C.Keeps P (updateGate name next : Java F Unit)) :
    C.Keeps P (controlGates w i o) := by
  rw [controlGates_eq]
  refine Keeps.bind (keeps_query hsilent rfl _ fun answer => keeps_session answer) fun gates => ?_
  exact (keeps_readBranch hsilent w).bind fun b => keeps_branchLoop i o gates b hgate

/-- Acting on fresh data keeps what the alarms' part and moving one gate
keep. -/
theorem keeps_actuate (w i o : F)
    (halarms : ∀ status, C.Keeps P (ControlLogic.setAlarmStatus status : Java F Unit))
    (hgate : ∀ name next, Stepping next → C.Keeps P (updateGate name next : Java F Unit)) :
    C.Keeps P (actuate w i o) := by
  refine keeps_query hsilent rfl _ fun safe => (halarms _).bind fun _ => ?_
  refine keeps_query hsilent rfl _ fun mode => ?_
  split
  · exact keeps_pure ()
  · exact keeps_controlGates hsilent w i o hgate

omit [JavaFloat F] in
theorem keeps_inputs (maxStale : Int) : C.Keeps P (inputs maxStale : Java F _) :=
  reads_inputs hsilent.reading maxStale

theorem keeps_run (maxStale : Int) (hact : ∀ w i o : F, C.Keeps P (actuate w i o)) :
    C.Keeps P (AutomaticControlUnit.run maxStale) :=
  reads_run hsilent.reading maxStale hact

end Routines

end DamMonitoring.Controller
