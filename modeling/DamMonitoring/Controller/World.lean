/-
DamMonitoring.Controller.World — everything a Controller thread can read
or change, one atomic action at a time.

The atomic actions are those of the source: one Hibernate session, one
CoAP exchange, one publication, one reading of the clock, one access to
an `AtomicReference`. What happens on the wire or in the database is the
`Fault` an action meets: a request may be lost before the device sees it,
a response after the device has acted, an exchange or a session may fail
with an exception.

  §1 the world: the database, the devices, the parameters of
     `ControlLogic`
  §2 the actions and their answers
  §3 what an action does under a fault
  §4 the state of a run: the world and the log of what happened
  §5 what is seen of a device, and how one PUT changes it
-/
import DamMonitoring.Motes.ResourceTheorems
import DamMonitoring.Persistence.Measurements
import DamMonitoring.Persistence.ResourceTable
import DamMonitoring.Program.Safe

namespace DamMonitoring.Controller

open Program Java Motes Persistence

/-! ## §1 The world -/

inductive OperativeMode where
  | AUTO | MANUAL
  deriving DecidableEq, Repr

inductive ThresholdName where
  | max | min | safe
  deriving DecidableEq, Repr

/-- `maxThreshold`, `minThreshold` and `safeThreshold`. -/
structure Thresholds (F : Type) where
  max : F
  min : F
  safe : F

/-- `min ≤ max ≤ safe`. -/
structure Thresholds.Ordered {F : Type} [LE F] (t : Thresholds F) : Prop where
  min_le_max : t.min ≤ t.max
  max_le_safe : t.max ≤ t.safe

def Thresholds.get {F : Type} (t : Thresholds F) : ThresholdName → F
  | .max => t.max
  | .min => t.min
  | .safe => t.safe

def Thresholds.set {F : Type} (t : Thresholds F) : ThresholdName → F → Thresholds F
  | .max, v => { t with max := v }
  | .min, v => { t with min := v }
  | .safe, v => { t with safe := v }

/-- The three tables of the database and its collation, the servers behind
the URIs, and the parameters `ControlLogic` keeps. `clock` is in
milliseconds. -/
structure World (F : Type) where
  collation : Collation
  resources : ResourceTable
  waterLevels : List (WaterLevel F)
  flowRates : List (FlowRate F)
  devices : Uri → Option Device
  thresholds : Thresholds F
  mode : OperativeMode
  clock : Int

/-! ## §2 Actions -/

variable {F : Type}

/-- One atomic action of a thread. -/
inductive Action (F : Type) where
  | retrieveWaterLevel
  | retrieveFlowRate (flowChannel : String)
  | retrieveOutFlowRate
  | resourcesOfType (type : String)
  | getResource (resName : String)
  | updateValue (resName : String) (value : Int)
  | clientPut (uri : Uri) (payload : ObjectNode)
  | clientGet (uri : Uri)
  | publish (gate : String) (level : Int)
  | now
  | getThreshold (name : ThresholdName)
  | setThreshold (name : ThresholdName) (value : F)
  | getMode
  | setMode (mode : OperativeMode)

/-- The outcome of a database session or a publication: a result or the
message of the exception. -/
abbrev Query (α : Type) : Type := Except String α

/-- What `client.put` and `client.get` give back. -/
inductive CoapAnswer where
  | response (r : Response)
  | noResponse
  | ioError (message : String)
  deriving DecidableEq, Repr

abbrev Action.Answer : Action F → Type
  | .retrieveWaterLevel => Query (Option (WaterLevel F))
  | .retrieveFlowRate _ => Query (Option (FlowRate F))
  | .retrieveOutFlowRate => Query (Option F)
  | .resourcesOfType _ => Query (List Resource)
  | .getResource _ => Query (Option Resource)
  | .updateValue _ _ => Query Unit
  | .clientPut _ _ => CoapAnswer
  | .clientGet _ => CoapAnswer
  | .publish _ _ => Query Unit
  | .now => Int
  | .getThreshold _ => F
  | .setThreshold _ _ => Unit
  | .getMode => OperativeMode
  | .setMode _ => Unit

/-- A method of the Controller. -/
abbrev Java (F α : Type) : Type := Prog (Action F) Action.Answer JException α

/-- The method that performs one action. -/
abbrev perform (a : Action F) : Java F a.Answer := Prog.perform a

/-! ## §3 Effects -/

/-- What can go wrong with an action. `failed` is the exception of the
library the action goes through; the loss of a message means nothing to
an action that sends none. -/
inductive Fault where
  | none
  | requestLost
  | responseLost
  | failed (message : String)
  deriving DecidableEq, Repr

/-- A session or a publication. -/
def Fault.query {α : Type} (result : α) : Fault → Query α
  | .failed message => .error message
  | _ => .ok result

theorem Fault.query_cases {α : Type} (fault : Fault) (result : α) :
    fault.query result = .ok result ∨ ∃ message, fault.query result = .error message := by
  cases fault with
  | failed message => exact Or.inr ⟨message, rfl⟩
  | _ => exact Or.inl rfl

namespace World

/-- The server behind a URI handles a PUT. -/
def serve (uri : Uri) (payload : ObjectNode) (w : World F) : Option Response × World F :=
  match w.devices uri with
  | none => (none, w)
  | some d =>
      let (d', response) := d.put (.json payload)
      (some response, { w with devices := Function.update w.devices uri (some d') })

/-- The CoAP exchange of a PUT. -/
def clientPut (uri : Uri) (payload : ObjectNode) (w : World F) : Fault → CoapAnswer × World F
  | .requestLost => (.noResponse, w)
  | .failed message => (.ioError message, w)
  | .responseLost => (.noResponse, (w.serve uri payload).2)
  | .none =>
      match w.serve uri payload with
      | (some response, w') => (.response response, w')
      | (none, w') => (.noResponse, w')

/-- The CoAP exchange of a GET. -/
def clientGet (uri : Uri) (w : World F) : Fault → CoapAnswer
  | .requestLost => .noResponse
  | .responseLost => .noResponse
  | .failed message => .ioError message
  | .none =>
      match w.devices uri with
      | none => .noResponse
      | some d => .response d.get

def setValue (resName : String) (value : Int) (w : World F) : World F :=
  { w with resources := w.resources.setValue resName value }

/-- The update transaction: committed, or failed and without effect. -/
def updateValue (resName : String) (value : Int) (w : World F) : Fault → Query Unit × World F
  | .failed message => (.error message, w)
  | _ => (.ok (), w.setValue resName value)

/-- The answer of an action under a fault, and the world after it. -/
def perform [JavaFloat F] (fault : Fault) : (a : Action F) → World F → a.Answer × World F
  | .retrieveWaterLevel, w => (fault.query (retrieveWaterLevel w.waterLevels), w)
  | .retrieveFlowRate flowChannel, w =>
      (fault.query (retrieveFlowRate w.collation w.flowRates flowChannel), w)
  | .retrieveOutFlowRate, w => (fault.query (retrieveOutFlowRate w.collation w.flowRates), w)
  | .resourcesOfType type, w => (fault.query (w.resources.ofType type), w)
  | .getResource resName, w => (fault.query (w.resources.get resName), w)
  | .updateValue resName value, w => w.updateValue resName value fault
  | .clientPut uri payload, w => w.clientPut uri payload fault
  | .clientGet uri, w => (w.clientGet uri fault, w)
  | .publish _ _, w => (fault.query (), w)
  | .now, w => (w.clock, w)
  | .getThreshold name, w => (w.thresholds.get name, w)
  | .setThreshold name value, w => ((), { w with thresholds := w.thresholds.set name value })
  | .getMode, w => (w.mode, w)
  | .setMode mode, w => ((), { w with mode })

end World

/-! ## §4 Runs -/

/-- `scheduler` runs the automatic control unit, `shell` the commands of
the operator. -/
inductive Thread where
  | scheduler | shell
  deriving DecidableEq, Repr

/-- There are only the two. -/
theorem Thread.cases_of_ne {t u : Thread} (h : u ≠ t) :
    t = .scheduler ∧ u = .shell ∨ t = .shell ∧ u = .scheduler := by
  cases t with
  | scheduler =>
    cases u with
    | scheduler => exact absurd rfl h
    | shell => exact Or.inl ⟨rfl, rfl⟩
  | shell =>
    cases u with
    | scheduler => exact Or.inr ⟨rfl, rfl⟩
    | shell => exact absurd rfl h

/-- One line of the log. -/
inductive Entry (F : Type) where
  | started (t : Thread)
  | did (t : Thread) (a : Action F) (answer : a.Answer)

/-- The world, and what has happened so far, newest first. -/
structure State (F : Type) where
  world : World F
  log : List (Entry F)

/-- The actions of thread `t`. -/
def handler [JavaFloat F] (t : Thread) : Handler (Action F) Action.Answer Fault (State F) :=
  fun fault a s =>
    let (answer, world) := s.world.perform fault a
    (answer, ⟨world, .did t a answer :: s.log⟩)

/-- The PUT an entry records, if it does. -/
def Entry.put? : Entry F → Option (Uri × ObjectNode)
  | .did _ (.clientPut uri payload) _ => some (uri, payload)
  | _ => none

/-- The PUTs sent so far, newest first. -/
def State.puts (s : State F) : List (Uri × ObjectNode) := s.log.filterMap Entry.put?

/-! ## §5 Devices -/

namespace World

/-- The opening level of the gate behind a URI. -/
def level (w : World F) (uri : Uri) : Option Int :=
  match w.devices uri with
  | some ⟨_, .gate g⟩ => some g.openingLevel
  | _ => none

/-- The state of the alarm behind a URI. -/
def alarmState (w : World F) (uri : Uri) : Option Bool :=
  match w.devices uri with
  | some ⟨_, .alarm a⟩ => some a.state
  | _ => none

variable (w : World F) {uri uri' : Uri} {payload : ObjectNode}

@[simp] theorem serve_resources : (w.serve uri payload).2.resources = w.resources := by
  unfold serve; split <;> rfl

/-- Without a server nothing happens; a server answers with a message. -/
theorem serve_cases :
    (w.devices uri = none ∧ w.serve uri payload = (none, w)) ∨
      ∃ code text, (w.serve uri payload).1 = some (.message code text) := by
  unfold serve
  cases hd : w.devices uri with
  | none => exact Or.inl ⟨rfl, rfl⟩
  | some d =>
    obtain ⟨code, text, h⟩ := d.put_message payload
    exact Or.inr ⟨code, text, congrArg some h⟩

theorem clientPut_of_reply {r : Response} (h : (w.serve uri payload).1 = some r) :
    w.clientPut uri payload .none = (.response r, (w.serve uri payload).2) := by
  simp only [clientPut]
  split
  · next r' w' hserve =>
    rw [hserve] at h
    cases h
    rw [hserve]
  · next w' hserve =>
    rw [hserve] at h
    cases h

theorem clientPut_of_none (h : w.serve uri payload = (none, w)) :
    w.clientPut uri payload .none = (.noResponse, w) := by
  simp [clientPut, h]

/-- How a PUT that is not lost ends. -/
theorem clientPut_cases (w : World F) (uri : Uri) (payload : ObjectNode) :
    (w.devices uri = none ∧ w.clientPut uri payload .none = (.noResponse, w)) ∨
      ∃ code text, (w.serve uri payload).1 = some (.message code text) ∧
        w.clientPut uri payload .none =
          (.response (.message code text), (w.serve uri payload).2) := by
  rcases @serve_cases F w uri payload with ⟨hdevice, hserve⟩ | ⟨code, text, hreply⟩
  · exact Or.inl ⟨hdevice, w.clientPut_of_none hserve⟩
  · exact Or.inr ⟨code, text, hreply, w.clientPut_of_reply hreply⟩

/-- A PUT changes nothing but the devices. -/
theorem clientPut_frame (fault : Fault) :
    ∃ devices, (w.clientPut uri payload fault).2 = { w with devices } := by
  have hserve : ∃ devices, (w.serve uri payload).2 = { w with devices } := by
    unfold serve
    split
    · exact ⟨w.devices, rfl⟩
    · exact ⟨_, rfl⟩
  cases fault with
  | requestLost => exact ⟨w.devices, rfl⟩
  | failed message => exact ⟨w.devices, rfl⟩
  | responseLost => exact hserve
  | none =>
    rcases w.clientPut_cases uri payload with ⟨-, hput⟩ | ⟨code, text, -, hput⟩
    · exact ⟨w.devices, by rw [hput]⟩
    · rw [hput]
      exact hserve

theorem clientPut_resources (fault : Fault) :
    (w.clientPut uri payload fault).2.resources = w.resources := by
  obtain ⟨devices, h⟩ := @clientPut_frame F w uri payload fault
  rw [h]

theorem clientPut_mode (fault : Fault) : (w.clientPut uri payload fault).2.mode = w.mode := by
  obtain ⟨devices, h⟩ := @clientPut_frame F w uri payload fault
  rw [h]

@[simp] theorem level_setValue (resName : String) (v : Int) :
    (w.setValue resName v).level uri = w.level uri := rfl

@[simp] theorem alarmState_setValue (resName : String) (v : Int) :
    (w.setValue resName v).alarmState uri = w.alarmState uri := rfl

/-- A PUT reaches one server only. -/
theorem serve_devices_of_ne (h : uri' ≠ uri) :
    (w.serve uri payload).2.devices uri' = w.devices uri' := by
  unfold serve
  split
  · rfl
  · simp [Function.update_of_ne h]

theorem level_serve_of_ne (h : uri' ≠ uri) :
    (w.serve uri payload).2.level uri' = w.level uri' := by
  simp [level, w.serve_devices_of_ne h]

variable {w}

/-- A gate obeys an acceptable level, and keeps its own otherwise. -/
theorem level_serve_self {c : Int} (h : w.level uri = some c) (L : Int) :
    (w.serve uri (ResGate.openingLevelNode L)).2.level uri =
      some (if ResGate.Accepts L then L else c) := by
  unfold level at h
  split at h
  · next addr g hd =>
    cases h
    simp only [serve, hd, Device.put, Actuator.put, ResGate.resPutHandler_openingLevel]
    by_cases hacc : ResGate.Accepts L
    · by_cases hne : g.openingLevel ≠ L
      · simp [level, hacc, hne]
      · have heq : g.openingLevel = L := not_not.mp hne
        simp [level, hacc, heq]
    · simp [level, hacc]
  · cases h

/-- A gate answers an opening level with success exactly when it accepts
the level. -/
theorem serve_openingLevel {c : Int} (h : w.level uri = some c) (L : Int) :
    ∃ text code, (w.serve uri (ResGate.openingLevelNode L)).1 = some (.message code text) ∧
      code.isSuccess = decide (ResGate.Accepts L) := by
  unfold level at h
  split at h
  · next addr g hd =>
    simp only [serve, hd, Device.put, Actuator.put, ResGate.resPutHandler_openingLevel]
    by_cases hacc : ResGate.Accepts L
    · by_cases hne : g.openingLevel ≠ L
      · exact ⟨ResGate.levelSet L, .CHANGED_2_04, by simp [hacc, hne], by simp [hacc, ResponseCode.isSuccess]⟩
      · exact ⟨ResGate.levelSet L, .VALID_2_03, by simp [hacc, hne], by simp [hacc, ResponseCode.isSuccess]⟩
    · exact ⟨"Opening level must be integer between 0 and 100", .BAD_REQUEST_4_00,
        by simp [hacc, ResGate.badOpeningLevel], by simp [hacc, ResponseCode.isSuccess]⟩
  · cases h

/-- How the exchange of an opening level ends: without an answer, or with
one that is a success only for an acceptable level. -/
theorem clientPut_openingLevel (w : World F) (uri : Uri) (L : Int) (fault : Fault) :
    (w.clientPut uri (ResGate.openingLevelNode L) fault).1 = .noResponse ∨
      (∃ message, (w.clientPut uri (ResGate.openingLevelNode L) fault).1 = .ioError message) ∨
      ∃ code text, (w.clientPut uri (ResGate.openingLevelNode L) fault).1 =
          .response (.message code text) ∧ (code.isSuccess = true → ResGate.Accepts L) := by
  cases fault with
  | requestLost => exact Or.inl rfl
  | responseLost => exact Or.inl rfl
  | failed message => exact Or.inr (Or.inl ⟨message, rfl⟩)
  | none =>
    rcases w.clientPut_cases uri (ResGate.openingLevelNode L) with
      ⟨-, hput⟩ | ⟨code, text, hreply, hput⟩
    · exact Or.inl (by rw [hput])
    · refine Or.inr (Or.inr ⟨code, text, by rw [hput], fun hsuccess => ?_⟩)
      unfold serve at hreply
      split at hreply
      · cases hreply
      · next d hd =>
        obtain ⟨addr, g | a⟩ := d
        · simp only [Device.put, Actuator.put, ResGate.resPutHandler_openingLevel] at hreply
          by_contra hno
          rw [if_neg hno] at hreply
          cases hreply
          cases hsuccess
        · simp only [Device.put, Actuator.put, ResAlarm.resPutHandler_other] at hreply
          cases hreply
          cases hsuccess

/-- A gate takes no alarm state. -/
theorem level_serve_state {c : Int} (h : w.level uri = some c) (b : Bool) :
    (w.serve uri (ResAlarm.stateNode b)).2.level uri = some c := by
  unfold level at h
  split at h
  · next addr g hd =>
    cases h
    simp only [serve, hd, Device.put, Actuator.put, ResAlarm.stateNode, ResGate.resPutHandler_other]
    simp [level]
  · cases h

/-- An alarm takes no opening level. -/
theorem alarm_serve_openingLevel {b : Bool} (h : w.alarmState uri = some b) (L : Int) :
    (w.serve uri (ResGate.openingLevelNode L)).2.alarmState uri = some b ∧
      ∃ code text, (w.serve uri (ResGate.openingLevelNode L)).1 = some (.message code text) ∧
        code.isSuccess = false := by
  unfold alarmState at h
  split at h
  · next addr a hd =>
    cases h
    simp only [serve, hd, Device.put, Actuator.put, ResAlarm.resPutHandler_other]
    exact ⟨by simp [alarmState], .BAD_REQUEST_4_00, _, rfl, rfl⟩
  · cases h

/-- An alarm obeys. -/
theorem alarmState_serve_self {b : Bool} (h : w.alarmState uri = some b) (b' : Bool) :
    (w.serve uri (ResAlarm.stateNode b')).2.alarmState uri = some b' := by
  unfold alarmState at h
  split at h
  · next addr a hd =>
    simp [alarmState, serve, hd, Device.put, Actuator.put, ResAlarm.resPutHandler_state]
  · cases h

theorem serve_state {b : Bool} (h : w.alarmState uri = some b) (b' : Bool) :
    ∃ text, (w.serve uri (ResAlarm.stateNode b')).1 = some (.message .CHANGED_2_04 text) := by
  unfold alarmState at h
  split at h
  · next addr a hd =>
    exact ⟨"Alarm " ++ if b' then "on" else "off",
      by simp [serve, hd, Device.put, Actuator.put, ResAlarm.resPutHandler_state]⟩
  · cases h

end World

end DamMonitoring.Controller
