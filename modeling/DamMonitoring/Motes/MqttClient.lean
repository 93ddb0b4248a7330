/-
DamMonitoring.Motes.MqttClient — `lib/mqtt-client/mqtt-client.c`, the
session of a mote with the broker.

The process of the mote calls `state_machine` from time to time, and the
MQTT library reports to `mqtt_event` in between; both write `state`. A
session keeps the record of the events and of the calls into the
library, newest first. The arguments of the calls (addresses, topics,
buffers) are the same in every session and are left out, and so are the
LEDs; what a message says is for the modules of the firmwares.

  §1 the client
  §2 the calls a client may make
  §3 every session makes only these
-/
import DamMonitoring.Program.Runs
import Mathlib.Data.List.Basic

namespace DamMonitoring.Motes.MqttClient

/-! ## §1 The client -/

/-- `STATE_BOOT` .. `STATE_DISCONNECTED`. -/
inductive State where
  | boot | init | netOk | connecting | connected | subscribed | disconnected
  deriving DecidableEq, Repr

/-- `mqtt_event_t`; `other` is any event that has no case of its own. -/
inductive MqttEvent where
  | connected | disconnected | publish | suback | unsuback | puback | other
  deriving DecidableEq, Repr

/-- The calls into the MQTT library. -/
inductive Call where
  | register | connect | subscribe (accepted : Bool) | publish | disconnect
  deriving DecidableEq, Repr

/-- `CLOCK_SECOND` and `_publish_time_period`. -/
structure Config where
  clockSecond : Nat
  publishTimePeriod : Nat

def maxBackoffExp : Nat := 6

def Config.reconnectInterval (config : Config) : Nat := config.clockSecond * 1

/-- `state`, `reconnection_trial` and `time_period`. -/
structure Client where
  state : State
  reconnectionTrial : Nat
  timePeriod : Nat
  deriving DecidableEq, Repr

def initial (config : Config) : Client := ⟨.boot, 0, config.clockSecond * 1⟩

/-- `mqtt_event`. -/
def mqttEvent (e : MqttEvent) (client : Client) : Client :=
  match e with
  | .connected => { client with state := .connected }
  | .disconnected => { client with state := .disconnected }
  | _ => client

/-- `state_machine`: the client after it, its calls in order, and what it
returns. `connectivity` is what `have_connectivity` finds, `queueFull`
whether `mqtt_subscribe` finds the queue full. -/
def stateMachine (config : Config) (connectivity queueFull : Bool) (client : Client) :
    Client × List Call × Int :=
  let (client, calls) :=
    if client.state = .boot then ({ client with state := .init }, [.register]) else (client, [])
  let client :=
    if client.state = .init then
      { client with state := if connectivity then .netOk else .init }
    else client
  let (client, calls) :=
    if client.state = .netOk then ({ client with state := .connecting }, calls ++ [.connect])
    else (client, calls)
  if client.state = .connected then
    if queueFull then (client, calls ++ [.subscribe false], -1)
    else
      ({ client with reconnectionTrial := 0, state := .subscribed }, calls ++ [.subscribe true],
        config.publishTimePeriod)
  else if client.state = .subscribed then
    ({ client with timePeriod := config.publishTimePeriod }, calls ++ [.publish],
      config.publishTimePeriod)
  else if client.state = .disconnected then
    let timePeriod :=
      if client.reconnectionTrial < maxBackoffExp then
        config.reconnectInterval <<< client.reconnectionTrial
      else config.reconnectInterval <<< maxBackoffExp
    ({ state := .init, timePeriod, reconnectionTrial := client.reconnectionTrial + 1 },
      calls ++ [.disconnect], timePeriod)
  else (client, calls, client.timePeriod)

/-- An entry of the record. -/
inductive Entry where
  | event (e : MqttEvent)
  | call (c : Call)
  deriving DecidableEq, Repr

structure Session where
  client : Client
  log : List Entry
  deriving DecidableEq, Repr

inductive Input where
  | call (connectivity queueFull : Bool)
  | event (e : MqttEvent)
  deriving DecidableEq, Repr

def Session.step (config : Config) (s : Session) : Input → Session
  | .call connectivity queueFull =>
    let (client, calls, _) := stateMachine config connectivity queueFull s.client
    ⟨client, (calls.map .call).reverse ++ s.log⟩
  | .event e => ⟨mqttEvent e s.client, .event e :: s.log⟩

/-- The session after the call that boots it and more inputs. -/
def session (config : Config) (connectivity queueFull : Bool) (inputs : List Input) : Session :=
  inputs.foldl (Session.step config)
    (Session.step config ⟨initial config, []⟩ (.call connectivity queueFull))

variable {config : Config} {connectivity queueFull : Bool} {client : Client} {x : Entry}
  {log : List Entry} {s : Session}

/-- **What a call of `state_machine` does** once booted: it makes one call
into the library at most. -/
theorem stateMachine_cases (config : Config) (connectivity queueFull : Bool)
    (hboot : client.state ≠ .boot) :
    let after := stateMachine config connectivity queueFull client
    ((client.state = .init ∨ client.state = .netOk) ∧
      after.1.state = .connecting ∧ after.2.1 = [.connect]) ∨
    (client.state = .connected ∧ after.1.state = .connected ∧ after.2.1 = [.subscribe false]) ∨
    (client.state = .connected ∧ after.1.state = .subscribed ∧ after.2.1 = [.subscribe true]) ∨
    (client.state = .subscribed ∧ after.1.state = .subscribed ∧ after.2.1 = [.publish]) ∨
    (client.state = .disconnected ∧ after.1.state = .init ∧ after.2.1 = [.disconnect]) ∨
    (after.1.state = client.state ∧ after.2.1 = []) := by
  obtain ⟨state, trial, timePeriod⟩ := client
  cases state with
  | boot => exact absurd rfl hboot
  | init => cases connectivity <;> simp [stateMachine]
  | netOk => simp [stateMachine]
  | connecting => simp [stateMachine]
  | connected => cases queueFull <;> simp [stateMachine]
  | subscribed => simp [stateMachine]
  | disconnected => simp [stateMachine]

/-- The call that boots the client registers it. -/
theorem stateMachine_boot (config : Config) (connectivity queueFull : Bool) :
    let after := stateMachine config connectivity queueFull (initial config)
    (after.1.state = .init ∧ after.2.1 = [.register]) ∨
      (after.1.state = .connecting ∧ after.2.1 = [.register, .connect]) := by
  cases connectivity <;> simp [stateMachine, initial]

/-! ## §2 Discipline -/

/-- What has happened since the broker was last lost. -/
def sinceDisconnected (log : List Entry) : List Entry :=
  log.takeWhile fun x => x ≠ .event .disconnected

/-- What has happened since a subscription was last accepted. -/
def sinceSubscribed (log : List Entry) : List Entry :=
  log.takeWhile fun x => x ≠ .call (.subscribe true)

/-- When a client may make a call: it publishes once it is connected and
subscribed, it connects once for each time the broker is lost, and it
subscribes once for each time it is connected. -/
def Allowed (earlier : List Entry) : Entry → Prop
  | .call .publish => .event .connected ∈ sinceDisconnected earlier ∧
      .call (.subscribe true) ∈ sinceDisconnected earlier
  | .call .connect => .call .connect ∉ sinceDisconnected earlier
  | .call (.subscribe true) => .event .connected ∈ sinceSubscribed earlier
  | _ => True

/-- Every call of a record is made when it may be. -/
def Disciplined (log : List Entry) : Prop :=
  ∀ later x earlier, log = later ++ x :: earlier → Allowed earlier x

theorem Disciplined.cons (hx : Allowed log x) (h : Disciplined log) : Disciplined (x :: log) :=
  Program.Machine.Recorded.cons hx h

@[simp] theorem sinceDisconnected_cons (x : Entry) (log : List Entry) :
    sinceDisconnected (x :: log) =
      if x = .event .disconnected then [] else x :: sinceDisconnected log := by
  by_cases h : x = .event .disconnected <;> simp [sinceDisconnected, h]

@[simp] theorem sinceSubscribed_cons (x : Entry) (log : List Entry) :
    sinceSubscribed (x :: log) =
      if x = .call (.subscribe true) then [] else x :: sinceSubscribed log := by
  by_cases h : x = .call (.subscribe true) <;> simp [sinceSubscribed, h]

/-! ## §3 Sessions -/

/-- What the state says about the record. -/
structure Orderly (state : State) (log : List Entry) : Prop where
  booted : state ≠ .boot
  registered : log.count (.call .register) = 1
  disciplined : Disciplined log
  unconnected : state = .init ∨ state = .netOk ∨ state = .disconnected →
    .call .connect ∉ sinceDisconnected log
  connected : state = .connected →
    .event .connected ∈ sinceDisconnected log ∧ .event .connected ∈ sinceSubscribed log
  subscribed : state = .subscribed →
    .event .connected ∈ sinceDisconnected log ∧ .call (.subscribe true) ∈ sinceDisconnected log

variable {state : State}

theorem registered_orderly : Orderly .init [.call .register] :=
  ⟨by decide, by decide, Disciplined.cons trivial (by simp [Disciplined]), fun _ => by decide,
    by decide, by decide⟩

/-- An event is recorded, and may change the state. -/
theorem Orderly.event (h : Orderly client.state log) (e : MqttEvent) :
    Orderly (mqttEvent e client).state (.event e :: log) := by
  have hregistered : (Entry.event e :: log).count (.call .register) = 1 := by
    simp [h.registered]
  have hdisciplined : Disciplined (.event e :: log) := h.disciplined.cons trivial
  by_cases hconnected : e = .connected
  · subst hconnected
    exact ⟨by simp [mqttEvent], hregistered, hdisciplined, by simp [mqttEvent],
      by simp, by simp [mqttEvent]⟩
  · by_cases hdisconnected : e = .disconnected
    · subst hdisconnected
      exact ⟨by simp [mqttEvent], hregistered, hdisciplined, by simp, by simp [mqttEvent],
        by simp [mqttEvent]⟩
    · have hsame : mqttEvent e client = client := by
        cases e <;> first | rfl | exact absurd rfl hconnected | exact absurd rfl hdisconnected
      rw [hsame]
      refine ⟨h.booted, hregistered, hdisciplined, fun hstate => ?_, fun hstate => ?_,
        fun hstate => ?_⟩
      · simpa [hdisconnected] using h.unconnected hstate
      · have hmem := h.connected hstate
        simp [hdisconnected, hmem]
      · have hmem := h.subscribed hstate
        simp [hdisconnected, hmem]

/-- The call to `mqtt_connect`. -/
theorem Orderly.connect (h : Orderly state log) (hstate : state = .init ∨ state = .netOk) :
    Orderly .connecting (.call .connect :: log) := by
  have hnone : .call .connect ∉ sinceDisconnected log :=
    h.unconnected (hstate.imp_right Or.inl)
  exact ⟨by decide, by simp [h.registered], h.disciplined.cons hnone, by simp, by simp, by simp⟩

/-- The call to `mqtt_subscribe`. -/
theorem Orderly.subscribe (h : Orderly .connected log) (accepted : Bool) :
    Orderly (if accepted then .subscribed else .connected) (.call (.subscribe accepted) :: log) := by
  obtain ⟨hdisconnected, hsubscribed⟩ := h.connected rfl
  cases accepted with
  | true =>
    exact ⟨by simp, by simp [h.registered], h.disciplined.cons hsubscribed, by simp, by simp,
      by simp [hdisconnected]⟩
  | false =>
    exact ⟨by simp, by simp [h.registered], h.disciplined.cons trivial, by simp,
      by simp [hdisconnected, hsubscribed], by simp⟩

/-- The call to `mqtt_publish`. -/
theorem Orderly.publish (h : Orderly .subscribed log) :
    Orderly .subscribed (.call .publish :: log) := by
  obtain ⟨hconnected, hsubscribed⟩ := h.subscribed rfl
  exact ⟨by decide, by simp [h.registered], h.disciplined.cons ⟨hconnected, hsubscribed⟩, by simp,
    by simp, by simp [hconnected, hsubscribed]⟩

/-- The call to `mqtt_disconnect`. -/
theorem Orderly.disconnect (h : Orderly .disconnected log) :
    Orderly .init (.call .disconnect :: log) := by
  have hnone : .call .connect ∉ sinceDisconnected log := h.unconnected (by simp)
  exact ⟨by decide, by simp [h.registered], h.disciplined.cons trivial, by simp [hnone], by simp,
    by simp⟩

theorem Orderly.step {s : Session} (h : Orderly s.client.state s.log) (input : Input) :
    Orderly (s.step config input).client.state (s.step config input).log := by
  cases input with
  | event e => exact h.event e
  | call connectivity queueFull =>
    simp only [Session.step]
    obtain ⟨hstate, hafter, hcalls⟩ | ⟨hstate, hafter, hcalls⟩ | ⟨hstate, hafter, hcalls⟩ |
        ⟨hstate, hafter, hcalls⟩ | ⟨hstate, hafter, hcalls⟩ | ⟨hafter, hcalls⟩ :=
      stateMachine_cases config connectivity queueFull h.booted
    · rw [hafter, hcalls]
      exact h.connect hstate
    · rw [hafter, hcalls]
      exact (hstate ▸ h).subscribe false
    · rw [hafter, hcalls]
      exact (hstate ▸ h).subscribe true
    · rw [hafter, hcalls]
      exact (hstate ▸ h).publish
    · rw [hafter, hcalls]
      exact (hstate ▸ h).disconnect
    · rw [hafter, hcalls]
      exact h

theorem session_orderly (config : Config) (connectivity queueFull : Bool) (inputs : List Input) :
    Orderly (session config connectivity queueFull inputs).client.state
      (session config connectivity queueFull inputs).log := by
  unfold session
  have hboot : Orderly
      (Session.step config ⟨initial config, []⟩ (.call connectivity queueFull)).client.state
      (Session.step config ⟨initial config, []⟩ (.call connectivity queueFull)).log := by
    simp only [Session.step]
    obtain ⟨hstate, hcalls⟩ | ⟨hstate, hcalls⟩ := stateMachine_boot config connectivity queueFull
    · rw [hstate, hcalls]
      exact registered_orderly
    · rw [hstate, hcalls]
      exact registered_orderly.connect (Or.inl rfl)
  generalize Session.step config ⟨initial config, []⟩ (.call connectivity queueFull) = s at hboot ⊢
  induction inputs generalizing s with
  | nil => exact hboot
  | cons input inputs ih => exact ih _ (hboot.step input)

/-- **Every session is disciplined**, and registers once. -/
theorem session_disciplined (config : Config) (connectivity queueFull : Bool)
    (inputs : List Input) :
    (session config connectivity queueFull inputs).log.count (.call .register) = 1 ∧
      Disciplined (session config connectivity queueFull inputs).log :=
  have h := session_orderly config connectivity queueFull inputs
  ⟨h.registered, h.disciplined⟩

end DamMonitoring.Motes.MqttClient
