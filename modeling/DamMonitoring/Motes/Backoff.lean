/-
DamMonitoring.Motes.Backoff — how long the client of a mote waits before
it tries again.

`state_machine` returns the interval after which it wants to be called
again. The interval of a disconnection is kept in a static variable that
two branches assign and that all calls up to the next connection return.
A session keeps the record of what each call found and returned, newest
first (`Timed`); `backoff_schedule` reads the schedule off it. The
counter is an `int`, so what is said here is about less than `2^31`
disconnections in a row.

  §1 what a call returns
  §2 the schedule
  §3 every session keeps it
-/
import DamMonitoring.Motes.MqttClient
import Mathlib.Algebra.Order.Group.Int
import Mathlib.Algebra.Order.Group.Nat

namespace DamMonitoring.Motes.MqttClient

open Program.Machine

/-! ## §1 One call -/

/-- Neither connected nor just disconnected. -/
def State.waiting : State → Bool
  | .boot | .init | .netOk | .connecting => true
  | _ => false

variable {config : Config} {connectivity queueFull : Bool} {client : Client}

/-- The interval of a disconnection, after `trial` others. -/
def Config.interval (config : Config) (trial : Nat) : Nat :=
  config.reconnectInterval * 2 ^ min trial maxBackoffExp

theorem interval_eq (config : Config) (trial : Nat) :
    (if trial < maxBackoffExp then config.reconnectInterval <<< trial
      else config.reconnectInterval <<< maxBackoffExp) = config.interval trial := by
  unfold Config.interval
  split
  · next h => rw [Nat.min_eq_left (Nat.le_of_lt h), Nat.shiftLeft_eq]
  · next h => rw [Nat.min_eq_right (Nat.le_of_not_lt h), Nat.shiftLeft_eq]

/-- **What a call of `state_machine` returns**, by the state it finds. -/
theorem stateMachine_returns (config : Config) (connectivity queueFull : Bool) (client : Client) :
    let after := stateMachine config connectivity queueFull client
    (client.state = .connected ∧ queueFull = true ∧ after = (client, [.subscribe false], -1)) ∨
    (client.state = .connected ∧ queueFull = false ∧
      after = ({ client with reconnectionTrial := 0, state := .subscribed }, [.subscribe true],
        (config.publishTimePeriod : Int))) ∨
    (client.state = .subscribed ∧
      after = ({ client with timePeriod := config.publishTimePeriod }, [.publish],
        (config.publishTimePeriod : Int))) ∨
    (client.state = .disconnected ∧
      after = (⟨.init, client.reconnectionTrial + 1, config.interval client.reconnectionTrial⟩,
        [.disconnect], (config.interval client.reconnectionTrial : Int))) ∨
    (client.state.waiting = true ∧ ∃ state calls, state.waiting = true ∧
      Call.subscribe true ∉ calls ∧
      after = ({ client with state }, calls, (client.timePeriod : Int))) := by
  obtain ⟨state, trial, timePeriod⟩ := client
  cases state with
  | boot => cases connectivity <;> simp [stateMachine, State.waiting]
  | init => cases connectivity <;> simp [stateMachine, State.waiting]
  | netOk => simp [stateMachine, State.waiting]
  | connecting => simp [stateMachine, State.waiting]
  | connected => cases queueFull <;> simp [stateMachine]
  | subscribed => simp [stateMachine]
  | disconnected =>
    have hinterval := interval_eq config trial
    simp [stateMachine, ← hinterval]

/-! ## §2 The schedule -/

/-- A call: the state it found, whether the broker's queue took its
subscription, and what it returned. -/
structure Reply where
  state : State
  subscribed : Bool
  value : Int
  deriving DecidableEq, Repr

/-- The disconnections handled since a subscription was last accepted. -/
def handled (replies : List Reply) : Nat :=
  (replies.takeWhile fun x => !x.subscribed).countP fun x => x.state = .disconnected

/-- What the last call that handled a disconnection returned; before the
first the interval is the default one. -/
def lastInterval (config : Config) (replies : List Reply) : Int :=
  ((replies.find? fun x => x.state = .disconnected).map Reply.value).getD (config.clockSecond * 1)

/-- What a call is to return, after those before it. -/
structure OnSchedule (config : Config) (x : Reply) (earlier : List Reply) : Prop where
  backs_off : x.state = .disconnected →
    x.value = config.reconnectInterval * 2 ^ min (handled earlier) 6
  repeats : x.state ≠ .disconnected → x.state ≠ .connected → x.state ≠ .subscribed →
    x.value = lastInterval config earlier
  /-- The first one after an accepted subscription. -/
  restarts : x.state = .disconnected → handled earlier = 0 → x.value = config.reconnectInterval

@[simp] theorem handled_cons (x : Reply) (replies : List Reply) :
    handled (x :: replies) = if x.subscribed then 0
      else handled replies + if x.state = .disconnected then 1 else 0 := by
  cases h : x.subscribed <;> simp [handled, h, List.countP_cons]

@[simp] theorem lastInterval_cons (config : Config) (x : Reply) (replies : List Reply) :
    lastInterval config (x :: replies) =
      if x.state = .disconnected then x.value else lastInterval config replies := by
  by_cases h : x.state = .disconnected <;> simp [lastInterval, h]

/-! ## §3 Sessions -/

/-- A session with the record of its calls. -/
structure Timed where
  client : Client
  replies : List Reply
  deriving DecidableEq, Repr

def Timed.step (config : Config) (s : Timed) : Input → Timed
  | .call connectivity queueFull =>
    let (client, calls, value) := stateMachine config connectivity queueFull s.client
    ⟨client, ⟨s.client.state, decide (.subscribe true ∈ calls), value⟩ :: s.replies⟩
  | .event e => ⟨mqttEvent e s.client, s.replies⟩

/-- A session from power-on. -/
def timed (config : Config) (inputs : List Input) : Timed :=
  inputs.foldl (Timed.step config) ⟨initial config, []⟩

/-- The counter and the static variable are those of the record. -/
structure Paced (config : Config) (s : Timed) : Prop where
  trial_eq : s.client.reconnectionTrial = handled s.replies
  period_eq : s.client.state.waiting = true → (s.client.timePeriod : Int) =
    lastInterval config s.replies
  schedule : Recorded (OnSchedule config) s.replies

variable {s : Timed}

theorem initial_paced (config : Config) : Paced config ⟨initial config, []⟩ :=
  ⟨rfl, fun _ => by simp [initial, lastInterval], recorded_nil⟩

/-- An event may end the waiting. -/
theorem Paced.event (h : Paced config s) (e : MqttEvent) :
    Paced config (s.step config (.event e)) := by
  cases e with
  | connected => exact ⟨h.trial_eq, by simp [Timed.step, mqttEvent, State.waiting], h.schedule⟩
  | disconnected => exact ⟨h.trial_eq, by simp [Timed.step, mqttEvent, State.waiting], h.schedule⟩
  | publish => exact h
  | suback => exact h
  | unsuback => exact h
  | puback => exact h
  | other => exact h

/-- A call that does not wait is not to repeat an interval. -/
theorem OnSchedule.of_connected {x : Reply} {earlier : List Reply}
    (hx : x.state = .connected ∨ x.state = .subscribed) : OnSchedule config x earlier := by
  rcases hx with hx | hx <;>
    exact ⟨by simp [hx], by simp [hx], by simp [hx]⟩

theorem Paced.call (h : Paced config s) (connectivity queueFull : Bool) :
    Paced config (s.step config (.call connectivity queueFull)) := by
  have htrial := h.trial_eq
  obtain ⟨hstate, -, hafter⟩ | ⟨hstate, -, hafter⟩ | ⟨hstate, hafter⟩ | ⟨hstate, hafter⟩ |
      ⟨hwaiting, state, calls, -, hcalls, hafter⟩ :=
    stateMachine_returns config connectivity queueFull s.client
  · -- the queue is full
    simp only [Timed.step, hafter]
    exact ⟨by simp [hstate, htrial], by simp [hstate, State.waiting],
      h.schedule.cons (.of_connected (Or.inl hstate))⟩
  · -- the subscription is accepted
    simp only [Timed.step, hafter]
    exact ⟨by simp, by simp [State.waiting], h.schedule.cons (.of_connected (Or.inl hstate))⟩
  · -- a message is published
    simp only [Timed.step, hafter]
    exact ⟨by simp [hstate, htrial], by simp [hstate, State.waiting],
      h.schedule.cons (.of_connected (Or.inr hstate))⟩
  · -- a disconnection is handled
    simp only [Timed.step, hafter]
    refine ⟨by simp [hstate, htrial], fun _ => by simp [hstate], h.schedule.cons ?_⟩
    refine ⟨fun _ => ?_, fun hnot => absurd hstate hnot, fun _ hfirst => ?_⟩
    · simp [Config.interval, htrial, maxBackoffExp]
    · simp [Config.interval, htrial, hfirst]
  · -- the client waits
    simp only [Timed.step, hafter]
    have hnot : s.client.state ≠ .disconnected := by
      intro hstate
      rw [hstate] at hwaiting
      cases hwaiting
    refine ⟨by simp [hcalls, hnot, htrial], fun _ => by simp [hnot, h.period_eq hwaiting],
      h.schedule.cons ?_⟩
    exact ⟨fun hstate => absurd hstate hnot, fun _ _ _ => h.period_eq hwaiting,
      fun hstate => absurd hstate hnot⟩

theorem timed_paced (config : Config) (inputs : List Input) :
    Paced config (timed config inputs) := by
  unfold timed
  have hinit := initial_paced config
  generalize (⟨initial config, []⟩ : Timed) = s at hinit
  induction inputs generalizing s with
  | nil => exact hinit
  | cons input inputs ih =>
    cases input with
    | call connectivity queueFull => exact ih _ (hinit.call connectivity queueFull)
    | event e => exact ih _ (hinit.event e)

/-- **The client backs off**, in every session: each disconnection in a
row doubles the interval, up to 64 times the first, all calls until the
next connection repeat it, and an accepted subscription starts it over. -/
theorem backoff_schedule (config : Config) (inputs : List Input) :
    Recorded (OnSchedule config) (timed config inputs).replies :=
  (timed_paced config inputs).schedule

end DamMonitoring.Motes.MqttClient
