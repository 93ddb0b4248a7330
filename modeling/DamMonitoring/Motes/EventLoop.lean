/-
DamMonitoring.Motes.EventLoop — `mqtt_client_proc` of
`firmwares/water-level-sensor`.

The loop calls `state_machine` when its timer has run out or it is
polled, and sets the timer anew with what comes back. What comes back is
an `int`, negative for an error, and what it is stored in is a
`clock_time_t`, which is unsigned: the test for an error never succeeds,
and the error itself becomes an interval of `2^32 - 1` ticks
(`honours_iff`). The other firmwares with an MQTT client have the same
loop.

  §1 the loop
  §2 when it honours what is returned
-/
import DamMonitoring.Motes.Backoff

namespace DamMonitoring.Motes

open Program.Machine
open MqttClient (Client Config MqttEvent State stateMachine mqttEvent stateMachine_returns)

/-! ## §1 The loop -/

/-- A value stored in a `clock_time_t`, of 32 bits. -/
def clockTime (x : Int) : Int := x % 2 ^ 32

/-- The process: the client, its `time_period`, whether it has exited;
what `state_machine` returned last, and what `periodic_timer` was last set
anew with. -/
structure EventLoop where
  client : Client
  timePeriod : Int
  exited : Bool
  returned : Option Int
  rearmed : Option Int
  deriving DecidableEq, Repr

namespace EventLoop

def pubPeriodS : Nat := 5

/-- `init_mqtt` is given `PUB_PERIOD_S * CLOCK_SECOND`. -/
def config (clockSecond : Nat) : Config := ⟨clockSecond, pubPeriodS * clockSecond⟩

def init (clockSecond : Nat) : EventLoop :=
  ⟨MqttClient.initial (config clockSecond), clockTime (clockSecond * 1), false, none, none⟩

/-- What happens to the process: its timer or a poll, with what
`have_connectivity` and `mqtt_subscribe` would find; a report of the MQTT
library; or any other event of its loop. -/
inductive Event where
  | call (connectivity queueFull : Bool)
  | mqtt (e : MqttEvent)
  | other
  deriving DecidableEq, Repr

/-- One round of the loop; `none` if the process has exited. -/
def step (clockSecond : Nat) (s : EventLoop) (e : Event) : Option EventLoop :=
  if s.exited then none
  else match e with
    | .call connectivity queueFull =>
      let (client, _, returned) :=
        stateMachine (config clockSecond) connectivity queueFull s.client
      let timePeriod := clockTime returned
      if timePeriod < 0 then
        some { s with client, timePeriod, returned := some returned, exited := true }
      else
        some { s with client, timePeriod, returned := some returned, rearmed := some timePeriod }
    | .mqtt e => some { s with client := mqttEvent e s.client }
    | .other => some s

/-! ## §2 Errors -/

/-- An error ends the process, and no interval is shorter than a second
or longer than 64. -/
structure Honours (clockSecond : Nat) (s : EventLoop) : Prop where
  exits : ∀ value, s.returned = some value → value < 0 → s.exited = true
  in_range : ∀ interval, s.rearmed = some interval →
    (clockSecond : Int) ≤ interval ∧ interval ≤ 64 * clockSecond

/-- A call that finds the client connected and the queue of the broker
full. -/
def QueueFull (s : EventLoop) (e : Event) : Prop :=
  s.client.state = .connected ∧ ∃ connectivity, e = .call connectivity true

instance (s : EventLoop) (e : Event) : Decidable (QueueFull s e) :=
  inferInstanceAs (Decidable (_ ∧ _))

/-- What is kept as long as no queue is full. -/
structure Timely (clockSecond : Nat) (s : EventLoop) : Prop where
  running : s.exited = false
  period_ge : clockSecond ≤ s.client.timePeriod
  period_le : s.client.timePeriod ≤ 64 * clockSecond

variable {clockSecond : Nat} {s s' : EventLoop} {e : Event}

theorem init_timely (clockSecond : Nat) : Timely clockSecond (init clockSecond) :=
  ⟨rfl, by simp [init, MqttClient.initial, config], by
    simp only [init, MqttClient.initial, config]
    omega⟩

theorem init_honours (clockSecond : Nat) : Honours clockSecond (init clockSecond) :=
  ⟨by simp [init], by simp [init]⟩

/-- The intervals of disconnections are in range. -/
theorem interval_range (clockSecond trial : Nat) :
    clockSecond ≤ (config clockSecond).interval trial ∧
      (config clockSecond).interval trial ≤ 64 * clockSecond := by
  have hpos : 1 ≤ 2 ^ min trial MqttClient.maxBackoffExp := Nat.one_le_two_pow
  have hle : 2 ^ min trial MqttClient.maxBackoffExp ≤ 2 ^ 6 :=
    Nat.pow_le_pow_right (by decide) (Nat.min_le_right _ _)
  have hinterval : (config clockSecond).interval trial =
      clockSecond * 2 ^ min trial MqttClient.maxBackoffExp := by
    simp [Config.interval, Config.reconnectInterval, config]
  rw [hinterval]
  exact ⟨Nat.le_mul_of_pos_right _ hpos, by
    rw [Nat.mul_comm]
    exact Nat.mul_le_mul_right _ hle⟩

/-- What a call returns is -1 for a full queue, and an interval in range
otherwise. -/
theorem call_returns (hs : Timely clockSecond s) (connectivity queueFull : Bool) :
    let after := stateMachine (config clockSecond) connectivity queueFull s.client
    (s.client.state = .connected ∧ queueFull = true ∧ after.2.2 = -1) ∨
    (¬(s.client.state = .connected ∧ queueFull = true) ∧
      ∃ value : Nat, after.2.2 = value ∧ clockSecond ≤ value ∧ value ≤ 64 * clockSecond ∧
        clockSecond ≤ after.1.timePeriod ∧ after.1.timePeriod ≤ 64 * clockSecond) := by
  have hge := hs.period_ge
  have hle := hs.period_le
  have hpublish : (config clockSecond).publishTimePeriod = 5 * clockSecond := rfl
  obtain ⟨hstate, hfull, hafter⟩ | ⟨hstate, hfull, hafter⟩ | ⟨hstate, hafter⟩ |
      ⟨hstate, hafter⟩ | ⟨hwaiting, state, calls, -, -, hafter⟩ :=
    stateMachine_returns (config clockSecond) connectivity queueFull s.client
  · exact Or.inl ⟨hstate, hfull, by rw [hafter]⟩
  · rw [hafter]
    exact Or.inr ⟨by simp [hfull], _, rfl, by omega, by omega, hge, hle⟩
  · rw [hafter]
    refine Or.inr ⟨by simp [hstate], _, rfl, by omega, by omega, ?_⟩
    exact ⟨by simp [hpublish]; omega, by simp [hpublish]; omega⟩
  · rw [hafter]
    have hrange := interval_range clockSecond s.client.reconnectionTrial
    exact Or.inr ⟨by simp [hstate], _, rfl, hrange.1, hrange.2, hrange⟩
  · rw [hafter]
    refine Or.inr ⟨fun h => ?_, _, rfl, hge, hle, hge, hle⟩
    rw [h.1] at hwaiting
    cases hwaiting

/-- A round that finds the queue full sets the timer anew all the same. -/
theorem step_queueFull (hs : Timely clockSecond s) (hfull : QueueFull s e)
    (hstep : step clockSecond s e = some s') :
    s'.returned = some (-1) ∧ s'.exited = false ∧ s'.rearmed = some 4294967295 := by
  obtain ⟨hstate, connectivity, rfl⟩ := hfull
  obtain ⟨-, -, hvalue⟩ | ⟨hnot, -⟩ := call_returns hs connectivity true
  · have hwrap : clockTime (-1) = 4294967295 := by decide
    simp only [step, hs.running, Bool.false_eq_true, if_false, hvalue, hwrap] at hstep
    obtain rfl := Option.some.inj hstep
    exact ⟨rfl, rfl, rfl⟩
  · exact absurd ⟨hstate, rfl⟩ hnot

/-- Any other call sets it with what it was told. -/
theorem step_call (hs : Timely clockSecond s) (hfits : 64 * clockSecond < 2 ^ 31)
    {connectivity queueFull : Bool} (hnot : ¬QueueFull s (.call connectivity queueFull))
    (hstep : step clockSecond s (.call connectivity queueFull) = some s') :
    Timely clockSecond s' ∧ Honours clockSecond s' := by
  obtain ⟨hstate, hfull, -⟩ | ⟨-, value, hvalue, hge, hle, hperiod⟩ :=
    call_returns hs connectivity queueFull
  · subst hfull
    exact absurd ⟨hstate, connectivity, rfl⟩ hnot
  · have hsame : clockTime (value : Int) = value := by
      unfold clockTime
      omega
    have hnonneg : ¬(value : Int) < 0 := by omega
    simp only [step, hs.running, Bool.false_eq_true, if_false, hvalue, hsame, hnonneg] at hstep
    obtain rfl := Option.some.inj hstep
    refine ⟨⟨rfl, hperiod.1, hperiod.2⟩, ?_, ?_⟩
    · intro v hv hneg
      obtain rfl := Option.some.inj hv
      omega
    · intro interval hinterval
      obtain rfl := Option.some.inj hinterval
      omega

theorem step_iff (hfits : 64 * clockSecond < 2 ^ 31) (hs : Timely clockSecond s)
    (hhonours : Honours clockSecond s) (hstep : step clockSecond s e = some s') :
    (Honours clockSecond s' → Timely clockSecond s') ∧
      (Honours clockSecond s' ↔ ¬QueueFull s e) := by
  by_cases hfull : QueueFull s e
  · obtain ⟨hreturned, hexited, -⟩ := step_queueFull hs hfull hstep
    have hnot : ¬Honours clockSecond s' := by
      intro h
      have hexits := h.exits (-1) hreturned (by decide)
      rw [hexited] at hexits
      cases hexits
    exact ⟨fun h => absurd h hnot, by simp [hnot, hfull]⟩
  · have hboth : Timely clockSecond s' ∧ Honours clockSecond s' := by
      cases e with
      | call connectivity queueFull => exact step_call hs hfits hfull hstep
      | mqtt e =>
        have hrunning : ¬s.exited = true := by simp [hs.running]
        rw [step, if_neg hrunning] at hstep
        obtain rfl := Option.some.inj hstep
        have hperiod : (mqttEvent e s.client).timePeriod = s.client.timePeriod := by
          cases e <;> rfl
        exact ⟨⟨hs.running, hperiod ▸ hs.period_ge, hperiod ▸ hs.period_le⟩,
          hhonours.exits, hhonours.in_range⟩
      | other =>
        have hrunning : ¬s.exited = true := by simp [hs.running]
        rw [step, if_neg hrunning] at hstep
        obtain rfl := Option.some.inj hstep
        exact ⟨hs, hhonours⟩
    exact ⟨fun _ => hboth.1, by simp [hboth.2, hfull]⟩

/-- **When the loop honours what is returned**: as long as no call finds
the queue of the broker full when it wants to subscribe. `CLOCK_SECOND` is
such that 64 seconds are an `int`. -/
theorem honours_iff {clockSecond : Nat} (hfits : 64 * clockSecond < 2 ^ 31) (es : List Event) :
    Always (step clockSecond) (Honours clockSecond) (init clockSecond) es ↔
      Each (step clockSecond) (fun s e => ¬QueueFull s e) (init clockSecond) es := by
  refine always_iff_each (I := Timely clockSecond) ?_ ?_ (init_timely clockSecond)
    (init_honours clockSecond)
  · intro s e s' hs hhonours hstep
    exact step_iff hfits hs hhonours hstep
  · intro s e hs _ hstep
    have hrunning := hs.running
    cases e with
    | call connectivity queueFull =>
      simp only [step, hrunning, Bool.false_eq_true, if_false] at hstep
      split at hstep <;> cases hstep
    | mqtt e => simp [step, hrunning] at hstep
    | other => simp [step, hrunning] at hstep

/-- The broker accepts the connection, and its queue is full. -/
def fullQueue : List Event :=
  [.call true false, .mqtt .connected, .call true true]

/-- The process goes on, and its timer runs for `2^32 - 1` ticks. -/
theorem fullQueue_rearms :
    (run (step 128) (init 128) fullQueue).map (fun s => (s.returned, s.exited, s.rearmed)) =
        some (some (-1), false, some 4294967295) ∧
      ¬Always (step 128) (Honours 128) (init 128) fullQueue := by
  have hrun : (run (step 128) (init 128) fullQueue).map
      (fun s => (s.returned, s.exited, s.rearmed)) =
        some (some (-1), false, some 4294967295) := by decide
  refine ⟨hrun, fun halways => ?_⟩
  obtain ⟨s, hs, hlast⟩ := Option.map_eq_some_iff.mp hrun
  have hhonours := always_iff.mp halways fullQueue List.prefix_rfl s hs
  simp only [Prod.mk.injEq] at hlast
  have hexits := hhonours.exits (-1) hlast.1 (by decide)
  rw [hlast.2.1] at hexits
  cases hexits

/-- A disconnection and a subscription, at 128 ticks a second. -/
theorem honours_iff_demo : Always (step 128) (Honours 128) (init 128)
    [.call true false, .mqtt .disconnected, .call true false, .call true false,
      .mqtt .connected, .call true false, .other, .call true true] :=
  (honours_iff (by decide) _).mpr (by decide)

end EventLoop

end DamMonitoring.Motes
