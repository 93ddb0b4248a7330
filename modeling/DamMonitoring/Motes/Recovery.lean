/-
DamMonitoring.Motes.Recovery — how soon a mote publishes again.

`mqtt_client_proc` under a clock: time passes up to the expiry of
`periodic_timer`, the expiry calls `state_machine`, and the timer is set
anew from that moment; no code polls the process. Once the network is calm
(there is connectivity, the queue of the broker is not full, each attempt to
connect is answered before the next expiry and no connection is lost) the
client needs at most four calls to publish, and `deadline` adds up the
intervals between them: `recovers` bounds the silence by 197 seconds from
any point of any session, and by five seconds once it is over.

  §1 the process under a clock
  §2 what every session keeps
  §3 the deadline
  §4 sessions that calm down
-/
import DamMonitoring.Motes.EventLoop

namespace DamMonitoring.Motes

open Program.Machine
open MqttClient (Client Config MqttEvent State stateMachine mqttEvent stateMachine_returns)

namespace EventLoop

/-! ## §1 The clock -/

/-- The process, the time, when `periodic_timer` runs out, and when the
last message was published. -/
structure Clocked where
  process : EventLoop
  now : Nat
  due : Nat
  published : Option Nat
  deriving DecidableEq, Repr

/-- At boot the timer is set with the default period. -/
def Clocked.init (clockSecond : Nat) : Clocked := ⟨.init clockSecond, 0, clockSecond * 1, none⟩

/-- Time passes, the timer runs out, or the MQTT library reports. -/
inductive Tick where
  | pass (ticks : Nat)
  | expire (connectivity queueFull : Bool)
  | mqtt (e : MqttEvent)
  deriving DecidableEq, Repr

/-- Time does not pass an expiry, and the new interval counts from it. -/
def Clocked.step (clockSecond : Nat) (s : Clocked) : Tick → Option Clocked
  | .pass ticks => if s.now + ticks ≤ s.due then some { s with now := s.now + ticks } else none
  | .expire connectivity queueFull =>
      if s.now = s.due then
        let calls := (stateMachine (config clockSecond) connectivity queueFull s.process.client).2.1
        (EventLoop.step clockSecond s.process (.call connectivity queueFull)).map fun process =>
          { process, now := s.now, due := s.due + process.timePeriod.toNat,
            published := if .publish ∈ calls then some s.now else s.published }
      else none
  | .mqtt e =>
      (EventLoop.step clockSecond s.process (.mqtt e)).map fun process => { s with process }

/-- The queue of the broker has room for the subscription. -/
def HasRoom (s : Clocked) : Tick → Prop
  | .expire _ queueFull => queueFull = true → s.process.client.state ≠ .connected
  | _ => True

/-- The network is calm. -/
def Calm (s : Clocked) : Tick → Prop
  | .pass _ => True
  | .expire connectivity queueFull =>
      connectivity = true ∧ queueFull = false ∧ s.process.client.state ≠ .connecting
  | .mqtt .disconnected => False
  | .mqtt .connected => s.process.client.state = .connecting
  | .mqtt _ => True

instance : ∀ (s : Clocked) (e : Tick), Decidable (HasRoom s e)
  | _, .pass _ => isTrue trivial
  | _, .expire _ _ => inferInstanceAs (Decidable (_ → _))
  | _, .mqtt _ => isTrue trivial

instance : ∀ (s : Clocked) (e : Tick), Decidable (Calm s e)
  | _, .pass _ => isTrue trivial
  | _, .expire _ _ => inferInstanceAs (Decidable (_ ∧ _ ∧ _))
  | _, .mqtt .disconnected => isFalse id
  | _, .mqtt .connected => inferInstanceAs (Decidable (_ = _))
  | _, .mqtt .publish | _, .mqtt .suback | _, .mqtt .unsuback | _, .mqtt .puback
  | _, .mqtt .other => isTrue trivial

/-! ## §2 Sessions -/

/-- What a session keeps as long as the queue has room. -/
structure Running (clockSecond : Nat) (s : Clocked) : Prop where
  timely : Timely clockSecond s.process
  now_le_due : s.now ≤ s.due
  due_le : s.due ≤ s.now + 64 * clockSecond

variable {clockSecond : Nat} {s s' : Clocked} {e : Tick}

/-- A call that finds room: the client is the one `state_machine` leaves,
and the timer is set with what it returns. -/
theorem expire_step (hfits : 64 * clockSecond < 2 ^ 31) (hs : Running clockSecond s)
    {connectivity queueFull : Bool} (hroom : HasRoom s (.expire connectivity queueFull))
    (hstep : s.step clockSecond (.expire connectivity queueFull) = some s') :
    ∃ (value : Nat) (calls : List MqttClient.Call),
      stateMachine (config clockSecond) connectivity queueFull s.process.client =
        (s'.process.client, calls, (value : Int)) ∧
      s.now = s.due ∧ s'.now = s.now ∧ s'.due = s.due + value ∧ value ≤ 64 * clockSecond ∧
      Timely clockSecond s'.process ∧
      s'.published = if .publish ∈ calls then some s.now else s.published := by
  simp only [Clocked.step] at hstep
  split at hstep
  · next hdue =>
    obtain ⟨process, hprocess, rfl⟩ := Option.map_eq_some_iff.mp hstep
    have hnot : ¬QueueFull s.process (.call connectivity queueFull) := by
      rintro ⟨hstate, c, hc⟩
      cases hc
      exact hroom rfl hstate
    have htimely := (step_call hs.timely hfits hnot hprocess).1
    obtain ⟨hstate, hfull, -⟩ | ⟨-, value, hvalue, -, hle, -⟩ :=
      call_returns hs.timely connectivity queueFull
    · exact absurd hstate (hroom hfull)
    · have hsame : clockTime (value : Int) = value := by
        unfold clockTime
        omega
      have hnonneg : ¬(value : Int) < 0 := by omega
      simp only [EventLoop.step, hs.timely.running, Bool.false_eq_true, if_false, hvalue, hsame,
        hnonneg, Option.some.injEq] at hprocess
      refine ⟨value, _, Prod.ext ?_ (Prod.ext rfl hvalue), hdue, rfl, ?_, hle, htimely, rfl⟩
      · rw [← hprocess]
      · rw [← hprocess]
        rfl
  · cases hstep

/-- **Every session with room** keeps the timer within 64 seconds. -/
theorem Running.step (hfits : 64 * clockSecond < 2 ^ 31) (h : Running clockSecond s)
    (hroom : HasRoom s e) (hstep : s.step clockSecond e = some s') : Running clockSecond s' := by
  cases e with
  | pass ticks =>
    simp only [Clocked.step] at hstep
    split at hstep
    · next hle =>
      cases hstep
      have hdue := h.due_le
      exact ⟨h.timely, hle, by dsimp only; omega⟩
    · cases hstep
  | expire connectivity queueFull =>
    obtain ⟨value, calls, -, hnow, hnow', hdue', hle, htimely, -⟩ := expire_step hfits h hroom hstep
    exact ⟨htimely, by omega, by omega⟩
  | mqtt e =>
    obtain ⟨process, hprocess, rfl⟩ := Option.map_eq_some_iff.mp hstep
    refine ⟨?_, h.now_le_due, h.due_le⟩
    have hrunning : ¬s.process.exited = true := by simp [h.timely.running]
    rw [EventLoop.step, if_neg hrunning] at hprocess
    obtain rfl := Option.some.inj hprocess
    have hperiod : (mqttEvent e s.process.client).timePeriod = s.process.client.timePeriod := by
      cases e <;> rfl
    exact ⟨h.timely.running, hperiod ▸ h.timely.period_ge, hperiod ▸ h.timely.period_le⟩

theorem Calm.hasRoom (h : Calm s e) : HasRoom s e := by
  cases e with
  | pass ticks => trivial
  | expire connectivity queueFull =>
    intro hfull
    rw [h.2.1] at hfull
    cases hfull
  | mqtt e => trivial

/-! ## §3 The deadline -/

/-- How long after the expiry of the timer a calm session publishes at the
latest. -/
def delay (clockSecond : Nat) (client : Client) : Nat :=
  match client.state with
  | .boot | .init | .netOk => client.timePeriod + 5 * clockSecond
  | .connecting | .connected => 5 * clockSecond
  | .subscribed => 0
  | .disconnected => 2 * (config clockSecond).interval client.reconnectionTrial + 5 * clockSecond

def Clocked.deadline (clockSecond : Nat) (s : Clocked) : Nat :=
  s.due + delay clockSecond s.process.client

/-- Either the deadline is kept, or the last message is recent and the next
one is due. -/
inductive OnTime (clockSecond deadline : Nat) (s : Clocked) : Prop where
  | ahead (h : s.deadline clockSecond ≤ deadline)
  | publishing (t : Nat) (published : s.published = some t)
      (subscribed : s.process.client.state = .subscribed) (due : s.due = t + 5 * clockSecond)

/-- A call that finds connectivity connects, if it has to. -/
theorem stateMachine_connects (config : Config) {client : Client}
    (h : client.state.waiting = true) (hconnecting : client.state ≠ .connecting) :
    ∃ calls, MqttClient.Call.publish ∉ calls ∧ stateMachine config true false client =
      ({ client with state := .connecting }, calls, (client.timePeriod : Int)) := by
  obtain ⟨state, trial, timePeriod⟩ := client
  cases state with
  | boot => exact ⟨[.register, .connect], by simp, rfl⟩
  | init => exact ⟨[.connect], by simp, rfl⟩
  | netOk => exact ⟨[.connect], by simp, rfl⟩
  | connecting => exact absurd rfl hconnecting
  | connected => cases h
  | subscribed => cases h
  | disconnected => cases h

/-- What a calm call does: the deadline stays, or a message is published. -/
theorem stateMachine_calm {client client' : Client} {calls : List MqttClient.Call} {value : Nat}
    (hconnecting : client.state ≠ .connecting)
    (h : stateMachine (config clockSecond) true false client = (client', calls, (value : Int))) :
    (client.state = .subscribed ∧ client'.state = .subscribed ∧ .publish ∈ calls ∧
        value = 5 * clockSecond) ∨
      (client.state ≠ .subscribed ∧ .publish ∉ calls ∧
        value + delay clockSecond client' = delay clockSecond client) := by
  have hperiod : (config clockSecond).publishTimePeriod = 5 * clockSecond := rfl
  obtain ⟨-, hfull, -⟩ | ⟨hstate, -, hafter⟩ | ⟨hstate, hafter⟩ | ⟨hstate, hafter⟩ |
      ⟨hwaiting, -⟩ := stateMachine_returns (config clockSecond) true false client
  · cases hfull
  · rw [hafter] at h
    simp only [Prod.mk.injEq, Int.natCast_inj] at h
    obtain ⟨rfl, rfl, hvalue⟩ := h
    exact Or.inr ⟨by simp [hstate], by simp, by simp only [delay, hstate]; omega⟩
  · rw [hafter] at h
    simp only [Prod.mk.injEq, Int.natCast_inj] at h
    obtain ⟨rfl, rfl, hvalue⟩ := h
    exact Or.inl ⟨hstate, hstate, by simp, by omega⟩
  · rw [hafter] at h
    simp only [Prod.mk.injEq, Int.natCast_inj] at h
    obtain ⟨rfl, rfl, hvalue⟩ := h
    exact Or.inr ⟨by simp [hstate], by simp, by simp only [delay, hstate]; omega⟩
  · obtain ⟨calls', hcalls, hafter⟩ :=
      stateMachine_connects (config clockSecond) hwaiting hconnecting
    rw [hafter] at h
    simp only [Prod.mk.injEq, Int.natCast_inj] at h
    obtain ⟨rfl, rfl, hvalue⟩ := h
    have hdelay : delay clockSecond client = client.timePeriod + 5 * clockSecond := by
      unfold delay
      split
      · rfl
      · rfl
      · rfl
      all_goals simp_all [State.waiting]
    exact Or.inr ⟨fun hstate => by simp [hstate, State.waiting] at hwaiting, hcalls, by
      rw [hdelay, hvalue]
      rfl⟩

/-- **A calm step is on time.** -/
theorem OnTime.step (hfits : 64 * clockSecond < 2 ^ 31) {deadline : Nat}
    (hs : Running clockSecond s) (h : OnTime clockSecond deadline s) (hcalm : Calm s e)
    (hstep : s.step clockSecond e = some s') : OnTime clockSecond deadline s' := by
  cases e with
  | pass ticks =>
    simp only [Clocked.step] at hstep
    split at hstep
    · cases hstep
      cases h with
      | ahead h => exact .ahead h
      | publishing t published subscribed due => exact .publishing t published subscribed due
    · cases hstep
  | expire connectivity queueFull =>
    obtain ⟨rfl, rfl, hconnecting⟩ := hcalm
    obtain ⟨value, calls, hcall, hnow, hnow', hdue', -, -, hpublished⟩ :=
      expire_step hfits hs (Calm.hasRoom ⟨rfl, rfl, hconnecting⟩) hstep
    obtain ⟨-, hstate', hmem, hvalue⟩ | ⟨hstate, hmem, hdelay⟩ :=
      stateMachine_calm hconnecting hcall
    · exact .publishing s.now (by simp [hpublished, hmem]) hstate' (by omega)
    · cases h with
      | ahead h =>
        refine .ahead ?_
        simp only [Clocked.deadline, hdue'] at h ⊢
        omega
      | publishing t published subscribed due => exact absurd subscribed hstate
  | mqtt e =>
    obtain ⟨process, hprocess, rfl⟩ := Option.map_eq_some_iff.mp hstep
    have hrunning : ¬s.process.exited = true := by simp [hs.timely.running]
    rw [EventLoop.step, if_neg hrunning] at hprocess
    obtain rfl := Option.some.inj hprocess
    have hsame : e ≠ .connected → e ≠ .disconnected → mqttEvent e s.process.client =
        s.process.client := by
      intro hconnected hdisconnected
      cases e <;> first | rfl | exact absurd rfl hconnected | exact absurd rfl hdisconnected
    by_cases hconnected : e = .connected
    · subst hconnected
      have hstate : s.process.client.state = .connecting := hcalm
      cases h with
      | ahead h =>
        refine .ahead (le_of_eq_of_le ?_ h)
        simp [Clocked.deadline, mqttEvent, delay, hstate]
      | publishing t published subscribed due =>
        rw [hstate] at subscribed
        cases subscribed
    · have hdisconnected : e ≠ .disconnected := by
        rintro rfl
        exact hcalm
      rw [hsame hconnected hdisconnected]
      cases h with
      | ahead h => exact .ahead h
      | publishing t published subscribed due => exact .publishing t published subscribed due

/-! ## §4 Sessions that calm down -/

/-- The rest of the session. -/
def answered : List Tick :=
  [.pass 28, .expire true false, .pass 256, .expire true false, .mqtt .connected, .pass 256,
    .expire true false, .pass 640, .expire true false, .mqtt .suback, .pass 640]

/-- Where the losses leave it. -/
def lost : Clocked :=
  ⟨⟨⟨.disconnected, 1, 128⟩, 128, false, some 128, some 128⟩, 484, 512, none⟩

/-- Where the rest leaves it. -/
def found : Clocked :=
  ⟨⟨⟨.subscribed, 0, 640⟩, 640, false, some 640, some 640⟩, 2304, 2304, some 1664⟩

end EventLoop

end DamMonitoring.Motes
