/-
DamMonitoring.Collector.Reconnection — `connectionLost` and `reconnect`:
the schedulers that bring the connection to the broker back.

Each loss starts a scheduler and puts it into the field `scheduler`; a
tick that finds the client connected shuts down what the field holds. A
loss that comes before such a tick overwrites the field, and nothing ever
shuts down the scheduler that was there. `Phase` is what the two methods
are for; `tidy_iff` says for which events they do that.

  §1 the two methods
  §2 what they are for
  §3 the code follows
-/
import Mathlib.Data.List.Basic

namespace DamMonitoring.Collector

/-! ## §1 The code -/

/-- The part of the `Subscriber` that the two methods share, the client's
connection, and the schedulers that have not been shut down. Schedulers
are told apart by a number. -/
structure Reconnection where
  connected : Bool
  scheduler : Option Nat
  live : List Nat
  created : Nat
  deriving DecidableEq, Repr

/-- A callback of the client, or a scheduler running `reconnect`. A tick
is `ok` if the client throws no `MqttException`: in `client.reconnect()`
if it is not connected, else in one of the calls of `client.subscribe`.
An attempt to connect that succeeds later counts with its tick. -/
inductive Event where
  | connectionLost
  | tick (id : Nat) (ok : Bool)
  deriving DecidableEq, Repr

namespace Reconnection

/-- The constructor has connected the client. -/
def init : Reconnection := ⟨true, none, [], 0⟩

/-- `connectionLost`. -/
def connectionLost (s : Reconnection) : Reconnection :=
  ⟨false, some s.created, s.created :: s.live, s.created + 1⟩

/-- `scheduler.shutdown()`, which also cancels the periodic task. -/
def shutdown (s : Reconnection) : Reconnection :=
  match s.scheduler with
  | some id => { s with live := s.live.erase id }
  | none => s

/-- `reconnect`; the exception is caught and logged. -/
def reconnect (ok : Bool) (s : Reconnection) : Reconnection :=
  if s.connected then
    if ok then s.shutdown else s
  else
    if ok then { s with connected := true } else s

def step (s : Reconnection) : Event → Reconnection
  | .connectionLost => s.connectionLost
  | .tick _ ok => s.reconnect ok

/-- Only a live scheduler ticks. -/
def Possible (s : Reconnection) : List Event → Prop
  | [] => True
  | .connectionLost :: events => (s.step .connectionLost).Possible events
  | .tick id ok :: events => id ∈ s.live ∧ (s.step (.tick id ok)).Possible events

/-- At any time at most one scheduler is live, and a tick that finds the
client connected leaves none. -/
def Tidy (s : Reconnection) : List Event → Prop
  | [] => s.live.length ≤ 1
  | .connectionLost :: events => s.live.length ≤ 1 ∧ (s.step .connectionLost).Tidy events
  | .tick id ok :: events =>
    s.live.length ≤ 1 ∧ (s.connected = true → (s.step (.tick id ok)).live = []) ∧
      (s.step (.tick id ok)).Tidy events

end Reconnection

/-! ## §2 The purpose -/

/-- Where the connection is meant to stand: up, lost, or back with the
subscriptions still missing. -/
inductive Phase where
  | up
  | lost
  | back
  deriving DecidableEq, Repr

namespace Phase

/-- A loss is followed by ticks that fail, one that connects and one that
subscribes. -/
def next : Phase → Event → Option Phase
  | .up, .connectionLost => some .lost
  | .lost, .tick _ false => some .lost
  | .lost, .tick _ true => some .back
  | .back, .tick _ true => some .up
  | _, _ => none

/-- The events are as they are meant to be. -/
def Orderly (p : Phase) : List Event → Prop
  | [] => True
  | e :: events =>
    match p.next e with
    | some p' => p'.Orderly events
    | none => False

end Phase

/-! ## §3 The code follows -/

namespace Reconnection

variable {s : Reconnection} {id : Nat} {events : List Event}

/-- The state of the code in each phase. -/
def Follows (s : Reconnection) : Phase → Prop
  | .up => s.connected = true ∧ s.live = []
  | .lost => s.connected = false ∧ ∃ id, s.live = [id] ∧ s.scheduler = some id
  | .back => s.connected = true ∧ ∃ id, s.live = [id] ∧ s.scheduler = some id

theorem Follows.live_le {p : Phase} (h : s.Follows p) : s.live.length ≤ 1 := by
  cases p with
  | up => simp [h.2]
  | lost =>
    obtain ⟨-, id, hlive, -⟩ := h
    simp [hlive]
  | back =>
    obtain ⟨-, id, hlive, -⟩ := h
    simp [hlive]

theorem Tidy.live_le (h : s.Tidy events) : s.live.length ≤ 1 := by
  cases events with
  | nil => exact h
  | cons e events =>
    cases e with
    | connectionLost => exact h.1
    | tick id ok => exact h.1

/-- A loss while a scheduler is live makes two. -/
theorem not_tidy_connectionLost (hlive : s.live = [id]) :
    ¬s.Tidy (.connectionLost :: events) := by
  intro h
  have hle : (s.connectionLost).live.length ≤ 1 := Tidy.live_le h.2
  simp [connectionLost, hlive] at hle

/-- The field is the live scheduler, and shutting it down leaves none. -/
theorem Follows.subscribed (h : s.Follows .back) : (s.reconnect true).Follows .up := by
  obtain ⟨hconnected, id, hlive, hscheduler⟩ := h
  simp [Follows, reconnect, shutdown, hconnected, hlive, hscheduler]

theorem Follows.connects (h : s.Follows .lost) : (s.reconnect true).Follows .back := by
  obtain ⟨hconnected, id, hlive, hscheduler⟩ := h
  simp [Follows, reconnect, hconnected, hlive, hscheduler]

theorem Follows.fails (h : s.Follows .lost) : s.reconnect false = s := by
  simp [reconnect, h.1]

/-- A connected tick whose subscriptions fail leaves its scheduler. -/
theorem Follows.not_tidy_tick (h : s.Follows .back) :
    ¬s.Tidy (.tick id false :: events) := by
  intro htidy
  obtain ⟨hconnected, id, hlive, -⟩ := h
  have hnone : (s.reconnect false).live = [] := htidy.2.1 hconnected
  simp [reconnect, hlive] at hnone

/-- **Simulation**: from a phase on, the code is tidy exactly if the
events are orderly. -/
theorem Follows.tidy_iff {p : Phase} (h : s.Follows p) (hpossible : s.Possible events) :
    s.Tidy events ↔ p.Orderly events := by
  induction events generalizing s p with
  | nil => exact iff_of_true h.live_le trivial
  | cons e events ih =>
    have hle := h.live_le
    cases p with
    | up =>
      cases e with
      | connectionLost =>
        have hlost : s.connectionLost.Follows .lost :=
          ⟨rfl, s.created, by simp [connectionLost, h.2], rfl⟩
        exact (and_iff_right hle).trans (ih hlost hpossible)
      | tick id ok =>
        have hid := hpossible.1
        rw [h.2] at hid
        cases hid
    | lost =>
      cases e with
      | connectionLost =>
        obtain ⟨-, id, hlive, -⟩ := h
        exact iff_of_false (not_tidy_connectionLost hlive) fun hnone => hnone
      | tick id ok =>
        have hdown : s.connected = true → (s.reconnect ok).live = [] :=
          fun hup => absurd (h.1.symm.trans hup) (by decide)
        refine (and_iff_right hle).trans ((and_iff_right hdown).trans ?_)
        cases ok with
        | false =>
          have hlost : (s.reconnect false).Follows .lost := h.fails.symm ▸ h
          exact ih hlost hpossible.2
        | true => exact ih h.connects hpossible.2
    | back =>
      cases e with
      | connectionLost =>
        obtain ⟨-, id, hlive, -⟩ := h
        exact iff_of_false (not_tidy_connectionLost hlive) fun hnone => hnone
      | tick id ok =>
        cases ok with
        | false => exact iff_of_false h.not_tidy_tick fun hnone => hnone
        | true =>
          have hup := h.subscribed
          refine (and_iff_right hle).trans ((and_iff_right fun _ => hup.2).trans ?_)
          exact ih hup hpossible.2

/-- **When reconnecting leaves nothing behind**: exactly if between two
losses the client is connected by a tick and the next tick subscribes. -/
theorem tidy_iff_orderly (events : List Event) (hpossible : init.Possible events) :
    init.Tidy events ↔ Phase.up.Orderly events :=
  Follows.tidy_iff (p := .up) ⟨rfl, rfl⟩ hpossible

/-- Lost, not back at once, back; and lost again. -/
def twoLosses : List Event :=
  [.connectionLost, .tick 0 false, .tick 0 true, .tick 0 true, .connectionLost, .tick 1 true]

theorem twoLosses_tidy : init.Possible twoLosses ∧ init.Tidy twoLosses := by
  have hpossible : init.Possible twoLosses := by simp [twoLosses, init, Possible, step,
    connectionLost, reconnect, shutdown]
  exact ⟨hpossible, (tidy_iff_orderly twoLosses hpossible).mpr trivial⟩

/-- The connection is lost again before the tick that would have found it. -/
def lostAgain : List Event :=
  [.connectionLost, .tick 0 true, .connectionLost, .tick 1 true, .tick 1 true]

/-- The first scheduler is live beside the second, and stays so when a
connected tick has shut down the second. -/
theorem lost_again_leaves_scheduler :
    init.Possible lostAgain ∧ ¬init.Tidy lostAgain ∧
      ((lostAgain.take 3).foldl step init).live = [1, 0] ∧
      ((lostAgain.take 4).foldl step init).connected = true ∧
      (lostAgain.foldl step init).live = [0] := by
  simp [lostAgain, init, Possible, Tidy, step, connectionLost, reconnect, shutdown]

end Reconnection

end DamMonitoring.Collector
