/-
DamMonitoring.Motes.Lights — what the LEDs of the actuators show.

A gate flashes after a change of its level, the alarm as long as it is on.
`ctimer_set` starts a timer at the time of the call, `ctimer_reset` starts
it again at the time it ran out, whenever the callback is called: so the
n-th call of `blink` is due n periods after the start, however late the
others were, and `lit_iff` can read the LED off the clock.

`gate-controller` lights the LED of its gate before it serves a request,
and which LED `LEDS_LED2` of `demo/mote-1` is depends on the board: the
server starts with the LED of an actuator on or off. `res-gate.c` turns it
off before it blinks, `res-alarm.c` does not.

  §1 the callbacks
  §2 an actuator under a clock
  §3 how often `blink` has been called
  §4 every run
-/
import DamMonitoring.Motes.AlarmGrammar
import DamMonitoring.Motes.GateReplies

namespace DamMonitoring.Motes

open Program.Machine

/-! ## §1 Callbacks -/

/-- `blink`, the callback of the timer of the alarm. -/
def ResAlarm.blink (alarm : ResAlarm.AlarmT) : ResAlarm.AlarmT :=
  { alarm with ledOn := !alarm.ledOn, timer := true }

namespace Actuator

def blink : Actuator → Actuator
  | .gate g => .gate (ResGate.blink g)
  | .alarm a => .alarm (ResAlarm.blink a)

/-- What `res_put_handler` makes of the actuator. -/
def handle (overflow : Int → Int) (keyBuf : List Char) (request : Request) : Actuator → Actuator
  | .gate g => .gate (ResGate.resPutHandler overflow keyBuf g request).1
  | .alarm a => .alarm (ResAlarm.resPutHandler keyBuf a request).1

def timer : Actuator → Bool
  | .gate g => g.timer
  | .alarm a => a.timer

def lit : Actuator → Bool
  | .gate g => g.ledOn
  | .alarm a => a.ledOn

/-- The time between two calls of `blink`. -/
def period (clockSecond : Nat) : Actuator → Nat
  | .gate _ => clockSecond / 4
  | .alarm _ => clockSecond / 3

/-- The actuator with its LED as `shining` says. -/
def shine (shining : Bool) : Actuator → Actuator
  | .gate g => .gate { g with ledOn := shining }
  | .alarm a => .alarm { a with ledOn := shining }

/-- Whether its handler sets the timer without turning the LED off. -/
def leavesLit : Actuator → Bool
  | .gate _ => false
  | .alarm _ => true

/-- `res_put_handler` has set the timer: the level of a gate has changed,
or the alarm has gone on. -/
def set : Actuator → Actuator → Bool
  | .gate g, .gate g' => decide (g.openingLevel ≠ g'.openingLevel)
  | .alarm a, .alarm a' => !a.state && a'.state
  | _, _ => false

/-- It has stopped it: the alarm has gone off. -/
def stopped : Actuator → Actuator → Bool
  | .alarm a, .alarm a' => a.state && !a'.state
  | _, _ => false

end Actuator

/-! ## §2 The clock -/

/-- An actuator, the time, when the timer runs out if it is set, since when
there is something to show, and whether the server started with the LED on
and no handler has turned it off. -/
structure Lamp where
  actuator : Actuator
  now : Nat
  due : Nat
  since : Option Nat
  still : Bool
  deriving DecidableEq

namespace Lamp

def init (shining : Bool) (a : Actuator) : Lamp := ⟨a.reboot.shine shining, 0, 0, none, shining⟩

inductive Event where
  | put (overflow : Int → Int) (keyBuf : List Char) (request : Request)
  /-- The timer has run out, now or earlier, and its callback is called. -/
  | expire
  | pass (ticks : Nat)
  | reboot (shining : Bool)

def step (clockSecond : Nat) (s : Lamp) : Event → Option Lamp
  | .put overflow keyBuf request =>
    let actuator := s.actuator.handle overflow keyBuf request
    if s.actuator.set actuator then
      some { s with
        actuator
        due := s.now + actuator.period clockSecond
        since := some s.now
        still := s.still && actuator.leavesLit }
    else if s.actuator.stopped actuator then
      some { s with actuator, since := none, still := false }
    else some { s with actuator }
  | .expire =>
    if s.actuator.timer ∧ s.due ≤ s.now then
      some { s with
        actuator := s.actuator.blink
        due := s.due + s.actuator.period clockSecond }
    else none
  | .pass ticks => some { s with now := s.now + ticks }
  | .reboot shining =>
    some { s with actuator := s.actuator.reboot.shine shining, since := none, still := shining }

end Lamp

/-! ## §3 Calls of blink -/

namespace Actuator

/-- There is nothing to show. -/
def Rests (still : Bool) : Actuator → Prop
  | .gate g => g = ⟨g.openingLevel, false, ResGate.blinks, still⟩
  | .alarm a => a = ⟨false, false, still⟩

/-- `blink` has been called `n` times since the timer was set. The sixth
call is the last for a gate. -/
def Blinked (still : Bool) (n : Nat) : Actuator → Prop
  | .gate g => n ≤ 6 ∧ still = false ∧ g = ⟨g.openingLevel, decide (n < 6),
      if n < 6 then ResGate.blinks - n else ResGate.blinks, decide (n % 2 = 1)⟩
  | .alarm a => a = ⟨true, true, still ^^ decide (n % 2 = 1)⟩

variable {a : Actuator} {still : Bool} {n : Nat}

theorem rests_reboot (shining : Bool) (a : Actuator) :
    (a.reboot.shine shining).Rests shining := by
  cases a <;> rfl

theorem Rests.lit_eq (h : a.Rests still) : a.lit = still := by
  cases a with
  | gate g => rw [lit, show g = _ from h]
  | alarm a => rw [lit, show a = _ from h]

theorem Rests.untimed (h : a.Rests still) : a.timer = false := by
  cases a with
  | gate g => rw [timer, show g = _ from h]
  | alarm a => rw [timer, show a = _ from h]

theorem Blinked.lit_eq (h : a.Blinked still n) : a.lit = (still ^^ decide (n % 2 = 1)) := by
  cases a with
  | gate g =>
    obtain ⟨-, rfl, hg⟩ := h
    rw [lit, hg, Bool.false_xor]
  | alarm a => rw [lit, show a = _ from h]

/-- **One more call.** -/
theorem Blinked.blink (h : a.Blinked still n) (htimer : a.timer = true) :
    a.blink.Blinked still (n + 1) := by
  cases a with
  | gate g =>
    obtain ⟨-, rfl, hg⟩ := h
    have hn : n < 6 := by
      rw [timer, hg] at htimer
      exact of_decide_eq_true htimer
    refine ⟨hn, rfl, ?_⟩
    generalize g.openingLevel = level at hg
    subst hg
    have hcases : n = 0 ∨ n = 1 ∨ n = 2 ∨ n = 3 ∨ n = 4 ∨ n = 5 := by omega
    rcases hcases with rfl | rfl | rfl | rfl | rfl | rfl <;> rfl
  | alarm a =>
    have ha : a = _ := h
    subst ha
    simp only [Actuator.blink, ResAlarm.blink, Blinked, ResAlarm.AlarmT.mk.injEq, true_and]
    by_cases hodd : n % 2 = 1
    · simp [hodd, show ¬(n + 1) % 2 = 1 by omega]
    · simp [hodd, show (n + 1) % 2 = 1 by omega]

/-- What a request does to an actuator that shows something or nothing. -/
inductive Handled (still : Bool) (a : Actuator) : Actuator → Prop where
  | kept : Handled still a a
  | set {a' : Actuator} (h : a.set a' = true) (blinked : a'.Blinked (still && a'.leavesLit) 0) :
      Handled still a a'
  | stopped {a' : Actuator} (h : a.stopped a' = true) (rests : a'.Rests false) :
      Handled still a a'

/-- **A request** starts the timer, or stops it, or leaves the actuator as
it is. -/
theorem handled (overflow : Int → Int) (keyBuf : List Char) (request : Request)
    (h : a.Rests still ∨ ∃ n, a.Blinked still n) :
    Handled still a (a.handle overflow keyBuf request) := by
  cases a with
  | gate g =>
    have houtcome := ResGate.resPutHandler_outcome overflow keyBuf g request
    simp only [handle]
    generalize ResGate.resPutHandler overflow keyBuf g request = out at houtcome
    obtain ⟨g', response⟩ := out
    cases houtcome with
    | rejected text => exact .kept
    | changed level _ _ hmoved =>
      exact .set (decide_eq_true hmoved) ⟨Nat.zero_le 6, Bool.and_false still, rfl⟩
    | valid level _ _ _ => exact .kept
  | alarm a =>
    have happly : ∀ (paramLen : Nat) (paramOk : Int) (newState : Bool),
        Handled still (.alarm a) (.alarm (ResAlarm.apply a paramLen paramOk newState).1) := by
      intro paramLen paramOk newState
      unfold ResAlarm.apply
      split
      · exact .kept
      · split
        · exact .kept
        · by_cases hmoved : a.state ≠ newState
          · dsimp only
            rw [if_pos hmoved]
            cases newState with
            | true =>
              have hoff : a.state = false := Bool.eq_false_iff.mpr hmoved
              refine .set (by simp [Actuator.set, hoff]) ?_
              rcases h with hrests | ⟨n, hblinked⟩
              · rw [show a = _ from hrests]
                simp [Blinked, leavesLit]
              · rw [show a = _ from hblinked] at hoff
                cases hoff
            | false =>
              have hon : a.state = true := by simpa using hmoved
              exact .stopped (by simp [Actuator.stopped, hon]) rfl
          · dsimp only
            rw [if_neg hmoved]
            exact .kept
    rcases ResAlarm.resPutHandler_cases keyBuf a request with
      h | h | ⟨paramLen, paramOk, newState, h⟩
    · rw [handle, h]
      exact .kept
    · rw [handle, h]
      exact .kept
    · rw [handle, h]
      exact happly paramLen paramOk newState

@[simp] theorem period_blink (clockSecond : Nat) (a : Actuator) :
    a.blink.period clockSecond = a.period clockSecond := by
  cases a <;> rfl

@[simp] theorem period_handle (clockSecond : Nat) (overflow : Int → Int) (keyBuf : List Char)
    (request : Request) (a : Actuator) :
    (a.handle overflow keyBuf request).period clockSecond = a.period clockSecond := by
  cases a <;> rfl

theorem period_pos {clockSecond : Nat} (hsecond : 4 ≤ clockSecond) (a : Actuator) :
    0 < a.period clockSecond := by
  cases a <;> simp only [period] <;> omega

/-- The timer of a gate has stopped with the sixth call. -/
theorem Blinked.stopped_iff (h : a.Blinked still n) :
    a.timer = false ↔ (∃ g, a = .gate g) ∧ n = 6 := by
  cases a with
  | gate g =>
    obtain ⟨hle, -, hg⟩ := h
    rw [timer, hg]
    simp only [decide_eq_false_iff_not, Actuator.gate.injEq, exists_eq', true_and]
    omega
  | alarm a =>
    rw [timer, show a = _ from h]
    simp

/-- Whether the LED is the other way than before, `n` periods after the
timer was set. -/
def Shows (n : Nat) : Actuator → Prop
  | .gate _ => n < 6 ∧ n % 2 = 1
  | .alarm _ => n % 2 = 1

instance (n : Nat) : (a : Actuator) → Decidable (a.Shows n)
  | .gate _ => inferInstanceAs (Decidable (_ ∧ _))
  | .alarm _ => inferInstanceAs (Decidable (_ = _))

theorem Blinked.lit_eq_shows (h : a.Blinked still n) (htimer : a.timer = true) :
    a.lit = (still ^^ decide (a.Shows n)) := by
  have hshows : a.Shows n ↔ n % 2 = 1 := by
    cases a with
    | gate g =>
      have hle : n ≤ 6 := h.1
      have hn : n ≠ 6 := by
        intro hn
        rw [h.stopped_iff.mpr ⟨⟨g, rfl⟩, hn⟩] at htimer
        cases htimer
      simp only [Shows]
      omega
    | alarm a => exact Iff.rfl
  rw [h.lit_eq]
  simp only [hshows]

end Actuator

/-! ## §4 Every run -/

namespace Lamp

variable {clockSecond : Nat} {s s' : Lamp}

/-- `blink` has been called once a period since the timer was set, and is
called next when another has passed. -/
def Timed (clockSecond : Nat) (s : Lamp) : Prop :=
  match s.since with
  | none => s.actuator.Rests s.still
  | some t => ∃ n, s.actuator.Blinked s.still n ∧
      t + n * s.actuator.period clockSecond ≤ s.now ∧
      (s.actuator.timer = true → s.due = t + (n + 1) * s.actuator.period clockSecond)

theorem timed_init (clockSecond : Nat) (shining : Bool) (a : Actuator) :
    (init shining a).Timed clockSecond :=
  Actuator.rests_reboot shining a

theorem Timed.blinked (h : s.Timed clockSecond) :
    s.actuator.Rests s.still ∨ ∃ n, s.actuator.Blinked s.still n := by
  unfold Timed at h
  split at h
  · exact .inl h
  · exact .inr (h.imp fun _ hn => hn.1)

theorem Timed.put (h : s.Timed clockSecond) (overflow : Int → Int) (keyBuf : List Char)
    (request : Request) (hstep : step clockSecond s (.put overflow keyBuf request) = some s') :
    s'.Timed clockSecond := by
  obtain ⟨a, now, due, since, still⟩ := s
  simp only [step] at hstep
  have hhandled := Actuator.handled overflow keyBuf request h.blinked
  have hperiod := Actuator.period_handle clockSecond overflow keyBuf request a
  generalize a.handle overflow keyBuf request = a' at hstep hhandled hperiod
  cases hhandled with
  | kept =>
    have hset : a.set a = false := by cases a <;> simp [Actuator.set]
    have hstopped : a.stopped a = false := by cases a <;> simp [Actuator.stopped]
    rw [if_neg (by simp [hset]), if_neg (by simp [hstopped])] at hstep
    exact Option.some.inj hstep ▸ h
  | set hset hblinked =>
    rw [if_pos hset] at hstep
    rw [← Option.some.inj hstep]
    refine ⟨0, hblinked, ?_, fun _ => ?_⟩
    · simp
    · simp
  | stopped hstopped hrests =>
    have hset : ¬a.set a' = true := by
      cases a <;> cases a' <;> simp_all [Actuator.set, Actuator.stopped]
    rw [if_neg hset, if_pos hstopped] at hstep
    exact Option.some.inj hstep ▸ hrests

theorem Timed.expire (h : s.Timed clockSecond)
    (hstep : step clockSecond s .expire = some s') : s'.Timed clockSecond := by
  obtain ⟨a, now, due, since, still⟩ := s
  simp only [step] at hstep
  split at hstep
  · rename_i hdue
    rw [← Option.some.inj hstep]
    cases since with
    | none =>
      have huntimed : a.timer = false := Actuator.Rests.untimed h
      rw [huntimed] at hdue
      cases hdue.1
    | some t =>
      obtain ⟨n, hblinked, hpast, hnext⟩ := h
      have hnext : due = t + (n + 1) * a.period clockSecond := hnext hdue.1
      refine ⟨n + 1, hblinked.blink hdue.1, ?_, fun _ => ?_⟩
      · rw [Actuator.period_blink, ← hnext]
        exact hdue.2
      · dsimp only
        rw [Actuator.period_blink, hnext, Nat.add_assoc, ← Nat.succ_mul]
  · cases hstep

/-- **Whatever happens** to an actuator. -/
theorem Timed.step (h : s.Timed clockSecond) {e : Event}
    (hstep : step clockSecond s e = some s') : s'.Timed clockSecond := by
  cases e with
  | put overflow keyBuf request => exact h.put overflow keyBuf request hstep
  | expire => exact h.expire hstep
  | pass ticks =>
    obtain ⟨a, now, due, since, still⟩ := s
    rw [← Option.some.inj hstep]
    cases since with
    | none => exact h
    | some t =>
      obtain ⟨n, hblinked, hpast, hnext⟩ := h
      exact ⟨n, hblinked, Nat.le_add_right_of_le hpast, hnext⟩
  | reboot shining =>
    rw [← Option.some.inj hstep]
    exact Actuator.rests_reboot shining s.actuator

/-- Whether the LED is now the other way than when nothing is shown. -/
def Shows (clockSecond : Nat) (s : Lamp) : Prop :=
  ∃ t ∈ s.since, s.actuator.Shows ((s.now - t) / s.actuator.period clockSecond)

instance : Decidable (s.Shows clockSecond) :=
  inferInstanceAs (Decidable (∃ t ∈ s.since, _))

/-- **The LED of an actuator** tells the time since the timer was set: it
changes once a period, at a gate six times. That of the alarm does so exactly
as long as the alarm is on. What the server left on is seen inverted until a
handler turns the LED off. -/
theorem lit_iff (hsecond : 4 ≤ clockSecond) {shining : Bool} {a : Actuator} {es : List Event}
    (hrun : run (Lamp.step clockSecond) (init shining a) es = some s)
    (hdone : s.actuator.timer = true → s.now < s.due) :
    s.actuator.lit = (s.still ^^ decide (s.Shows clockSecond)) ∧
      ∀ alarm, s.actuator = .alarm alarm → (alarm.state = true ↔ s.since.isSome) := by
  have htimed : s.Timed clockSecond :=
    run_invariant (fun _ _ _ h hstep => h.step hstep) (timed_init clockSecond shining a) hrun
  have hperiod := Actuator.period_pos hsecond s.actuator
  obtain ⟨a, now, due, since, still⟩ := s
  cases since with
  | none =>
    have hrests : a.Rests still := htimed
    constructor
    · simp [hrests.lit_eq, Shows]
    · rintro alarm rfl
      simp [show alarm = _ from hrests]
  | some t =>
    obtain ⟨n, hblinked, hpast, hnext⟩ := htimed
    dsimp only at hblinked hpast hnext hdone hperiod
    constructor
    · simp only [Shows, Option.mem_def, Option.some.injEq, exists_eq_left']
      cases htimer : a.timer with
      | true =>
        have hnow : now < t + (n + 1) * a.period clockSecond := hnext htimer ▸ hdone htimer
        have hcalls : (now - t) / a.period clockSecond = n := by
          refine Nat.div_eq_of_lt_le ?_ ?_ <;> omega
        rw [hcalls]
        exact hblinked.lit_eq_shows htimer
      | false =>
        obtain ⟨⟨g, rfl⟩, rfl⟩ := hblinked.stopped_iff.mp htimer
        have hcalls : 6 ≤ (now - t) / Actuator.period clockSecond (.gate g) :=
          (Nat.le_div_iff_mul_le hperiod).mpr (by omega)
        rw [hblinked.lit_eq]
        simp [Actuator.Shows, Nat.not_lt.mpr hcalls]
    · rintro alarm rfl
      simp [show alarm = _ from hblinked]

/-- A gate that is opened: three calls of `blink` and a little more. -/
def demoOpening : List Event :=
  [.put saturate [] (Request.json [("opening_level", .num 60)]), .pass 32, .expire, .pass 32,
    .expire, .pass 32, .expire, .pass 8]

theorem lit_iff_demo : ∃ s,
    run (Lamp.step 128) (init true (.gate ResGate.boot)) demoOpening = some s ∧
      s.actuator.lit = true ∧ s.still = false := by
  have hrun : run (Lamp.step 128) (init true (.gate ResGate.boot)) demoOpening =
      some ⟨.gate ⟨60, true, 2, true⟩, 104, 128, some 0, false⟩ := by decide +kernel
  exact ⟨_, hrun, (lit_iff (by decide) hrun (fun _ => by decide)).1.trans (by decide), rfl⟩

end Lamp

end DamMonitoring.Motes
