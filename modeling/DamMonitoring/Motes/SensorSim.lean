/-
DamMonitoring.Motes.SensorSim — `lib/common/sensor-sim.h`, and the code
the firmwares of the sensors share.

Every firmware that simulates a flow runs the same body on it
(`readFlow`), every firmware that listens on the topic simulation reads
a gate from a message in the same way (`gateUpdate`), and the inflow has
the same button on both its sensors (`Button`). The firmwares themselves
are defined by these in modules of their own.

All values stay far below `2^31`, so an `int` is an `Int` here. The C
operators `/` and `%` meet no negative operand in this module.

  §1 constants and channels
  §2 one tick of a flow
  §3 messages on the topic simulation
  §4 the button of the inflow
-/
import DamMonitoring.Motes.Json
import Mathlib.Algebra.Order.Group.Abs
import Mathlib.Algebra.Order.Group.Int

namespace DamMonitoring.Motes

/-! ## §1 Constants -/

def multiplier : Int := 1000

def maxOutflow1 : Int := 100 * multiplier / 100

def maxOutflow2 : Int := 35 * multiplier / 100

def maxInflow : Int := 80 * multiplier / 100

def initOutgate : Int := 0

def initIngate : Int := 40

/-- `0.15 * MULTIPLIER`, a `double` that is exactly 150. -/
def varThreshold : Int := 15 * multiplier / 100

@[simp] theorem varThreshold_eq : varThreshold = 150 := rfl

/-- The index of the arrays `flow` and `target_flow`. -/
inductive Channel where
  | inflow | outflow1 | outflow2
  deriving DecidableEq, Repr

namespace Channel

/-- `GATE(i)`. -/
def gate : Channel → String
  | .inflow => "inflow"
  | .outflow1 => "outflow-1"
  | .outflow2 => "outflow-2"

/-- `MAX_FLOW(i)`. -/
def maxFlow : Channel → Int
  | .inflow => maxInflow
  | .outflow1 => maxOutflow1
  | .outflow2 => maxOutflow2

/-- `INIT_INGATE` or `INIT_OUTGATE`. -/
def initGate : Channel → Int
  | .inflow => initIngate
  | _ => initOutgate

/-- The flow at boot. -/
def initFlow (i : Channel) : Int := i.maxFlow * i.initGate

/-- The member of a message that is about the channel; the array `gate`
of 15 characters holds all of it. -/
def key (i : Channel) : String := "gate-" ++ i.gate

@[simp] theorem maxFlow_inflow : maxFlow .inflow = 800 := rfl

@[simp] theorem maxFlow_outflow1 : maxFlow .outflow1 = 1000 := rfl

@[simp] theorem maxFlow_outflow2 : maxFlow .outflow2 = 350 := rfl

theorem maxFlow_pos (i : Channel) : 350 ≤ i.maxFlow := by
  cases i <;> decide

theorem key_length (i : Channel) : i.key.length < 15 := by
  cases i <;> decide

theorem key_injective {i j : Channel} (h : i.key = j.key) : i = j := by
  cases i <;> cases j <;> first | rfl | exact absurd h (by decide)

end Channel

/-! ## §2 Ticks -/

/-- What `random_rand` returns. -/
abbrev Rand : Type := Fin 65536

/-- `LINEAR_VAR`; `none` if it divides by zero. -/
def linearVar (random : Rand) (bound flow : Int) : Option Int :=
  let divisor := (if flow < bound then bound - flow else flow - bound) / 10
  if divisor = 0 then none else some (random % divisor + 100)

/-- `STEADY_VAR`. -/
def steadyVar (target : Int) (random : Rand) (max min : Int) : Int :=
  if target ≠ 0 then random % (max - min + 1) + min else 0

/-- The body of `simulate_read_flow` for one channel: the new flow, or
`none` if it divides by zero. `random` is the number it draws, if it
draws one. -/
def readFlow (random : Rand) (flow target : Int) : Option Int :=
  let maxValue := target + varThreshold
  let minValue := target - varThreshold
  let moved : Option Int :=
    if flow < minValue then (linearVar random minValue flow).map fun var => flow + var
    else if maxValue < flow then (linearVar random maxValue flow).map fun var => flow - var
    else some (steadyVar target random maxValue minValue)
  moved.map fun flow =>
    let flow := if flow < 0 then 0 else flow
    if maxValue < flow then maxValue else flow

/-- How far a flow is outside the band around its target. -/
def distance (flow target : Int) : Int :=
  max (max (target - varThreshold - flow) (flow - (target + varThreshold))) 0

/-- How far a tick moves a flow that is `d` outside the band. -/
def ramp (random : Rand) (d : Int) : Int := random % (d / 10) + 100

variable {random : Rand} {flow target d v : Int}

theorem ramp_bounds (random : Rand) (h : 10 ≤ d) :
    100 ≤ ramp random d ∧ ramp random d ≤ 99 + d / 10 := by
  have hpos : 0 < d / 10 := by omega
  have hlo := Int.emod_nonneg (random : Int) hpos.ne'
  have hhi := Int.emod_lt_of_pos (random : Int) hpos
  unfold ramp
  omega

theorem distance_nonneg (flow target : Int) : 0 ≤ distance flow target := by
  unfold distance
  omega

/-- The band. -/
theorem distance_eq_zero :
    distance flow target = 0 ↔ target - 150 ≤ flow ∧ flow ≤ target + 150 := by
  rw [distance, varThreshold_eq]
  omega

theorem distance_eq_zero_iff_abs : distance flow target = 0 ↔ |flow - target| ≤ 150 := by
  rw [distance_eq_zero, abs_le]
  omega

/-- **Inside the band** a flow stays there. -/
theorem readFlow_inside (random : Rand) (htarget : 0 ≤ target) (h : distance flow target = 0) :
    ∃ v, readFlow random flow target = some v ∧ 0 ≤ v ∧ distance v target = 0 := by
  rw [distance_eq_zero] at h
  have hlow : ¬flow < target - 150 := by omega
  have hhigh : ¬target + 150 < flow := by omega
  have hlo := Int.emod_nonneg (random : Int) (show (301 : Int) ≠ 0 by decide)
  have hhi := Int.emod_lt_of_pos (random : Int) (show (0 : Int) < 301 by decide)
  have hwidth : target + 150 - (target - 150) + 1 = 301 := by omega
  simp only [readFlow, varThreshold_eq, hlow, hhigh, if_false, steadyVar, hwidth, Option.map_some,
    distance_eq_zero]
  refine ⟨_, rfl, ?_, ?_⟩ <;> grind

/-- **Below the band** it climbs. -/
theorem readFlow_below (random : Rand) (hflow : 0 ≤ flow) (h10 : 10 ≤ d)
    (h : target - 150 - flow = d) : readFlow random flow target = some (flow + ramp random d) := by
  obtain ⟨hlo, hhi⟩ := ramp_bounds random h10
  have hlow : flow < target - 150 := by omega
  have hdivisor : ¬d / 10 = 0 := by omega
  have hnonneg : ¬flow + ramp random d < 0 := by omega
  have hmax : ¬target + 150 < flow + ramp random d := by omega
  simp only [readFlow, varThreshold_eq, hlow, if_true, linearVar, h, hdivisor, if_false,
    Option.map_some]
  change some (if target + 150 < if flow + ramp random d < 0 then 0 else flow + ramp random d
    then target + 150 else if flow + ramp random d < 0 then 0 else flow + ramp random d) = _
  simp only [hnonneg, hmax, if_false]

/-- **Above the band** it is back in the band after one tick: the test
against `max_value` cuts short what `LINEAR_VAR` leaves of the way. -/
theorem readFlow_above (random : Rand) (htarget : 0 ≤ target) (h10 : 10 ≤ d)
    (h : flow - (target + 150) = d) :
    readFlow random flow target = some (min (flow - ramp random d) (target + 150)) := by
  obtain ⟨hlo, hhi⟩ := ramp_bounds random h10
  have hlow : ¬flow < target - 150 := by omega
  have hhigh : target + 150 < flow := by omega
  have hswap : ¬flow < target + 150 := by omega
  have hdivisor : ¬d / 10 = 0 := by omega
  have hnonneg : ¬flow - ramp random d < 0 := by omega
  simp only [readFlow, varThreshold_eq, hlow, hhigh, if_true, if_false, linearVar, hswap, h,
    hdivisor, Option.map_some]
  change some (if target + 150 < if flow - ramp random d < 0 then 0 else flow - ramp random d
    then target + 150 else if flow - ramp random d < 0 then 0 else flow - ramp random d) = _
  simp only [hnonneg, if_false, Int.min_def, Option.some.injEq]
  split <;> split <;> omega

/-- A tick divides by zero exactly from less than 10 outside the band. -/
theorem readFlow_eq_none (random : Rand) :
    readFlow random flow target = none ↔ 1 ≤ distance flow target ∧ distance flow target < 10 := by
  simp only [readFlow, Option.map_eq_none_iff, varThreshold_eq, distance]
  by_cases hlow : flow < target - 150
  · by_cases hdivisor : (target - 150 - flow) / 10 = 0
    · simp [linearVar, hlow, hdivisor]
      omega
    · simp [linearVar, hlow, hdivisor]
      omega
  · by_cases hhigh : target + 150 < flow
    · have hswap : ¬flow < target + 150 := by omega
      by_cases hdivisor : (flow - (target + 150)) / 10 = 0
      · simp [linearVar, hlow, hhigh, hswap, hdivisor]
        omega
      · simp [linearVar, hlow, hhigh, hswap, hdivisor]
        omega
    · simp [hlow, hhigh]
      omega

/-- **What a tick does** to a flow and a target that are not negative. -/
theorem readFlow_cases (htarget : 0 ≤ target) (hflow : 0 ≤ flow)
    (h : readFlow random flow target = some v) :
    0 ≤ v ∧ (distance v target = 0 ∨
      10 ≤ distance flow target ∧ flow < target - 150 ∧
        v = flow + ramp random (distance flow target)) := by
  have hsafe : ¬(1 ≤ distance flow target ∧ distance flow target < 10) := by
    rw [← readFlow_eq_none random, h]
    simp
  have hnonneg := distance_nonneg flow target
  by_cases hinside : distance flow target = 0
  · obtain ⟨v', hv', hv'0, hband⟩ := readFlow_inside random htarget hinside
    obtain rfl : v = v' := by simpa [h] using hv'
    exact ⟨hv'0, Or.inl hband⟩
  · have h10 : 10 ≤ distance flow target := by omega
    obtain ⟨hlo, hhi⟩ := ramp_bounds random h10
    have hdistance : distance flow target =
        max (max (target - 150 - flow) (flow - (target + 150))) 0 := rfl
    by_cases hlow : flow < target - 150
    · rw [readFlow_below random hflow h10 (by omega)] at h
      obtain rfl := Option.some.inj h
      exact ⟨by omega, Or.inr ⟨h10, hlow, rfl⟩⟩
    · rw [readFlow_above random htarget h10 (by omega)] at h
      obtain rfl := Option.some.inj h
      have hlow : target - 150 ≤ min (flow - ramp random (distance flow target)) (target + 150) := by
        omega
      exact ⟨by omega, Or.inl (distance_eq_zero.mpr ⟨hlow, min_le_right _ _⟩)⟩

/-! ## §3 Messages -/

/-- A message on the topic simulation: its tokens up to the error, what
`get_json_int_field` finds in its `key_buf` when it is called for a
channel, and what `atoi` makes of a number beyond `int`. -/
structure Chunk where
  tokens : List JsonToken
  keyBuf : Channel → List Char
  overflow : Int → Int

/-- The body of the loop of `handle_message`: what it leaves in
`new_gate_value`, and the percentage it takes from the message, if it
takes one. -/
def gateUpdate (i : Channel) (chunk : Chunk) (newGateValue : Int) : Int × Option Int :=
  let (res, value) := getJsonIntField chunk.overflow (chunk.keyBuf i) i.key chunk.tokens
  let newGateValue := value.getD newGateValue
  if res = 0 ∨ newGateValue < 0 ∨ 100 < newGateValue then (newGateValue, none)
  else if res = 1 then (newGateValue, some newGateValue)
  else (newGateValue, none)

/-- The percentage a message sets a channel to, if it does. -/
def Chunk.accepted (chunk : Chunk) (i : Channel) : Option Int := (gateUpdate i chunk 0).2

variable {i j : Channel} {chunk : Chunk} {L : Int}

/-- What an earlier message has left in `new_gate_value` does not matter. -/
theorem gateUpdate_snd (i : Channel) (chunk : Chunk) (newGateValue : Int) :
    (gateUpdate i chunk newGateValue).2 = chunk.accepted i := by
  unfold Chunk.accepted gateUpdate
  rw [getJsonIntField_eq]
  cases firstUnder i.key (chunk.keyBuf i) (· == .number) chunk.tokens with
  | none => simp
  | some token => simp

theorem Chunk.accepted_range (h : chunk.accepted i = some L) : 0 ≤ L ∧ L ≤ 100 := by
  unfold Chunk.accepted gateUpdate at h
  dsimp only at h
  split at h
  · cases h
  · next hrange =>
    split at h
    · obtain rfl := Option.some.inj h
      omega
    · cases h

/-- The message about one gate that the Controller and the Collector
publish. -/
def gateNode (i : Channel) (L : Int) : ObjectNode := [(i.key, .num L)]

/-- The message the Controller publishes for a gate, by the name it was
given. -/
def gateMessage (gate : String) (L : Int) : ObjectNode := [("gate-" ++ gate, .num L)]

theorem gateMessage_gate (i : Channel) (L : Int) : gateMessage i.gate L = gateNode i L := rfl

/-- What the field extraction finds in such a message. -/
theorem getJsonIntField_gateMessage (keyBuf : List Char) (i : Channel) (gate : String) (L : Int) :
    ∃ v, getJsonIntField saturate keyBuf i.key (gateMessage gate L).tokens =
        (if gate = i.gate then (1, some v) else (-1, none)) ∧
      (0 ≤ L ∧ L ≤ 100 → v = L) ∧ (¬(0 ≤ L ∧ L ≤ 100) → v < 0 ∨ 100 < v) := by
  obtain ⟨hin, hout, hzero⟩ := atoi_take_toString L
  refine ⟨atoi saturate ((toString L).toList.take 19), ?_, hin, hout⟩
  have hshort : i.key.length < jsonBuffer - 1 := i.key_length.trans (by decide)
  have hname : ("gate-" ++ gate == i.key) = decide (gate = i.gate) := by
    rw [Bool.eq_iff_iff, beq_iff_eq, decide_eq_true_eq, Channel.key, String.append_right_inj]
  have hkey := (copy_eq_key hshort ("gate-" ++ gate)).trans hname
  have hvalue : ¬((toString L).toList.take 19 ≠ ['0'] ∧
      atoi saturate ((toString L).toList.take 19) = 0) := fun h => hzero h.1 h.2
  simp only [gateMessage, ObjectNode.tokens, JsonValue.token, List.flatMap_cons, List.flatMap_nil,
    List.append_nil, getJsonIntField]
  simp only [reduceCtorEq, false_and, if_false, if_true, true_and, hkey, decide_eq_true_eq]
  by_cases h : gate = i.gate
  · rw [if_pos h, if_pos h]
    congr 1
    exact if_neg hvalue
  · rw [if_neg h, if_neg h]

/-- **A message about one gate** sets the channel it names and no other,
if its level is one of `0..100`. -/
theorem accepted_gateMessage (keyBuf : Channel → List Char) (i : Channel) (gate : String)
    (L : Int) : (⟨(gateMessage gate L).tokens, keyBuf, saturate⟩ : Chunk).accepted i =
      if gate = i.gate ∧ 0 ≤ L ∧ L ≤ 100 then some L else none := by
  obtain ⟨v, hfield, hin, hout⟩ := getJsonIntField_gateMessage (keyBuf i) i gate L
  unfold Chunk.accepted gateUpdate
  simp only [hfield]
  by_cases hgate : gate = i.gate
  · by_cases hrange : 0 ≤ L ∧ L ≤ 100
    · obtain rfl := hin hrange
      have hgood : ¬(v < 0 ∨ 100 < v) := by omega
      simp [hgate, hrange, hgood]
    · simp [hgate, hrange, hout hrange]
  · simp [hgate]

theorem Channel.gate_injective {i j : Channel} (h : i.gate = j.gate) : i = j :=
  Channel.key_injective (congrArg ("gate-" ++ ·) h)

theorem accepted_gateNode (keyBuf : Channel → List Char) (i j : Channel) (L : Int) :
    (⟨(gateNode j L).tokens, keyBuf, saturate⟩ : Chunk).accepted i =
      if i = j ∧ 0 ≤ L ∧ L ≤ 100 then some L else none := by
  have hgate : j.gate = i.gate ↔ i = j := ⟨fun h => (Channel.gate_injective h).symm, fun h => h ▸ rfl⟩
  rw [← gateMessage_gate, accepted_gateMessage]
  simp only [hgate]

/-! ## §4 The button -/

/-- An event of the button that the firmware looks at. -/
inductive ButtonEvent where
  | release
  | periodic (pressDurationSeconds : Nat)
  deriving DecidableEq, Repr

/-- What the button of the inflow acts on: `flow[0]`, `target_flow[0]`
and `btn_release`. -/
structure Button where
  flow : Int
  targetFlow : Int
  btnRelease : Bool
  deriving DecidableEq, Repr

/-- The targets the button can set: tenths of the maximum. -/
def Tenth (target : Int) : Prop := ∃ k : Int, 0 ≤ k ∧ k ≤ 10 ∧ target = 8000 * k

theorem Tenth.range {target : Int} (h : Tenth target) : 0 ≤ target ∧ target ≤ 80000 := by
  obtain ⟨k, hlo, hhi, rfl⟩ := h
  omega

namespace Button

/-- `button_hal_release_event`. -/
def release (b : Button) : Button :=
  if b.btnRelease then
    if b.targetFlow < maxInflow * 100 then
      let targetFlow := b.targetFlow + if maxInflow * 100 ≤ b.targetFlow then 0 else maxInflow * 10
      ⟨targetFlow, targetFlow, b.btnRelease⟩
    else b
  else { b with btnRelease := true }

/-- `button_hal_periodic_event`. -/
def periodic (pressDurationSeconds : Nat) (b : Button) : Button :=
  if pressDurationSeconds = 3 then ⟨0, 0, false⟩ else b

def step (b : Button) : ButtonEvent → Button
  | .release => b.release
  | .periodic pressDurationSeconds => b.periodic pressDurationSeconds

/-- Whether an event assigns `target_flow[0]`. -/
def Sets (b : Button) : ButtonEvent → Prop
  | .release => b.btnRelease = true ∧ b.targetFlow < 80000
  | .periodic pressDurationSeconds => pressDurationSeconds = 3

instance (b : Button) (e : ButtonEvent) : Decidable (b.Sets e) := by
  cases e <;> unfold Sets <;> infer_instance

/-- **What a button event does**: a press of three seconds empties the
channel, a release that counts raises it by a tenth. -/
theorem step_cases (b : Button) (e : ButtonEvent) :
    (e = .periodic 3 ∧ b.step e = ⟨0, 0, false⟩) ∨
    (e = .release ∧ b.btnRelease = true ∧ b.targetFlow < 80000 ∧
      b.step e = ⟨b.targetFlow + 8000, b.targetFlow + 8000, true⟩) ∨
    (¬b.Sets e ∧ (b.step e).flow = b.flow ∧ (b.step e).targetFlow = b.targetFlow) := by
  have hmax : maxInflow * 100 = 80000 := rfl
  have htenth : maxInflow * 10 = 8000 := rfl
  cases e with
  | periodic seconds =>
    by_cases h : seconds = 3
    · exact Or.inl ⟨by rw [h], by simp [step, periodic, h]⟩
    · exact Or.inr (Or.inr ⟨h, by simp [step, periodic, h]⟩)
  | release =>
    cases hrelease : b.btnRelease with
    | false =>
      exact Or.inr (Or.inr ⟨by simp [Sets, hrelease], by simp [step, release, hrelease]⟩)
    | true =>
      by_cases hbelow : b.targetFlow < 80000
      · have hnot : ¬80000 ≤ b.targetFlow := by omega
        exact Or.inr (Or.inl ⟨rfl, rfl, hbelow,
          by simp [step, release, hrelease, hmax, htenth, hbelow, hnot]⟩)
      · exact Or.inr (Or.inr ⟨by simp [Sets, hbelow],
          by simp [step, release, hrelease, hmax, hbelow]⟩)

/-- The other events leave the target. -/
theorem step_of_not_sets {b : Button} {e : ButtonEvent} (h : ¬b.Sets e) :
    (b.step e).targetFlow = b.targetFlow := by
  obtain ⟨rfl, -⟩ | ⟨rfl, hrelease, hbelow, -⟩ | ⟨-, -, hsame⟩ := b.step_cases e
  · exact absurd rfl h
  · exact absurd ⟨hrelease, hbelow⟩ h
  · exact hsame

/-- A tenth below the maximum is at least one tenth below it. -/
theorem step_tenth {b : Button} (h : Tenth b.targetFlow) (e : ButtonEvent) :
    Tenth (b.step e).targetFlow := by
  obtain ⟨-, hstep⟩ | ⟨-, -, hbelow, hstep⟩ | ⟨-, -, hsame⟩ := b.step_cases e
  · rw [hstep]
    exact ⟨0, by decide⟩
  · obtain ⟨k, hlo, hhi, hk⟩ := h
    rw [hstep]
    exact ⟨k + 1, by omega, by omega, by dsimp only; omega⟩
  · rw [hsame]
    exact h

theorem step_nonneg {b : Button} (hflow : 0 ≤ b.flow) (htarget : 0 ≤ b.targetFlow)
    (e : ButtonEvent) : 0 ≤ (b.step e).flow ∧ 0 ≤ (b.step e).targetFlow := by
  obtain ⟨-, hstep⟩ | ⟨-, -, -, hstep⟩ | ⟨-, hflow', htarget'⟩ := b.step_cases e
  · simp [hstep]
  · rw [hstep]
    exact ⟨by dsimp only; omega, by dsimp only; omega⟩
  · simp [hflow', htarget', hflow, htarget]

/-- The button sets the flow together with its target. -/
theorem step_steady {b : Button} (h : distance b.flow b.targetFlow = 0) (e : ButtonEvent) :
    distance (b.step e).flow (b.step e).targetFlow = 0 := by
  obtain ⟨-, hstep⟩ | ⟨-, -, -, hstep⟩ | ⟨-, hflow, htarget⟩ := b.step_cases e
  · simp [hstep, distance_eq_zero]
  · simp [hstep, distance_eq_zero]
  · simp [hflow, htarget, h]

end Button

end DamMonitoring.Motes
