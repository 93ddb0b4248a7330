/-
DamMonitoring.Motes.WaterLevelSensor — `firmwares/water-level-sensor`,
and `demo/mote-3`, which differs from it in the LEDs.

The firmware keeps the three flows its messages set, their balance, and
the reservoir the balance fills. `water_level` and `reservoir` are
`unsigned long`, of 32 bits. The MQTT client and the LEDs are left out.

  §1 the firmware
  §2 what each event does to the flows
  §3 the balance
  §4 the divisor
  §5 the reservoir
-/
import DamMonitoring.Motes.SensorSim
import DamMonitoring.Program.Runs

namespace DamMonitoring.Motes

open Program.Machine

/-! ## §1 The firmware -/

def initBalanceFlow : Int :=
  maxInflow * initIngate - (initOutgate * maxOutflow1 + initOutgate * maxOutflow2)

def initWaterLevel : Int := 32 * multiplier

def maxWaterLevel : Int := 64 * multiplier

def maxReservoir : Int := 1048576 / 16 * multiplier

def surface : Int := 16384 / 16

def initReservoir : Int := 737280 / 16 * multiplier

def minBalanceFlow : Int := (0 - maxOutflow1 - maxOutflow2) * 100

def maxBalanceFlow : Int := maxInflow * 100

def waterLevelVar : Int := 5

/-- An `int` added to or stored in an `unsigned long`. -/
def ulong (x : Int) : Int := x % 2 ^ 32

/-- The variables of the simulation, and two static variables. -/
structure WaterLevelSensor where
  balanceFlow : Int
  waterLevel : Int
  reservoir : Int
  flow : Channel → Int
  newGateValue : Int
  btnRelease : Bool

namespace WaterLevelSensor

def init : WaterLevelSensor :=
  ⟨initBalanceFlow, initWaterLevel, initReservoir, Channel.initFlow, 0, true⟩

/-- `var`, from the first number a tick draws; `%` takes the sign of
what it divides. -/
def var (random : Rand) (balanceFlow : Int) : Int :=
  let var := (random : Int).tmod (balanceFlow + 1000)
  if var.tmod 2 = 0 then -var else var

/-- `wl_var`, from the second. -/
def wlVar (random : Rand) (balanceFlow : Int) : Int :=
  let wlVar := (random : Int).tmod waterLevelVar
  if 0 < balanceFlow then -wlVar else wlVar

/-- `simulate_read_water_level`; `none` if it divides by zero. -/
def simulateReadWaterLevel (random₁ random₂ : Rand) (s : WaterLevelSensor) :
    Option WaterLevelSensor :=
  if s.balanceFlow + 1000 = 0 then none
  else
    let reservoir := ulong (s.reservoir + (s.balanceFlow + var random₁ s.balanceFlow))
    let waterLevel := ulong (reservoir / surface + wlVar random₂ s.balanceFlow)
    let (waterLevel, reservoir) := if waterLevel < 0 then (0, 0) else (waterLevel, reservoir)
    let (waterLevel, reservoir) :=
      if maxWaterLevel < waterLevel then (maxWaterLevel, maxReservoir) else (waterLevel, reservoir)
    some { s with waterLevel, reservoir }

/-- One round of the loop of `handle_message`. -/
def handleGate (chunk : Chunk) (s : WaterLevelSensor) (i : Channel) : WaterLevelSensor :=
  match gateUpdate i chunk s.newGateValue with
  | (newGateValue, some level) =>
    let flow := Function.update s.flow i (level * i.maxFlow)
    { s with
      newGateValue
      flow
      balanceFlow := [.outflow1, .outflow2].foldl (fun balanceFlow i => balanceFlow - flow i)
        (flow .inflow) }
  | (newGateValue, none) => { s with newGateValue }

def handleMessage (chunk : Chunk) (s : WaterLevelSensor) : WaterLevelSensor :=
  [.inflow, .outflow1, .outflow2].foldl (handleGate chunk) s

/-- The events of the button. -/
def button (s : WaterLevelSensor) : ButtonEvent → WaterLevelSensor
  | .release =>
    if s.btnRelease then { s with reservoir := initReservoir } else { s with btnRelease := true }
  | .periodic pressDurationSeconds =>
    if pressDurationSeconds = 3 then { s with reservoir := maxReservoir, btnRelease := false }
    else s

inductive Event where
  | message (chunk : Chunk)
  | tick (random₁ random₂ : Rand)
  | button (e : ButtonEvent)

def step (s : WaterLevelSensor) : Event → Option WaterLevelSensor
  | .message chunk => some (s.handleMessage chunk)
  | .tick random₁ random₂ => s.simulateReadWaterLevel random₁ random₂
  | .button e => some (s.button e)

/-! ## §2 Flows -/

variable {s s' : WaterLevelSensor} {n : Channel → Int} {chunk : Chunk} {random₁ random₂ : Rand}

/-- A round sets the flow of its own channel, or nothing. -/
theorem handleGate_flow (chunk : Chunk) (s : WaterLevelSensor) (i : Channel) :
    (s.handleGate chunk i).flow = Function.update s.flow i
      (match chunk.accepted i with
        | some level => level * i.maxFlow
        | none => s.flow i) := by
  unfold handleGate
  rw [← gateUpdate_snd i chunk s.newGateValue]
  split
  · next newGateValue level h => simp [h]
  · next newGateValue h => simp [h]

/-- **What a message does**: it sets the flows it has percentages for. -/
theorem handleMessage_flow (chunk : Chunk) (s : WaterLevelSensor) (i : Channel) :
    (s.handleMessage chunk).flow i =
      match chunk.accepted i with
      | some level => level * i.maxFlow
      | none => s.flow i := by
  simp only [handleMessage, List.foldl_cons, List.foldl_nil, handleGate_flow]
  cases i <;> simp

/-- What a message about one gate does to the flows. -/
def told (flow : Channel → Int) (gate : String) (L : Int) : Channel → Int :=
  fun i => if gate = i.gate ∧ 0 ≤ L ∧ L ≤ 100 then L * i.maxFlow else flow i

theorem handleMessage_gateMessage (keyBuf : Channel → List Char) (gate : String) (L : Int)
    (s : WaterLevelSensor) :
    (s.handleMessage ⟨(gateMessage gate L).tokens, keyBuf, saturate⟩).flow =
      told s.flow gate L := by
  funext i
  rw [handleMessage_flow, accepted_gateMessage, told]
  by_cases h : gate = i.gate ∧ 0 ≤ L ∧ L ≤ 100 <;> simp [h]

/-- The percentages the gates were last set to, after one more event. -/
def levels (n : Channel → Int) : Event → Channel → Int
  | .message chunk => fun i => (chunk.accepted i).getD (n i)
  | _ => n

/-- The flows are those the percentages stand for, and the balance is
theirs. -/
structure Tracks (n : Channel → Int) (s : WaterLevelSensor) : Prop where
  flow_eq : ∀ i, s.flow i = n i * i.maxFlow
  balance_eq : s.balanceFlow = s.flow .inflow - s.flow .outflow1 - s.flow .outflow2

theorem init_tracks : Tracks Channel.initGate init :=
  ⟨fun i => by cases i <;> decide, by decide⟩

theorem Tracks.handleGate (h : Tracks n s) (chunk : Chunk) (i : Channel) :
    Tracks (Function.update n i ((chunk.accepted i).getD (n i))) (s.handleGate chunk i) where
  flow_eq j := by
    rw [handleGate_flow]
    by_cases hj : j = i
    · subst hj
      cases haccepted : chunk.accepted j <;> simp [h.flow_eq]
    · simp [Function.update_of_ne hj, h.flow_eq]
  balance_eq := by
    unfold WaterLevelSensor.handleGate
    split
    · rfl
    · exact h.balance_eq

theorem Tracks.message (h : Tracks n s) (chunk : Chunk) :
    Tracks (levels n (.message chunk)) (s.handleMessage chunk) := by
  have hall := ((h.handleGate chunk .inflow).handleGate chunk .outflow1).handleGate chunk .outflow2
  have hlevels : levels n (.message chunk) =
      Function.update (Function.update (Function.update n .inflow
        ((chunk.accepted .inflow).getD (n .inflow))) .outflow1
        ((chunk.accepted .outflow1).getD (n .outflow1))) .outflow2
        ((chunk.accepted .outflow2).getD (n .outflow2)) := by
    funext i
    cases i <;> simp [levels]
  rw [hlevels]
  simpa [handleMessage] using hall

/-- A tick moves the water only. -/
theorem simulateReadWaterLevel_frame (h : s.simulateReadWaterLevel random₁ random₂ = some s') :
    s' = { s with waterLevel := s'.waterLevel, reservoir := s'.reservoir } := by
  unfold simulateReadWaterLevel at h
  split at h
  · cases h
  · exact Option.some.inj h ▸ rfl

theorem button_frame (s : WaterLevelSensor) (e : ButtonEvent) :
    (s.button e).flow = s.flow ∧ (s.button e).balanceFlow = s.balanceFlow := by
  cases e with
  | release => cases h : s.btnRelease <;> simp [button, h]
  | periodic seconds => by_cases h : seconds = 3 <;> simp [button, h]

theorem Tracks.step {e : Event} (h : Tracks n s) (hstep : step s e = some s') :
    Tracks (levels n e) s' := by
  cases e with
  | message chunk => exact Option.some.inj hstep ▸ h.message chunk
  | tick random₁ random₂ =>
    rw [simulateReadWaterLevel_frame hstep]
    exact ⟨h.flow_eq, h.balance_eq⟩
  | button e =>
    obtain rfl := Option.some.inj hstep
    obtain ⟨hflow, hbalance⟩ := s.button_frame e
    exact ⟨hflow ▸ h.flow_eq, hflow ▸ hbalance ▸ h.balance_eq⟩

/-! ## §3 The balance -/

/-- The percentage `get_json_int_field` returns with 1 for a channel. -/
def reading (i : Channel) : Event → Option Int
  | .message chunk =>
    let (res, value) := getJsonIntField chunk.overflow (chunk.keyBuf i) i.key chunk.tokens
    if res = 1 then value.filter fun value => 0 ≤ value ∧ value ≤ 100 else none
  | _ => none

/-- What a stale `new_gate_value` could add to it, the tests take away. -/
theorem reading_message (i : Channel) (chunk : Chunk) :
    reading i (.message chunk) = chunk.accepted i := by
  simp only [reading, Chunk.accepted, gateUpdate]
  obtain h | ⟨v, h | h⟩ := getJsonIntField_cases chunk.overflow (chunk.keyBuf i) i.key chunk.tokens
  · simp [h]
  · simp [h]
  · by_cases hrange : 0 ≤ v ∧ v ≤ 100
    · have hgood : ¬(v < 0 ∨ 100 < v) := by omega
      simp [h, hrange, hgood]
    · have hbad : v < 0 ∨ 100 < v := by omega
      simp [h, hbad]
      omega

theorem reading_range {i : Channel} {e : Event} {L : Int} (h : reading i e = some L) :
    0 ≤ L ∧ L ≤ 100 := by
  cases e with
  | message chunk => exact Chunk.accepted_range (reading_message i chunk ▸ h)
  | tick random₁ random₂ => cases h
  | button e => cases h

/-- The percentage a channel was last set to. -/
def lastReading (i : Channel) (es : List Event) : Int :=
  ((es.filterMap (reading i)).getLast?).getD i.initGate

theorem levels_eq (n : Channel → Int) (e : Event) (i : Channel) :
    levels n e i = (reading i e).getD (n i) := by
  cases e with
  | message chunk => rw [reading_message, levels]
  | tick random₁ random₂ => rfl
  | button e => rfl

theorem foldl_levels (n : Channel → Int) (es : List Event) (i : Channel) :
    es.foldl levels n i = ((es.filterMap (reading i)).getLast?).getD (n i) := by
  induction es generalizing n with
  | nil => rfl
  | cons e es ih =>
    rw [List.foldl_cons, ih, levels_eq]
    cases h : reading i e with
    | none => simp [h]
    | some L => simp [h, List.getLast?_cons]

theorem lastReading_range (i : Channel) (es : List Event) :
    0 ≤ lastReading i es ∧ lastReading i es ≤ 100 := by
  unfold lastReading
  cases h : (es.filterMap (reading i)).getLast? with
  | none => cases i <;> decide
  | some L =>
    obtain ⟨e, -, he⟩ := List.mem_filterMap.mp (List.mem_of_getLast? h)
    exact reading_range he

theorem run_tracks {es : List Event} (h : run step init es = some s) :
    Tracks (fun i => lastReading i es) s := by
  have htracks : Tracks (es.foldl levels Channel.initGate) s :=
    run_record (R := Tracks) (fun _ _ _ _ htracks hstep => htracks.step hstep) init_tracks h
  rwa [show es.foldl levels Channel.initGate = fun i => lastReading i es from
    funext fun i => foldl_levels _ es i] at htracks

theorem Tracks.balance_range (h : Tracks n s) (hn : ∀ i, 0 ≤ n i ∧ n i ≤ 100) :
    minBalanceFlow ≤ s.balanceFlow ∧ s.balanceFlow ≤ maxBalanceFlow := by
  have hin := hn .inflow
  have hout₁ := hn .outflow1
  have hout₂ := hn .outflow2
  have hmin : minBalanceFlow = -135000 := rfl
  have hmax : maxBalanceFlow = 80000 := rfl
  rw [h.balance_eq, h.flow_eq, h.flow_eq, h.flow_eq, hmin, hmax]
  simp only [Channel.maxFlow_inflow, Channel.maxFlow_outflow1, Channel.maxFlow_outflow2]
  omega

/-- Two states that may differ in `new_gate_value`. -/
def Alike (s t : WaterLevelSensor) : Prop := ∃ newGateValue, t = { s with newGateValue }

/-- A message moves no water. -/
theorem handleMessage_frame (chunk : Chunk) (s : WaterLevelSensor) :
    (s.handleMessage chunk).waterLevel = s.waterLevel ∧
      (s.handleMessage chunk).reservoir = s.reservoir ∧
      (s.handleMessage chunk).btnRelease = s.btnRelease := by
  have hround : ∀ (t : WaterLevelSensor) i, (t.handleGate chunk i).waterLevel = t.waterLevel ∧
      (t.handleGate chunk i).reservoir = t.reservoir ∧
      (t.handleGate chunk i).btnRelease = t.btnRelease := by
    intro t i
    unfold handleGate
    split <;> simp
  simp [handleMessage, hround]

/-- Two states that track the same percentages differ in the water at
most. -/
theorem Tracks.alike {t : WaterLevelSensor} (hs : Tracks n s) (ht : Tracks n t)
    (hlevel : t.waterLevel = s.waterLevel) (hreservoir : t.reservoir = s.reservoir)
    (hrelease : t.btnRelease = s.btnRelease) : Alike s t := by
  have hflow : t.flow = s.flow := funext fun i => (ht.flow_eq i).trans (hs.flow_eq i).symm
  have hbalance : t.balanceFlow = s.balanceFlow := by rw [ht.balance_eq, hs.balance_eq, hflow]
  obtain ⟨_, _, _, _, newGateValue, _⟩ := t
  subst hflow hbalance hlevel hreservoir hrelease
  exact ⟨newGateValue, rfl⟩

/-- No event tells such states apart. -/
theorem step_alike {t : WaterLevelSensor} {e : Event} (h : Alike s t) (hs : Tracks n s)
    (hstep : step s e = some s') : ∃ t', step t e = some t' ∧ Alike s' t' := by
  obtain ⟨newGateValue, rfl⟩ := h
  cases e with
  | message chunk =>
    obtain rfl := Option.some.inj hstep
    obtain ⟨hlevel, hreservoir, hrelease⟩ := s.handleMessage_frame chunk
    obtain ⟨hlevel', hreservoir', hrelease'⟩ :=
      ({ s with newGateValue } : WaterLevelSensor).handleMessage_frame chunk
    have ht : Tracks n { s with newGateValue } := ⟨hs.flow_eq, hs.balance_eq⟩
    exact ⟨_, rfl, (hs.message chunk).alike (ht.message chunk) (hlevel'.trans hlevel.symm)
      (hreservoir'.trans hreservoir.symm) (hrelease'.trans hrelease.symm)⟩
  | tick random₁ random₂ =>
    refine ⟨{ s' with newGateValue }, ?_, newGateValue, rfl⟩
    simp only [step, simulateReadWaterLevel] at hstep ⊢
    split at hstep
    · cases hstep
    · next hdivisor =>
      obtain rfl := Option.some.inj hstep
      rw [if_neg hdivisor]
  | button e =>
    obtain rfl := Option.some.inj hstep
    refine ⟨_, rfl, newGateValue, ?_⟩
    cases e with
    | release => cases h : s.btnRelease <;> simp [button, h]
    | periodic seconds => by_cases h : seconds = 3 <;> simp [button, h]

/-- Nor does a run. -/
theorem run_alike {t : WaterLevelSensor} {es : List Event} (h : Alike s t) (hs : Tracks n s)
    (hrun : run step s es = some s') : ∃ t', run step t es = some t' ∧ Alike s' t' := by
  induction es generalizing n s t with
  | nil => exact ⟨t, rfl, Option.some.inj hrun ▸ h⟩
  | cons e es ih =>
    obtain ⟨s₁, hstep, hrun⟩ := run_cons_eq_some.mp hrun
    obtain ⟨t₁, hstep', h₁⟩ := step_alike h hs hstep
    obtain ⟨t', hrun', h'⟩ := ih h₁ (hs.step hstep) hrun
    exact ⟨t', run_cons_eq_some.mpr ⟨t₁, hstep', hrun'⟩, h'⟩

/-- Two messages, of which at most one is about each gate, may come in
either order. -/
theorem Tracks.swap (h : Tracks n s) {a b : Chunk}
    (hgates : ∀ i, reading i (.message a) = none ∨ reading i (.message b) = none) :
    Alike ((s.handleMessage a).handleMessage b) ((s.handleMessage b).handleMessage a) := by
  have horder : levels (levels n (.message b)) (.message a) =
      levels (levels n (.message a)) (.message b) := by
    funext i
    rcases hgates i with hi | hi <;> simp [levels_eq, hi]
  obtain ⟨hlevel, hreservoir, hrelease⟩ := (s.handleMessage a).handleMessage_frame b
  obtain ⟨hlevel', hreservoir', hrelease'⟩ := (s.handleMessage b).handleMessage_frame a
  refine ((h.message a).message b).alike (horder ▸ (h.message b).message a) ?_ ?_ ?_
  · rw [hlevel, hlevel', (s.handleMessage_frame a).1, (s.handleMessage_frame b).1]
  · rw [hreservoir, hreservoir', (s.handleMessage_frame a).2.1, (s.handleMessage_frame b).2.1]
  · rw [hrelease, hrelease', (s.handleMessage_frame a).2.2, (s.handleMessage_frame b).2.2]

theorem run_swap {before after : List Event} {a b : Chunk}
    (hgates : ∀ i, reading i (.message a) = none ∨ reading i (.message b) = none)
    (h : run step init (before ++ .message a :: .message b :: after) = some s) :
    ∃ t, run step init (before ++ .message b :: .message a :: after) = some t ∧ Alike s t := by
  rw [run_append] at h ⊢
  obtain ⟨u, hu, hrest⟩ := Option.bind_eq_some_iff.mp h
  have htracks := run_tracks hu
  have hafter : run step ((u.handleMessage a).handleMessage b) after = some s := hrest
  obtain ⟨t, ht, halike⟩ :=
    run_alike (htracks.swap hgates) ((htracks.message a).message b) hafter
  exact ⟨t, by rw [hu]; exact ht, halike⟩

/-- **The balance is exact** over any history: it is that of the flows the
last percentages stand for, and messages about different gates may come
in either order. -/
theorem balance_exact {es : List Event} (h : run step init es = some s) :
    (∀ i, s.flow i = i.maxFlow * lastReading i es) ∧
    s.balanceFlow = s.flow .inflow - s.flow .outflow1 - s.flow .outflow2 ∧
    minBalanceFlow ≤ s.balanceFlow ∧ s.balanceFlow ≤ maxBalanceFlow ∧
    ∀ before a b after, es = before ++ .message a :: .message b :: after →
      (∀ i, reading i (.message a) = none ∨ reading i (.message b) = none) →
      ∃ t, run step init (before ++ .message b :: .message a :: after) = some t ∧ Alike s t := by
  have htracks := run_tracks h
  obtain ⟨hmin, hmax⟩ := htracks.balance_range fun i => lastReading_range i es
  refine ⟨fun i => ?_, htracks.balance_eq, hmin, hmax, fun before a b after hes hgates => ?_⟩
  · rw [htracks.flow_eq, Int.mul_comm]
  · subst hes
    exact run_swap hgates h

/-- A percentage, one that is out of range, a tick and a message about
another gate. -/
def demoHistory : List Event :=
  [.message ⟨(gateNode .outflow1 20).tokens, fun _ => [], saturate⟩,
    .message ⟨(gateNode .inflow 30).tokens, fun _ => [], saturate⟩,
    .tick ⟨0, by decide⟩ ⟨0, by decide⟩,
    .message ⟨(gateNode .outflow1 101).tokens, fun _ => [], saturate⟩]

theorem balance_exact_demo : ∃ s, run step init demoHistory = some s ∧
    s.flow .outflow1 = 20000 ∧ s.flow .inflow = 24000 ∧ s.balanceFlow = 4000 ∧
    ∃ t, run step init (demoHistory[1] :: demoHistory[0] :: demoHistory.drop 2) = some t ∧
      Alike s t := by
  have hruns : (run step init demoHistory).isSome = true := by decide
  obtain ⟨s, hrun⟩ := Option.isSome_iff_exists.mp hruns
  obtain ⟨hflow, hbalance, -, -, hswap⟩ := balance_exact hrun
  have hout := hflow .outflow1
  have hin := hflow .inflow
  have hout₂ := hflow .outflow2
  have h₁ : lastReading .outflow1 demoHistory = 20 := by decide
  have h₀ : lastReading .inflow demoHistory = 30 := by decide
  have h₂ : lastReading .outflow2 demoHistory = 0 := by decide
  simp only [h₁, h₀, h₂, Channel.maxFlow_outflow1, Channel.maxFlow_inflow] at hout hin hout₂
  exact ⟨s, hrun, by omega, by omega, by omega,
    hswap [] _ _ _ rfl fun i => by cases i <;> decide⟩

/-! ## §4 The divisor -/

theorem simulateReadWaterLevel_eq_none :
    s.simulateReadWaterLevel random₁ random₂ = none ↔ s.balanceFlow + 1000 = 0 := by
  unfold simulateReadWaterLevel
  split
  · next h => simp [h]
  · next h => simp [h]

/-- No tick divides by zero. -/
def TicksDefined (s : WaterLevelSensor) : Prop :=
  ∀ random₁ random₂, s.simulateReadWaterLevel random₁ random₂ ≠ none

theorem ticksDefined_iff (s : WaterLevelSensor) : s.TicksDefined ↔ s.balanceFlow + 1000 ≠ 0 := by
  simp [TicksDefined, simulateReadWaterLevel_eq_none]

/-- The outflows do not exceed the inflow by exactly 1 m³/s. -/
def Spares (n : Channel → Int) : Prop :=
  16 * n .inflow + 20 ≠ 20 * n .outflow1 + 7 * n .outflow2

theorem Tracks.ticksDefined_iff (h : Tracks n s) : s.TicksDefined ↔ Spares n := by
  rw [WaterLevelSensor.ticksDefined_iff, h.balance_eq, h.flow_eq, h.flow_eq, h.flow_eq, Spares]
  simp only [Channel.maxFlow_inflow, Channel.maxFlow_outflow1, Channel.maxFlow_outflow2]
  omega

/-- **When no tick divides by zero**: as long as the percentages that the
messages have set last never make the outflows exceed the inflow by
exactly 1 m³/s. -/
theorem water_ticks_defined_iff (es : List Event) :
    Always step TicksDefined init es ↔
      ∀ pre, pre <+: es → Spares (pre.foldl levels Channel.initGate) := by
  have hcompare : Always step TicksDefined init es ↔
      Always (fun n e => some (levels n e)) Spares Channel.initGate es := by
    refine always_iff_always (R := fun s n => Tracks n s) ?_ ?_ init_tracks
    · intro s n htracks
      exact htracks.ticksDefined_iff
    · intro s n e htracks hdefined
      cases hstep : step s e with
      | some s' => exact ⟨s', levels n e, rfl, rfl, htracks.step hstep⟩
      | none =>
        cases e with
        | tick random₁ random₂ => exact absurd hstep (hdefined random₁ random₂)
        | message chunk => cases hstep
        | button e => cases hstep
  simp [hcompare, always_iff, run_total]

/-- The simulation stops the inflow and then opens outflow-1 to 1 %. -/
def dryInflow : List Event :=
  [.message ⟨(gateNode .inflow 0).tokens, fun _ => [], saturate⟩,
    .message ⟨(gateNode .outflow1 1).tokens, fun _ => [], saturate⟩]

/-- The balance is -1000, and the next tick divides by zero. -/
theorem dryInflow_divides_by_zero :
    (run step init dryInflow).map (·.balanceFlow) = some (-1000) ∧
      ¬Always step TicksDefined init dryInflow := by
  have hbalance : (run step init dryInflow).map (·.balanceFlow) = some (-1000) := by decide
  refine ⟨hbalance, fun halways => ?_⟩
  obtain ⟨s, hrun, hs⟩ := Option.map_eq_some_iff.mp hbalance
  have hdefined := always_iff.mp halways dryInflow List.prefix_rfl s hrun
  exact (ticksDefined_iff s).mp hdefined (by omega)

/-! ## §5 The reservoir -/

/-- A value that saturates at 0 and at its maximum. -/
def clamp (x bound : Int) : Int := max 0 (min x bound)

/-- What a tick leaves in a reservoir that has no bounds. -/
def unclamped (random : Rand) (s : WaterLevelSensor) : Int :=
  s.reservoir + s.balanceFlow + var random s.balanceFlow

/-- What a tick is meant to do to the water. -/
structure Saturates (random₁ random₂ : Rand) (s s' : WaterLevelSensor) : Prop where
  reservoir_eq : s'.reservoir = clamp (s.unclamped random₁) maxReservoir
  waterLevel_eq : s'.waterLevel =
    clamp (s.unclamped random₁ / surface + wlVar random₂ s.balanceFlow) maxWaterLevel
  drains : s.balanceFlow + var random₁ s.balanceFlow ≤ 0 → s'.reservoir ≤ s.reservoir

theorem var_bounds (random : Rand) (balanceFlow : Int) :
    -65535 ≤ var random balanceFlow ∧ var random balanceFlow ≤ 65535 := by
  have hrandom : (random : Int) < 65536 := by exact_mod_cast random.isLt
  have hlo := Int.tmod_nonneg (balanceFlow + 1000) (Int.natCast_nonneg random.val)
  have hle : ((random : Int).tmod (balanceFlow + 1000)).natAbs ≤ (random : Int).natAbs := by
    rw [Int.natAbs_tmod]
    exact Nat.mod_le _ _
  unfold var
  dsimp only
  split <;> omega

theorem wlVar_bounds (random : Rand) (balanceFlow : Int) :
    -4 ≤ wlVar random balanceFlow ∧ wlVar random balanceFlow ≤ 4 := by
  have hlo := Int.tmod_nonneg waterLevelVar (Int.natCast_nonneg random.val)
  have hhi := Int.tmod_lt_of_pos (random : Int) (show 0 < waterLevelVar by decide)
  have hvar : waterLevelVar = 5 := rfl
  unfold wlVar
  dsimp only
  split <;> omega

/-- A tick, without the test that no `unsigned long` meets. -/
theorem simulateReadWaterLevel_eq_some (random₁ random₂ : Rand) (h : s.balanceFlow ≠ -1000) :
    s.simulateReadWaterLevel random₁ random₂ =
      let reservoir := s.unclamped random₁ % 2 ^ 32
      let waterLevel := (reservoir / 1024 + wlVar random₂ s.balanceFlow) % 2 ^ 32
      some { s with
        waterLevel := if 64000 < waterLevel then 64000 else waterLevel
        reservoir := if 64000 < waterLevel then 65536000 else reservoir } := by
  have hdivisor : ¬s.balanceFlow + 1000 = 0 := by omega
  have hsum : s.reservoir + (s.balanceFlow + var random₁ s.balanceFlow) = s.unclamped random₁ :=
    (Int.add_assoc _ _ _).symm
  have hunsigned (x : Int) : ¬x % 2 ^ 32 < 0 := by omega
  have hsurface : surface = 1024 := rfl
  have hlevel : maxWaterLevel = 64000 := rfl
  have hreservoir : maxReservoir = 65536000 := rfl
  simp only [simulateReadWaterLevel, hdivisor, if_false, hsum, ulong, hunsigned, hsurface, hlevel,
    hreservoir]
  split <;> rfl

/-- The two tests on the level, against two clamps: below 0 both the
reservoir and the level wrap around to values beyond the maximum. -/
theorem tests_clamp_iff {T w : Int} (hT : -335535 ≤ T ∧ T ≤ 65681535) (hw : -4 ≤ w ∧ w ≤ 4) :
    let R := T % 2 ^ 32
    let L := (R / 1024 + w) % 2 ^ 32
    ((if 64000 < L then 65536000 else R) = clamp T 65536000 ∧
      (if 64000 < L then 64000 else L) = clamp (T / 1024 + w) 64000) ↔
    0 ≤ T ∧ 0 ≤ T / 1024 + w ∧ (T < 65536000 → T / 1024 + w ≤ 64000) ∧
      (65536000 < T → 64000 < T / 1024 + w) := by
  dsimp only
  by_cases hdrained : T < 0
  · have hwraps : 64000 < (T % 2 ^ 32 / 1024 + w) % 2 ^ 32 := by omega
    rw [if_pos hwraps, clamp]
    omega
  · have hR : T % 2 ^ 32 = T := by omega
    rw [hR]
    by_cases hlow : T / 1024 + w < 0
    · have hwraps : 64000 < (T / 1024 + w) % 2 ^ 32 := by omega
      rw [if_pos hwraps, clamp]
      omega
    · have hL : (T / 1024 + w) % 2 ^ 32 = T / 1024 + w := by omega
      rw [hL, clamp, clamp]
      by_cases hover : 64000 < T / 1024 + w <;> grind

/-- **When the reservoir saturates**: if the tick does not drain more than
there is, the noise does not take the level below 0, and the noise does
not carry the level across its maximum when the reservoir is on the other
side of it. -/
theorem tick_saturates_iff (random₁ random₂ : Rand) (hempty : 0 ≤ s.reservoir)
    (hfull : s.reservoir ≤ maxReservoir) (hmin : minBalanceFlow ≤ s.balanceFlow)
    (hmax : s.balanceFlow ≤ maxBalanceFlow) (hdivisor : s.balanceFlow ≠ -1000) :
    (∃ s', s.simulateReadWaterLevel random₁ random₂ = some s' ∧ Saturates random₁ random₂ s s') ↔
      0 ≤ s.unclamped random₁ ∧
      0 ≤ s.unclamped random₁ / surface + wlVar random₂ s.balanceFlow ∧
      (s.unclamped random₁ < maxReservoir →
        s.unclamped random₁ / surface + wlVar random₂ s.balanceFlow ≤ maxWaterLevel) ∧
      (maxReservoir < s.unclamped random₁ →
        maxWaterLevel < s.unclamped random₁ / surface + wlVar random₂ s.balanceFlow) := by
  obtain ⟨hvarlo, hvarhi⟩ := var_bounds random₁ s.balanceFlow
  have hsum : s.unclamped random₁ = s.reservoir + s.balanceFlow + var random₁ s.balanceFlow := rfl
  have hsurface : surface = 1024 := rfl
  have hlevel : maxWaterLevel = 64000 := rfl
  have hreservoir : maxReservoir = 65536000 := rfl
  have hlowest : minBalanceFlow = -135000 := rfl
  have hhighest : maxBalanceFlow = 80000 := rfl
  have hT : -335535 ≤ s.unclamped random₁ ∧ s.unclamped random₁ ≤ 65681535 := by omega
  have htests := tests_clamp_iff hT (wlVar_bounds random₂ s.balanceFlow)
  dsimp only at htests
  rw [hsurface, hlevel, hreservoir, ← htests,
    simulateReadWaterLevel_eq_some random₁ random₂ hdivisor]
  constructor
  · intro h
    obtain ⟨s', hs', hR, hL, -⟩ := h
    obtain rfl := Option.some.inj hs'
    exact ⟨hR, hL⟩
  · intro h
    refine ⟨_, rfl, h.1, h.2, fun hdrain => ?_⟩
    -- a clamp of less than there was is at most what there was
    have hclamped : clamp (s.unclamped random₁) 65536000 ≤ s.reservoir := by
      unfold clamp
      omega
    exact h.1.symm ▸ hclamped

/-- A reservoir of 100 m³ at a balance of -2 m³/s. -/
def ebbing : WaterLevelSensor := ⟨-2000, 97, 100000, Channel.initFlow, 0, true⟩

theorem tick_saturates_demo :
    ∃ s', ebbing.simulateReadWaterLevel 1 0 = some s' ∧ Saturates 1 0 ebbing s' := by
  have hiff := tick_saturates_iff (s := ebbing) 1 0 (by decide) (by decide) (by decide) (by decide)
    (by decide)
  exact hiff.mpr (by decide)

def drained : WaterLevelSensor := { ebbing with reservoir := 0 }

/-- The same balance fills an empty reservoir. -/
theorem drain_fills_reservoir :
    (drained.simulateReadWaterLevel 1 0).map (·.reservoir) = some maxReservoir ∧
      ¬∃ s', drained.simulateReadWaterLevel 1 0 = some s' ∧ Saturates 1 0 drained s' := by
  have hfills : (drained.simulateReadWaterLevel 1 0).map (·.reservoir) = some maxReservoir := by
    decide
  refine ⟨hfills, fun hsaturates => ?_⟩
  obtain ⟨s', hs', -, -, hdrains⟩ := hsaturates
  have hreservoir : s'.reservoir = maxReservoir := by simpa [hs'] using hfills
  have hraised := hdrains (by decide)
  rw [hreservoir] at hraised
  exact absurd hraised (by decide)

end WaterLevelSensor

end DamMonitoring.Motes
