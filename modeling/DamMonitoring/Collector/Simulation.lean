/-
DamMonitoring.Collector.Simulation — `Subscriber.simulate`.

`messageArrived` calls `simulate` on each flow rate that `recordFlowRate`
has returned. It touches neither the database nor `lastRecord`, so what it
does to `inflowGate`, and what it publishes, follows from the flow rates
that the rounds of the message have recorded (`Delivery.recorded`).
`Float` arithmetic is exact here, and publishing does not fail.

  §1 `simulate`
  §2 the flow rates a message records
  §3 the inflow in them
-/
import DamMonitoring.Collector.Rounds
import Mathlib.Data.Rat.Floor
import Mathlib.Tactic.Linarith

namespace DamMonitoring.Collector

open Java Persistence Control

/-! ## §1 simulate -/

/-- `MAX_INFLOW`. -/
def maxInflow : ℚ := 80

/-- `Math.round`. -/
def mathRound (x : ℚ) : Int := ⌊x + 1 / 2⌋

/-- `inflowGate`, and the percentages that are published on the topic
simulation as `gate-inflow` and have not been delivered, oldest first. -/
structure Simulation where
  inflowGate : Option Int
  published : List Int
  deriving DecidableEq, Repr

def isInflow (flowRate : FlowRate ℚ) : Bool := equalsIgnoreCase flowRate.flowChannel "inflow"

def simulate (sim : Simulation) (flowRate : FlowRate ℚ) : Simulation :=
  if isInflow flowRate then
    let newValue := mathRound (flowRate.value / maxInflow * 100)
    if sim.inflowGate ≠ some newValue then ⟨some newValue, sim.published ++ [newValue]⟩ else sim
  else sim

/-- A value in the middle of its rounding interval. -/
theorem mathRound_eq {x : ℚ} {n : Int} (hlo : n - 1 / 2 ≤ x) (hhi : x < n + 1 / 2) :
    mathRound x = n := by
  rw [mathRound, Int.floor_eq_iff]
  constructor <;> linarith

/-! ## §2 What a message records -/

/-- The flow rate that `recordFlowRate` returns in a round, if it is called
there and returns. -/
def Visit.recorded (c : Settings) (v : Visit ℚ) : Option (FlowRate ℚ) :=
  match v.turn.measurement with
  | none => none
  | some ⟨name, value⟩ =>
    if v.before.lastRecord.holds (v.delivery.minNextTime c) (concat v.record.baseName name) then none
    else if v.delivery.topic = "flow-rate" ∧ v.record.baseUnit = some "m3/s" then
      (recordFlowRate c v.record.baseName name value v.turn.clock v.turn.save v.before).2.toOption
    else none

/-- The flow rates a message records, in order. -/
def Delivery.recorded (c : Settings) (d : Delivery ℚ) (s : Subscriber ℚ) : List (FlowRate ℚ) :=
  (d.visits c s).filterMap (Visit.recorded c)

/-- What `messageArrived` does to the simulation. -/
def Delivery.simulated (c : Settings) (d : Delivery ℚ) (s : Subscriber ℚ) (sim : Simulation) :
    Simulation :=
  (d.recorded c s).foldl simulate sim

/-- The channel and the value of a flow rate. -/
def reading (flowRate : FlowRate ℚ) : String × ℚ := (flowRate.flowChannel, flowRate.value)

/-- The channel and the value of a measurement that has both. -/
def Turn.reading? (turn : Turn ℚ) : Option (String × ℚ) :=
  match turn.measurement with
  | some ⟨some name, some value⟩ => some (name, value)
  | _ => none

/-- What is recorded is what was measured. -/
theorem Visit.reading_of_recorded {c : Settings} {v : Visit ℚ} {flowRate : FlowRate ℚ}
    (h : v.recorded c = some flowRate) : v.turn.reading? = some (reading flowRate) := by
  unfold Visit.recorded at h
  unfold Turn.reading?
  split at h
  · cases h
  · next name value hmeasurement =>
    split at h
    · cases h
    · split at h
      · cases name with
        | none => simp [recordFlowRate, Except.toOption] at h
        | some name =>
          cases value with
          | none => simp [recordFlowRate, Except.toOption] at h
          | some value =>
            rw [hmeasurement]
            simp only [recordFlowRate] at h
            split at h
            · obtain rfl := Option.some.inj h
              rfl
            · cases h
      · cases h

theorem sublist_filterMap {α β γ : Type} {f : α → Option β} {g : β → γ} {h : α → Option γ}
    (hfg : ∀ x y, f x = some y → h x = some (g y)) (l : List α) :
    ((l.filterMap f).map g).Sublist (l.filterMap h) := by
  induction l with
  | nil => exact List.Sublist.refl _
  | cons x l ih =>
    cases hx : f x with
    | none =>
      rw [List.filterMap_cons_none hx]
      exact ih.trans ((List.sublist_cons_self x l).filterMap h)
    | some y =>
      rw [List.filterMap_cons_some hx, List.filterMap_cons_some (hfg x y hx)]
      exact ih.cons_cons _

/-- **What a message records** is some of what it reports, in order. -/
theorem Delivery.recorded_sublist (c : Settings) (d : Delivery ℚ) (s : Subscriber ℚ) :
    ((d.recorded c s).map reading).Sublist (d.turns.filterMap Turn.reading?) := by
  have hturns := (d.visits_turns c s).filterMap Turn.reading?
  rw [List.filterMap_map] at hturns
  exact (sublist_filterMap (fun v r hr => Visit.reading_of_recorded hr) _).trans hturns

/-- A message on another topic records no flow rate. -/
theorem Delivery.recorded_of_topic_ne {d : Delivery ℚ} (h : d.topic ≠ "flow-rate") (c : Settings)
    (s : Subscriber ℚ) : d.recorded c s = [] := by
  apply List.filterMap_eq_nil_iff.mpr
  intro v hv
  obtain rfl := Delivery.visits_delivery hv
  simp only [Visit.recorded, h, false_and, if_false]
  split
  · rfl
  · split <;> rfl

/-! ## §3 The inflow -/

/-- Only the inflow is simulated. -/
theorem foldl_simulate (sim : Simulation) (flowRates : List (FlowRate ℚ)) :
    flowRates.foldl simulate sim = (flowRates.filter isInflow).foldl simulate sim := by
  induction flowRates generalizing sim with
  | nil => rfl
  | cons r rs ih =>
    cases hr : isInflow r with
    | true => simp [hr, ih]
    | false =>
      have hsame : simulate sim r = sim := by simp [simulate, hr]
      simp [hr, hsame, ih]

/-- The inflows that a message records. -/
def Delivery.recordedInflow (c : Settings) (d : Delivery ℚ) (s : Subscriber ℚ) :
    List (FlowRate ℚ) :=
  (d.recorded c s).filter isInflow

/-- A message that reports the inflow once records it at most once, and
simulates it if it does. -/
theorem Delivery.recordedInflow_cases {c : Settings} {d : Delivery ℚ} {value : ℚ}
    (h : (d.turns.filterMap Turn.reading?).filter (fun r => equalsIgnoreCase r.1 "inflow") =
      [("inflow", value)])
    (s : Subscriber ℚ) (sim : Simulation) :
    (d.recordedInflow c s = [] ∧ d.simulated c s sim = sim) ∨
      ∃ flowRate, d.recordedInflow c s = [flowRate] ∧ flowRate.value = value ∧
        d.simulated c s sim = simulate sim flowRate := by
  have hsub := (d.recorded_sublist c s).filter fun r => equalsIgnoreCase r.1 "inflow"
  rw [h, List.filter_map] at hsub
  have hsim : d.simulated c s sim = (d.recordedInflow c s).foldl simulate sim :=
    foldl_simulate sim (d.recorded c s)
  rw [hsim]
  rcases List.sublist_singleton.mp hsub with hnil | hone
  · have hnone : d.recordedInflow c s = [] := List.map_eq_nil_iff.mp hnil
    exact Or.inl ⟨hnone, by rw [hnone]; rfl⟩
  · obtain ⟨flowRate, hflowRate, hreading⟩ := List.map_eq_singleton_iff.mp hone
    have hinflow : d.recordedInflow c s = [flowRate] := hflowRate
    exact Or.inr ⟨flowRate, hinflow, congrArg Prod.snd hreading, by rw [hinflow]; rfl⟩

end DamMonitoring.Collector
