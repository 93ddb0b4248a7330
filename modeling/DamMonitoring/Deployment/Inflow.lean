/-
DamMonitoring.Deployment.Inflow — the way of the inflow through the
Collector.

A sensor whose target was set by its button reports flows in the band
around a tenth of the maximum. However many thousandths they are off, the
Collector makes of them the percentage that was set (`percent_eq`). It
publishes that percentage unless it has published it last
(`CollectorState.handle_cases`).

  §1 percentages
  §2 the Collector
-/
import DamMonitoring.Collector.Simulation
import DamMonitoring.Collector.Senml

namespace DamMonitoring.Deployment

open Java Persistence Motes Collector

/-! ## §1 Percentages -/

/-- **What a flow in its band is rounded to**: the percentage that was
set. -/
theorem percent_eq {f t : Int} (ht : Tenth t) (hf : |f - t| ≤ 150) :
    ∃ p : Int, 0 ≤ p ∧ p ≤ 100 ∧ p * 800 = t ∧
      mathRound ((f / 1000 : ℚ) / Collector.maxInflow * 100) = p := by
  obtain ⟨k, hlo, hhi, rfl⟩ := ht
  rw [abs_le] at hf
  refine ⟨10 * k, by omega, by omega, by omega, mathRound_eq ?_ ?_⟩
  · have hcast : (8000 * k - 150 : ℚ) ≤ f := by exact_mod_cast (by omega : 8000 * k - 150 ≤ f)
    rw [Collector.maxInflow]
    push_cast
    linarith
  · have hcast : (f : ℚ) ≤ 8000 * k + 150 := by exact_mod_cast (by omega : f ≤ 8000 * k + 150)
    rw [Collector.maxInflow]
    push_cast
    linarith

/-! ## §2 The Collector -/

/-- The times and the ends of `record` that the Collector meets while it
handles a message. -/
structure Handling where
  now : Int
  clock : Nat → Int
  save : Nat → Save

def Handling.delivery (h : Handling) (payload : Payload ℚ) : Delivery ℚ :=
  ⟨"flow-rate", payload, h.now, h.clock, h.save⟩

structure CollectorState where
  subscriber : Subscriber ℚ
  inflowGate : Option Int

namespace CollectorState

def init (flowRateId waterLevelId : Int) : CollectorState :=
  ⟨Subscriber.init flowRateId waterLevelId, none⟩

/-- `messageArrived`, and the percentages it publishes. -/
def handle (c : Settings) (d : Delivery ℚ) (s : CollectorState) : CollectorState × List Int :=
  let sim := d.simulated c s.subscriber ⟨s.inflowGate, []⟩
  (⟨messageArrived c d s.subscriber, sim.inflowGate⟩, sim.published)

/-- Whether a message has been stored with its inflow. -/
def stores (c : Settings) (d : Delivery ℚ) (s : CollectorState) : Bool :=
  !(d.recordedInflow c s.subscriber).isEmpty

/-- The flows of a message that reports the inflow `f`, and no other
inflow. -/
def Reports (d : Delivery ℚ) (f : Int) : Prop :=
  (d.turns.filterMap Turn.reading?).filter
    (fun r => equalsIgnoreCase r.1 "inflow") = [("inflow", (f / 1000 : ℚ))]

/-- **What the Collector makes of an inflow** in the band around a tenth:
nothing, or the percentage that was set. -/
theorem handle_cases {c : Settings} {d : Delivery ℚ} {f t : Int} (hd : Reports d f)
    (ht : Tenth t) (hf : |f - t| ≤ 150) (s : CollectorState) :
    (s.stores c d = false ∧ (s.handle c d).1.inflowGate = s.inflowGate ∧ (s.handle c d).2 = []) ∨
    ∃ p, 0 ≤ p ∧ p ≤ 100 ∧ p * 800 = t ∧ s.stores c d = true ∧
      (s.handle c d).1.inflowGate = some p ∧
      (s.handle c d).2 = if s.inflowGate = some p then [] else [p] := by
  obtain ⟨p, hlo, hhi, hp, hround⟩ := percent_eq ht hf
  obtain ⟨hnone, hsim⟩ | ⟨flowRate, hone, hvalue, hsim⟩ :=
    Delivery.recordedInflow_cases (c := c) hd s.subscriber
      ⟨s.inflowGate, []⟩
  · exact Or.inl ⟨by simp [stores, hnone], by simp [handle, hsim], by simp [handle, hsim]⟩
  · have hinflow : isInflow flowRate = true := by
      have hmem : flowRate ∈ d.recordedInflow c s.subscriber := by simp [hone]
      exact (List.mem_filter.mp hmem).2
    have hsimulate : simulate ⟨s.inflowGate, []⟩ flowRate =
        ⟨some p, if s.inflowGate = some p then [] else [p]⟩ := by
      by_cases hsame : s.inflowGate = some p <;>
        simp [simulate, hinflow, hvalue, hround, hsame]
    exact Or.inr ⟨p, hlo, hhi, hp, by simp [stores, hone], by simp [handle, hsim, hsimulate],
      by simp [handle, hsim, hsimulate]⟩

/-- It publishes no other percentage. -/
theorem of_mem_handle {c : Settings} {d : Delivery ℚ} {f t : Int} (hd : Reports d f)
    (ht : Tenth t) (hf : |f - t| ≤ 150) {s : CollectorState} {level : Int}
    (h : level ∈ (s.handle c d).2) : 0 ≤ level ∧ level ≤ 100 ∧ level * 800 = t := by
  rcases handle_cases (c := c) hd ht hf s with
    ⟨-, -, hnone⟩ | ⟨p, hlo, hhi, hp, -, -, hpublished⟩
  · simp [hnone] at h
  · rw [hpublished] at h
    obtain rfl : level = p := by
      split at h
      · simp at h
      · simpa using h
    exact ⟨hlo, hhi, hp⟩

/-- A message on another topic has no part in it. -/
theorem handle_of_topic_ne {d : Delivery ℚ} (h : d.topic ≠ "flow-rate") (c : Settings)
    (s : CollectorState) :
    s.stores c d = false ∧ (s.handle c d).1.inflowGate = s.inflowGate ∧ (s.handle c d).2 = [] := by
  simp [stores, handle, Delivery.recordedInflow, Delivery.simulated,
    Delivery.recorded_of_topic_ne h]

end CollectorState

end DamMonitoring.Deployment
