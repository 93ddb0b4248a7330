/-
DamMonitoring.Motes.Ramp — how a simulated flow follows its target.

A flow below its band climbs by the steps of `LINEAR_VAR`, which grow
with the distance. A flow above the band takes such a step as well, but
the test against `max_value` that comes after it takes the flow to the
edge of the band at once (`tick_ramps_iff`). Either way every tick takes
at least 100 off the distance and none crosses the band, so that the
flow settles (`flow_settles`).

  §1 one tick
  §2 ticks under a constant target
-/
import DamMonitoring.Motes.Mote2
import DamMonitoring.Motes.FlowSensor
import Mathlib.Algebra.Order.Floor.Ring
import Mathlib.Data.Rat.Floor

namespace DamMonitoring.Motes

open Program.Machine

/-! ## §1 One tick -/

/-- `v` is nearer to the band than `flow`, by what a step of `LINEAR_VAR`
can be. -/
def Ramps (flow target v : Int) : Prop :=
  ∃ var, 100 ≤ var ∧ var ≤ 99 + distance flow target / 10 ∧
    v = if flow < target then flow + var else flow - var

variable {random : Rand} {flow target v : Int}

/-- A flow outside its band is below it or above it. -/
theorem distance_sides (h : 1 ≤ distance flow target) :
    target - 150 - flow = distance flow target ∧ flow < target ∨
      flow - (target + 150) = distance flow target ∧ target < flow := by
  unfold distance at *
  rw [varThreshold_eq] at *
  omega

/-- **When a tick ramps**: from below the band, and from at most 110 above
it. -/
theorem readFlow_ramps_iff (random : Rand) (htarget : 0 ≤ target) (hflow : 0 ≤ flow)
    (h10 : 10 ≤ distance flow target) :
    ∃ v, readFlow random flow target = some v ∧
      (Ramps flow target v ↔ flow < target ∨ distance flow target ≤ 110) := by
  obtain ⟨hlo, hhi⟩ := ramp_bounds random h10
  have hout : 1 ≤ distance flow target := by omega
  rcases distance_sides hout with ⟨hbelow, hside⟩ | ⟨habove, hside⟩
  · have hramps : Ramps flow target (flow + ramp random (distance flow target)) :=
      ⟨_, hlo, hhi, by rw [if_pos hside]⟩
    exact ⟨_, readFlow_below random hflow h10 hbelow, by simp [hramps, hside]⟩
  · refine ⟨_, readFlow_above random htarget h10 habove, ?_⟩
    have hnot : ¬flow < target := by omega
    simp only [Ramps, hnot, if_false, false_or]
    constructor
    · intro hramps
      obtain ⟨var, hvar, hmost, heq⟩ := hramps
      omega
    · intro hnear
      -- the whole way is no more than a step may be
      exact ⟨flow - min (flow - ramp random (distance flow target)) (target + 150),
        by omega, by omega, by omega⟩

/-- **When the flow ramps**, in both firmwares that simulate one: from
below its band always, and from above it in the last 110. -/
theorem tick_ramps_iff (random : Rand) (htarget : 0 ≤ target) (hflow : 0 ≤ flow)
    (h10 : 10 ≤ distance flow target) :
    (∀ (s s' : Mote2) (draws : Channel → Rand) (i : Channel), s.flow i = flow →
      s.targetFlow i = target → draws i = random → s.simulateReadFlow draws = some s' →
      (Ramps flow target (s'.flow i) ↔ flow < target ∨ distance flow target ≤ 110)) ∧
    ∀ s : FlowSensor, s.flow = flow → s.targetFlow = target →
      ∃ s', s.simulateReadFlow random = some s' ∧
        (Ramps flow target s'.flow ↔ flow < target ∨ distance flow target ≤ 110) := by
  obtain ⟨v, hread, hiff⟩ := readFlow_ramps_iff random htarget hflow h10
  constructor
  · intro s s' draws i hsflow hstarget hdraw hstep
    have hchannel := (Mote2.simulateReadFlow_eq_some hstep).1 i
    rw [hsflow, hstarget, hdraw, hread] at hchannel
    rwa [← Option.some.inj hchannel]
  · intro s hsflow hstarget
    refine ⟨{ s with flow := v }, FlowSensor.simulateReadFlow_eq_some.mpr ⟨v, ?_, rfl⟩, hiff⟩
    rwa [hsflow, hstarget]

/-- Outflow-1 is fully open and was told to close. -/
def closing : FlowSensor := ⟨100000, 0, 0, true⟩

/-- One tick takes nearly all of the flow away. -/
theorem closing_drops : closing.simulateReadFlow 0 = some { closing with flow := 150 } ∧
    distance 100000 0 = 99850 ∧ ¬Ramps 100000 0 150 := by
  have hdistance : distance 100000 0 = 99850 := by decide
  refine ⟨by decide, hdistance, fun hramps => ?_⟩
  obtain ⟨var, -, hmost, heq⟩ := hramps
  have hdown : (150 : Int) = 100000 - var := heq
  rw [hdistance] at hmost
  omega

/-- Outflow-1 is closed and was told to open fully. -/
def opening : FlowSensor := ⟨0, 100000, 0, true⟩

theorem tick_ramps_demo :
    (∃ s, closing.simulateReadFlow 0 = some s ∧ ¬Ramps 100000 0 s.flow) ∧
      ∃ s, opening.simulateReadFlow 7 = some s ∧ Ramps 0 100000 s.flow := by
  have hnonneg : (0 : Int) ≤ 0 ∧ (0 : Int) ≤ 100000 := by decide
  have hdown := tick_ramps_iff 0 hnonneg.1 hnonneg.2 (by decide)
  have hup := tick_ramps_iff 7 hnonneg.2 hnonneg.1 (by decide)
  obtain ⟨s, hs, hiff⟩ := hdown.2 closing rfl rfl
  obtain ⟨s', hs', hiff'⟩ := hup.2 opening rfl rfl
  exact ⟨⟨s, hs, mt hiff.mp (by decide)⟩, s', hs', hiff'.mpr (by decide)⟩

/-! ## §2 Ticks under a constant target -/

/-- **What a tick does to the distance**: it takes 100 off it at least, it
does not cross the band, and it does not leave it. -/
theorem readFlow_approaches (htarget : 0 ≤ target) (hflow : 0 ≤ flow)
    (h : readFlow random flow target = some v) :
    0 ≤ v ∧ distance v target ≤ max (distance flow target - 100) 0 ∧
      (flow ≤ target + 150 → v ≤ target + 150) ∧ (target - 150 ≤ flow → target - 150 ≤ v) := by
  obtain ⟨hv, hband | ⟨h10, hlow, rfl⟩⟩ := readFlow_cases htarget hflow h
  · have hedges := distance_eq_zero.mp hband
    rw [hband]
    exact ⟨hv, le_max_right _ _, fun _ => hedges.2, fun _ => hedges.1⟩
  · obtain ⟨hlo, hhi⟩ := ramp_bounds random h10
    have hdistance : distance flow target = target - 150 - flow := by
      unfold distance
      rw [varThreshold_eq]
      omega
    have hafter : distance (flow + ramp random (distance flow target)) target ≤
        max (distance flow target - 100) 0 := by
      generalize ramp random (distance flow target) = var at hlo hhi ⊢
      rw [hdistance] at hhi ⊢
      rw [distance, varThreshold_eq]
      omega
    exact ⟨hv, hafter, fun _ => by omega, fun _ => by omega⟩

namespace Mote2

variable {s s' : Mote2} {i : Channel} {draws : List (Channel → Rand)}

/-- What ticks keep of a channel: its target, and the sides of the band
it is not on. -/
structure Approaching (i : Channel) (target flow : Int) (s : Mote2) : Prop where
  target_eq : s.targetFlow i = target
  flow_nonneg : 0 ≤ s.flow i
  not_above : flow ≤ target + 150 → s.flow i ≤ target + 150
  not_below : target - 150 ≤ flow → target - 150 ≤ s.flow i

theorem Approaching.tick {target flow : Int} {random : Channel → Rand} (htarget : 0 ≤ target)
    (h : Approaching i target flow s) (hstep : s.simulateReadFlow random = some s') :
    Approaching i target flow s' ∧
      distance (s'.flow i) target ≤ max (distance (s.flow i) target - 100) 0 := by
  obtain ⟨hread, hs'⟩ := simulateReadFlow_eq_some hstep
  have hread := hread i
  rw [h.target_eq] at hread
  obtain ⟨hv, hcloser, habove, hbelow⟩ := readFlow_approaches htarget h.flow_nonneg hread
  have htarget' : s'.targetFlow i = target := by rw [hs', ← h.target_eq]
  exact ⟨⟨htarget', hv, fun hside => habove (h.not_above hside),
    fun hside => hbelow (h.not_below hside)⟩, hcloser⟩

/-- Ticks one after another. -/
def ticks (s : Mote2) (draws : List (Channel → Rand)) : Option Mote2 :=
  run (fun s random => s.simulateReadFlow random) s draws

theorem ticks_approach (htarget : 0 ≤ s.targetFlow i) (hflow : 0 ≤ s.flow i)
    (hrun : s.ticks draws = some s') :
    Approaching i (s.targetFlow i) (s.flow i) s' ∧
      distance (s'.flow i) (s.targetFlow i) ≤
        max (distance (s.flow i) (s.targetFlow i) - 100 * draws.length) 0 := by
  have hstart : Approaching i (s.targetFlow i) (s.flow i) s := ⟨rfl, hflow, id, id⟩
  refine run_approaches (I := Approaching i (s.targetFlow i) (s.flow i))
    (m := fun t => distance (t.flow i) (s.targetFlow i)) ?_ (by decide) hstart hrun
  intro t random t' h hstep
  exact h.tick htarget hstep

/-- **The flow settles**: it is in its band after as many ticks as there
are hundreds in its distance, and at all later times, it never crosses
the band, and it is never negative. -/
theorem flow_settles (htarget : 0 ≤ s.targetFlow i) (hflow : 0 ≤ s.flow i)
    (hrun : s.ticks draws = some s') :
    (⌈(distance (s.flow i) (s.targetFlow i) : ℚ) / 100⌉₊ ≤ draws.length →
      distance (s'.flow i) (s.targetFlow i) = 0) ∧
    (s.flow i ≤ s.targetFlow i + 150 → s'.flow i ≤ s.targetFlow i + 150) ∧
    (s.targetFlow i - 150 ≤ s.flow i → s.targetFlow i - 150 ≤ s'.flow i) ∧
    0 ≤ s'.flow i ∧ s'.targetFlow i = s.targetFlow i := by
  obtain ⟨happroaching, hcloser⟩ := ticks_approach htarget hflow hrun
  refine ⟨fun hlong => ?_, happroaching.not_above, happroaching.not_below,
    happroaching.flow_nonneg, happroaching.target_eq⟩
  have hcover : distance (s.flow i) (s.targetFlow i) ≤ 100 * draws.length := by
    have hquotient := Nat.ceil_le.mp hlong
    rw [div_le_iff₀ (by norm_num)] at hquotient
    have hcast : (distance (s.flow i) (s.targetFlow i) : ℚ) ≤ ((100 * draws.length : Int) : ℚ) := by
      push_cast
      linarith
    exact_mod_cast hcast
  have hnonneg := distance_nonneg (s'.flow i) (s.targetFlow i)
  omega

/-- Outflow-1 was told to open to 1 %. -/
def trickle : Mote2 :=
  ⟨fun _ => 0, Function.update (fun _ => 0) .outflow1 1000, 1, true⟩

/-- The shortest steps need all nine ticks. -/
theorem flow_settles_demo : ∃ s, trickle.ticks (List.replicate 9 fun _ => 0) = some s ∧
    distance (s.flow .outflow1) 1000 = 0 ∧
    ∃ s, trickle.ticks (List.replicate 8 fun _ => 0) = some s ∧
      distance (s.flow .outflow1) 1000 = 50 := by
  have hruns : (trickle.ticks (List.replicate 9 fun _ => 0)).isSome = true := by decide
  obtain ⟨s, hs⟩ := Option.isSome_iff_exists.mp hruns
  have hsettled := flow_settles (i := .outflow1) (by decide) (by decide) hs
  refine ⟨s, hs, hsettled.1 ?_, ?_⟩
  · have hdistance : distance (trickle.flow .outflow1) (trickle.targetFlow .outflow1) = 850 := by
      decide
    rw [hdistance, List.length_replicate]
    norm_num
  · have hearlier : (trickle.ticks (List.replicate 8 fun _ => 0)).map (·.flow .outflow1) =
        some 800 := by decide
    obtain ⟨t, ht, hflow⟩ := Option.map_eq_some_iff.mp hearlier
    exact ⟨t, ht, by rw [hflow]; decide⟩

end Mote2

end DamMonitoring.Motes
