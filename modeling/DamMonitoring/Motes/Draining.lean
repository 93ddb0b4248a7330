/-
DamMonitoring.Motes.Draining — how fast the simulated water rises, and
how fast it falls.

The noise of a tick is drawn below `balance_flow + 1000`, so that with
more outflow than 1 m³/s over the inflow it never makes up for the
balance: the water falls with every tick (`change_drains`). With both
gates open there is always that much (`open_balance`).

  §1 one tick
  §2 ticks between the bottom and the brim
-/
import DamMonitoring.Motes.WaterLevelSensor

namespace DamMonitoring.Motes.WaterLevelSensor

/-! ## §1 One tick -/

/-- What a tick adds to the reservoir. -/
def change (random : Rand) (s : WaterLevelSensor) : Int :=
  s.balanceFlow + var random s.balanceFlow

/-- The most a tick adds. -/
def maxRise : Int := maxBalanceFlow + 65535

/-- Up to here no noise takes the level beyond its maximum. -/
def brim : Int := (maxWaterLevel - 5) * surface

variable {s s' : WaterLevelSensor} {random random₁ random₂ : Rand}

theorem unclamped_eq (random : Rand) (s : WaterLevelSensor) :
    s.unclamped random = s.reservoir + s.change random :=
  Int.add_assoc _ _ _

/-- The noise is smaller than what it is drawn below. -/
theorem var_natAbs_lt (random : Rand) {balanceFlow : Int} (h : balanceFlow + 1000 ≠ 0) :
    (var random balanceFlow).natAbs < (balanceFlow + 1000).natAbs := by
  have hpos : 0 < (balanceFlow + 1000).natAbs := Int.natAbs_pos.mpr h
  have hlt : ((random : Int).tmod (balanceFlow + 1000)).natAbs < (balanceFlow + 1000).natAbs := by
    rw [Int.natAbs_tmod]
    exact Nat.mod_lt _ hpos
  unfold var
  dsimp only
  split <;> omega

theorem change_le_maxRise (random : Rand) (hmax : s.balanceFlow ≤ maxBalanceFlow) :
    s.change random ≤ maxRise := by
  obtain ⟨-, hvar⟩ := var_bounds random s.balanceFlow
  unfold change maxRise
  omega

/-- **With more than 1 m³/s over the inflow the water falls.** -/
theorem change_drains (random : Rand) (h : s.balanceFlow < -1000) : s.change random ≤ -1001 := by
  have hvar := var_natAbs_lt random (show s.balanceFlow + 1000 ≠ 0 by omega)
  unfold change
  omega

/-- Both gates open let out more than can come in. -/
theorem open_balance {n : Channel → Int} (h : Tracks n s) (hin : n .inflow ≤ 100)
    (hout₁ : n .outflow1 = 100) (hout₂ : n .outflow2 = 100) : s.balanceFlow ≤ -55000 := by
  rw [h.balance_eq, h.flow_eq, h.flow_eq, h.flow_eq, hout₁, hout₂]
  simp only [Channel.maxFlow_inflow, Channel.maxFlow_outflow1, Channel.maxFlow_outflow2]
  omega

/-! ## §2 Between the bottom and the brim -/

/-- A tick that finds enough water for what it drains, and for the noise
of the level. -/
def Wet (random₁ random₂ : Rand) (s : WaterLevelSensor) : Prop :=
  0 ≤ s.unclamped random₁ ∧ 0 ≤ s.unclamped random₁ / surface + wlVar random₂ s.balanceFlow

instance (random₁ random₂ : Rand) (s : WaterLevelSensor) : Decidable (s.Wet random₁ random₂) :=
  inferInstanceAs (Decidable (_ ∧ _))

/-- The level that is reported is off by less than 5 from the height of
the water. -/
def Gauged (s : WaterLevelSensor) : Prop := s.reservoir / surface - 4 ≤ s.waterLevel

/-- **One tick** of a reservoir that neither runs dry nor spills over. -/
theorem tick_between (hstep : s.simulateReadWaterLevel random₁ random₂ = some s')
    (hwet : s.Wet random₁ random₂) (hbrim : s.unclamped random₁ ≤ brim) :
    s'.reservoir = s.reservoir + s.change random₁ ∧ s'.Gauged := by
  obtain ⟨hdry, hlow⟩ := hwet
  have hdivisor : s.balanceFlow ≠ -1000 := by
    intro hzero
    rw [simulateReadWaterLevel_eq_none.mpr (by omega)] at hstep
    cases hstep
  obtain ⟨hnoise, hnoise'⟩ := wlVar_bounds random₂ s.balanceFlow
  have hbrim' : brim = 65530880 := rfl
  have hsurface : surface = 1024 := rfl
  rw [hsurface] at hlow
  have hR : s.unclamped random₁ % 2 ^ 32 = s.unclamped random₁ := by omega
  have hL : (s.unclamped random₁ / 1024 + wlVar random₂ s.balanceFlow) % 2 ^ 32 =
      s.unclamped random₁ / 1024 + wlVar random₂ s.balanceFlow := by omega
  have hbelow : ¬64000 < s.unclamped random₁ / 1024 + wlVar random₂ s.balanceFlow := by omega
  rw [simulateReadWaterLevel_eq_some random₁ random₂ hdivisor] at hstep
  simp only [hR, hL, if_neg hbelow, Option.some.injEq] at hstep
  subst hstep
  refine ⟨unclamped_eq random₁ s, ?_⟩
  simp only [Gauged, hsurface]
  omega

end DamMonitoring.Motes.WaterLevelSensor
