/-
DamMonitoring.Controller.SustainedWater — cycle after cycle with too much
or too little water.

Thresholds, measurements and alarms may be others in each cycle, and any
number of gates may be registered; nothing but the cycles moves a gate.
A cycle takes every gate to the opening of the law (`cycle_gateAt`), so a
gate goes through the openings of the law one after the other (`levels`),
and the bounds of `Control.BandLaw` for its outer bands are bounds of the
registry and of the devices.

  §1 what one cycle does to the gates
  §2 sequences of cycles
-/
import DamMonitoring.Controller.NormalBand

namespace DamMonitoring.Controller

open Program Java Motes Persistence
open ControlLogic AutomaticControlUnit
open Control (BandLaw)

/-! ## §1 One cycle -/

/-- Every gate has a tag and a level in range, the same in the registry
and on the device. -/
def GatesReady (w : World ℚ) : Prop :=
  ∀ r ∈ w.resources.gates, r.tag ≠ none ∧
    ∃ c, InRange c ∧ r.value = some c ∧ w.level r.uri = some c

/-- The gate that was registered as `r` is at `c`. -/
def GateAt (r : Resource) (c : Int) (w : World ℚ) : Prop :=
  ∃ q ∈ w.resources.gates, q.name = r.name ∧ q.tag = r.tag ∧ q.uri = r.uri ∧
    q.value = some c ∧ w.level q.uri = some c

/-- The gates have not changed, in the registry and on the devices. -/
structure KeepsGates (w w' : World ℚ) : Prop where
  rows : w'.resources.gates = w.resources.gates
  levels : ∀ r ∈ w.resources.gates, w'.level r.uri = w.level r.uri

variable {w w' : World ℚ} {r : Resource} {c : Int} {maxStale : Int} {level i o : ℚ}

theorem GatesReady.gateReady (h : GatesReady w) {q : Resource} (hq : q ∈ w.resources.gates) :
    ∃ c, q.value = some c ∧ GateReady w q c c := by
  obtain ⟨htag, c, hrange, hvalue, hlevel⟩ := h q hq
  exact ⟨c, hvalue, gateReady_of_mem (s := ⟨w, []⟩) hq htag hrange hvalue hlevel⟩

theorem GateAt.of_mem (h : GatesReady w) (hr : r ∈ w.resources.gates) (hc : r.value = some c) :
    GateAt r c w := by
  obtain ⟨-, c', -, hvalue, hlevel⟩ := h r hr
  obtain rfl : c' = c := Option.some.inj (hvalue.symm.trans hc)
  exact ⟨r, hr, rfl, rfl, rfl, hc, hlevel⟩

/-- What registry and device show of the gate. -/
theorem GateAt.shown (h : GateAt r c w) :
    w.resources.value r.name = some c ∧ w.level r.uri = some c := by
  obtain ⟨q, hq, hname, -, huri, hvalue, hlevel⟩ := h
  rw [← hname, ← huri, ResourceTable.value_of_mem (ResourceTable.mem_of_gate hq)]
  exact ⟨hvalue, hlevel⟩

theorem GateAt.inRange (h : GateAt r c w) (hready : GatesReady w) : InRange c := by
  obtain ⟨q, hq, -, -, -, hvalue, -⟩ := h
  obtain ⟨-, c', hrange, hvalue', -⟩ := hready q hq
  obtain rfl : c' = c := Option.some.inj (hvalue'.symm.trans hvalue)
  exact hrange

theorem GateAt.kept (h : GateAt r c w) (hkeeps : KeepsGates w w') : GateAt r c w' := by
  obtain ⟨q, hq, hname, htag, huri, hvalue, hlevel⟩ := h
  exact ⟨q, hkeeps.rows ▸ hq, hname, htag, huri, hvalue, (hkeeps.levels q hq).trans hlevel⟩

theorem GatesReady.kept (h : GatesReady w) (hkeeps : KeepsGates w w') : GatesReady w' := by
  intro q hq
  rw [hkeeps.rows] at hq
  obtain ⟨htag, c, hrange, hvalue, hlevel⟩ := h q hq
  exact ⟨htag, c, hrange, hvalue, (hkeeps.levels q hq).trans hlevel⟩

/-- **One cycle takes a gate to the opening of the law.** -/
theorem cycle_gateAt (hready : GatesReady w) (halarms : AlarmsReady w) (hauto : w.mode = .AUTO)
    (hθ : w.thresholds.Ordered) (hm : Measured maxStale w level i o) (h : GateAt r c w) :
    GateAt r ((law w.thresholds hθ).opening level (i - o) (isEmergencyGate r) c)
      (afterCycle maxStale w) := by
  have hlaw := faultFreeRun_followsLaw maxStale (s := ⟨w, []⟩) hθ hm halarms fun q hq => by
    obtain ⟨c, -, hc⟩ := hready.gateReady hq
    exact ⟨c, c, hc⟩
  have hrows := runWith_rows (fun _ => Fault.none) maxStale ⟨w, []⟩
  obtain ⟨q, hq, hname, htag, huri, hvalue, -⟩ := h
  obtain ⟨c', hvalue', hcell⟩ := hready.gateReady hq
  obtain rfl : c' = c := Option.some.inj (hvalue'.symm.trans hvalue)
  obtain ⟨hv, hl⟩ := hlaw.gates q hq c' c' hcell
  rw [agreed_level] at hl
  have hem : isEmergencyGate q = isEmergencyGate r := by rw [isEmergencyGate, htag, isEmergencyGate]
  simp only [hauto, reduceCtorEq, if_false, hem] at hv hl
  obtain ⟨q', hq', hname', htag', huri'⟩ := gates_of_rows hrows.symm hq
  have hmem' := ResourceTable.mem_of_gate hq'
  rw [← hname'] at hv
  rw [← huri'] at hl
  exact ⟨q', hq', hname'.trans hname, htag'.trans htag, huri'.trans huri,
    (ResourceTable.value_of_mem hmem').symm.trans hv, hl⟩

theorem cycle_gatesReady (hready : GatesReady w) (halarms : AlarmsReady w)
    (hauto : w.mode = .AUTO) (hθ : w.thresholds.Ordered) (hm : Measured maxStale w level i o) :
    GatesReady (afterCycle maxStale w) := by
  have hrows := runWith_rows (fun _ => Fault.none) maxStale ⟨w, []⟩
  intro q' hq'
  obtain ⟨q, hq, hname, htag, -⟩ := gates_of_rows hrows hq'
  obtain ⟨htagged, c, hrange, hvalue, -⟩ := hready q hq
  -- the row of the gate before the cycle is the row after it
  obtain ⟨q'', hq'', hname'', -, -, hvalue'', hlevel''⟩ :=
    cycle_gateAt hready halarms hauto hθ hm (GateAt.of_mem hready hq hvalue)
  obtain rfl : q'' = q' :=
    ResourceTable.eq_of_fold_name (ResourceTable.mem_of_gate hq'')
      (ResourceTable.mem_of_gate hq') (by rw [hname'', hname])
  exact ⟨htag ▸ htagged, _, (gateNext_reaches hθ level i o q hrange).range, hvalue'', hlevel''⟩

/-! ## §2 Sequences of cycles -/

/-- Cycle `k` starts in `w k`, for the first `N`, and measures `level k`.
Every cycle has fresh data, reaches all alarms, and meets no fault. -/
structure AutoCycles (maxStale : Int) (w : ℕ → World ℚ) (level : ℕ → ℚ) (N : ℕ) : Prop where
  start : GatesReady (w 0)
  auto : ∀ k < N, (w k).mode = .AUTO
  ordered : ∀ k < N, (w k).thresholds.Ordered
  alarms : ∀ k < N, AlarmsReady (w k)
  measured : ∀ k < N, ∃ i o, Measured maxStale (w k) (level k) i o
  next : ∀ k < N, KeepsGates (afterCycle maxStale (w k)) (w (k + 1))

variable {N : ℕ} {w : ℕ → World ℚ} {level : ℕ → ℚ} {x : ℕ → Int}

/-- A gate goes up, by 5 to 10 percent a cycle, until it is open. -/
def Rises (N : ℕ) (x : ℕ → Int) : Prop :=
  (∀ k < N, x k ≤ x (k + 1)) ∧ min 100 (x 0 + 5 * N) ≤ x N ∧ x N ≤ min 100 (x 0 + 10 * N)

/-- A gate goes down, by 5 to 10 percent a cycle, until it is closed. -/
def Falls (N : ℕ) (x : ℕ → Int) : Prop :=
  (∀ k < N, x (k + 1) ≤ x k) ∧ max 0 (x 0 - 10 * N) ≤ x N ∧ x N ≤ max 0 (x 0 - 5 * N)

/-- A gate through `N` cycles: its levels, and how one follows another. -/
structure Follows (w : ℕ → World ℚ) (level : ℕ → ℚ) (N : ℕ) (r : Resource) (x : ℕ → Int) :
    Prop where
  at_level : ∀ k ≤ N, GateAt r (x k) (w k)
  inRange : ∀ k ≤ N, InRange (x k)
  next : ∀ k < N, ∃ hθ : (w k).thresholds.Ordered, ∃ n,
    x (k + 1) = (law (w k).thresholds hθ).opening (level k) n (isEmergencyGate r) (x k)

theorem GateAt.gateLevel_eq {k : ℕ} (h : GateAt r c (w k)) : gateLevel r.uri w k = c := by
  rw [gateLevel, h.shown.2, Option.getD_some]

theorem AutoCycles.ready (h : AutoCycles maxStale w level N) :
    ∀ k ≤ N, GatesReady (w k) := by
  intro k hk
  induction k with
  | zero => exact h.start
  | succ k ih =>
    obtain ⟨i, o, hm⟩ := h.measured k hk
    exact (cycle_gatesReady (ih (by omega)) (h.alarms k hk) (h.auto k hk) (h.ordered k hk)
      hm).kept (h.next k hk)

/-- **The openings of the law, one after the other.** -/
theorem AutoCycles.levels (h : AutoCycles maxStale w level N) (hr : GateAt r c (w 0)) :
    Follows w level N r (gateLevel r.uri w) := by
  have hstep : ∀ k < N, ∀ c, GateAt r c (w k) → ∃ hθ : (w k).thresholds.Ordered, ∃ n,
      GateAt r ((law (w k).thresholds hθ).opening (level k) n (isEmergencyGate r) c)
        (w (k + 1)) := by
    intro k hk c hc
    obtain ⟨i, o, hm⟩ := h.measured k hk
    exact ⟨h.ordered k hk, i - o, (cycle_gateAt (h.ready k hk.le) (h.alarms k hk) (h.auto k hk)
      (h.ordered k hk) hm hc).kept (h.next k hk)⟩
  have hat : ∀ k ≤ N, GateAt r (gateLevel r.uri w k) (w k) := by
    intro k hk
    induction k with
    | zero =>
      rw [hr.gateLevel_eq]
      exact hr
    | succ k ih =>
      obtain ⟨hθ, n, hnext⟩ := hstep k hk _ (ih (by omega))
      rw [hnext.gateLevel_eq]
      exact hnext
  refine ⟨hat, fun k hk => (hat k hk).inRange (h.ready k hk), fun k hk => ?_⟩
  obtain ⟨hθ, n, hnext⟩ := hstep k hk _ (hat k hk.le)
  exact ⟨hθ, n, hnext.gateLevel_eq⟩

/-- Emergency gates are closed by the first cycle, and stay closed. -/
theorem Follows.closed (h : Follows w level N r x) (hem : isEmergencyGate r = true)
    (hsafe : ∀ k < N, level k ≤ (w k).thresholds.safe) : ∀ k < N, x (k + 1) = 0 := by
  intro k hk
  obtain ⟨hθ, n, hnext⟩ := h.next k hk
  rw [hnext, hem]
  exact BandLaw.opening_reserve (hsafe k hk) n (x k)

theorem Follows.rises (h : Follows w level N r x) (hem : isEmergencyGate r = false)
    (hhigh : ∀ k < N, (w k).thresholds.max < level k ∧ level k ≤ (w k).thresholds.safe) :
    Rises N x := by
  obtain ⟨hmono, htop, hlo, hhi⟩ := BandLaw.climb (x := x) (t := 100) (a := 5) (b := 10)
    (by decide) (h.inRange 0 (Nat.zero_le _)).2 (N := N) fun k hk => by
      obtain ⟨hθ, n, hnext⟩ := h.next k hk
      rw [hnext, hem]
      exact BandLaw.opening_above (hhigh k hk).1 (hhigh k hk).2 n (h.inRange k hk.le).1
  exact ⟨hmono, by omega, by omega⟩

theorem Follows.falls (h : Follows w level N r x) (hem : isEmergencyGate r = false)
    (hlow : ∀ k < N, level k < (w k).thresholds.min) : Falls N x := by
  obtain ⟨hmono, hbottom, hlo, hhi⟩ := BandLaw.descend (x := x) (t := 0) (a := 5) (b := 10)
    (by decide) (h.inRange 0 (Nat.zero_le _)).1 (N := N) fun k hk => by
      obtain ⟨hθ, n, hnext⟩ := h.next k hk
      rw [hnext, hem]
      exact BandLaw.opening_below (hlow k hk) n (h.inRange k hk.le).2
  exact ⟨hmono, by omega, by omega⟩

/-- **Sustained high or low water drives the gates all the way**, in the
registry and on the devices. -/
theorem sustained_water (h : AutoCycles maxStale w level N) (hr : r ∈ (w 0).resources.gates)
    (hc : r.value = some c) :
    let x := gateLevel r.uri w
    x 0 = c ∧
    (∀ k ≤ N, (w k).resources.value r.name = some (x k) ∧ (w k).level r.uri = some (x k)) ∧
    ((∀ k < N, (w k).thresholds.max < level k ∧ level k ≤ (w k).thresholds.safe) →
      if isEmergencyGate r then ∀ k < N, x (k + 1) = 0 else Rises N x) ∧
    ((∀ k < N, level k < (w k).thresholds.min) →
      if isEmergencyGate r then ∀ k < N, x (k + 1) = 0 else Falls N x) := by
  intro x
  have hstart := GateAt.of_mem h.start hr hc
  have hfollows := h.levels hstart
  refine ⟨hstart.gateLevel_eq, fun k hk => (hfollows.at_level k hk).shown, fun hhigh => ?_,
    fun hlow => ?_⟩
  · split
    · next hem => exact hfollows.closed hem fun k hk => (hhigh k hk).2
    · next hem => exact hfollows.rises (Bool.eq_false_iff.mpr hem) hhigh
  · split
    · next hem =>
      refine hfollows.closed hem fun k hk => (hlow k hk).le.trans ?_
      exact (h.ordered k hk).min_le_max.trans (h.ordered k hk).max_le_safe
    · next hem => exact hfollows.falls (Bool.eq_false_iff.mpr hem) hlow

/-- One gate, closed at first, at a level between the maximum and the safe
threshold; the inflow alternates. -/
def oneGateRising : ℕ → World ℚ
  | 0 => { demoWorld .AUTO 0 0 false 55 30 20 with resources := oneGate 0 }
  | k + 1 =>
      { demoWorld .AUTO 0 0 false 55 (if k % 2 = 0 then 10 else 30) 20 with
        resources := (afterCycle 5 (oneGateRising k)).resources
        devices := (afterCycle 5 (oneGateRising k)).devices }

theorem oneGateRising_rows (k : ℕ) :
    (oneGateRising k).resources.rows.map unvalued = [unvalued (demoGate1 0)] := by
  induction k with
  | zero => rfl
  | succ k ih => exact (runWith_rows (fun _ => Fault.none) 5 ⟨oneGateRising k, []⟩).trans ih

theorem oneGateRising_cycles (N : ℕ) : AutoCycles 5 oneGateRising (fun _ => 55) N where
  start := by
    intro q hq
    change q ∈ (oneGate 0).gates at hq
    rw [oneGate_gates, List.mem_singleton] at hq
    subst hq
    exact ⟨by simp [demoGate1, Collector.gateResource], 0, ⟨le_rfl, by decide⟩, rfl, rfl⟩
  auto k _ := by cases k <;> rfl
  ordered k _ := by cases k <;> exact demo_ordered
  alarms k _ := by
    intro q hq
    have hrows : (oneGateRising k).resources.rows.map unvalued =
        (oneGate 0).rows.map unvalued := oneGateRising_rows k
    obtain ⟨q', hq', -⟩ := ofType_of_rows hrows hq
    have hnone : (oneGate 0).ofType "alarm" = [] := by decide
    rw [hnone] at hq'
    cases hq'
  measured k _ := by
    cases k with
    | zero =>
      obtain ⟨hlevel, hin, hout⟩ := demo_measured .AUTO 0 0 false 55 30 20
      exact ⟨30, 20, hlevel, hin, hout⟩
    | succ k =>
      obtain ⟨hlevel, hin, hout⟩ :=
        demo_measured .AUTO 0 0 false 55 (if k % 2 = 0 then 10 else 30) 20
      exact ⟨if k % 2 = 0 then 10 else 30, 20, hlevel, hin, hout⟩
  next k _ := ⟨rfl, fun _ _ => rfl⟩

/-- Twenty cycles open it fully. -/
theorem sustained_water_demo : (oneGateRising 20).level gate1Uri = some 100 := by
  have hmem : demoGate1 0 ∈ (oneGate 0).gates := by
    rw [oneGate_gates]
    exact List.mem_cons_self
  obtain ⟨hstart, hshown, hrises, -⟩ := sustained_water (oneGateRising_cycles 20) hmem rfl
  have hem : ¬isEmergencyGate (demoGate1 0) = true := by decide
  have hhigh : ∀ k < 20, (oneGateRising k).thresholds.max < 55 ∧
      (55 : ℚ) ≤ (oneGateRising k).thresholds.safe := by
    intro k _
    have hthresholds : (oneGateRising k).thresholds = demoThresholds := by cases k <;> rfl
    rw [hthresholds]
    exact ⟨by decide, by decide⟩
  have hrises := hrises hhigh
  rw [if_neg hem] at hrises
  obtain ⟨-, hlo, hhi⟩ := hrises
  rw [hstart] at hlo hhi
  have hopen : gateLevel (demoGate1 0).uri oneGateRising 20 = 100 := by omega
  exact (hshown 20 le_rfl).2.trans (congrArg some hopen)

end DamMonitoring.Controller
