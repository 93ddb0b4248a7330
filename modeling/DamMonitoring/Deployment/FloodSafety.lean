/-
DamMonitoring.Deployment.FloodSafety — how far the water rises above the
safe threshold, and how long it stays there.

A flood is answered when a level that was measured in it is stored, a
cycle has acted on it, and the messages of that cycle have reached
mote-3. `Response` follows an answer through a run, and counts the ticks
it takes: as long as these are at most `P`, the water stays below a bound
that depends on `P` alone, and from then on it falls until the flood is
over (`flood_answered`).

  §1 an answer to a flood
  §2 the latest levels
  §3 what one step does to an answer
  §4 every run
-/
import DamMonitoring.Deployment.ClosedLoop

namespace DamMonitoring.Deployment

open Program Java Persistence Collector Controller
open ControlLogic AutomaticControlUnit
open Motes hiding maxInflow

/-! ## §1 Answers -/

/-- Above this mark of the reservoir every level that is reported is above
the safe threshold. -/
def mark (θ : Thresholds ℚ) : Int := surface * (⌊1000 * θ.safe⌋ + 5)

inductive Stage where
  /-- No level of this flood has been stored. -/
  | unseen
  | seen
  /-- A cycle has opened the gates, but mote-3 has not been told. -/
  | decided
  | obeyed
  deriving DecidableEq, Repr

/-- `sent` are the reports on their way that were published in this flood,
`late` its ticks before the answer has got to mote-3, `draining` those
since. -/
structure Response where
  stage : Stage
  sent : Nat
  late : Nat
  draining : Nat
  deriving DecidableEq, Repr

/-- There is no flood. -/
def Response.idle : Response := ⟨.unseen, 0, 0, 0⟩

namespace Loop

/-- The next level to be stored is later than those in the table. -/
def newer (site : Site) (s : Loop) : Bool :=
  s.world.waterLevels.all fun row => row.timestamp < site.settings.datetime s.world.clock

/-- A cycle would find the latest level fresh. -/
def fresh (site : Site) (s : Loop) : Bool :=
  (retrieveWaterLevel s.world.waterLevels).any fun m =>
    s.world.clock - site.maxStale * 60000 ≤ m.timestamp

end Loop

/-- What an event that leads from `s` to `s'` does to the answer. -/
def Response.step (site : Site) (mark : Int) (s : Loop) (e : Loop.Event) (s' : Loop)
    (r : Response) : Response :=
  match e with
  | .tick _ _ =>
    if s'.sensor.reservoir ≤ mark then idle
    else if r.stage = .obeyed then { r with draining := r.draining + 1 }
    else { r with late := r.late + 1 }
  | .publish => if s.sensor.reservoir ≤ mark then r else { r with sent := r.sent + 1 }
  | .process =>
    let sees := r.stage = .unseen ∧ s.reports.length ≤ r.sent ∧ s.held site = false ∧ s.newer site
    { r with stage := if sees then .seen else r.stage, sent := min r.sent s'.reports.length }
  | .cycle =>
    let stage := if s'.plant.pending = [] then .obeyed else .decided
    { r with stage := if r.stage = .seen ∧ s.fresh site then stage else r.stage }
  | .deliver _ =>
    { r with stage := if r.stage = .decided ∧ s'.plant.pending = [] then .obeyed else r.stage }
  | _ => r

/-- The parties, watched. -/
def watch (site : Site) (mark : Int) (x : Loop × Response) (e : Loop.Event) :
    Option (Loop × Response) :=
  (x.1.step site e).map fun s' => (s', x.2.step site mark x.1 e s')

/-! ## §2 The latest levels -/

/-- Whichever of the latest levels is read, it is above the safe
threshold. -/
def Flooded (safe : ℚ) (rows : List (WaterLevel ℚ)) : Prop :=
  rows ≠ [] ∧ ∀ m ∈ rows, (∀ m' ∈ rows, m'.timestamp ≤ m.timestamp) → safe < m.value

variable {safe : ℚ} {rows : List (WaterLevel ℚ)} {row m : WaterLevel ℚ}

theorem Flooded.of_newer (hhigh : safe < row.value)
    (hnewer : ∀ m ∈ rows, m.timestamp < row.timestamp) : Flooded safe (row :: rows) := by
  refine ⟨List.cons_ne_nil _ _, fun m hm hlatest => ?_⟩
  rcases List.mem_cons.mp hm with rfl | hold
  · exact hhigh
  · exact absurd (hlatest row List.mem_cons_self) (not_le.mpr (hnewer m hold))

theorem Flooded.cons (h : Flooded safe rows) (hhigh : safe < row.value) :
    Flooded safe (row :: rows) := by
  refine ⟨List.cons_ne_nil _ _, fun m hm hlatest => ?_⟩
  rcases List.mem_cons.mp hm with rfl | hold
  · exact hhigh
  · exact h.2 m hold fun m' hm' => hlatest m' (List.mem_cons_of_mem _ hm')

theorem Flooded.retrieved (h : Flooded safe rows) (hm : retrieveWaterLevel rows = some m) :
    safe < m.value :=
  h.2 m (List.argmax_mem hm) fun _ hm' => List.le_of_mem_argmax hm' hm

theorem Flooded.exists_retrieved (h : Flooded safe rows) :
    ∃ m, retrieveWaterLevel rows = some m := by
  cases hm : retrieveWaterLevel rows with
  | none => exact absurd (List.argmax_eq_none.mp hm) h.1
  | some m => exact ⟨m, rfl⟩

/-- A level that the gauge shows above the mark. -/
theorem high_of_gauged {θ : Thresholds ℚ} {s : WaterLevelSensor} (hmark : mark θ < s.reservoir)
    (hgauged : s.Gauged) : θ.safe < (s.waterLevel / 1000 : ℚ) := by
  have hsurface : surface = 1024 := rfl
  have hlevel : ⌊1000 * θ.safe⌋ + 1 ≤ s.waterLevel := by
    simp only [mark, WaterLevelSensor.Gauged, hsurface] at hmark hgauged
    omega
  have hfloor : 1000 * θ.safe < ((⌊1000 * θ.safe⌋ + 1 : Int) : ℚ) := by
    push_cast
    exact Int.lt_floor_add_one _
  have hcast : ((⌊1000 * θ.safe⌋ + 1 : Int) : ℚ) ≤ s.waterLevel := by exact_mod_cast hlevel
  linarith

/-! ## §3 One step -/

/-- A cycle has acted on the flood. -/
def Stage.Acted (stage : Stage) : Prop := stage = .decided ∨ stage = .obeyed

/-- What the answer has got done, and how high the water is by then. -/
structure Answers (site : Site) (θ : Thresholds ℚ) (s : Loop) (r : Response) : Prop where
  sound : s.Sound site θ
  idle : s.sensor.reservoir ≤ mark θ → r = .idle
  height : s.sensor.reservoir + 1001 * r.draining ≤
    mark θ + WaterLevelSensor.maxRise * r.late
  gauged : mark θ < s.sensor.reservoir → s.sensor.Gauged
  sent : r.sent ≤ s.reports.length
  high : ∀ level ∈ s.reports.drop (s.reports.length - r.sent), θ.safe < (level / 1000 : ℚ)
  all : r.stage ≠ .unseen → s.reports.length ≤ r.sent
  seen : r.stage ≠ .unseen → Flooded θ.safe s.world.waterLevels
  acted : r.stage.Acted → Floodgates s.world
  obeyed : r.stage = .obeyed → s.plant.pending = []

variable {site : Site} {θ : Thresholds ℚ} {s s' : Loop} {r : Response}

namespace Answers

/-- What moves no water and no report. -/
theorem frame {stage : Stage} (h : Answers site θ s r) (hsound : s'.Sound site θ)
    (hreservoir : s'.sensor.reservoir = s.sensor.reservoir)
    (hlevel : s'.sensor.waterLevel = s.sensor.waterLevel) (hreports : s'.reports = s.reports)
    (hrows : s'.world.waterLevels = s.world.waterLevels)
    (hseen : stage ≠ .unseen → r.stage ≠ .unseen) (hacted : stage.Acted → Floodgates s'.world)
    (hobeyed : stage = .obeyed → s'.plant.pending = []) : Answers site θ s' { r with stage } where
  sound := hsound
  idle hlow := by
    have hidle := h.idle (hreservoir ▸ hlow)
    subst hidle
    have hstage : stage = .unseen := by
      by_contra hne
      exact hseen hne rfl
    rw [hstage]
    rfl
  height := hreservoir ▸ h.height
  gauged hmark := by
    have hgauged := h.gauged (hreservoir ▸ hmark)
    simp only [WaterLevelSensor.Gauged, hreservoir, hlevel] at hgauged ⊢
    exact hgauged
  sent := hreports ▸ h.sent
  high := hreports ▸ h.high
  all hne := hreports ▸ h.all (hseen hne)
  seen hne := hrows ▸ h.seen (hseen hne)
  acted := hacted
  obeyed := hobeyed

/-- Once the answer has got to mote-3, its outflows are those of open
gates. -/
theorem open_flows {n : Motes.Channel → Int} (h : Answers site θ s r) (hobeyed : r.stage = .obeyed)
    (htracks : s.sensor.Tracks n) (o : Outflow) : n (channel o) = 100 := by
  obtain ⟨v, hv, hflow⟩ := h.sound.flows o
  obtain ⟨q, hq, hname⟩ := h.sound.work.deployed.outflows o
  obtain ⟨hregistered, -⟩ := (h.acted (.inr hobeyed)).gates q hq
  rw [← hname, ResourceTable.value_of_mem (ResourceTable.mem_of_gate hq), hregistered] at hv
  obtain rfl := Option.some.inj hv
  rw [h.obeyed hobeyed] at hflow
  have hpercent : s.sensor.flow (channel o) = 100 * (channel o).maxFlow := hflow
  rw [htracks.flow_eq] at hpercent
  have hpos : (channel o).maxFlow ≠ 0 := by cases o <;> decide
  exact Int.eq_of_mul_eq_mul_right hpos hpercent

/-- A tick above the mark goes up by `maxRise` at most, and down by 1001
once the water flows through open gates. -/
theorem tick {random₁ random₂ : Rand} {P : Nat} (h : Answers site θ s r)
    (hstep : s.step site (.tick random₁ random₂) = some s') (hlate : r.late ≤ P)
    (hbrim : mark θ + WaterLevelSensor.maxRise * (P + 1) ≤ WaterLevelSensor.brim)
    (hwet : s.sensor.Wet random₁ random₂) :
    Answers site θ s' (r.step site (mark θ) s (.tick random₁ random₂) s') := by
  have hsound := h.sound.step hstep
  obtain ⟨plant, hplant, rfl⟩ := Option.map_eq_some_iff.mp hstep
  obtain ⟨sensor, htick, rfl⟩ := Option.map_eq_some_iff.mp hplant
  obtain ⟨n, htracks, hn⟩ := h.sound.tracks
  have hrise : s.sensor.change random₁ ≤ WaterLevelSensor.maxRise :=
    WaterLevelSensor.change_le_maxRise random₁ (htracks.balance_range hn).2
  have hmax : WaterLevelSensor.maxRise = 145535 := rfl
  have hheight := h.height
  have hunclamped : s.plant.sensor.unclamped random₁ =
      s.sensor.reservoir + s.sensor.change random₁ := WaterLevelSensor.unclamped_eq random₁ s.sensor
  rw [hmax] at hbrim hheight hrise
  obtain ⟨hreservoir, hgauged⟩ := WaterLevelSensor.tick_between htick hwet (by omega)
  simp only [Response.step]
  by_cases hlow : sensor.reservoir ≤ mark θ
  · have hover : (⟨{ s.plant with sensor }, s.reports, s.subscriber⟩ : Loop).sensor.reservoir ≤
        mark θ := hlow
    rw [if_pos hover]
    exact ⟨hsound, fun _ => rfl, by simpa [Response.idle] using hlow, fun _ => hgauged,
      Nat.zero_le _, by simp [Response.idle], fun hne => absurd rfl hne, fun hne => absurd rfl hne,
      by simp [Response.idle, Stage.Acted], by simp [Response.idle]⟩
  · have hhigh : ¬(⟨{ s.plant with sensor }, s.reports, s.subscriber⟩ : Loop).sensor.reservoir ≤
        mark θ := hlow
    have hafter : (⟨{ s.plant with sensor }, s.reports, s.subscriber⟩ : Loop).sensor.reservoir =
        s.sensor.reservoir + s.sensor.change random₁ := hreservoir
    rw [if_neg hhigh]
    split
    · next hobeyed =>
      have hdrains : s.sensor.change random₁ ≤ -1001 := by
        have hopen := h.open_flows hobeyed htracks
        have hbalance := WaterLevelSensor.open_balance htracks (hn .inflow).2 (hopen .outflow1)
          (hopen .outflow2)
        exact WaterLevelSensor.change_drains random₁ (by omega)
      refine ⟨hsound, fun hle => absurd hle hlow, ?_, fun _ => hgauged, h.sent, h.high, h.all,
        h.seen, h.acted, h.obeyed⟩
      rw [hafter, hmax]
      push_cast
      omega
    · refine ⟨hsound, fun hle => absurd hle hlow, ?_, fun _ => hgauged, h.sent, h.high, h.all,
        h.seen, h.acted, h.obeyed⟩
      rw [hafter, hmax]
      push_cast
      omega

/-- **A level is published**: in a flood it is above the threshold. -/
theorem publish (h : Answers site θ s r) (hstep : s.step site .publish = some s') :
    Answers site θ s' (r.step site (mark θ) s .publish s') := by
  have hsound := h.sound.step hstep
  obtain rfl := Option.some.inj hstep
  have hlength : (s.reports ++ [s.sensor.waterLevel]).length = s.reports.length + 1 := by simp
  simp only [Response.step]
  by_cases hlow : s.sensor.reservoir ≤ mark θ
  · obtain rfl := h.idle hlow
    rw [if_pos hlow]
    refine ⟨hsound, h.idle, h.height, h.gauged, Nat.zero_le _, ?_, fun hne => absurd rfl hne,
      fun hne => absurd rfl hne, h.acted, h.obeyed⟩
    simp [Response.idle]
  · rw [if_neg hlow]
    have hmark : mark θ < s.sensor.reservoir := Int.not_le.mp hlow
    refine ⟨hsound, fun hle => absurd hle hlow, h.height, h.gauged, ?_, fun level hlevel => ?_,
      fun hne => ?_, h.seen, h.acted, h.obeyed⟩
    · rw [hlength]
      exact Nat.succ_le_succ h.sent
    · have hsame : s.reports.length + 1 - (r.sent + 1) = s.reports.length - r.sent := by omega
      rw [hlength, hsame, List.drop_append_of_le_length (Nat.sub_le _ _)] at hlevel
      rcases List.mem_append.mp hlevel with hold | hnew
      · exact h.high level hold
      · exact List.mem_singleton.mp hnew ▸ high_of_gauged hmark (h.gauged hmark)
    · rw [hlength]
      exact Nat.succ_le_succ (h.all hne)

/-- A level above the threshold floods the table if it is the latest, and
leaves it flooded. -/
theorem flooded_collect {level : Int} {reports : List Int} (h : Answers site θ s r)
    (hlevel : 0 ≤ level ∧ level ≤ maxWaterLevel) (hhigh : θ.safe < (level / 1000 : ℚ))
    (hor : Flooded θ.safe s.world.waterLevels ∨ s.held site = false ∧ s.newer site = true) :
    Flooded θ.safe
      (Loop.collect site (s.report site level) { s with reports }).world.waterLevels := by
  have hcollect : (Loop.collect site (s.report site level) { s with reports }).world.waterLevels =
    (messageArrived site.settings (s.report site level) s.subscriber).waterLevel := rfl
  cases hheld : s.held site with
  | true =>
    rw [hcollect, Loop.messageArrived_of_held hlevel hheld, ← h.sound.waterLevels]
    rcases hor with hflooded | ⟨hfree, -⟩
    · exact hflooded
    · rw [hheld] at hfree
      cases hfree
  | false =>
    obtain ⟨id, htable⟩ := Loop.waterLevel_of_not_held hlevel hheld
    rw [hcollect, htable, ← h.sound.waterLevels]
    rcases hor with hflooded | ⟨-, hnewer⟩
    · exact hflooded.cons hhigh
    · refine Flooded.of_newer hhigh fun m hm => ?_
      simpa using List.all_eq_true.mp hnewer m hm

/-- **A level is stored**: the first of the flood is seen if it is the
latest, and those that follow leave the table flooded. -/
theorem process (h : Answers site θ s r) (hstep : s.step site .process = some s') :
    Answers site θ s' (r.step site (mark θ) s .process s') := by
  have hsound := h.sound.step hstep
  simp only [Loop.step] at hstep
  split at hstep
  · cases hstep
  · next level reports hqueue =>
    obtain rfl := Option.some.inj hstep
    have hlevel := h.sound.reports level (by simp [hqueue])
    have hlength : s.reports.length = reports.length + 1 := by simp [hqueue]
    -- the oldest report is of this flood if all of them are
    have hoverall : s.reports.length ≤ r.sent → θ.safe < (level / 1000 : ℚ) := by
      intro hall
      refine h.high level ?_
      rw [show s.reports.length - r.sent = 0 by omega, hqueue]
      exact List.mem_cons_self
    have hrest : ∀ l ∈ reports.drop (reports.length - min r.sent reports.length),
        θ.safe < (l / 1000 : ℚ) := by
      intro l hl
      refine h.high l ?_
      by_cases hall : s.reports.length ≤ r.sent
      · rw [show s.reports.length - r.sent = 0 by omega, hqueue]
        exact List.mem_cons_of_mem _ (List.mem_of_mem_drop hl)
      · rw [show s.reports.length - r.sent =
          reports.length - min r.sent reports.length + 1 by omega, hqueue]
        exact hl
    simp only [Response.step]
    split
    · next hsees =>
      obtain ⟨hunseen, hall, hheld, hnewer⟩ := hsees
      refine ⟨hsound, fun hlow => ?_, h.height, h.gauged, Nat.min_le_right _ _, hrest, fun _ => ?_,
        fun _ => h.flooded_collect hlevel (hoverall hall) (.inr ⟨hheld, hnewer⟩), ?_, ?_⟩
      · obtain rfl := h.idle hlow
        simp [Response.idle, hlength] at hall
      · have hrest : (Loop.collect site (s.report site level) { s with reports }).reports.length =
          reports.length := rfl
        dsimp only
        omega
      · simp [Stage.Acted]
      · simp
    · refine ⟨hsound, fun hlow => ?_, h.height, h.gauged, Nat.min_le_right _ _, hrest,
        fun hne => ?_, fun hne => ?_, fun hacted => ?_, h.obeyed⟩
      · obtain rfl := h.idle hlow
        simp [Response.idle]
      · have hall := h.all hne
        have hrest : (Loop.collect site (s.report site level) { s with reports }).reports.length =
          reports.length := rfl
        dsimp only
        omega
      · exact h.flooded_collect hlevel (hoverall (h.all hne)) (.inl (h.seen hne))
      · exact ⟨(h.acted hacted).gates, (h.acted hacted).alarms⟩

/-- A cycle that finds the table flooded opens the gates, or leaves them
open. -/
theorem floodgates_cycle (h : s.Sound site θ) (hflooded : Flooded θ.safe s.world.waterLevels)
    (hor : s.fresh site = true ∨ Floodgates s.world) :
    Floodgates (faultFreeRun site.maxStale s.plant.controller).world := by
  obtain ⟨m, hm⟩ := hflooded.exists_retrieved
  have hsafe : s.world.thresholds.safe < m.value := by
    rw [h.thresholds]
    exact hflooded.retrieved hm
  cases hin : cycleInputs site.maxStale s.world with
  | none =>
    have hquiet := runWith_quiet faultFree_answering hin
    rw [faultFreeRun, hquiet.world]
    rcases hor with hfresh | hopen
    · have hrecent : s.world.clock - site.maxStale * 60000 ≤ m.timestamp := by
        simpa [Loop.fresh, hm] using hfresh
      exact absurd h.recorded ((cycleInputs_eq_none_iff hm hrecent).mp hin)
    · exact hopen
  | some inputs =>
    obtain ⟨l, i, o⟩ := inputs
    obtain rfl : l = m.value := cycleInputs_level hm hin
    exact h.work.floodgates (measured_of_inputs hin) hsafe

/-- **A cycle**: once the flood is seen it opens the gates, and it says
nothing more once they are open. -/
theorem cycle (h : Answers site θ s r) (hstep : s.step site .cycle = some s') :
    Answers site θ s' (r.step site (mark θ) s .cycle s') := by
  have hsound := h.sound.step hstep
  obtain rfl := Option.some.inj hstep
  have hrows := (cycle_sameData site.maxStale s.plant.controller).waterLevels
  refine h.frame hsound rfl rfl rfl hrows (fun hne => ?_) (fun hacted => ?_) fun hobeyed => ?_
  · by_cases hseen : r.stage = .seen ∧ s.fresh site = true
    · simp [hseen.1]
    · simpa [hseen] using hne
  · by_cases hseen : r.stage = .seen ∧ s.fresh site = true
    · exact floodgates_cycle h.sound (h.seen (by simp [hseen.1])) (.inl hseen.2)
    · rw [if_neg hseen] at hacted
      have hne : r.stage ≠ .unseen := by
        rcases hacted with hdecided | hobeyed
        · simp [hdecided]
        · simp [hobeyed]
      exact floodgates_cycle h.sound (h.seen hne) (.inr (h.acted hacted))
  · by_cases hseen : r.stage = .seen ∧ s.fresh site = true
    · rw [if_pos hseen] at hobeyed
      by_contra hpending
      rw [if_neg hpending] at hobeyed
      cases hobeyed
    · rw [if_neg hseen] at hobeyed
      have hopen := h.acted (.inr hobeyed)
      have hafter := floodgates_cycle h.sound (h.seen (by simp [hobeyed])) (.inr hopen)
      have hsilent := h.sound.work.cycle_silent site.maxStale fun q hq => by
        obtain ⟨q', hq', hname, -⟩ := gates_of_rows
          (runWith_rows (fun _ => Fault.none) site.maxStale s.plant.controller).symm hq
        rw [ResourceTable.value_of_mem (ResourceTable.mem_of_gate hq), (hopen.gates q hq).1,
          ← hname, ← (hafter.gates q' hq').1]
        exact ResourceTable.value_of_mem (ResourceTable.mem_of_gate hq')
      have hpending := h.obeyed hobeyed
      simp only [Plant.pending, hsilent] at hpending ⊢
      exact hpending

theorem deliver {keyBuf : Motes.Channel → List Char} (h : Answers site θ s r)
    (hstep : s.step site (.deliver keyBuf) = some s') :
    Answers site θ s' (r.step site (mark θ) s (.deliver keyBuf) s') := by
  have hsound := h.sound.step hstep
  obtain ⟨plant, hplant, rfl⟩ := Option.map_eq_some_iff.mp hstep
  simp only [Plant.step] at hplant
  split at hplant
  · cases hplant
  · next gate level rest hqueue =>
    obtain rfl := Option.some.inj hplant
    obtain ⟨hlevel, hreservoir, -⟩ := WaterLevelSensor.handleMessage_frame
      ⟨(gateMessage gate level).tokens, keyBuf, saturate⟩ s.sensor
    refine h.frame hsound hreservoir hlevel rfl rfl (fun hne => ?_) (fun hacted => ?_)
      fun hobeyed => ?_
    · split at hne
      · next hdecided => simp [hdecided.1]
      · exact hne
    · split at hacted
      · next hdecided => exact h.acted (.inl hdecided.1)
      · exact h.acted hacted
    · split at hobeyed
      · next hdecided => exact hdecided.2
      · rw [h.obeyed hobeyed] at hqueue
        cases hqueue

/-- What is told of the inflow. -/
theorem inflow {level : Int} {keyBuf : Motes.Channel → List Char} (h : Answers site θ s r)
    (hstep : s.step site (.inflow level keyBuf) = some s') : Answers site θ s' r := by
  have hsound := h.sound.step hstep
  obtain rfl := Option.some.inj hstep
  obtain ⟨hlevel, hreservoir, -⟩ := WaterLevelSensor.handleMessage_frame
    ⟨(gateMessage "inflow" level).tokens, keyBuf, saturate⟩ s.sensor
  exact h.frame hsound hreservoir hlevel rfl rfl id h.acted h.obeyed

theorem processFlowRate {payload : Payload ℚ} {save : Nat → Save} (h : Answers site θ s r)
    (hstep : s.step site (.processFlowRate payload save) = some s') : Answers site θ s' r := by
  have hsound := h.sound.step hstep
  obtain rfl := Option.some.inj hstep
  refine h.frame hsound rfl rfl rfl ?_ id (fun hacted => ?_) h.obeyed
  · rw [h.sound.waterLevels]
    exact waterLevel_of_topic_ne (by simp) site.settings s.subscriber
  · exact ⟨(h.acted hacted).gates, (h.acted hacted).alarms⟩

theorem wait {milliseconds : Nat} (h : Answers site θ s r)
    (hstep : s.step site (.wait milliseconds) = some s') : Answers site θ s' r := by
  have hsound := h.sound.step hstep
  obtain rfl := Option.some.inj hstep
  exact h.frame hsound rfl rfl rfl rfl id
    (fun hacted => ⟨(h.acted hacted).gates, (h.acted hacted).alarms⟩) h.obeyed

end Answers

/-! ## §4 Every run -/

/-- No tick takes more out of the reservoir than there is. -/
def WetTicks (x : Loop × Response) (e : Loop.Event) : Prop :=
  match e with
  | .tick random₁ random₂ => x.1.sensor.Wet random₁ random₂
  | _ => True

instance (x : Loop × Response) (e : Loop.Event) : Decidable (WetTicks x e) :=
  match e with
  | .tick random₁ random₂ => inferInstanceAs (Decidable (x.1.sensor.Wet random₁ random₂))
  | .inflow _ _ => isTrue trivial
  | .publish => isTrue trivial
  | .process => isTrue trivial
  | .processFlowRate _ _ => isTrue trivial
  | .cycle => isTrue trivial
  | .deliver _ => isTrue trivial
  | .wait _ => isTrue trivial

theorem Answers.step {P : Nat} {x' : Loop × Response} {e : Loop.Event}
    (h : Answers site θ s r) (hlate : r.late ≤ P)
    (hbrim : mark θ + WaterLevelSensor.maxRise * (P + 1) ≤ WaterLevelSensor.brim)
    (hwet : WetTicks (s, r) e) (hstep : watch site (mark θ) (s, r) e = some x') :
    Answers site θ x'.1 x'.2 := by
  obtain ⟨s', hs', rfl⟩ := Option.map_eq_some_iff.mp hstep
  cases e with
  | tick random₁ random₂ => exact h.tick hs' hlate hbrim hwet
  | inflow level keyBuf => exact h.inflow hs'
  | publish => exact h.publish hs'
  | process => exact h.process hs'
  | processFlowRate payload save => exact h.processFlowRate hs'
  | cycle => exact h.cycle hs'
  | deliver keyBuf => exact h.deliver hs'
  | wait milliseconds => exact h.wait hs'

/-- What holds of a flood that has met no more than `P` ticks before it
was answered. -/
structure Contained (site : Site) (θ : Thresholds ℚ) (P : Nat) (x : Loop × Response) : Prop where
  height : x.1.sensor.reservoir ≤ mark θ + WaterLevelSensor.maxRise * P
  draining : 1001 * x.2.draining ≤ WaterLevelSensor.maxRise * P
  acted : x.2.stage.Acted → Floodgates x.1.world
  obeyed : x.2.stage = .obeyed → ∀ o, x.1.sensor.flow (channel o) = 100 * (channel o).maxFlow

theorem Answers.contained {P : Nat} (h : Answers site θ s r) (hlate : r.late ≤ P) :
    Contained site θ P (s, r) where
  height := by
    have hheight := h.height
    have hmax : WaterLevelSensor.maxRise = 145535 := rfl
    rw [hmax] at hheight ⊢
    dsimp only
    omega
  draining := by
    have hheight := h.height
    have hmax : WaterLevelSensor.maxRise = 145535 := rfl
    rw [hmax] at hheight ⊢
    by_cases hlow : s.sensor.reservoir ≤ mark θ
    · obtain rfl := h.idle hlow
      simp [Response.idle]
    · dsimp only
      omega
  acted := h.acted
  obeyed hobeyed o := by
    obtain ⟨n, htracks, -⟩ := h.sound.tracks
    rw [htracks.flow_eq, h.open_flows hobeyed htracks]

/-- **Floods are answered**, from a start in agreement with the water below
the mark, and if `P + 1` ticks do not fill what is above it: in every run
in which no flood meets more than `P` ticks before its answer has got to
mote-3, the water stays within `maxRise * P` of the mark. Once a cycle
has acted, every gate is open and every alarm on, and stays so until the
water is below the mark again, which takes no more than
`maxRise * P / 1001` ticks from when mote-3 has been told. -/
theorem flood_answered {P : Nat} {es : List Loop.Event} (hsound : s.Sound site θ)
    (hlow : s.sensor.reservoir ≤ mark θ)
    (hbrim : mark θ + WaterLevelSensor.maxRise * (P + 1) ≤ WaterLevelSensor.brim)
    (hwet : Machine.Each (watch site (mark θ)) WetTicks (s, .idle) es)
    (hlate : Machine.Always (watch site (mark θ)) (fun x => x.2.late ≤ P) (s, .idle) es) :
    Machine.Always (watch site (mark θ)) (Contained site θ P) (s, .idle) es := by
  have hstart : Answers site θ s .idle :=
    ⟨hsound, fun _ => rfl, by simpa [Response.idle] using hlow,
      fun hmark => absurd hlow (Int.not_le.mpr hmark), Nat.zero_le _, by simp [Response.idle],
      fun hne => absurd rfl hne, fun hne => absurd rfl hne, by simp [Response.idle, Stage.Acted],
      by simp [Response.idle]⟩
  have halways := Machine.always_guarded (I := fun x => Answers site θ x.1 x.2)
    (fun x e x' h hlate hwet hstep => h.step hlate hbrim hwet hstep) hstart hlate hwet
  exact halways.mono fun x hx => hx.1.contained hx.2

open Loop (demoSite beforeFlood beforeFlood_sound flood)

theorem demo_mark : mark demoThresholds = 61445120 := by
  decide +kernel

theorem flood_answered_demo : ∃ x,
    Machine.run (watch demoSite (mark demoThresholds)) (beforeFlood, .idle) flood = some x ∧
      x.2 = ⟨.obeyed, 0, 1, 1⟩ ∧ x.1.sensor.reservoir ≤ 61590655 ∧ Floodgates x.1.world := by
  have hruns : (Machine.run (watch demoSite (mark demoThresholds)) (beforeFlood, .idle)
      flood).map (·.2) = some ⟨.obeyed, 0, 1, 1⟩ := by
    decide +kernel
  obtain ⟨x, hrun, hx⟩ := Option.map_eq_some_iff.mp hruns
  have halways : Machine.Always (watch demoSite (mark demoThresholds))
      (Contained demoSite demoThresholds 1) (beforeFlood, .idle) flood :=
    flood_answered beforeFlood_sound (by rw [demo_mark]; decide) (by rw [demo_mark]; decide)
      (by decide +kernel) (by decide +kernel)
  have hcontained := Machine.always_iff.mp halways flood List.prefix_rfl x hrun
  have hheight := hcontained.height
  rw [demo_mark] at hheight
  exact ⟨x, hrun, hx, hheight.trans (by decide), hcontained.acted (.inr (by rw [hx]))⟩

end DamMonitoring.Deployment
