/-
DamMonitoring.Controller.NormalBand — cycle after cycle between the
minimum and the maximum threshold, with one primary gate.

One percent of opening lets out one cubic metre per second. The inflow is
constant, the sensors stay within the steady band of the simulation
around it and around the level of the gate, and time passes between two
cycles. `cycle_normalBand` takes one cycle to one round of the loop of
`Control.Settling`; `no_hunting` carries its bounds over: the gate is
only ever opened or only ever closed, every command brings it closer, and
there are at most `⌈|F - g₀| / 0.4⌉` commands.

  §1 a run changes no row but in its value
  §2 the deployment and its runs
  §3 one cycle
  §4 all cycles
-/
import DamMonitoring.Control.Settling
import DamMonitoring.Controller.ControlLaw
import Mathlib.Algebra.BigOperators.Group.Finset.Piecewise
import Mathlib.Algebra.Order.Floor.Ring
import Mathlib.Data.Rat.Floor

namespace DamMonitoring.Controller

open Program Java Motes Persistence
open ControlLogic AutomaticControlUnit
open Control (BandLaw)

/-! ## §1 Rows -/

section Rows

open Contract

variable {F : Type} [JavaFloat F] {t : Thread} {f : Action F → Fault} {rows : List Resource}

/-- A row without its value. -/
def unvalued (r : Resource) : Resource := { r with value := none }

/-- The rows, but for their values. -/
def RowsAre (rows : List Resource) (s : State F) : Prop :=
  s.world.resources.rows.map unvalued = rows

/-- One action keeps what its effect keeps. -/
theorem keeps_perform {P : State F → Prop} {a : Action F}
    (h : ∀ s, P s → P (handler t (f a) a s).2) :
    (under t f).Keeps (ε := JException) P (perform a) := by
  intro s hs
  rw [show perform a = .act a .pure from rfl, under_act]
  exact h s hs

theorem silent_rowsAre : Silent (under t f) (RowsAre rows) := by
  intro a ha
  refine keeps_perform fun s hs => ?_
  cases a <;> first | exact hs | cases ha

theorem keeps_rowsAre_put (uri : Uri) (payload : ObjectNode) :
    (under t f).Keeps (ε := JException) (RowsAre rows) (perform (.clientPut uri payload)) := by
  refine keeps_perform fun s hs => ?_
  simpa only [RowsAre, handler, World.perform, World.clientPut_resources] using hs

theorem unvalued_updateRow (name : String) (v : Int) (r : Resource) :
    unvalued (ResourceTable.updateRow name v r) = unvalued r := by
  unfold ResourceTable.updateRow
  split <;> rfl

theorem keeps_rowsAre_update (name : String) (v : Int) :
    (under t f).Keeps (ε := JException) (RowsAre rows) (perform (.updateValue name v)) := by
  refine keeps_perform fun s hs => ?_
  have hset : (s.world.setValue name v).resources.rows.map unvalued = rows := by
    rw [← hs]
    simp [World.setValue, ResourceTable.setValue, unvalued_updateRow]
  simp only [RowsAre, handler, World.perform]
  cases f (.updateValue name v) with
  | failed message => exact hs
  | none => exact hset
  | requestLost => exact hset
  | responseLost => exact hset

/-- **A run changes no row but in its value.** -/
theorem runWith_rows (f : Action F → Fault) (maxStale : Int) (s : State F) :
    RowsAre (s.world.resources.rows.map unvalued) (runWith f maxStale s) := by
  refine run_of_safe (keeps_run silent_rowsAre maxStale (fun w i o => ?_) s rfl)
  refine keeps_actuate silent_rowsAre w i o (fun status => ?_) fun name next _ => ?_
  · refine keeps_setAlarmStatus silent_rowsAre status fun alarm => ?_
    exact keeps_updateAlarm silent_rowsAre status alarm (fun uri => keeps_rowsAre_put uri _)
      (keeps_rowsAre_update _ _)
  · exact keeps_updateGate silent_rowsAre name next (fun uri L => keeps_rowsAre_put uri _)
      fun L => keeps_rowsAre_update name L

/-- The actuators after a run are those before, but for their values. -/
theorem ofType_of_rows {rt rt' : ResourceTable} {type : String}
    (h : rt'.rows.map unvalued = rt.rows.map unvalued) {r' : Resource}
    (hr' : r' ∈ rt'.ofType type) :
    ∃ r ∈ rt.ofType type, r.name = r'.name ∧ r.tag = r'.tag ∧ r.uri = r'.uri := by
  obtain ⟨hmem, htype⟩ := ResourceTable.mem_ofType.mp hr'
  have hrow : unvalued r' ∈ rt.rows.map unvalued := h ▸ List.mem_map_of_mem hmem
  obtain ⟨r, hr, heq⟩ := List.mem_map.mp hrow
  simp only [unvalued, Resource.mk.injEq] at heq
  obtain ⟨hname, htype', -, htag, huri, -⟩ := heq
  exact ⟨r, ResourceTable.mem_ofType.mpr ⟨hr, by rw [htype', htype]⟩, hname, htag, huri⟩

theorem gates_of_rows {rt rt' : ResourceTable}
    (h : rt'.rows.map unvalued = rt.rows.map unvalued) {r' : Resource} (hr' : r' ∈ rt'.gates) :
    ∃ r ∈ rt.gates, r.name = r'.name ∧ r.tag = r'.tag ∧ r.uri = r'.uri :=
  ofType_of_rows h hr'

end Rows

/-! ## §2 The deployment -/

variable {F : Type} [JavaFloat F]

/-- The world after a fault-free cycle. -/
def afterCycle (maxStale : Int) (w : World F) : World F := (faultFreeRun maxStale ⟨w, []⟩).world

/-- The PUTs a fault-free cycle sends to gates. -/
def gateCommands (maxStale : Int) (w : World F) : List (Uri × ObjectNode) :=
  (faultFreeRun maxStale ⟨w, []⟩).puts.filter fun p =>
    w.resources.gates.any fun gate => gate.uri = p.1

/-- The level of the gate behind `u`, where only the one behind `uri` is
open, at `g`. -/
def levelOf (uri : Uri) (g : Int) (u : Uri) : Int := if u = uri then g else FULL_CLOSE

/-- One primary gate `outflow-1`, behind `uri`, at the level `g`; every
other gate is an emergency gate, and closed. The registry shows the
levels of the devices. -/
structure OnePrimary (w : World ℚ) (uri : Uri) (g : Int) : Prop where
  primary : ∃ r ∈ w.resources.gates, r.name = "outflow-1" ∧ r.uri = uri
  tagged : ∀ r ∈ w.resources.gates, r.tag ≠ none ∧ isEmergencyGate r = decide (r.uri ≠ uri)
  at_level : ∀ r ∈ w.resources.gates, r.value = some (levelOf uri g r.uri) ∧
    w.level r.uri = some (levelOf uri g r.uri)

/-- Cycle `k` starts in `w k`. Between two cycles nothing happens to the
gates; measurements, clock and alarms may be others in each. The measured
flows are within the steady band of the inflow `F` and of what the gate
lets out. -/
structure NormalBandRun (maxStale : Int) (F : ℚ) (uri : Uri) (g₀ : Int) (w : ℕ → World ℚ) :
    Prop where
  start : OnePrimary (w 0) uri g₀
  auto : ∀ k, (w k).mode = .AUTO
  ordered : ∀ k, (w k).thresholds.Ordered
  measured : ∀ k, ∃ level i o, Measured maxStale (w k) level i o ∧
    (w k).thresholds.min ≤ level ∧ level ≤ (w k).thresholds.max ∧ |i - F| ≤ 3 / 20 ∧
    ∀ g : Int, (w k).level uri = some g → |o - g| ≤ 3 / 20
  resources : ∀ k, (w (k + 1)).resources = (afterCycle maxStale (w k)).resources
  devices : ∀ k, (w (k + 1)).devices = (afterCycle maxStale (w k)).devices

/-- A cycle opens, or closes, a gate. -/
def Opens (maxStale : Int) (w : World ℚ) : Prop :=
  ∃ u c L, w.level u = some c ∧ (u, ResGate.openingLevelNode L) ∈ gateCommands maxStale w ∧ c < L

def Closes (maxStale : Int) (w : World ℚ) : Prop :=
  ∃ u c L, w.level u = some c ∧ (u, ResGate.openingLevelNode L) ∈ gateCommands maxStale w ∧ L < c

/-! ## §3 One cycle -/

section OneCycle

variable {w w' : World ℚ} {uri : Uri} {g g' : Int}

theorem OnePrimary.ready (h : OnePrimary w uri g) (hg : InRange g) {r : Resource}
    (hr : r ∈ w.resources.gates) :
    GateReady w r (levelOf uri g r.uri) (levelOf uri g r.uri) := by
  obtain ⟨hvalue, hlevel⟩ := h.at_level r hr
  have hrange : InRange (levelOf uri g r.uri) := by
    unfold levelOf
    split
    · exact hg
    · exact ⟨le_rfl, by decide⟩
  have hmem := ResourceTable.mem_of_gate hr
  exact ⟨(h.tagged r hr).1, hrange, ResourceTable.uri_of_mem hmem,
    (ResourceTable.value_of_mem hmem).trans hvalue, hlevel⟩

theorem OnePrimary.level (h : OnePrimary w uri g) : w.level uri = some g := by
  obtain ⟨r, hr, -, rfl⟩ := h.primary
  rw [(h.at_level r hr).2, levelOf, if_pos rfl]

/-- What a deployment is after its gates have moved. -/
theorem OnePrimary.moved (h : OnePrimary w uri g)
    (hrows : w'.resources.rows.map unvalued = w.resources.rows.map unvalued)
    (hat : ∀ r ∈ w.resources.gates, w'.resources.value r.name = some (levelOf uri g' r.uri) ∧
      w'.level r.uri = some (levelOf uri g' r.uri)) : OnePrimary w' uri g' where
  primary := by
    obtain ⟨r, hr, hname, huri⟩ := h.primary
    obtain ⟨r', hr', hname', -, huri'⟩ := gates_of_rows hrows.symm hr
    exact ⟨r', hr', hname'.trans hname, huri'.trans huri⟩
  tagged := by
    intro r' hr'
    obtain ⟨r, hr, -, htag, huri⟩ := gates_of_rows hrows hr'
    have htagged := h.tagged r hr
    unfold isEmergencyGate at htagged ⊢
    rwa [htag, huri] at htagged
  at_level := by
    intro r' hr'
    obtain ⟨r, hr, hname, -, huri⟩ := gates_of_rows hrows hr'
    obtain ⟨hvalue, hlevel⟩ := hat r hr
    rw [hname, ResourceTable.value_of_mem (ResourceTable.mem_of_gate hr'), huri] at hvalue
    rw [huri] at hlevel
    exact ⟨hvalue, hlevel⟩

/-- Between the thresholds the law moves the primary gate by its trim and
keeps the others closed. -/
theorem opening_levelOf (hθ : w.thresholds.Ordered) {level n : ℚ}
    (hmin : w.thresholds.min ≤ level) (hmax : level ≤ w.thresholds.max) (u : Uri) :
    (law w.thresholds hθ).opening level n (decide (u ≠ uri)) (levelOf uri g u) =
      levelOf uri ((law w.thresholds hθ).clamp (g + (law w.thresholds hθ).trim n)) u := by
  have hsafe : ¬(law w.thresholds hθ).alarm < level := not_lt.mpr (hmax.trans hθ.max_le_safe)
  have hhigh : ¬(law w.thresholds hθ).high < level := not_lt.mpr hmax
  have hlow : ¬level < (law w.thresholds hθ).low := not_lt.mpr hmin
  unfold BandLaw.opening BandLaw.move levelOf
  rw [if_neg hsafe, if_neg hhigh, if_neg hlow]
  by_cases hu : u = uri
  · simp [hu]
  · simp [hu, law]

/-- No PUT to an alarm counts as a command. -/
theorem filter_alarmPuts {sent : List (Uri × ObjectNode)} {treat : Resource → Treatment}
    (h : ∀ p ∈ sent, ∃ r ∈ w.resources.alarms, MaySend treat w r p) :
    (sent.filter fun p => w.resources.gates.any fun gate => gate.uri = p.1) = [] := by
  rw [List.filter_eq_nil_iff]
  intro p hp hgate
  obtain ⟨gate, hg, huri⟩ := List.any_eq_true.mp hgate
  obtain ⟨r, hr, hsend, -⟩ := h p hp
  exact (ResourceTable.gate_distinct_alarm hg hr).2 ((of_decide_eq_true huri).trans hsend)

theorem filter_gatePuts {sent : List (Uri × ObjectNode)} {treat : Resource → Treatment}
    {w₁ : World ℚ} (h : ∀ p ∈ sent, ∃ r ∈ w.resources.gates, MaySend treat w₁ r p) :
    (sent.filter fun p => w.resources.gates.any fun gate => gate.uri = p.1) = sent := by
  rw [List.filter_eq_self]
  intro p hp
  obtain ⟨r, hr, hsend⟩ := h p hp
  exact List.any_eq_true.mpr ⟨r, hr, decide_eq_true hsend.1.symm⟩

/-- A list without repetitions, of one thing only. -/
theorem eq_nil_or_singleton {α : Type} {l : List α} {a : α} (hnodup : l.Nodup)
    (h : ∀ b ∈ l, b = a) : l = [] ∨ l = [a] := by
  cases l with
  | nil => exact Or.inl rfl
  | cons b rest =>
    obtain ⟨hnot, -⟩ := List.nodup_cons.mp hnodup
    obtain rfl := h b List.mem_cons_self
    cases rest with
    | nil => exact Or.inr rfl
    | cons c rest =>
      have hc := h c (List.mem_cons_of_mem _ List.mem_cons_self)
      exact absurd (hc ▸ List.mem_cons_self) hnot

/-- A PUT of the loop over the gates goes to the primary gate, and moves
it. -/
theorem MaySend.primary {wd : World ℚ} {level i o : ℚ} {r : Resource} {p : Uri × ObjectNode}
    {θ : Thresholds ℚ} (hθ : θ.Ordered) (hsend : MaySend (gateTreatment θ level i o) wd r p)
    (hready : GateReady wd r (levelOf uri g r.uri) (levelOf uri g r.uri))
    (hopening : (law θ hθ).opening level (i - o) (isEmergencyGate r) (levelOf uri g r.uri) =
      levelOf uri g' r.uri) :
    p = (uri, ResGate.openingLevelNode g') ∧ g' ≠ g := by
  obtain ⟨hpayload, hne⟩ := hsend.gate hθ hready
  rw [hopening] at hpayload hne
  by_cases hu : r.uri = uri
  · simp only [levelOf, if_pos hu] at hpayload hne
    exact ⟨Prod.ext (hsend.1.trans hu) hpayload, hne⟩
  · simp only [levelOf, if_neg hu] at hne
    exact absurd rfl hne

/-- Where a cycle sends the gates one PUT at most, and that moves the
primary gate, it is the command of the cycle. -/
theorem commands_of_puts {puts sent sent' : List (Uri × ObjectNode)}
    {treat treat' : Resource → Treatment} {w₁ : World ℚ} (hputs : puts = sent' ++ sent)
    (hmay : ∀ p ∈ sent, ∃ r ∈ w.resources.alarms, MaySend treat w r p)
    (hmay' : ∀ p ∈ sent', ∃ r ∈ w.resources.gates, MaySend treat' w₁ r p)
    (hnodup : sent'.Nodup)
    (honly : ∀ p ∈ sent', p = (uri, ResGate.openingLevelNode g') ∧ g' ≠ g) :
    let commands := puts.filter fun p => w.resources.gates.any fun gate => gate.uri = p.1
    commands = [] ∨ g' ≠ g ∧ commands = [(uri, ResGate.openingLevelNode g')] := by
  intro commands
  have hcommands : commands = sent' := by
    simp only [commands, hputs, List.filter_append, filter_gatePuts hmay', filter_alarmPuts hmay,
      List.append_nil]
  rw [hcommands]
  rcases eq_nil_or_singleton hnodup fun p hp => (honly p hp).1 with hnone | hone
  · exact Or.inl hnone
  · exact Or.inr ⟨(honly _ (hone ▸ List.mem_cons_self)).2, hone⟩

/-- **One cycle is one round of the loop**: the gate stays, without a
command, or one command takes it where the law wants it. -/
theorem cycle_normalBand (maxStale : Int) (h : OnePrimary w uri g) (hg : InRange g)
    (hauto : w.mode = .AUTO) (hθ : w.thresholds.Ordered) {level i o : ℚ}
    (hm : Measured maxStale w level i o) (hmin : w.thresholds.min ≤ level)
    (hmax : level ≤ w.thresholds.max) :
    ∃ g', OnePrimary (afterCycle maxStale w) uri g' ∧
      (g' = g ∨ g' = (law w.thresholds hθ).clamp (g + (law w.thresholds hθ).trim (i - o))) ∧
      (gateCommands maxStale w = [] ∨
        g' ≠ g ∧ gateCommands maxStale w = [(uri, ResGate.openingLevelNode g')]) := by
  have hrows := runWith_rows (fun _ => Fault.none) maxStale ⟨w, []⟩
  obtain ⟨out, hrun⟩ := runWith_controlled (s := ⟨w, []⟩) faultFree_answering hm.cycleInputs
  change Controlled _ _ _ _ ⟨w, []⟩ out (faultFreeRun maxStale ⟨w, []⟩) at hrun
  change RowsAre _ (faultFreeRun maxStale ⟨w, []⟩) at hrows
  unfold afterCycle gateCommands
  generalize faultFreeRun maxStale ⟨w, []⟩ = s' at hrun hrows ⊢
  cases hrun with
  | alarmsFailed alarms =>
    -- the cycle ends before it comes to the gates
    obtain ⟨sent, hsent, hmay⟩ := alarms.puts_mem (w.resources.ofType_distinct "alarm")
    refine ⟨g, h.moved hrows fun r hr => ?_, Or.inl rfl, Or.inl ?_⟩
    · have hready := (h.ready hg hr).after_alarms hr alarms.touched
      exact ⟨hready.value, hready.level⟩
    · rw [hsent]
      simpa [State.puts] using filter_alarmPuts hmay
  | manual alarms mode quiet =>
    rw [hauto] at mode
    cases mode
  | @auto s₁ _ out alarms mode gates =>
    have hd := w.resources.ofType_distinct "gate"
    have hready : ∀ r ∈ w.resources.gates, GateReady s₁.world r _ _ := fun r hr =>
      (h.ready hg hr).after_alarms hr alarms.touched
    obtain rfl : out = .ok () := gates.gates_ok hθ hd fun r hr => ⟨_, _, hready r hr⟩
    have hopening : ∀ r ∈ w.resources.gates,
        (law w.thresholds hθ).opening level (i - o) (isEmergencyGate r) (levelOf uri g r.uri) =
          levelOf uri ((law w.thresholds hθ).clamp (g + (law w.thresholds hθ).trim (i - o)))
            r.uri := by
      intro r hr
      rw [(h.tagged r hr).2]
      exact opening_levelOf hθ hmin hmax r.uri
    generalize (law w.thresholds hθ).clamp (g + (law w.thresholds hθ).trim (i - o)) = g'
      at hopening ⊢
    refine ⟨g', h.moved hrows fun r hr => ?_, Or.inr rfl, ?_⟩
    · obtain ⟨hvalue, hlevel⟩ := gates.gates_law hθ hd hr (hready r hr)
      rw [hopening r hr] at hvalue hlevel
      rw [agreed_level] at hlevel
      exact ⟨hvalue, hlevel⟩
    obtain ⟨sent, hsent, hmay⟩ := alarms.puts_mem (w.resources.ofType_distinct "alarm")
    obtain ⟨sent', hsent', hmay'⟩ := gates.puts_mem hd
    have hputs : s'.puts = sent' ++ sent := by
      rw [hsent', hsent]
      exact congrArg _ (List.append_nil sent)
    refine commands_of_puts hputs hmay hmay' (gates.puts_nodup hd hsent') fun p hp => ?_
    obtain ⟨r, hr, hsend⟩ := hmay' p hp
    exact hsend.primary hθ (hready r hr) (hopening r hr)

end OneCycle

/-! ## §4 All cycles -/

section AllCycles

variable {θ : Thresholds ℚ} (hθ : θ.Ordered)

/-- The steps of the Controller fit its dead band, with sensors that are
0.15 m³/s off. -/
theorem law_fits : (law θ hθ).Fits (3 / 10) where
  short_fits := by norm_num [law, SHORT_STEP]
  normal_fits := by norm_num [law, STEP]
  long_fits := by norm_num [law, LONG_STEP]

theorem law_gain : (law θ hθ).gain (3 / 10) = 2 / 5 := by
  norm_num [BandLaw.gain, law, SHORT_STEP]

theorem law_clamp_inRange (x : Int) : InRange ((law θ hθ).clamp x) :=
  ⟨le_max_left _ _, (law θ hθ).clamp_le_top x⟩

/-- Trimming for an inflow of at most 80 m³/s never meets the ends of the
range. -/
theorem clamp_trim {F n : ℚ} (hF0 : 0 ≤ F) (hF1 : F ≤ 80) {g : Int} (hg : InRange g)
    (hnear : |n - (F - g)| ≤ 3 / 10) :
    (law θ hθ).clamp (g + (law θ hθ).trim n) = g + (law θ hθ).trim n := by
  have hdead : (law θ hθ).dead = 1 := rfl
  have hbottom : (0 : Int) ≤ g := hg.1
  have htop : g ≤ (100 : Int) := hg.2
  rcases lt_trichotomy ((law θ hθ).trim n) 0 with hneg | hzero | hpos
  · have hdown := ((law_fits hθ).down hnear hneg).2
    rw [hdead] at hdown
    have hlow : (-1 : ℚ) < (g + (law θ hθ).trim n : Int) := by
      push_cast
      linarith
    have hlow' : -1 < g + (law θ hθ).trim n := by exact_mod_cast hlow
    exact (law θ hθ).clamp_of_mem (show (0 : Int) ≤ _ by omega) (show _ ≤ (100 : Int) by omega)
  · rw [hzero, add_zero]
    exact (law θ hθ).clamp_of_mem hg.1 hg.2
  · have hup := ((law_fits hθ).up hnear hpos).2
    rw [hdead] at hup
    have hhigh : ((g + (law θ hθ).trim n : Int) : ℚ) < 81 := by
      push_cast
      linarith
    have hhigh' : g + (law θ hθ).trim n < 81 := by exact_mod_cast hhigh
    exact (law θ hθ).clamp_of_mem (show (0 : Int) ≤ _ by omega) (show _ ≤ (100 : Int) by omega)

theorem OnePrimary.congr {w w' : World ℚ} {uri : Uri} {g : Int} (h : OnePrimary w uri g)
    (hres : w'.resources = w.resources) (hdev : w'.devices = w.devices) :
    OnePrimary w' uri g where
  primary := hres ▸ h.primary
  tagged := hres ▸ h.tagged
  at_level := by
    simp only [World.level, hres, hdev]
    exact h.at_level

variable {maxStale : Int} {F : ℚ} {uri : Uri} {g₀ : Int} {w : ℕ → World ℚ}

/-- The level of the primary gate before cycle `k`. -/
def gateLevel (uri : Uri) (w : ℕ → World ℚ) (k : ℕ) : Int := ((w k).level uri).getD FULL_CLOSE

theorem OnePrimary.gateLevel_eq {k : ℕ} {g : Int} (h : OnePrimary (w k) uri g) :
    gateLevel uri w k = g := by
  rw [gateLevel, h.level, Option.getD_some]

/-- What a cycle may send, where the gate is before and after it. -/
def OneMove (maxStale : Int) (uri : Uri) (w : ℕ → World ℚ) (k : ℕ) : Prop :=
  gateCommands maxStale (w k) = [] ∨
    gateLevel uri w (k + 1) ≠ gateLevel uri w k ∧
      gateCommands maxStale (w k) = [(uri, ResGate.openingLevelNode (gateLevel uri w (k + 1)))]

theorem OneMove.sent {k : ℕ} {p : Uri × ObjectNode} (h : OneMove maxStale uri w k)
    (hp : p ∈ gateCommands maxStale (w k)) :
    gateLevel uri w (k + 1) ≠ gateLevel uri w k ∧
      p = (uri, ResGate.openingLevelNode (gateLevel uri w (k + 1))) := by
  rcases h with hnone | ⟨hne, hone⟩
  · rw [hnone] at hp
    cases hp
  · rw [hone] at hp
    exact ⟨hne, List.mem_singleton.mp hp⟩

/-- A command takes the gate from the level before the cycle to the one
after it. -/
theorem OneMove.levels {k : ℕ} {u : Uri} {c L : Int} (h : OneMove maxStale uri w k)
    (hlevel : (w k).level uri = some (gateLevel uri w k)) (hc : (w k).level u = some c)
    (hp : (u, ResGate.openingLevelNode L) ∈ gateCommands maxStale (w k)) :
    c = gateLevel uri w k ∧ L = gateLevel uri w (k + 1) := by
  obtain ⟨-, heq⟩ := h.sent hp
  simp only [Prod.mk.injEq, ResGate.openingLevelNode, List.cons.injEq, JsonValue.num.injEq,
    true_and, and_true] at heq
  obtain ⟨rfl, rfl⟩ := heq
  rw [hlevel] at hc
  exact ⟨(Option.some.inj hc).symm, rfl⟩

theorem moved_of_ne {k : ℕ} (h : gateLevel uri w (k + 1) ≠ gateLevel uri w k) :
    F - (gateLevel uri w (k + 1) : ℚ) ≠ F - gateLevel uri w k := fun heq =>
  h (by exact_mod_cast sub_right_injective heq)

/-- There are at most as many commands as moves. -/
theorem commands_le_moves (h : ∀ k, OneMove maxStale uri w k) (N : ℕ) :
    ∑ k ∈ Finset.range N, (gateCommands maxStale (w k)).length ≤
      (BandLaw.moves (fun k => F - (gateLevel uri w k : ℚ)) N).card := by
  rw [BandLaw.moves, Finset.card_filter]
  refine Finset.sum_le_sum fun k _ => ?_
  rcases h k with hnone | ⟨hne, hone⟩
  · rw [hnone]
    exact Nat.zero_le _
  · rw [hone, if_pos (moved_of_ne hne), List.length_singleton]

namespace NormalBandRun

variable (h : NormalBandRun maxStale F uri g₀ w)
include h

/-- The deployment survives every cycle. -/
theorem onePrimary (hg₀ : InRange g₀) (k : ℕ) :
    OnePrimary (w k) uri (gateLevel uri w k) ∧ InRange (gateLevel uri w k) := by
  induction k with
  | zero =>
    rw [h.start.gateLevel_eq]
    exact ⟨h.start, hg₀⟩
  | succ k ih =>
    obtain ⟨hone, hg⟩ := ih
    obtain ⟨level, i, o, hm, hmin, hmax, -⟩ := h.measured k
    obtain ⟨g', hone', hlevel, -⟩ :=
      cycle_normalBand maxStale hone hg (h.auto k) (h.ordered k) hm hmin hmax
    have hnext : OnePrimary (w (k + 1)) uri g' := hone'.congr (h.resources k) (h.devices k)
    rw [hnext.gateLevel_eq]
    refine ⟨hnext, ?_⟩
    rcases hlevel with rfl | rfl
    · exact hg
    · exact law_clamp_inRange _ _

/-- **The cycles are rounds of the loop**, and a command is a move. -/
theorem loop (hF0 : 0 ≤ F) (hF1 : F ≤ 80) (hg₀ : InRange g₀) :
    (∃ n, (law (w 0).thresholds (h.ordered 0)).Loop (3 / 10)
      (fun k => F - gateLevel uri w k) n) ∧
    ∀ k, OneMove maxStale uri w k := by
  choose level i o hm hmin hmax hi ho using h.measured
  have hnear : ∀ k, |i k - o k - (F - gateLevel uri w k)| ≤ 3 / 10 := by
    intro k
    have hlevel := ho k _ (h.onePrimary hg₀ k).1.level
    obtain ⟨hi₁, hi₂⟩ := abs_le.mp (hi k)
    obtain ⟨ho₁, ho₂⟩ := abs_le.mp hlevel
    exact abs_le.mpr ⟨by linarith, by linarith⟩
  have hcycle : ∀ k, ∃ g', OnePrimary (w (k + 1)) uri g' ∧
      (g' = gateLevel uri w k ∨ g' = gateLevel uri w k +
        (law (w 0).thresholds (h.ordered 0)).trim (i k - o k)) ∧
      (gateCommands maxStale (w k) = [] ∨ g' ≠ gateLevel uri w k ∧
        gateCommands maxStale (w k) = [(uri, ResGate.openingLevelNode g')]) := by
    intro k
    obtain ⟨hone, hg⟩ := h.onePrimary hg₀ k
    obtain ⟨g', hone', hlevel, hcommands⟩ :=
      cycle_normalBand maxStale hone hg (h.auto k) (h.ordered k) (hm k) (hmin k) (hmax k)
    rw [clamp_trim (h.ordered k) hF0 hF1 hg (hnear k)] at hlevel
    exact ⟨g', hone'.congr (h.resources k) (h.devices k), hlevel, hcommands⟩
  refine ⟨⟨fun k => i k - o k, hnear, fun k => ?_⟩, fun k => ?_⟩
  · obtain ⟨g', hone', hlevel, -⟩ := hcycle k
    rw [hone'.gateLevel_eq]
    rcases hlevel with rfl | rfl
    · exact Or.inl rfl
    · refine Or.inr ?_
      push_cast
      ring
  · obtain ⟨g', hone', -, hcommands⟩ := hcycle k
    unfold OneMove
    rw [hone'.gateLevel_eq]
    exact hcommands

end NormalBandRun

/-- **No hunting in the normal band.** -/
theorem no_hunting (maxStale : Int) {F : ℚ} (hF0 : 0 ≤ F) (hF1 : F ≤ 80) {uri : Uri} {g₀ : Int}
    (hg₀ : InRange g₀) {w : ℕ → World ℚ} (h : NormalBandRun maxStale F uri g₀ w) :
    ¬((∃ k, Opens maxStale (w k)) ∧ ∃ k, Closes maxStale (w k)) ∧
    (∀ k, ∀ p ∈ gateCommands maxStale (w k), ∃ g g' : Int,
      p = (uri, ResGate.openingLevelNode g') ∧ (w k).level uri = some g ∧
        (w (k + 1)).level uri = some g' ∧ |F - g'| < |F - g|) ∧
    ∀ N, ((∑ k ∈ Finset.range N, (gateCommands maxStale (w k)).length : ℕ) : ℤ) ≤
      ⌈|F - g₀| / (2 / 5)⌉ := by
  obtain ⟨⟨n, hloop⟩, hcommands⟩ := h.loop hF0 hF1 hg₀
  have hfits := law_fits (h.ordered 0)
  have hlevel : ∀ k, (w k).level uri = some (gateLevel uri w k) := fun k =>
    (h.onePrimary hg₀ k).1.level
  refine ⟨?_, fun k p hp => ?_, fun N => ?_⟩
  · intro h'
    obtain ⟨⟨k, u, c, L, hc, hp, hopen⟩, k', u', c', L', hc', hp', hclose⟩ := h'
    obtain ⟨rfl, rfl⟩ := (hcommands k).levels (hlevel k) hc hp
    obtain ⟨rfl, rfl⟩ := (hcommands k').levels (hlevel k') hc' hp'
    rcases hloop.one_way hfits with hdown | hup
    · have hle : (gateLevel uri w k' : ℚ) ≤ gateLevel uri w (k' + 1) := by linarith [hdown k']
      exact absurd hclose (not_lt.mpr (by exact_mod_cast hle))
    · have hle : (gateLevel uri w (k + 1) : ℚ) ≤ gateLevel uri w k := by linarith [hup k]
      exact absurd hopen (not_lt.mpr (by exact_mod_cast hle))
  · obtain ⟨hne, rfl⟩ := (hcommands k).sent hp
    refine ⟨_, _, rfl, hlevel k, hlevel (k + 1), ?_⟩
    have hcloser := hloop.closer hfits (moved_of_ne hne)
    linarith [hfits.gain_pos]
  · have hcount := commands_le_moves (F := F) hcommands N
    have hbound := hloop.moves_bound hfits N
    rw [law_gain] at hbound
    have hstart : gateLevel uri w 0 = g₀ := h.start.gateLevel_eq
    rw [hstart] at hbound
    have hle : (((BandLaw.moves (fun k => F - (gateLevel uri w k : ℚ)) N).card : ℤ) : ℚ) ≤
        |F - g₀| / (2 / 5) := by
      rw [le_div_iff₀ (by norm_num)]
      push_cast
      linarith [abs_nonneg (F - (gateLevel uri w N : ℚ))]
    have hceil : ((BandLaw.moves (fun k => F - (gateLevel uri w k : ℚ)) N).card : ℤ) ≤
        ⌈|F - g₀| / (2 / 5)⌉ := by exact_mod_cast hle.trans (Int.le_ceil _)
    exact le_trans (by exact_mod_cast hcount) hceil

/-- `outflow-1` of the demo deployment, closed at first, with an inflow of
`F`; each cycle is measured without noise. -/
def demoRun (F : ℚ) : ℕ → World ℚ
  | 0 => demoWorld .AUTO 0 0 false 50 F 0
  | k + 1 =>
      let after := afterCycle 5 (demoRun F k)
      { demoWorld .AUTO 0 0 false 50 F ((after.level gate1Uri).getD 0) with
        resources := after.resources
        devices := after.devices }

theorem demoRun_start (F : ℚ) : OnePrimary (demoRun F 0) gate1Uri 0 where
  primary := by
    refine ⟨demoGate1 0, ?_, rfl, rfl⟩
    change demoGate1 0 ∈ (demoTable 0 0 false).gates
    simp [demoTable_gates]
  tagged := by
    intro r hr
    rcases demo_gate_cases hr with ⟨rfl, -⟩ | ⟨rfl, -⟩
    · exact ⟨by simp [demoGate1, Collector.gateResource], by decide⟩
    · exact ⟨by simp [demoGate2, Collector.gateResource], by decide⟩
  at_level := by
    intro r hr
    rcases demo_gate_cases hr with ⟨rfl, h⟩ | ⟨rfl, h⟩
    · exact ⟨rfl, h⟩
    · exact ⟨rfl, h⟩

theorem demoRun_normalBand (F : ℚ) : NormalBandRun 5 F gate1Uri 0 (demoRun F) where
  start := demoRun_start F
  auto k := by cases k <;> rfl
  ordered k := by cases k <;> exact demo_ordered
  measured k := by
    have hmin : demoThresholds.min ≤ 50 := by norm_num [demoThresholds]
    have hmax : (50 : ℚ) ≤ demoThresholds.max := by norm_num [demoThresholds]
    have hinflow : |F - F| ≤ 3 / 20 := by norm_num
    have hexact : ∀ g : Int, |(g : ℚ) - g| ≤ 3 / 20 := by
      intro g
      norm_num
    cases k with
    | zero =>
      refine ⟨50, F, 0, demo_measured _ _ _ _ _ _ _, hmin, hmax, hinflow, fun g hg => ?_⟩
      obtain rfl : 0 = g := Option.some.inj ((demoRun_start F).level.symm.trans hg)
      exact_mod_cast hexact 0
    | succ k =>
      have hm := demo_measured .AUTO 0 0 false 50 F
        (((afterCycle 5 (demoRun F k)).level gate1Uri).getD 0 : Int)
      refine ⟨50, F, _, ⟨hm.level, hm.inflow, hm.outflow⟩, hmin, hmax, hinflow, fun g hg => ?_⟩
      change (afterCycle 5 (demoRun F k)).level gate1Uri = some g at hg
      rw [hg, Option.getD_some]
      exact hexact g
  resources _ := rfl
  devices _ := rfl

/-- From closed, with 30 m³/s flowing in, the gate of the demo deployment
is never closed again, and settles within 75 commands. -/
theorem no_hunting_demo :
    ¬((∃ k, Opens 5 (demoRun 30 k)) ∧ ∃ k, Closes 5 (demoRun 30 k)) ∧
      ∀ N, ((∑ k ∈ Finset.range N, (gateCommands 5 (demoRun 30 k)).length : ℕ) : ℤ) ≤ 75 := by
  obtain ⟨honeWay, -, hbound⟩ := no_hunting 5 (by norm_num) (by norm_num)
    (show InRange 0 from ⟨le_rfl, by decide⟩) (demoRun_normalBand 30)
  refine ⟨honeWay, fun N => (hbound N).trans ?_⟩
  norm_num

end AllCycles

end DamMonitoring.Controller
