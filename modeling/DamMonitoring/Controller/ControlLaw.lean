/-
DamMonitoring.Controller.ControlLaw — a fault-free cycle computes the
band law of `Control.BandLaw`.

Arithmetic is exact here (`ℚ`). `law` instantiates the band law with the
thresholds and the constants of the Controller; `run_follows_law` is the
refinement: one fault-free `run` leaves in the registry, and in the
devices where they agreed with it, exactly the openings the law
prescribes. What holds of the law then holds of the code; `run_mono`
carries its monotonicity over.

  §1 the law of the Controller
  §2 the next level of a gate is the opening of the law
  §3 fault-free rounds and loops
  §4 one fault-free run
-/
import DamMonitoring.Control.BandLaw
import DamMonitoring.Controller.Demo
import Mathlib.Tactic.NormNum

namespace DamMonitoring.Controller

open Program Java Motes Persistence
open ControlLogic AutomaticControlUnit
open Control (BandLaw)

/-! ## §1 The law -/

/-- The band law with the parameters of the Controller. -/
def law (θ : Thresholds ℚ) (hθ : θ.Ordered) : BandLaw ℚ where
  low := θ.min
  high := θ.max
  alarm := θ.safe
  low_le_high := hθ.min_le_max
  high_le_alarm := hθ.max_le_safe
  dead := 1
  mid := 10
  far := 20
  dead_nonneg := by decide
  mid_le_far := by decide
  short := SHORT_STEP
  normal := STEP
  long := LONG_STEP
  short_pos := by decide
  short_le_normal := by decide
  normal_le_long := by decide
  bottom := FULL_CLOSE
  top := FULL_OPEN
  bottom_le_top := by decide

variable {θ : Thresholds ℚ} (hθ : θ.Ordered) (w i o : ℚ)

theorem mathAbs_eq (x : ℚ) : mathAbs x = |x| := by
  unfold mathAbs
  split
  · next h => rw [abs_of_pos h]
  · next h => rw [abs_of_nonpos (not_lt.mp h), zero_sub]

theorem normalStep_eq : normalStep i o = (law θ hθ).size (i - o) := by
  unfold normalStep BandLaw.size
  rw [mathAbs_eq, abs_sub_comm]
  rfl

/-- The step of the source is the step of the law. -/
theorem delta_eq : delta θ w i o = (law θ hθ).move w (i - o) := by
  have hin : (o < i - ((1 : ℕ) : ℚ)) ↔ (law θ hθ).dead < i - o := by
    simp only [law, Nat.cast_one]
    constructor <;> intro h <;> linarith
  have hout : (i + ((1 : ℕ) : ℚ) < o) ↔ i - o < -(law θ hθ).dead := by
    simp only [law, Nat.cast_one]
    constructor <;> intro h <;> linarith
  have hpos : (o < i) ↔ 0 < i - o := sub_pos.symm
  have hneg : (i < o) ↔ i - o < 0 := sub_neg.symm
  unfold delta BandLaw.move BandLaw.trim
  simp only [hin, hout, hpos, hneg, normalStep_eq hθ]
  rfl

/-! ## §2 Levels -/

/-- Where a gate at `c` is commanded to, the command is acceptable and
a real change; where it is not, it is at its target `c'` already. -/
structure Reaches (next : Int → Option Int) (c c' : Int) : Prop where
  range : InRange c'
  move : ∀ L, next c = some L → L = c' ∧ c ≠ c'
  stay : next c = none → c = c'

theorem setNext_reaches {L c : Int} (hL : InRange L) : Reaches (setNext L) c L := by
  by_cases h : c = L
  · have hnone : setNext L c = none := if_neg (not_not.mpr h)
    exact ⟨hL, fun L' h' => absurd (hnone.symm.trans h') (by simp), fun _ => h⟩
  · have hsome : setNext L c = some L := if_pos h
    exact ⟨hL, fun L' h' => ⟨(Option.some.inj (hsome.symm.trans h')).symm, h⟩,
      fun h' => absurd (hsome.symm.trans h') (by simp)⟩

theorem increaseNext_reaches {step c : Int} (hc : InRange c) (hstep : 0 < step)
    (hle : step ≤ 100) :
    Reaches (increaseNext step) c (max FULL_CLOSE (min FULL_OPEN (c + step))) := by
  obtain ⟨hc0, hc1⟩ := hc
  have hint : int32 (c + step) = c + step := by
    simp only [FULL_CLOSE, FULL_OPEN] at hc0 hc1
    exact int32_of_isInt32 ⟨by omega, by omega⟩
  simp only [FULL_CLOSE, FULL_OPEN] at *
  refine ⟨⟨by simp only [FULL_CLOSE]; omega, by simp only [FULL_OPEN]; omega⟩,
    fun L hL => ?_, fun hnone => ?_⟩
  · simp only [increaseNext, hint, FULL_OPEN] at hL
    split at hL
    · have := Option.some.inj hL
      omega
    · cases hL
  · have hcond : ¬(c ≠ FULL_OPEN ∧ 0 < step) := by
      intro h
      rw [increaseNext, if_pos h] at hnone
      cases hnone
    simp only [FULL_OPEN] at hcond
    omega

theorem decreaseNext_reaches {step c : Int} (hc : InRange c) (hstep : 0 < step)
    (hle : step ≤ 100) :
    Reaches (decreaseNext step) c (max FULL_CLOSE (min FULL_OPEN (c + -step))) := by
  obtain ⟨hc0, hc1⟩ := hc
  have hint : int32 (c - step) = c - step := by
    simp only [FULL_CLOSE, FULL_OPEN] at hc0 hc1
    exact int32_of_isInt32 ⟨by omega, by omega⟩
  simp only [FULL_CLOSE, FULL_OPEN] at *
  refine ⟨⟨by simp only [FULL_CLOSE]; omega, by simp only [FULL_OPEN]; omega⟩,
    fun L hL => ?_, fun hnone => ?_⟩
  · simp only [decreaseNext, hint, FULL_CLOSE] at hL
    split at hL
    · have := Option.some.inj hL
      omega
    · cases hL
  · have hcond : ¬(c ≠ FULL_CLOSE ∧ 0 < step) := by
      intro h
      rw [decreaseNext, if_pos h] at hnone
      cases hnone
    simp only [FULL_CLOSE] at hcond
    omega

/-- A step of at most a hundred percent moves a registered level by the
step, as far as the range allows. -/
theorem stepNext_reaches {c d : Int} (hc : InRange c) (hd : d ≠ 0) (hlo : -100 ≤ d)
    (hhi : d ≤ 100) : Reaches (stepNext d) c (max FULL_CLOSE (min FULL_OPEN (c + d))) := by
  unfold stepNext
  by_cases hpos : 0 < d
  · rw [if_pos hpos]
    exact increaseNext_reaches hc hpos hhi
  · rw [if_neg hpos]
    have h := decreaseNext_reaches hc (show 0 < -d by omega) (by omega)
    rwa [neg_neg] at h

theorem move_bounds (n : ℚ) :
    -100 ≤ (law θ hθ).move w n ∧ (law θ hθ).move w n ≤ 100 := by
  obtain ⟨hlo, hhi, -, -⟩ := (law θ hθ).trim_bounds n
  have hlong : (law θ hθ).long = 10 := rfl
  have hnormal : (law θ hθ).normal = 5 := rfl
  unfold BandLaw.move
  split
  · split <;> omega
  · split
    · split <;> omega
    · omega

/-- **The level is the opening of the law.** -/
theorem gateNext_reaches (gate : Resource) {c : Int} (hc : InRange c) :
    Reaches (gateNext θ w i o gate) c
      ((law θ hθ).opening w (i - o) (isEmergencyGate gate) c) := by
  have htop : InRange FULL_OPEN := ⟨by decide, le_rfl⟩
  have hbottom : InRange FULL_CLOSE := ⟨le_rfl, by decide⟩
  unfold gateNext BandLaw.opening
  by_cases hsafe : θ.safe < w
  · rw [if_pos hsafe, if_pos (show (law θ hθ).alarm < w from hsafe)]
    exact setNext_reaches htop
  rw [if_neg hsafe, if_neg (show ¬(law θ hθ).alarm < w from hsafe)]
  cases hem : isEmergencyGate gate with
  | true => exact setNext_reaches hbottom
  | false =>
    have hdelta := delta_eq hθ w i o
    obtain ⟨hlo, hhi⟩ := move_bounds hθ w (i - o)
    simp only [Bool.false_eq_true, if_false]
    rw [hdelta]
    by_cases hzero : (law θ hθ).move w (i - o) = 0
    · rw [if_pos hzero, hzero, add_zero, (law θ hθ).clamp_of_mem hc.1 hc.2]
      exact ⟨hc, fun L h => absurd h (by simp), fun _ => rfl⟩
    · rw [if_neg hzero]
      exact stepNext_reaches hc hzero hlo hhi

/-! ## §3 Fault-free loops over gates -/

/-- A gate the law applies to: tagged, registered with a level in range,
and a gate behind its URI. `agree` says that the registry shows the level
of the device. -/
structure GateReady (w : World ℚ) (r : Resource) (c d : Int) : Prop where
  tag : r.tag ≠ none
  range : InRange c
  uri : w.resources.uri r.name = some r.uri
  value : w.resources.value r.name = some c
  level : w.level r.uri = some d

theorem local_gateReady :
    Local fun r (w : World ℚ) => ∃ c d, GateReady w r c d := by
  intro r rs w w' h hd ⟨c, d, hr⟩
  obtain ⟨hu, hv, hl⟩ := local_gateCell (fun _ => some c) (fun _ => some d) r rs w w' h hd
    ⟨hr.uri, hr.value, hr.level⟩
  exact ⟨c, d, hr.tag, hr.range, hu, hv, hl⟩

variable {w i o} {s s' : State ℚ} {out : Except JException Unit} {rs : List Resource}

/-- Without faults a loop over gates comes to its end. -/
theorem Swept.gates_ok (hθ : θ.Ordered)
    (h : Swept (fun _ => Fault.none) (gateTreatment θ w i o) rs s out s')
    (hd : rs.Pairwise ResourceTable.Distinct)
    (hready : ∀ r ∈ rs, ∃ c d, GateReady s.world r c d) : out = .ok () := by
  refine h.ok_of_rounds local_gateReady hd hready fun r _ s s' ex ⟨c, d, hr⟩ round => ?_
  rcases round.gate_error hr.value hr.level with ⟨htag, -, -⟩ | ⟨L, hL, hcause⟩
  · exact hr.tag htag
  · have hreach := gateNext_reaches hθ w i o r hr.range
    rcases hcause with hfault | ⟨message, hfault⟩ | ⟨hrefused, -⟩
    · exact hfault rfl
    · cases hfault
    · exact hrefused ((hreach.move L hL).1 ▸ hreach.range.accepts)

/-- **Loops follow the law**: the registry shows the opening of the law,
and so does every device that had to move. -/
theorem Swept.gates_law (hθ : θ.Ordered)
    (h : Swept (fun _ => Fault.none) (gateTreatment θ w i o) rs s (.ok ()) s')
    (hd : rs.Pairwise ResourceTable.Distinct) {r : Resource} (hr : r ∈ rs) {c d : Int}
    (hcd : GateReady s.world r c d) :
    let c' := (law θ hθ).opening w (i - o) (isEmergencyGate r) c
    s'.world.resources.value r.name = some c' ∧
      s'.world.level r.uri = some (if c' = c then d else c') := by
  intro c'
  have hcell := h.establishes (local_gateCell (fun _ => some c) (fun _ => some d))
    (local_gateCell (fun _ => some ((gateNext θ w i o r c).getD c))
      (fun _ => some ((gateNext θ w i o r c).getD d)))
    rfl hd hr ⟨hcd.uri, hcd.value, hcd.level⟩ fun s₁ s₂ ⟨huri, hv, hl⟩ round =>
      ⟨(round.touched.uri _).trans huri, round.gate_ok huri hv hl⟩
  obtain ⟨-, hv, hl⟩ := hcell
  have hreach : Reaches (gateNext θ w i o r) c c' := gateNext_reaches hθ w i o r hcd.range
  cases hnext : gateNext θ w i o r c with
  | none =>
    rw [hv, hl, hnext, if_pos (hreach.stay hnext).symm, ← hreach.stay hnext]
    exact ⟨rfl, rfl⟩
  | some L =>
    obtain ⟨rfl, hne⟩ := hreach.move L hnext
    rw [hv, hl, hnext, if_neg hne.symm]
    exact ⟨rfl, rfl⟩

/-! ## §4 One fault-free run -/

/-- What a fault-free run leaves behind. -/
structure FollowsLaw (θ : Thresholds ℚ) (hθ : θ.Ordered) (w i o : ℚ) (s s' : State ℚ) : Prop where
  alarms : ∀ r ∈ s.world.resources.alarms, ∀ b, AlarmAt b r s.world →
    AlarmAt (decide (θ.safe < w)) r s'.world
  gates : ∀ r ∈ s.world.resources.gates, ∀ c d, GateReady s.world r c d →
    let c' := if s.world.mode = .MANUAL then c
      else (law θ hθ).opening w (i - o) (isEmergencyGate r) c
    s'.world.resources.value r.name = some c' ∧
      s'.world.level r.uri = some (if c' = c then d else c')
  puts : ∃ sent, s'.puts = sent ++ s.puts ∧ ∀ p ∈ sent,
    (∃ r ∈ s.world.resources.alarms, p.1 = r.uri ∧
      s.world.resources.value r.name ≠ some (statusValue (decide (θ.safe < w)))) ∨
    ∃ r ∈ s.world.resources.gates, p.1 = r.uri ∧
      s'.world.resources.value r.name ≠ s.world.resources.value r.name

/-- An alarm is sent a PUT only if its registered value has to change. -/
theorem MaySend.alarm {status : Bool} {r : Resource} {p : Uri × ObjectNode} {wd : World ℚ}
    (h : MaySend (alarmTreatment status) wd r p) :
    wd.resources.value r.name ≠ some (statusValue status) := by
  obtain ⟨-, command, c, v, htreat, hc, hcmd⟩ := h
  cases htreat
  intro heq
  rw [hc] at heq
  cases heq
  cases status <;> cases hcmd

/-- A gate is sent a PUT only if the law moves it, and then the opening of
the law. -/
theorem MaySend.gate (hθ : θ.Ordered) {r : Resource} {p : Uri × ObjectNode} {wd : World ℚ}
    {c d : Int} (h : MaySend (gateTreatment θ w i o) wd r p) (hcd : GateReady wd r c d) :
    p.2 = ResGate.openingLevelNode ((law θ hθ).opening w (i - o) (isEmergencyGate r) c) ∧
      (law θ hθ).opening w (i - o) (isEmergencyGate r) c ≠ c := by
  obtain ⟨-, command, c', v, htreat, hc, hcmd⟩ := h
  rw [hcd.value] at hc
  cases hc
  rcases gateTreatment_cases θ w i o r with ⟨ht, -⟩ | ⟨ht, -⟩ | ht
  · rw [ht] at htreat
    cases htreat
  · rw [ht] at htreat
    cases htreat
  · rw [ht] at htreat
    cases htreat
    obtain ⟨L, hL, hpair⟩ := Option.map_eq_some_iff.mp hcmd
    obtain ⟨hpayload, -⟩ := Prod.mk.inj hpair
    obtain ⟨hreach, hne⟩ := (gateNext_reaches hθ w i o r hcd.range).move L hL
    exact ⟨by rw [← hpayload, hreach], hne.symm⟩

/-- The loop over the alarms leaves a gate ready. -/
theorem GateReady.after_alarms {w w' : World ℚ} {r : Resource} {c d : Int}
    (h : GateReady w r c d) (hr : r ∈ w.resources.gates)
    (htouched : Touched w.resources.alarms w w') : GateReady w' r c d := by
  obtain ⟨hu, hv, hl⟩ := local_gateCell (fun _ => some c) (fun _ => some d) r _ _ _ htouched
    (fun q hq => (ResourceTable.gate_distinct_alarm hr hq).symm) ⟨h.uri, h.value, h.level⟩
  exact ⟨h.tag, h.range, hu, hv, hl⟩

/-- In MANUAL mode a run ends with the loop over the alarms. -/
theorem Swept.followsLaw_manual (hθ : s.world.thresholds.Ordered) {s₁ : State ℚ}
    (alarms : Swept (fun _ => Fault.none)
      (alarmTreatment (decide (s.world.thresholds.safe < w))) s.world.resources.alarms s (.ok ()) s₁)
    (mode : s.world.mode = .MANUAL) (quiet : Quiet s₁ s') :
    FollowsLaw s.world.thresholds hθ w i o s s' := by
  have hda := s.world.resources.ofType_distinct "alarm"
  obtain ⟨sent, hsent, hmay⟩ := alarms.puts_mem hda
  refine ⟨fun r hr b hb => ?_, fun r hr c d hcd => ?_,
    sent, quiet.puts.trans hsent, fun p hp => ?_⟩
  · rw [quiet.world]
    exact alarms.alarm_at hda hr hb
  · have hcd₁ := hcd.after_alarms hr alarms.touched
    simp only [mode, if_true]
    rw [quiet.world]
    exact ⟨hcd₁.value, hcd₁.level⟩
  · obtain ⟨r, hr, hp⟩ := hmay p hp
    exact Or.inl ⟨r, hr, hp.1, hp.alarm⟩

/-- In AUTO mode the loop over the gates follows. -/
theorem Swept.followsLaw_auto (hθ : s.world.thresholds.Ordered) {s₁ : State ℚ}
    (alarms : Swept (fun _ => Fault.none)
      (alarmTreatment (decide (s.world.thresholds.safe < w))) s.world.resources.alarms s (.ok ()) s₁)
    (mode : s.world.mode = .AUTO)
    (gates : Swept (fun _ => Fault.none) (gateTreatment s.world.thresholds w i o)
      s.world.resources.gates s₁ (.ok ()) s')
    (hgates : ∀ r ∈ s.world.resources.gates, ∃ c d, GateReady s.world r c d) :
    FollowsLaw s.world.thresholds hθ w i o s s' := by
  have hda := s.world.resources.ofType_distinct "alarm"
  have hdg := s.world.resources.ofType_distinct "gate"
  have hlaw := fun r (hr : r ∈ s.world.resources.gates) c d (hcd : GateReady s.world r c d) =>
    gates.gates_law hθ hdg hr (hcd.after_alarms hr alarms.touched)
  obtain ⟨sent, hsent, hmay⟩ := alarms.puts_mem hda
  obtain ⟨sent', hsent', hmay'⟩ := gates.puts_mem hdg
  refine ⟨fun r hr b hb => ?_, fun r hr c d hcd => ?_, sent' ++ sent,
    by rw [hsent', hsent, List.append_assoc], fun p hp => ?_⟩
  · exact local_alarmCell _ _ r _ _ _ gates.touched
      (fun q hq => ResourceTable.gate_distinct_alarm hq hr) (alarms.alarm_at hda hr hb)
  · simp only [mode, reduceCtorEq, if_false]
    exact hlaw r hr c d hcd
  · rcases List.mem_append.mp hp with hp | hp
    · obtain ⟨r, hr, hp⟩ := hmay' p hp
      obtain ⟨c, d, hcd⟩ := hgates r hr
      refine Or.inr ⟨r, hr, hp.1, ?_⟩
      have hne := (hp.gate hθ (hcd.after_alarms hr alarms.touched)).2
      rw [hcd.value, (hlaw r hr c d hcd).1]
      exact fun heq => hne (Option.some.inj heq)
    · obtain ⟨r, hr, hp⟩ := hmay p hp
      exact Or.inl ⟨r, hr, hp.1, hp.alarm⟩

/-- **One fault-free run follows the law**, in the registry and on the
devices, in both modes, and sends nothing to an actuator that keeps its
value. -/
theorem faultFreeRun_followsLaw (maxStale : Int) {s : State ℚ} (hθ : s.world.thresholds.Ordered)
    {w i o : ℚ} (hm : Measured maxStale s.world w i o) (halarms : AlarmsReady s.world)
    (hgates : ∀ r ∈ s.world.resources.gates, ∃ c d, GateReady s.world r c d) :
    FollowsLaw s.world.thresholds hθ w i o s (faultFreeRun maxStale s) := by
  obtain ⟨out, h⟩ := runWith_controlled faultFree_answering hm.cycleInputs
  change Controlled _ _ _ _ s out (faultFreeRun maxStale s) at h
  generalize faultFreeRun maxStale s = s' at h ⊢
  cases h with
  | alarmsFailed alarms =>
    cases alarms.alarms_ok (s.world.resources.ofType_distinct "alarm")
      fun r hr => halarms.alarmIs hr
  | manual alarms mode quiet => exact alarms.followsLaw_manual hθ mode quiet
  | auto alarms mode gates =>
    have hok := gates.gates_ok hθ (s.world.resources.ofType_distinct "gate") fun r hr => by
      obtain ⟨c, d, hcd⟩ := hgates r hr
      exact ⟨c, d, hcd.after_alarms hr alarms.touched⟩
    subst hok
    exact alarms.followsLaw_auto hθ mode gates hgates

/-- A tagged gate whose registered level is in range. -/
theorem gateReady_of_mem {s : State ℚ} {r : Resource} (hr : r ∈ s.world.resources.gates)
    (htag : r.tag ≠ none) {c d : Int} (hrange : InRange c) (hc : r.value = some c)
    (hd : s.world.level r.uri = some d) : GateReady s.world r c d := by
  have hmem := ResourceTable.mem_of_gate hr
  exact ⟨htag, hrange, ResourceTable.uri_of_mem hmem,
    (ResourceTable.value_of_mem hmem).trans hc, hd⟩

/-- Where the device agreed with the registry, it needs no case split. -/
theorem agreed_level (c' c : Int) : (if c' = c then c else c') = c' := by
  split
  · next heq => exact heq.symm
  · rfl

/-- **The fault-free control law.** With registry and devices in
agreement, one fault-free run takes every alarm to "water above the safe
threshold", leaves the gates alone in MANUAL mode and takes each to the
opening of the law in AUTO mode, in the registry and on the device; and
it sends no PUT to an actuator whose value stays. -/
theorem run_computes_law (maxStale : Int) {s : State ℚ} (hθ : s.world.thresholds.Ordered)
    {w i o : ℚ} (hm : Measured maxStale s.world w i o) (halarms : AlarmsAgree s.world)
    (hgates : ∀ r ∈ s.world.resources.gates, r.tag ≠ none ∧
      ∃ c, InRange c ∧ r.value = some c ∧ s.world.level r.uri = some c) :
    let s' := faultFreeRun maxStale s
    let high := decide (s.world.thresholds.safe < w)
    let target := fun (r : Resource) (c : Int) => if s.world.mode = .MANUAL then c
      else (law s.world.thresholds hθ).opening w (i - o) (isEmergencyGate r) c
    (∀ r ∈ s.world.resources.alarms,
      s'.world.resources.value r.name = some (statusValue high) ∧
        s'.world.alarmState r.uri = some high) ∧
    (∀ r ∈ s.world.resources.gates, ∀ c, r.value = some c →
      s'.world.resources.value r.name = some (target r c) ∧
        s'.world.level r.uri = some (target r c)) ∧
    ∃ sent, s'.puts = sent ++ s.puts ∧
      ∀ p ∈ sent, ∃ r ∈ s.world.resources.alarms ++ s.world.resources.gates, p.1 = r.uri ∧
        s'.world.resources.value r.name ≠ s.world.resources.value r.name := by
  intro s' high target
  have hready : ∀ r ∈ s.world.resources.gates, ∀ c, r.value = some c →
      GateReady s.world r c c := by
    intro r hr c hc
    obtain ⟨htag, c', hrange, hc', hd⟩ := hgates r hr
    obtain rfl : c' = c := Option.some.inj (hc'.symm.trans hc)
    exact gateReady_of_mem hr htag hrange hc' hd
  have h := faultFreeRun_followsLaw maxStale hθ hm halarms.ready fun r hr => by
    obtain ⟨-, c, -, hc, -⟩ := hgates r hr
    exact ⟨c, c, hready r hr c hc⟩
  have halarm : ∀ r ∈ s.world.resources.alarms, AlarmAt high r s'.world := by
    intro r hr
    obtain ⟨b, hb⟩ := halarms.alarmAt hr
    exact h.alarms r hr b hb
  refine ⟨fun r hr => (halarm r hr).2, fun r hr c hc => ?_, ?_⟩
  · obtain ⟨hv, hl⟩ := h.gates r hr c c (hready r hr c hc)
    exact ⟨hv, hl.trans (congrArg some (agreed_level _ c))⟩
  · obtain ⟨sent, hsent, hmay⟩ := h.puts
    refine ⟨sent, hsent, fun p hp => ?_⟩
    rcases hmay p hp with ⟨r, hr, huri, hne⟩ | ⟨r, hr, huri, hne⟩
    · refine ⟨r, List.mem_append_left _ hr, huri, ?_⟩
      rw [(halarm r hr).2.1]
      exact hne.symm
    · exact ⟨r, List.mem_append_right _ hr, huri, hne⟩

/-- The demo deployment between the maximum and the safe threshold, with
more inflow than outflow. -/
theorem run_computes_law_demo :
    (faultFreeRun 5 (demoState .AUTO 50 10 false 55 30 20)).world.level gate1Uri = some 60 ∧
      (faultFreeRun 5 (demoState .AUTO 50 10 false 55 30 20)).world.level gate2Uri = some 0 := by
  obtain ⟨-, hgates, -⟩ := run_computes_law 5 (s := demoState .AUTO 50 10 false 55 30 20)
    demo_ordered (demo_measured _ _ _ _ _ _ _) (demo_alarmsAgree _ _ _ _ _ _ _)
    (demo_gatesInLaw _ _ _ _ _ ⟨by decide, by decide⟩ ⟨by decide, by decide⟩)
  have hmem₁ : demoGate1 50 ∈ (demoTable 50 10 false).gates := by simp [demoTable_gates]
  have hmem₂ : demoGate2 10 ∈ (demoTable 50 10 false).gates := by simp [demoTable_gates]
  have hauto : OperativeMode.AUTO ≠ .MANUAL := by decide
  have hem₁ : isEmergencyGate (demoGate1 50) = false := by decide
  have hem₂ : isEmergencyGate (demoGate2 10) = true := by decide
  refine ⟨(hgates _ hmem₁ 50 rfl).2.trans ?_, (hgates _ hmem₂ 10 rfl).2.trans ?_⟩
  · norm_num [demoState, demoWorld, demoThresholds, law, BandLaw.opening, BandLaw.clamp,
      BandLaw.move, hem₁, FULL_OPEN, FULL_CLOSE, LONG_STEP, hauto]
  · norm_num [demoState, demoWorld, demoThresholds, law, BandLaw.opening, hem₂, FULL_CLOSE,
      hauto]

/-- **More water or more net inflow never closes a gate further.** Two
fault-free cycles in AUTO mode start from the same registry; the second
sees at least the level and the inflow and at most the outflow of the
first. Then it registers for every gate at least the opening the first
registers, and so it is on the device of every gate that agreed with the
registry before. -/
theorem run_mono (maxStale : Int) {s₁ s₂ : State ℚ}
    (hres : s₁.world.resources = s₂.world.resources)
    (hthr : s₁.world.thresholds = s₂.world.thresholds) (hθ : s₁.world.thresholds.Ordered)
    (hauto₁ : s₁.world.mode = .AUTO) (hauto₂ : s₂.world.mode = .AUTO)
    {w₁ i₁ o₁ w₂ i₂ o₂ : ℚ} (hm₁ : Measured maxStale s₁.world w₁ i₁ o₁)
    (hm₂ : Measured maxStale s₂.world w₂ i₂ o₂)
    (halarms₁ : AlarmsReady s₁.world) (halarms₂ : AlarmsReady s₂.world)
    (hgates : ∀ r ∈ s₁.world.resources.gates, r.tag ≠ none ∧
      ∃ c d₁ d₂, InRange c ∧ r.value = some c ∧ s₁.world.level r.uri = some d₁ ∧
        s₂.world.level r.uri = some d₂)
    (hw : w₁ ≤ w₂) (hi : i₁ ≤ i₂) (ho : o₂ ≤ o₁) :
    ∀ r ∈ s₁.world.resources.gates, ∃ c₁ c₂ : Int, c₁ ≤ c₂ ∧
      (faultFreeRun maxStale s₁).world.resources.value r.name = some c₁ ∧
      (faultFreeRun maxStale s₂).world.resources.value r.name = some c₂ ∧
      (s₁.world.level r.uri = r.value → s₂.world.level r.uri = r.value →
        (faultFreeRun maxStale s₁).world.level r.uri = some c₁ ∧
        (faultFreeRun maxStale s₂).world.level r.uri = some c₂) := by
  have hθ₂ : s₂.world.thresholds.Ordered := hthr ▸ hθ
  have h₁ := faultFreeRun_followsLaw maxStale hθ hm₁ halarms₁ fun r hr => by
    obtain ⟨htag, c, d₁, -, hrange, hc, hd₁, -⟩ := hgates r hr
    exact ⟨c, d₁, gateReady_of_mem hr htag hrange hc hd₁⟩
  have h₂ := faultFreeRun_followsLaw maxStale hθ₂ hm₂ halarms₂ fun r hr => by
    obtain ⟨htag, c, -, d₂, hrange, hc, -, hd₂⟩ := hgates r (hres ▸ hr)
    exact ⟨c, d₂, gateReady_of_mem hr htag hrange hc hd₂⟩
  intro r hr
  obtain ⟨htag, c, d₁, d₂, hrange, hc, hd₁, hd₂⟩ := hgates r hr
  have hr₂ : r ∈ s₂.world.resources.gates := hres ▸ hr
  obtain ⟨hv₁, hl₁⟩ := h₁.gates r hr c d₁ (gateReady_of_mem hr htag hrange hc hd₁)
  obtain ⟨hv₂, hl₂⟩ := h₂.gates r hr₂ c d₂ (gateReady_of_mem hr₂ htag hrange hc hd₂)
  simp only [hauto₁, hauto₂, reduceCtorEq, if_false] at hv₁ hv₂ hl₁ hl₂
  have hlaw : law s₂.world.thresholds hθ₂ = law s₁.world.thresholds hθ := by
    simp only [hthr]
  rw [hlaw] at hv₂ hl₂
  have hnet : i₁ - o₁ ≤ i₂ - o₂ := by linarith
  refine ⟨_, _, (law s₁.world.thresholds hθ).opening_mono hw hnet (isEmergencyGate r) c,
    hv₁, hv₂, fun hagree₁ hagree₂ => ?_⟩
  rw [hd₁, hc] at hagree₁
  rw [hd₂, hc] at hagree₂
  cases hagree₁
  cases hagree₂
  exact ⟨hl₁.trans (congrArg some (agreed_level _ c)),
    hl₂.trans (congrArg some (agreed_level _ c))⟩

/-- Two cycles of the demo deployment, the second with more inflow. -/
theorem run_mono_demo : ∃ c₁ c₂ : Int, c₁ ≤ c₂ ∧
    (faultFreeRun 5 (demoState .AUTO 50 10 false 50 20 20)).world.level gate1Uri = some c₁ ∧
    (faultFreeRun 5 (demoState .AUTO 50 10 false 55 30 20)).world.level gate1Uri = some c₂ := by
  have hmem : demoGate1 50 ∈ (demoTable 50 10 false).gates := by simp [demoTable_gates]
  have hres : (demoState .AUTO 50 10 false 50 20 20).world.resources =
      (demoState .AUTO 50 10 false 55 30 20).world.resources := rfl
  obtain ⟨c₁, c₂, hle, -, -, hlevels⟩ := run_mono 5 hres rfl demo_ordered rfl rfl
    (demo_measured _ _ _ _ _ _ _) (demo_measured _ _ _ _ _ _ _)
    (demo_alarmsAgree _ _ _ _ _ _ _).ready (demo_alarmsAgree _ _ _ _ _ _ _).ready
    (fun r hr => by
      obtain ⟨htag, c, hrange, hc, hlevel⟩ := demo_gatesInLaw .AUTO false 50 20 20
        ⟨by decide, by decide⟩ ⟨by decide, by decide⟩ r hr
      exact ⟨htag, c, c, c, hrange, hc, hlevel, hlevel⟩)
    (by norm_num) (by norm_num) (by norm_num) (demoGate1 50) hmem
  exact ⟨c₁, c₂, hle, hlevels rfl rfl⟩

end DamMonitoring.Controller
