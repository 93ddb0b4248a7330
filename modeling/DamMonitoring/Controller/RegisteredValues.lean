/-
DamMonitoring.Controller.RegisteredValues — which registered values let a
cycle run to its end.

`handlePOST` stores any `Integer`. The step methods clamp on the side
they move to only, and their additions wrap around, so a primary gate
registered below `-step` (when opening), above `100 + step` (when
closing) or within a step of the ends of `int` is commanded to a level no
gate accepts. The rejection ends the cycle, and since nothing is recorded
it ends every later cycle in that band too. `noRejection_iff` gives the
exact condition; `negative_value_is_rejected` is a gate registered at -50.

  §1 the levels a step method computes
  §2 fault-free rounds over arbitrary registered values
  §3 cycles that no gate rejects
-/
import DamMonitoring.Controller.Demo

namespace DamMonitoring.Controller

open Program Java Motes Persistence Collector
open ControlLogic AutomaticControlUnit
open Persistence.ResourceTable (Distinct)

/-! ## §1 Steps -/

/-- A registered value from which a step of `d` leads to a level every
gate accepts. -/
structure Steppable (d c : Int) : Prop where
  opening : 0 < d → -d ≤ c ∧ c ≤ 2147483647 - d
  closing : d < 0 → -2147483648 - d ≤ c ∧ c ≤ 100 - d

theorem accepts_iff {L : Int} : ResGate.Accepts L ↔ 0 ≤ L ∧ L ≤ 100 := Iff.rfl

/-- Opening from 100 and closing from 0 command nothing, and both values
are `Steppable`. -/
theorem stepNext_accepts_iff {d c : Int} (hlo : -100 ≤ d) (hhi : d ≤ 100) (hc : IsInt32 c) :
    (∀ L, stepNext d c = some L → ResGate.Accepts L) ↔ Steppable d c := by
  obtain ⟨hc₀, hc₁⟩ := hc
  have hsteppable : Steppable d c ↔ (0 < d → -d ≤ c ∧ c ≤ 2147483647 - d) ∧
      (d < 0 → -2147483648 - d ≤ c ∧ c ≤ 100 - d) := ⟨fun ⟨h, h'⟩ => ⟨h, h'⟩, fun ⟨h, h'⟩ => ⟨h, h'⟩⟩
  rw [hsteppable]
  unfold stepNext
  by_cases hpos : 0 < d
  · rw [if_pos hpos]
    by_cases hfull : c = FULL_OPEN
    · have hnone : increaseNext d c = none := if_neg fun h => h.1 hfull
      simp only [hnone, reduceCtorEq, false_implies, implies_true, true_iff]
      simp only [FULL_OPEN] at hfull
      omega
    · have hsome : increaseNext d c = some (min (int32 (c + d)) FULL_OPEN) := if_pos ⟨hfull, hpos⟩
      simp only [hsome, Option.some.injEq, forall_eq', accepts_iff, FULL_OPEN, int32]
      omega
  · rw [if_neg hpos]
    by_cases hzero : d = 0
    · have hnone : decreaseNext (-d) c = none := if_neg fun h => by omega
      simp only [hnone, reduceCtorEq, false_implies, implies_true, true_iff]
      omega
    by_cases hclosed : c = FULL_CLOSE
    · have hnone : decreaseNext (-d) c = none := if_neg fun h => h.1 hclosed
      simp only [hnone, reduceCtorEq, false_implies, implies_true, true_iff]
      simp only [FULL_CLOSE] at hclosed
      omega
    · have hsome : decreaseNext (-d) c = some (max (int32 (c - -d)) FULL_CLOSE) :=
        if_pos ⟨hclosed, by omega⟩
      simp only [hsome, Option.some.injEq, forall_eq', accepts_iff, FULL_CLOSE, int32]
      omega

variable {F : Type} [JavaFloat F] {θ : Thresholds F} {w i o : F} {gate : Resource}

theorem delta_bounds (θ : Thresholds F) (w i o : F) : -100 ≤ delta θ w i o ∧ delta θ w i o ≤ 100 := by
  have hlong : LONG_STEP = 10 := rfl
  obtain ⟨hpos, hle⟩ := normalStep_bounds i o
  unfold delta
  split
  · split <;> decide
  · split
    · split <;> decide
    · split
      · omega
      · split <;> omega

/-- The next level of a gate is acceptable exactly if it is no step, or a
step from a `Steppable` value. -/
theorem gateNext_accepts_iff {c : Int} (hc : IsInt32 c) :
    (∀ L, gateNext θ w i o gate c = some L → ResGate.Accepts L) ↔
      (¬θ.safe < w → isEmergencyGate gate = false → Steppable (delta θ w i o) c) := by
  have hset : ∀ L : Int, InRange L → ∀ L', setNext L c = some L' → ResGate.Accepts L' := by
    intro L hL L' h
    unfold setNext at h
    split at h
    · cases h
      exact hL.accepts
    · cases h
  obtain ⟨hlo, hhi⟩ := delta_bounds θ w i o
  unfold gateNext
  by_cases hsafe : θ.safe < w
  · simp only [if_pos hsafe]
    exact ⟨fun _ h => absurd hsafe h, fun _ => hset FULL_OPEN ⟨by decide, le_rfl⟩⟩
  cases hem : isEmergencyGate gate with
  | true =>
    simp only [if_neg hsafe, if_true]
    exact ⟨fun _ _ h => absurd h (by decide), fun _ => hset FULL_CLOSE ⟨le_rfl, by decide⟩⟩
  | false =>
    simp only [if_neg hsafe, Bool.false_eq_true, if_false]
    rw [← stepNext_accepts_iff hlo hhi hc]
    by_cases hzero : delta θ w i o = 0
    · simp only [hzero, if_true]
      refine ⟨fun _ _ _ L hL => ?_, fun _ L hL => by cases hL⟩
      have hnone : stepNext 0 c = none := by simp [stepNext, decreaseNext]
      rw [hnone] at hL
      cases hL
    · simp only [if_neg hzero]
      exact ⟨fun h _ _ => h, fun h => h hsafe trivial⟩

/-! ## §2 Rounds and loops -/

/-- Every gate is registered with an `Integer` and answers. -/
def GatesRegistered (w : World F) : Prop :=
  ∀ r ∈ w.resources.gates, ∃ c d, r.value = some c ∧ IsInt32 c ∧ w.level r.uri = some d

/-- Every alarm answers; its registered value may be null. -/
def AlarmsAnswer (w : World F) : Prop :=
  ∀ r ∈ w.resources.alarms, ∃ b, w.alarmState r.uri = some b

variable {s s' : State F} {out : Except JException Unit}

omit [JavaFloat F] in
/-- Without faults, an alarm round throws only over a null value. -/
theorem Treated.alarm_null {status : Bool} {r : Resource} {ex : JException}
    (h : Treated (fun _ => Fault.none) s r (alarmTreatment status r) (.error ex) s') {b : Bool}
    (hb : s.world.alarmState r.uri = some b) :
    s.world.resources.value r.name = none ∧ ex = .nullPointerException := by
  cases hv : s.world.resources.value r.name with
  | some c =>
    obtain ⟨-, hfault | ⟨message, hfault⟩⟩ := h.alarm_error hv hb
    · exact absurd rfl hfault
    · cases hfault
  | none =>
    cases h with
    | updated h =>
      cases h with
      | unset => exact ⟨rfl, rfl⟩
      | commanded value => rw [hv] at value; cases value

omit [JavaFloat F] in
/-- Without faults, the loop over the alarms stops at a null value or
comes to its end. -/
theorem Swept.alarms_null {status : Bool} {ex : JException}
    (h : Swept (fun _ => Fault.none) (alarmTreatment status) s.world.resources.alarms s
      (.error ex) s') (halarms : AlarmsAnswer s.world) :
    ex = .nullPointerException ∧ ∃ r ∈ s.world.resources.alarms, r.value = none := by
  have hd := s.world.resources.ofType_distinct "alarm"
  obtain ⟨pre, r, post, s₁, heq, rounds, round⟩ := h.split rfl
  change s.world.resources.alarms = _ at heq
  have hr : r ∈ s.world.resources.alarms := heq ▸ List.mem_append_right _ List.mem_cons_self
  have hcross : ∀ q ∈ pre, Distinct q r := by
    intro q hq
    change s.world.resources.alarms.Pairwise Distinct at hd
    rw [heq] at hd
    exact (List.pairwise_append.mp hd).2.2 q hq r List.mem_cons_self
  have hasIn : AsIn s.world r s₁.world :=
    local_asIn s.world r _ _ _ rounds.touched hcross (.refl r s.world)
  obtain ⟨b, hb⟩ := halarms r hr
  have hb₁ : s₁.world.alarmState r.uri = some b := by
    rw [World.alarmState, hasIn.2.2]
    exact hb
  obtain ⟨hnull, hex⟩ := round.alarm_null hb₁
  rw [hasIn.2.1, ResourceTable.value_of_mem (ResourceTable.mem_of_alarm hr)] at hnull
  exact ⟨hex, r, hr, hnull⟩

/-- Below the safe threshold a gate without a tag breaks the cycle. -/
theorem gateTreatment_untagged (htag : gate.tag = none) (hsafe : ¬θ.safe < w) :
    gateTreatment θ w i o gate = .broken := by
  simp [gateTreatment, hsafe, closeTreatment, htag]

/-- A gate round that succeeds was about a tagged gate, or in an
emergency. -/
theorem Treated.tagged {f : Action F → Fault}
    (h : Treated f s gate (gateTreatment θ w i o gate) (.ok ()) s') (hsafe : ¬θ.safe < w) :
    gate.tag ≠ none := by
  intro htag
  rw [gateTreatment_untagged htag hsafe] at h
  cases h

/-! ## §3 Cycles -/

/-- The PUT `p` has been sent between `s` and `s'`. -/
def Sends (s s' : State F) (p : Uri × ObjectNode) : Prop :=
  ∃ sent, s'.puts = sent ++ s.puts ∧ p ∈ sent

/-- One fault-free cycle. -/
def faultFreeCycle (maxStale : Int) (s : State F) : Except JException Unit × State F :=
  run .scheduler (fun _ => .none) (cycle maxStale) s

/-- No gate rejects a PUT of the cycle, and no `CoapException` ends it. -/
def NoRejection (maxStale : Int) (s : State F) : Prop :=
  (∀ gate ∈ s.world.resources.gates, ∀ L,
    Sends s (faultFreeCycle maxStale s).2 (gate.uri, ResGate.openingLevelNode L) →
      ResGate.Accepts L) ∧
    ∀ message, (faultFreeCycle maxStale s).1 ≠ .error (.coapException message)

/-- Every primary gate in front of the first gate without a tag is
registered with a value the step of the cycle can start from. -/
def AllSteppable (θ : Thresholds F) (w i o : F) (gates : List Resource) : Prop :=
  ∀ pre gate post, gates = pre ++ gate :: post → (∀ q ∈ pre, q.tag ≠ none) → gate.tag ≠ none →
    isEmergencyGate gate = false → ∀ c, gate.value = some c → Steppable (delta θ w i o) c

/-- When a cycle meets no rejection: it has no data to act on, an alarm
with a null value ends it, the gates are opened fully, or the step of the
cycle can start from every value it meets. -/
def CyclePasses (maxStale : Int) (wd : World F) : Prop :=
  ∀ w i o, cycleInputs maxStale wd = some (w, i, o) →
    (∀ r ∈ wd.resources.alarms, r.value ≠ none) → ¬wd.thresholds.safe < w →
    AllSteppable wd.thresholds w i o wd.resources.gates

theorem faultFreeCycle_spec (maxStale : Int) (s : State F) :
    match cycleInputs maxStale s.world with
    | none => Quiet s (faultFreeCycle maxStale s).2 ∧
        ∀ message, (faultFreeCycle maxStale s).1 ≠ .error (.coapException message)
    | some (w, i, o) => Controlled (fun _ => .none) w i o s (faultFreeCycle maxStale s).1
        (faultFreeCycle maxStale s).2 :=
  run_of_safe (safe_cycle faultFree_answering maxStale)

section Gates

variable {s₁ : State F} {pre post : List Resource}

omit [JavaFloat F] in
/-- What the loop over the gates finds of a gate. -/
theorem gate_asIn (hgates : GatesRegistered s.world)
    (htouched : Touched s.world.resources.alarms s.world s₁.world)
    (hr : gate ∈ s.world.resources.gates) :
    ∃ c d, gate.value = some c ∧ IsInt32 c ∧
      GateCell (fun _ => some c) (fun _ => some d) gate s₁.world := by
  obtain ⟨c, d, hc, hint, hd⟩ := hgates gate hr
  have hmem := ResourceTable.mem_of_gate hr
  exact ⟨c, d, hc, hint, local_gateCell (fun _ => some c) (fun _ => some d) gate _ _ _ htouched
    (fun q hq => (ResourceTable.gate_distinct_alarm hr hq).symm)
    ⟨ResourceTable.uri_of_mem hmem, (ResourceTable.value_of_mem hmem).trans hc, hd⟩⟩

omit [JavaFloat F] in
/-- What the loop over the gates finds of a gate after some rounds. -/
theorem Swept.finds {treat : Resource → Treatment} {before : List Resource} {s₂ : State F}
    {out : Except JException Unit} (rounds : Swept (fun _ => Fault.none) treat before s₁ out s₂)
    (hgates : GatesRegistered s.world)
    (htouched : Touched s.world.resources.alarms s.world s₁.world)
    (hr : gate ∈ s.world.resources.gates) (hbefore : ∀ p ∈ before, Distinct p gate) :
    ∃ c d, gate.value = some c ∧ IsInt32 c ∧
      GateCell (fun _ => some c) (fun _ => some d) gate s₂.world := by
  obtain ⟨c, d, hc, hint, hcell⟩ := gate_asIn hgates htouched hr
  exact ⟨c, d, hc, hint, local_gateCell _ _ gate _ _ _ rounds.touched hbefore hcell⟩

/-- Without faults, a gate round throws over a missing tag or because
the gate rejects its next level, which is a `CoapException`. -/
theorem Treated.gate_refusal {ex : JException} {c d : Int}
    (h : Treated (fun _ => Fault.none) s gate (gateTreatment θ w i o gate) (.error ex) s')
    (hcell : GateCell (fun _ => some c) (fun _ => some d) gate s.world) :
    (gate.tag = none ∧ ex = .nullPointerException) ∨
      (gate.tag = none → θ.safe < w) ∧ (∃ message, ex = .coapException message) ∧
        ∃ L, gateNext θ w i o gate c = some L ∧ ¬ResGate.Accepts L := by
  rcases h.gate_error hcell.2.1 hcell.2.2 with ⟨htag, -, hex⟩ | ⟨L, hL, hcause⟩
  · exact Or.inl ⟨htag, hex⟩
  · rcases hcause with hfault | ⟨message, hfault⟩ | ⟨hrefused, hex⟩
    · exact absurd rfl hfault
    · cases hfault
    · refine Or.inr ⟨fun htag => ?_, hex, L, hL, hrefused⟩
      by_contra hsafe
      rw [gateTreatment_untagged htag hsafe] at h
      cases h
      obtain ⟨message, hex⟩ := hex
      cases hex

/-- The gates in front of one that the loop reaches are tagged, unless
the loop opens every gate. -/
theorem Swept.tagged {f : Action F → Fault}
    (h : Swept f (gateTreatment θ w i o) pre s (.ok ()) s') (hd : pre.Pairwise Distinct)
    (hsafe : ¬θ.safe < w) : ∀ q ∈ pre, q.tag ≠ none := by
  intro q hq htag
  obtain ⟨s₁, s₂, -, round⟩ := h.round_of_mem rfl hd hq
  exact round.tagged hsafe htag

end Gates

/-- If no gate rejects anything, every value the cycle meets is one its
step can start from. -/
theorem NoRejection.cyclePasses {maxStale : Int} (hauto : s.world.mode = .AUTO)
    (hgates : GatesRegistered s.world) (halarms : AlarmsAnswer s.world)
    (h : NoRejection maxStale s) : CyclePasses maxStale s.world := by
  intro w i o hin hnull hsafe pre gate post heq hpre htag hprimary c hc
  have hspec := faultFreeCycle_spec maxStale s
  obtain ⟨-, hcoap⟩ := h
  generalize faultFreeCycle maxStale s = r at hspec hcoap
  obtain ⟨out, s'⟩ := r
  rw [hin] at hspec
  dsimp only at hspec hcoap
  have hd := s.world.resources.ofType_distinct "gate"
  change s.world.resources.gates.Pairwise Distinct at hd
  have hmem : gate ∈ s.world.resources.gates :=
    heq ▸ List.mem_append_right _ List.mem_cons_self
  cases hspec with
  | alarmsFailed alarms =>
    obtain ⟨-, r, hr, hv⟩ := alarms.alarms_null halarms
    exact absurd hv (hnull r hr)
  | manual _ mode _ =>
    rw [hauto] at mode
    cases mode
  | @auto s₁ _ _ alarms _ gates =>
    rw [heq] at gates hd
    obtain ⟨hdpre, -, hcross⟩ := List.pairwise_append.mp hd
    cases gates.reached with
    | @before pre₁ q post₁ s₂ _ ex eq rounds round =>
      subst eq
      have hq : q ∈ pre₁ ++ q :: post₁ := List.mem_append_right _ List.mem_cons_self
      obtain ⟨c', d', -, -, hcell⟩ := rounds.finds hgates alarms.touched
        (heq ▸ List.mem_append_left _ hq)
        fun p hp => (List.pairwise_append.mp hdpre).2.2 p hp q List.mem_cons_self
      rcases round.gate_refusal hcell with ⟨hnotag, -⟩ | ⟨-, ⟨message, rfl⟩, -⟩
      · exact absurd hnotag (hpre q hq)
      · exact absurd rfl (hcoap message)
    | here rounds round =>
      obtain ⟨c', d', -, -, hcell⟩ := rounds.finds hgates alarms.touched hmem
        fun p hp => hcross p hp gate List.mem_cons_self
      rcases round.gate_refusal hcell with ⟨hnotag, -⟩ | ⟨-, ⟨message, rfl⟩, -⟩
      · exact absurd hnotag htag
      · exact absurd rfl (hcoap message)
    | past rounds round rest =>
      obtain ⟨c', d', hc', hint, hcell⟩ := rounds.finds hgates alarms.touched hmem
        fun p hp => hcross p hp gate List.mem_cons_self
      obtain rfl : c' = c := Option.some.inj (hc'.symm.trans hc)
      have haccepts := round.gate_accepts hcell.2.1 hcell.2.2
      exact (gateNext_accepts_iff hint).mp haccepts hsafe hprimary

/-- A level commanded to a gate that the loop reaches is acceptable, if
the step can start from every value the loop meets. -/
theorem AllSteppable.accepts {gates pre post : List Resource} {c : Int}
    (h : ¬θ.safe < w → AllSteppable θ w i o gates) (heq : gates = pre ++ gate :: post)
    (hpre : ¬θ.safe < w → ∀ q ∈ pre, q.tag ≠ none) (htag : gate.tag = none → θ.safe < w)
    (hc : gate.value = some c) (hint : IsInt32 c) :
    ∀ L, gateNext θ w i o gate c = some L → ResGate.Accepts L :=
  (gateNext_accepts_iff hint).mpr fun hsafe hprimary =>
    h hsafe pre gate post heq (hpre hsafe) (fun hnone => hsafe (htag hnone)) hprimary c hc

/-- The level in a PUT that a round may send to a gate. -/
theorem MaySend.gateLevel {r : Resource} {wd : World F} {uri : Uri} {L c : Int}
    (h : MaySend (gateTreatment θ w i o) wd r (uri, ResGate.openingLevelNode L))
    (hc : wd.resources.value r.name = some c) :
    uri = r.uri ∧ gateNext θ w i o r c = some L ∧ (r.tag = none → θ.safe < w) := by
  obtain ⟨huri, command, c', v, htreat, hc', hcmd⟩ := h
  obtain rfl : c' = c := Option.some.inj (hc'.symm.trans hc)
  refine ⟨huri, ?_, fun htag => ?_⟩
  · rcases gateTreatment_cases θ w i o r with ⟨ht, -⟩ | ⟨ht, -⟩ | ht
    · rw [ht] at htreat
      cases htreat
    · rw [ht] at htreat
      cases htreat
    · rw [ht] at htreat
      cases htreat
      obtain ⟨L', hL', hpair⟩ := Option.map_eq_some_iff.mp hcmd
      simp only [ResGate.openingLevelNode, Prod.mk.injEq, List.cons.injEq, JsonValue.num.injEq,
        true_and, and_true] at hpair
      rw [hL', hpair.1]
  · by_contra hsafe
    rw [gateTreatment_untagged htag hsafe] at htreat
    cases htreat

omit [JavaFloat F] in
/-- A loop over the alarms sends nothing to a gate. -/
theorem alarm_put_ne_gate {status : Bool} {r : Resource} {wd : World F} {t : ResourceTable}
    {p : Uri × ObjectNode} (h : MaySend (alarmTreatment status) wd r p) (hr : r ∈ t.alarms)
    (hg : gate ∈ t.gates) : p.1 ≠ gate.uri := by
  rw [h.1]
  exact (ResourceTable.gate_distinct_alarm hg hr).2.symm

omit [JavaFloat F] in
/-- A loop over the alarms that comes to its end has met no null value. -/
theorem Swept.alarms_set {f : Action F → Fault} {status : Bool}
    (h : Swept f (alarmTreatment status) s.world.resources.alarms s (.ok ()) s') :
    ∀ r ∈ s.world.resources.alarms, r.value ≠ none := by
  intro r hr hnull
  have hv := (ResourceTable.value_of_mem (ResourceTable.mem_of_alarm hr)).trans hnull
  obtain ⟨s₁, s₂, hasIn, round⟩ :=
    h.round_of_mem rfl (s.world.resources.ofType_distinct "alarm") hr
  have hv₁ := hasIn.2.1.trans hv
  cases round with
  | updated round =>
    cases round with
    | kept value => rw [hv₁] at value; cases value
    | commanded value => rw [hv₁] at value; cases value

section GateLoop

variable {s₁ : State F} {out : Except JException Unit}
  (hgates : GatesRegistered s.world)
  (htouched : Touched s.world.resources.alarms s.world s₁.world)
  (gates : Swept (fun _ => Fault.none) (gateTreatment θ w i o) s.world.resources.gates s₁ out s')
  (hstep : ¬θ.safe < w → AllSteppable θ w i o s.world.resources.gates)
include hgates htouched gates hstep

/-- If the step can start from every value the loop meets, every level the
loop sends is acceptable. -/
theorem Swept.sends_accepted {L : Int}
    (hsent : Sends s₁ s' (gate.uri, ResGate.openingLevelNode L)) : ResGate.Accepts L := by
  obtain ⟨sent, hsent, hp⟩ := hsent
  obtain ⟨sent', hsent', hmem⟩ := gates.sends (s.world.resources.ofType_distinct "gate")
  obtain rfl : sent' = sent := List.append_cancel_right (hsent'.symm.trans hsent)
  obtain ⟨pre, r, post, heq, hpasses, hsend⟩ := (hmem _).mp hp
  have hr : r ∈ s.world.resources.gates := heq ▸ List.mem_append_right _ List.mem_cons_self
  obtain ⟨c, d, hc, hint, hcell⟩ := gate_asIn hgates htouched hr
  obtain ⟨-, hL, htag⟩ := hsend.gateLevel hcell.2.1
  have hpre : ¬θ.safe < w → ∀ q ∈ pre, q.tag ≠ none := by
    intro hsafe q hq hnone
    have hpass := hpasses q hq
    rw [gateTreatment_untagged hnone hsafe] at hpass
    exact hpass
  exact AllSteppable.accepts hstep heq hpre htag hc hint L hL

/-- If the step can start from every value the loop meets, no gate ends
the loop. -/
theorem Swept.no_refusal (message : String) : out ≠ .error (.coapException message) := by
  intro hex
  have hd := s.world.resources.ofType_distinct "gate"
  change s.world.resources.gates.Pairwise Distinct at hd
  obtain ⟨pre, r, post, s₂, heq, rounds, round⟩ := gates.split hex
  have hr : r ∈ s.world.resources.gates := heq ▸ List.mem_append_right _ List.mem_cons_self
  rw [heq] at hd
  obtain ⟨hdpre, -, hcross⟩ := List.pairwise_append.mp hd
  obtain ⟨c, d, hc, hint, hcell⟩ := rounds.finds hgates htouched hr
    fun q hq => hcross q hq r List.mem_cons_self
  rcases round.gate_refusal hcell with ⟨-, hnull⟩ | ⟨htag, -, L, hL, hrefused⟩
  · cases hnull
  · exact hrefused (AllSteppable.accepts hstep heq (fun hsafe => rounds.tagged hdpre hsafe)
      htag hc hint L hL)

end GateLoop

omit [JavaFloat F] in
/-- What a loop over the alarms and something after it have sent to a
gate, the latter has sent. -/
theorem Swept.sends_after {status : Bool} {out : Except JException Unit} {s₁ : State F}
    (alarms : Swept (fun _ => Fault.none) (alarmTreatment status) s.world.resources.alarms s out s₁)
    {sent : List (Uri × ObjectNode)} (hafter : s'.puts = sent ++ s₁.puts)
    (hg : gate ∈ s.world.resources.gates) {node : ObjectNode}
    (hsent : Sends s s' (gate.uri, node)) : Sends s₁ s' (gate.uri, node) := by
  obtain ⟨sent₁, hsent₁, hmay⟩ := alarms.puts_mem (s.world.resources.ofType_distinct "alarm")
  obtain ⟨all, hall, hp⟩ := hsent
  rw [hafter, hsent₁, ← List.append_assoc] at hall
  obtain rfl : sent ++ sent₁ = all := List.append_cancel_right hall
  rcases List.mem_append.mp hp with hp | hp
  · exact ⟨sent, hafter, hp⟩
  · obtain ⟨r, hr, hsend⟩ := hmay _ hp
    exact absurd rfl (alarm_put_ne_gate hsend hr hg)

omit [JavaFloat F] in
theorem not_sends_of_puts {p : Uri × ObjectNode} (hq : s'.puts = s.puts) : ¬Sends s s' p := by
  intro h
  obtain ⟨sent, hsent, hp⟩ := h
  rw [hq] at hsent
  rw [List.self_eq_append_left.mp hsent] at hp
  cases hp

/-- If the step can start from every value the cycle meets, no gate
rejects anything. -/
theorem CyclePasses.noRejection {maxStale : Int} (hauto : s.world.mode = .AUTO)
    (hgates : GatesRegistered s.world) (halarms : AlarmsAnswer s.world)
    (h : CyclePasses maxStale s.world) : NoRejection maxStale s := by
  have hspec := faultFreeCycle_spec maxStale s
  unfold NoRejection
  generalize faultFreeCycle maxStale s = r at hspec ⊢
  obtain ⟨out, s'⟩ := r
  dsimp only at hspec ⊢
  cases hin : cycleInputs maxStale s.world with
  | none =>
    rw [hin] at hspec
    obtain ⟨hquiet, hcoap⟩ := hspec
    refine ⟨?_, hcoap⟩
    intro gate _ L hsent
    exact absurd hsent (not_sends_of_puts hquiet.puts)
  | some inputs =>
    obtain ⟨w, i, o⟩ := inputs
    rw [hin] at hspec
    dsimp only at hspec
    cases hspec with
    | manual _ mode _ =>
      rw [hauto] at mode
      cases mode
    | alarmsFailed alarms =>
      obtain ⟨rfl, -⟩ := alarms.alarms_null halarms
      refine ⟨?_, ?_⟩
      · intro gate hg L hsent
        exact absurd (alarms.sends_after (List.nil_append _).symm hg hsent) (not_sends_of_puts rfl)
      · intro message hex
        cases hex
    | @auto s₁ _ _ alarms _ gates =>
      have hstep := fun hsafe => h w i o hin alarms.alarms_set hsafe
      have hd := s.world.resources.ofType_distinct "gate"
      obtain ⟨sent, hafter, -⟩ := gates.puts_mem hd
      refine ⟨?_, ?_⟩
      · intro gate hg L hsent
        exact gates.sends_accepted hgates alarms.touched hstep (alarms.sends_after hafter hg hsent)
      · intro message
        exact gates.no_refusal hgates alarms.touched hstep message

/-- **Which registered values a cycle survives.** With every gate
registered with an `Integer` and all devices answering, one fault-free
cycle in AUTO mode sends no gate a level it rejects, and is not ended by
a `CoapException`, if and only if `CyclePasses`. -/
theorem noRejection_iff (maxStale : Int) {s : State F} (hauto : s.world.mode = .AUTO)
    (hgates : GatesRegistered s.world) (halarms : AlarmsAnswer s.world) :
    NoRejection maxStale s ↔ CyclePasses maxStale s.world :=
  ⟨fun h => h.cyclePasses hauto hgates halarms, fun h => h.noRejection hauto hgates halarms⟩

/-- Levels in range are always survived. -/
theorem cyclePasses_of_inRange {maxStale : Int}
    (h : ∀ r ∈ s.world.resources.gates, ∀ c, r.value = some c → InRange c) :
    CyclePasses maxStale s.world := by
  intro w i o _ _ _ pre gate post heq _ _ _ c hc
  have hmem : gate ∈ s.world.resources.gates := heq ▸ List.mem_append_right _ List.mem_cons_self
  obtain ⟨hlo, hhi⟩ := h gate hmem c hc
  obtain ⟨hdlo, hdhi⟩ := delta_bounds s.world.thresholds w i o
  simp only [FULL_CLOSE, FULL_OPEN] at hlo hhi
  exact ⟨fun _ => by omega, fun _ => by omega⟩

theorem demo_gatesRegistered (mode : OperativeMode) (b : Bool) (w i o : ℚ) {v₁ v₂ : Int}
    (h₁ : IsInt32 v₁) (h₂ : IsInt32 v₂) : GatesRegistered (demoWorld mode v₁ v₂ b w i o) := by
  intro r hr
  rcases demo_gate_cases hr with ⟨rfl, h⟩ | ⟨rfl, h⟩
  · exact ⟨v₁, v₁, rfl, h₁, h⟩
  · exact ⟨v₂, v₂, rfl, h₂, h⟩

theorem demo_alarmsAnswer (mode : OperativeMode) (v₁ v₂ : Int) (b : Bool) (w i o : ℚ) :
    AlarmsAnswer (demoWorld mode v₁ v₂ b w i o) := by
  intro r hr
  obtain ⟨b, -, hb⟩ := demo_alarmsAgree mode v₁ v₂ b w i o r hr
  exact ⟨b, hb⟩

/-- The demo deployment with levels in range. -/
theorem noRejection_iff_demo : NoRejection 5 (demoState .AUTO 50 10 false 55 30 20) := by
  refine (noRejection_iff 5 rfl (demo_gatesRegistered _ _ _ _ _ ⟨by decide, by decide⟩
    ⟨by decide, by decide⟩) (demo_alarmsAnswer _ _ _ _ _ _ _)).mpr
    (cyclePasses_of_inRange fun r hr c hc => ?_)
  obtain ⟨-, c', hrange, hc', -⟩ := demo_gatesInLaw .AUTO false 55 30 20
    ⟨by decide, by decide⟩ ⟨by decide, by decide⟩ r hr
  rw [hc] at hc'
  cases hc'
  exact hrange

/-- `outflow-1`, registered at -50; its device is closed. -/
def negativeState : State ℚ :=
  ⟨{ demoWorld .AUTO 0 0 false 55 20 30 with
      resources := (handlePOST .empty [demoGate1 (-50)]).1 }, []⟩

theorem negativeState_rows : negativeState.world.resources.rows = [demoGate1 (-50)] := by decide

theorem negativeState_gates : negativeState.world.resources.gates = [demoGate1 (-50)] := by
  rw [ResourceTable.gates, ResourceTable.ofType, negativeState_rows]
  rfl

theorem negativeState_alarms : negativeState.world.resources.alarms = [] := by
  rw [ResourceTable.alarms, ResourceTable.ofType, negativeState_rows]
  rfl

/-- The registration is accepted, and the next cycle sends -45. -/
theorem negative_value_is_rejected :
    (handlePOST .empty [demoGate1 (-50)]).2 = true ∧ GatesRegistered negativeState.world ∧
      AlarmsAnswer negativeState.world ∧ negativeState.world.mode = .AUTO ∧
      ¬NoRejection 5 negativeState := by
  have hgates : GatesRegistered negativeState.world := by
    intro r hr
    rw [negativeState_gates, List.mem_singleton] at hr
    subst hr
    exact ⟨-50, 0, rfl, ⟨by decide, by decide⟩, rfl⟩
  have halarms : AlarmsAnswer negativeState.world := by
    intro r hr
    rw [negativeState_alarms] at hr
    cases hr
  refine ⟨by decide, hgates, halarms, rfl, fun h => ?_⟩
  have hin : cycleInputs 5 negativeState.world = some (55, 20, 30) :=
    (demo_measured .AUTO 0 0 false 55 20 30).cycleInputs
  have hsafe : ¬negativeState.world.thresholds.safe < 55 := show ¬(60 : ℚ) < 55 by decide
  have hstep := h.cyclePasses rfl hgates halarms 55 20 30 hin
    (fun r hr => by rw [negativeState_alarms] at hr; cases hr) hsafe [] (demoGate1 (-50)) []
    negativeState_gates (fun q hq => by cases hq) (by decide) (by decide) (-50) rfl
  have hdelta : delta negativeState.world.thresholds 55 20 30 = 5 := by decide
  rw [hdelta] at hstep
  have hopening := hstep.opening (by decide)
  omega

end DamMonitoring.Controller
