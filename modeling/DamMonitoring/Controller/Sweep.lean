/-
DamMonitoring.Controller.Sweep — what a loop over the alarms or the gates
does, whatever goes wrong in it.

`Swept` is the trace of such a loop: the rounds one after the other, up
to the first that throws. Facts about loops are proved by induction on
it. They rest on two things. A round touches its own row and its own
device only (`Touched`), and the rows of the registry share neither names
nor URIs; so each round finds its row as the loop found it, and leaves
the other rounds' work alone.

  §1 `Touched`
  §2 rounds and loops
  §3 what a successful round does to a gate and to an alarm
  §4 from what one round does to what a loop does
  §5 which rounds succeed, and what a loop sends, read off the state it
     starts from
-/
import DamMonitoring.Controller.Actuation

namespace DamMonitoring.Controller

open Program Java Motes Persistence
open Persistence.ResourceTable (Distinct)

variable {F : Type}

/-! ## §1 Footprints -/

/-- From `w` to `w'` at most the registered values of the rows `rs` and
the devices at their URIs have changed. -/
structure Touched (rs : List Resource) (w w' : World F) : Prop where
  rows : ∀ q' ∈ w'.resources.rows, ∃ q ∈ w.resources.rows,
    q.name = q'.name ∧ q.type = q'.type ∧ q.uri = q'.uri
  uri : ∀ name, w'.resources.uri name = w.resources.uri name
  value : ∀ name, (∀ r ∈ rs, fold r.name ≠ fold name) →
    w'.resources.value name = w.resources.value name
  ofType : ∀ type, (∀ r ∈ rs, ∀ q ∈ w.resources.ofType type, fold q.name ≠ fold r.name) →
    w'.resources.ofType type = w.resources.ofType type
  devices : ∀ u, (∀ r ∈ rs, r.uri ≠ u) → w'.devices u = w.devices u
  thresholds : w'.thresholds = w.thresholds
  mode : w'.mode = w.mode

namespace Touched

variable {rs rs' : List Resource} {w w' w'' : World F}

theorem refl (rs : List Resource) (w : World F) : Touched rs w w :=
  ⟨fun q hq => ⟨q, hq, rfl, rfl, rfl⟩, fun _ => rfl, fun _ _ => rfl, fun _ _ => rfl,
    fun _ _ => rfl, rfl, rfl⟩

theorem trans (h : Touched rs w w') (h' : Touched rs' w' w'') : Touched (rs ++ rs') w w'' where
  rows q'' hq'' := by
    obtain ⟨q', hq', hname', htype', huri'⟩ := h'.rows q'' hq''
    obtain ⟨q, hq, hname, htype, huri⟩ := h.rows q' hq'
    exact ⟨q, hq, hname.trans hname', htype.trans htype', huri.trans huri'⟩
  uri name := (h'.uri name).trans (h.uri name)
  value name hn :=
    (h'.value name fun r hr => hn r (List.mem_append_right _ hr)).trans
      (h.value name fun r hr => hn r (List.mem_append_left _ hr))
  ofType type ht := by
    have h₁ := h.ofType type fun r hr => ht r (List.mem_append_left _ hr)
    refine (h'.ofType type fun r hr => ?_).trans h₁
    rw [h₁]
    exact ht r (List.mem_append_right _ hr)
  devices u hu :=
    (h'.devices u fun r hr => hu r (List.mem_append_right _ hr)).trans
      (h.devices u fun r hr => hu r (List.mem_append_left _ hr))
  thresholds := h'.thresholds.trans h.thresholds
  mode := h'.mode.trans h.mode

/-- Every resource of a type was there before. -/
theorem mem_ofType (h : Touched rs w w') {type : String} {q' : Resource}
    (hq' : q' ∈ w'.resources.ofType type) :
    ∃ q ∈ w.resources.ofType type, q.name = q'.name ∧ q.uri = q'.uri := by
  obtain ⟨hmem, htype'⟩ := ResourceTable.mem_ofType.mp hq'
  obtain ⟨q, hq, hname, htype, huri⟩ := h.rows q' hmem
  exact ⟨q, ResourceTable.mem_ofType.mpr ⟨hq, by rw [htype, htype']⟩, hname, huri⟩

/-- The row and the device of a resource that none of `rs` shares a key
with are as before. -/
theorem value_of_distinct (h : Touched rs w w') {q : Resource} (hq : ∀ r ∈ rs, Distinct r q) :
    w'.resources.value q.name = w.resources.value q.name :=
  h.value q.name fun r hr => (hq r hr).1

theorem devices_of_distinct (h : Touched rs w w') {q : Resource} (hq : ∀ r ∈ rs, Distinct r q) :
    w'.devices q.uri = w.devices q.uri :=
  h.devices q.uri fun r hr => (hq r hr).2

theorem level_of_distinct (h : Touched rs w w') {q : Resource} (hq : ∀ r ∈ rs, Distinct r q) :
    w'.level q.uri = w.level q.uri := by
  simp [World.level, h.devices_of_distinct hq]

theorem alarmState_of_distinct (h : Touched rs w w') {q : Resource}
    (hq : ∀ r ∈ rs, Distinct r q) : w'.alarmState q.uri = w.alarmState q.uri := by
  simp [World.alarmState, h.devices_of_distinct hq]

/-- Serving a PUT and recording a value touch one resource. -/
theorem serve (w : World F) (r : Resource) (payload : ObjectNode) :
    Touched [r] w (w.serve r.uri payload).2 where
  rows q hq := ⟨q, by simpa using hq, rfl, rfl, rfl⟩
  uri name := by simp
  value name _ := by simp
  ofType type _ := by simp
  devices u hu := w.serve_devices_of_ne (Ne.symm (hu r List.mem_cons_self))
  thresholds := by unfold World.serve; split <;> rfl
  mode := by unfold World.serve; split <;> rfl

theorem setValue (w : World F) (r : Resource) (v : Int) : Touched [r] w (w.setValue r.name v) where
  rows _ hq := ResourceTable.mem_setValue hq
  uri name := by simp [World.setValue]
  value name hn :=
    w.resources.value_setValue_of_ne (Ne.symm (hn r List.mem_cons_self)) v
  ofType type ht :=
    ResourceTable.ofType_setValue_of_ne (fun q hq => ht r List.mem_cons_self q hq) v
  devices u _ := rfl
  thresholds := rfl
  mode := rfl

/-- Touching a resource twice is touching it. -/
theorem trans_singleton {r : Resource} (h : Touched [r] w w') (h' : Touched [r] w' w'') :
    Touched [r] w w'' := by
  have h₂ := h.trans h'
  refine ⟨h₂.rows, h₂.uri, fun n hn => h₂.value n ?_, fun ty ht => h₂.ofType ty ?_,
    fun u hu => h₂.devices u ?_, h₂.thresholds, h₂.mode⟩ <;> simp_all

end Touched

/-! ## §2 Rounds and loops -/

/-- What a round does with its resource: it dies of a null reference
before anything else, leaves the resource alone, or updates it. -/
inductive Treatment where
  | broken
  | ignore
  | update (command : Int → Option (ObjectNode × Int))

inductive Treated (f : Action F → Fault) (s : State F) (r : Resource) :
    Treatment → Except JException Unit → State F → Prop where
  | broken {s' : State F} (quiet : Quiet s s') :
      Treated f s r .broken (.error .nullPointerException) s'
  | ignored {s' : State F} (quiet : Quiet s s') : Treated f s r .ignore (.ok ()) s'
  | updated {command : Int → Option (ObjectNode × Int)} {out : Except JException Unit}
      {s' : State F} (h : Updated f s r.name r.uri command out s') :
      Treated f s r (.update command) out s'

/-- The trace of a loop over `rs`. -/
inductive Swept (f : Action F → Fault) (treat : Resource → Treatment) :
    List Resource → State F → Except JException Unit → State F → Prop where
  | nil {s s' : State F} (quiet : Quiet s s') : Swept f treat [] s (.ok ()) s'
  | stop {r : Resource} {rs : List Resource} {s s' : State F} {ex : JException}
      (round : Treated f s r (treat r) (.error ex) s') : Swept f treat (r :: rs) s (.error ex) s'
  | next {r : Resource} {rs : List Resource} {s s₁ s' : State F} {out : Except JException Unit}
      (round : Treated f s r (treat r) (.ok ()) s₁) (rest : Swept f treat rs s₁ out s') :
      Swept f treat (r :: rs) s out s'

section OfQuiet

variable {f : Action F → Fault} {treat : Resource → Treatment} {rs : List Resource}
  {s s₁ s' : State F} {out : Except JException Unit}

/-- Quiet actions before a loop do not show in its trace. -/
theorem Updated.of_quiet {name : String} {uri : Uri} {command : Int → Option (ObjectNode × Int)}
    (hq : Quiet s s₁) (h : Updated f s₁ name uri command out s') :
    Updated f s name uri command out s' := by
  cases h with
  | unset value quiet => exact .unset (hq.world ▸ value) (hq.trans quiet)
  | kept value keep quiet => exact .kept (hq.world ▸ value) keep (hq.trans quiet)
  | commanded value move result => exact .commanded (hq.world ▸ value) move (result.of_quiet hq)

theorem Treated.of_quiet {r : Resource} {a : Treatment} (hq : Quiet s s₁)
    (h : Treated f s₁ r a out s') : Treated f s r a out s' := by
  cases h with
  | broken quiet => exact .broken (hq.trans quiet)
  | ignored quiet => exact .ignored (hq.trans quiet)
  | updated h => exact .updated (h.of_quiet hq)

theorem Swept.of_quiet (hq : Quiet s s₁) (h : Swept f treat rs s₁ out s') :
    Swept f treat rs s out s' := by
  cases h with
  | nil quiet => exact .nil (hq.trans quiet)
  | stop round => exact .stop (round.of_quiet hq)
  | next round rest => exact .next (round.of_quiet hq) rest

end OfQuiet

section Footprint

variable {f : Action F → Fault} {treat : Resource → Treatment} {r : Resource}
  {rs : List Resource} {s s₁ s' : State F} {out : Except JException Unit}

theorem Quiet.touched (h : Quiet s s') (rs : List Resource) : Touched rs s.world s'.world := by
  rw [h.world]
  exact .refl rs _

theorem Commanded.touched {payload : ObjectNode} {v : Int}
    (h : Commanded f s r.name r.uri payload v out s') : Touched [r] s.world s'.world := by
  cases h with
  | lost _ hw _ => rw [hw]; exact .refl _ _
  | unanswered _ hw _ => rw [hw]; exact .serve _ _ _
  | rejected _ _ _ hw _ => rw [hw]; exact .serve _ _ _
  | unrecorded _ _ _ _ hw _ => rw [hw]; exact .serve _ _ _
  | done _ _ _ _ hw _ =>
    rw [hw]
    exact (Touched.serve _ _ _).trans_singleton (.setValue _ _ _)

theorem Updated.touched {command : Int → Option (ObjectNode × Int)}
    (h : Updated f s r.name r.uri command out s') : Touched [r] s.world s'.world := by
  cases h with
  | unset _ quiet => exact quiet.touched _
  | kept _ _ quiet => exact quiet.touched _
  | commanded _ _ result => exact result.touched

theorem Treated.touched {a : Treatment} (h : Treated f s r a out s') :
    Touched [r] s.world s'.world := by
  cases h with
  | broken quiet => exact quiet.touched _
  | ignored quiet => exact quiet.touched _
  | updated h => exact h.touched

/-- **A loop touches its own resources only.** -/
theorem Swept.touched (h : Swept f treat rs s out s') : Touched rs s.world s'.world := by
  induction h with
  | nil quiet => exact quiet.touched _
  | @stop r rs s s' ex round =>
    have hr := round.touched
    exact hr.trans (.refl rs _)
  | next round rest ih => exact round.touched.trans ih

end Footprint

/-- **The loop rule**: a loop whose rounds are treatments is swept. -/
theorem safe_sweep [JavaFloat F] {t : Thread} {f : Action F → Fault}
    {body : Resource → Java F Unit} {rs : List Resource} (treat : Resource → Treatment)
    (hround : ∀ r ∈ rs, ∀ s : State F, s.world.resources.uri r.name = some r.uri →
      (under t f).Safe (body r) (Treated f s r (treat r)) s) :
    ∀ s : State F, (∀ r ∈ rs, s.world.resources.uri r.name = some r.uri) →
      (under t f).Safe (Prog.forEach rs body) (Swept f treat rs s) s := by
  induction rs with
  | nil => exact fun s _ => .nil (.refl s)
  | cons r rs ih =>
    intro s huri
    rw [Prog.forEach_cons, Contract.safe_bind]
    refine (hround r List.mem_cons_self s (huri r List.mem_cons_self)).mono
      fun out s₁ h₁ => ?_
    cases out with
    | error ex => exact .stop h₁
    | ok _ =>
      have huri₁ : ∀ q ∈ rs, s₁.world.resources.uri q.name = some q.uri := by
        intro q hq
        rw [h₁.touched.uri]
        exact huri q (List.mem_cons_of_mem _ hq)
      refine (ih (fun q hq => hround q (List.mem_cons_of_mem _ hq)) s₁ huri₁).mono
        fun out s' h' => ?_
      exact .next h₁ h'

/-! ## §3 Rounds that succeed, rounds that fail -/

section Rounds

variable {f : Action F → Fault} {s s' : State F} {name : String} {uri : Uri}
  {command : Int → Option (ObjectNode × Int)} {next : Int → Option Int} {ex : JException}

/-- A round that succeeds records what it commands, if anything. -/
theorem Updated.ok_value (h : Updated f s name uri command (.ok ()) s')
    (huri : s.world.resources.uri name = some uri) {c : Int}
    (hc : s.world.resources.value name = some c) :
    s'.world.resources.value name = some ((command c).elim c Prod.snd) := by
  cases h with
  | @kept _ c' hc' hkeep quiet =>
    obtain rfl : c' = c := Option.some.inj (hc'.symm.trans hc)
    rw [quiet.world, hc, hkeep]
    rfl
  | @commanded _ c' v payload _ hc' hmove result =>
    obtain rfl : c' = c := Option.some.inj (hc'.symm.trans hc)
    cases result with
    | done _ _ _ _ hw _ =>
      have huri' : (s.world.serve uri payload).2.resources.uri name = some uri := by
        rw [World.serve_resources, huri]
      rw [hw, hmove]
      exact ResourceTable.value_setValue_self huri' rfl v

/-- A round that succeeds and had something to command has got it through. -/
theorem Updated.ok_delivered (h : Updated f s name uri command (.ok ()) s') {c v : Int}
    {payload : ObjectNode} (hc : s.world.resources.value name = some c)
    (hmove : command c = some (payload, v)) :
    f (.clientPut uri payload) = .none ∧ ∀ message, f (.updateValue name v) ≠ .failed message := by
  cases h with
  | @kept _ c' hc' hkeep quiet =>
    obtain rfl : c' = c := Option.some.inj (hc'.symm.trans hc)
    rw [hmove] at hkeep
    cases hkeep
  | @commanded _ c' v' payload' _ hc' hmove' result =>
    obtain rfl : c' = c := Option.some.inj (hc'.symm.trans hc)
    rw [hmove] at hmove'
    cases hmove'
    cases result with
    | done hnone _ _ hrec _ _ => exact ⟨hnone, hrec⟩

/-- A successful gate round leaves the gate at the commanded level. -/
theorem Updated.gate_ok (h : Updated f s name uri (ControlLogic.gateCommand next) (.ok ()) s')
    {c d : Int} (hc : s.world.resources.value name = some c) (hd : s.world.level uri = some d) :
    s'.world.level uri = some ((next c).getD d) ∧ ∀ L, next c = some L → ResGate.Accepts L := by
  cases h with
  | @kept _ c' hc' hkeep quiet =>
    obtain rfl : c' = c := Option.some.inj (hc'.symm.trans hc)
    have hnone : next c' = none := by simpa [ControlLogic.gateCommand] using hkeep
    rw [quiet.world, hd, hnone]
    exact ⟨rfl, fun L hL => by cases hL⟩
  | @commanded _ c' v payload _ hc' hmove result =>
    obtain rfl : c' = c := Option.some.inj (hc'.symm.trans hc)
    obtain ⟨L, hL, hpair⟩ := Option.map_eq_some_iff.mp hmove
    obtain ⟨rfl, rfl⟩ := Prod.mk.inj hpair
    cases result with
    | done _ hreply hacc _ hw _ =>
      obtain ⟨text, code, hreply', hcode⟩ := World.serve_openingLevel hd L
      rw [hreply] at hreply'
      cases hreply'
      have hL' : ResGate.Accepts L := by simpa [hacc] using hcode.symm
      refine ⟨?_, fun L' h' => ?_⟩
      · rw [hw, World.level_setValue, World.level_serve_self hd, hL]
        simp [hL']
      · rw [hL] at h'
        cases h'
        exact hL'

/-- A gate round throws only if the message is lost, the gate refuses the
level or the update fails. -/
theorem Updated.gate_error
    (h : Updated f s name uri (ControlLogic.gateCommand next) (.error ex) s') {c d : Int}
    (hc : s.world.resources.value name = some c) (hd : s.world.level uri = some d) :
    ∃ L, next c = some L ∧
      (f (.clientPut uri (ResGate.openingLevelNode L)) ≠ .none ∨
        (∃ message, f (.updateValue name L) = .failed message) ∨
        (¬ResGate.Accepts L ∧ ∃ message, ex = .coapException message)) := by
  cases h with
  | unset hnull => rw [hc] at hnull; cases hnull
  | @commanded _ c' v payload _ hc' hmove result =>
    obtain rfl : c' = c := Option.some.inj (hc'.symm.trans hc)
    obtain ⟨L, hL, hpair⟩ := Option.map_eq_some_iff.mp hmove
    obtain ⟨rfl, rfl⟩ := Prod.mk.inj hpair
    refine ⟨L, hL, ?_⟩
    cases result with
    | lost why _ _ =>
      rcases why with ⟨hne, -⟩ | hdev
      · exact Or.inl hne
      · simp [World.level, hdev] at hd
    | unanswered why _ _ => exact Or.inl (by simp [why])
    | rejected _ hreply hrefused _ _ =>
      obtain ⟨text, code, hreply', hcode⟩ := World.serve_openingLevel hd L
      rw [hreply] at hreply'
      cases hreply'
      exact Or.inr (Or.inr ⟨by simpa [hrefused] using hcode.symm, _, rfl⟩)
    | unrecorded _ _ _ hfailed _ _ => exact Or.inr (Or.inl ⟨_, hfailed⟩)

variable {status b : Bool}

/-- A successful alarm round leaves the alarm in the wanted state, if the
registry did not show that state already. -/
theorem Updated.alarm_ok
    (h : Updated f s name uri (ControlLogic.alarmCommand status) (.ok ()) s') {c : Int}
    (hc : s.world.resources.value name = some c) (hb : s.world.alarmState uri = some b) :
    s'.world.alarmState uri = some (if decide (c = 1) = status then b else status) := by
  cases h with
  | @kept _ c' hc' hkeep quiet =>
    obtain rfl : c' = c := Option.some.inj (hc'.symm.trans hc)
    have heq : decide (c' = 1) = status := by
      by_contra hne
      simp [ControlLogic.alarmCommand, hne] at hkeep
    rw [quiet.world, hb, if_pos heq]
  | @commanded _ c' v payload _ hc' hmove result =>
    obtain rfl : c' = c := Option.some.inj (hc'.symm.trans hc)
    unfold ControlLogic.alarmCommand at hmove
    split at hmove
    · next hne =>
      cases hmove
      cases result with
      | done _ _ _ _ hw _ =>
        rw [hw, World.alarmState_setValue, World.alarmState_serve_self hb, if_neg hne]
    · cases hmove

/-- An alarm round throws only if a change is wanted and the message is
lost or the update fails. -/
theorem Updated.alarm_error
    (h : Updated f s name uri (ControlLogic.alarmCommand status) (.error ex) s') {c : Int}
    (hc : s.world.resources.value name = some c) (hb : s.world.alarmState uri = some b) :
    decide (c = 1) ≠ status ∧
      (f (.clientPut uri (ResAlarm.stateNode status)) ≠ .none ∨
        ∃ message, f (.updateValue name (ControlLogic.statusValue status)) = .failed message) := by
  cases h with
  | unset hnull => rw [hc] at hnull; cases hnull
  | @commanded _ c' v payload _ hc' hmove result =>
    obtain rfl : c' = c := Option.some.inj (hc'.symm.trans hc)
    unfold ControlLogic.alarmCommand at hmove
    split at hmove
    · next hne =>
      cases hmove
      refine ⟨hne, ?_⟩
      cases result with
      | lost why _ _ =>
        rcases why with ⟨hlost, -⟩ | hdev
        · exact Or.inl hlost
        · simp [World.alarmState, hdev] at hb
      | unanswered why _ _ => exact Or.inl (by simp [why])
      | rejected _ hreply hrefused _ _ =>
        obtain ⟨text, hreply'⟩ := World.serve_state hb status
        rw [hreply] at hreply'
        cases hreply'
        cases hrefused
      | unrecorded _ _ _ hfailed _ _ => exact Or.inr ⟨_, hfailed⟩
    · cases hmove

end Rounds

/-! ## §4 From rounds to loops -/

section Loops

variable {f : Action F → Fault} {treat : Resource → Treatment} {rs : List Resource}
  {s s' : State F} {out : Except JException Unit}

/-- A property of a resource that the rounds of the others keep. -/
def Local (P : Resource → World F → Prop) : Prop :=
  ∀ r rs w w', Touched rs w w' → (∀ q ∈ rs, Distinct q r) → P r w → P r w'

theorem Local.of_touched {P : Resource → World F → Prop} (hP : Local P) {w w' : World F}
    (h : Touched rs w w') {rs' : List Resource} (hd : ∀ r ∈ rs', ∀ q ∈ rs, Distinct q r)
    (hpre : ∀ r ∈ rs', P r w) : ∀ r ∈ rs', P r w' := by
  intro r hr
  exact hP r rs w w' h (hd r hr) (hpre r hr)

/-- Row and device of `r` are in `w` as they are in `w₀`. -/
def AsIn (w₀ : World F) (r : Resource) (w : World F) : Prop :=
  w.resources.uri r.name = w₀.resources.uri r.name ∧
    w.resources.value r.name = w₀.resources.value r.name ∧ w.devices r.uri = w₀.devices r.uri

theorem AsIn.refl (r : Resource) (w : World F) : AsIn w r w := ⟨rfl, rfl, rfl⟩

theorem local_asIn (w₀ : World F) : Local (AsIn w₀) := by
  intro _ _ _ _ h hd hr
  exact ⟨(h.uri _).trans hr.1, (h.value_of_distinct hd).trans hr.2.1,
    (h.devices_of_distinct hd).trans hr.2.2⟩

/-- The registered value and the level of a gate, the gate found under
its URI. -/
def GateCell (value level : Resource → Option Int) (r : Resource) (w : World F) : Prop :=
  w.resources.uri r.name = some r.uri ∧ w.resources.value r.name = value r ∧
    w.level r.uri = level r

/-- The registered value and the state of an alarm. -/
def AlarmCell (value : Resource → Option Int) (state : Resource → Option Bool) (r : Resource)
    (w : World F) : Prop :=
  w.resources.uri r.name = some r.uri ∧ w.resources.value r.name = value r ∧
    w.alarmState r.uri = state r

theorem local_gateCell (value level : Resource → Option Int) :
    Local (F := F) (GateCell value level) := by
  intro _ _ _ _ h hd hr
  exact ⟨(h.uri _).trans hr.1, (h.value_of_distinct hd).trans hr.2.1,
    (h.level_of_distinct hd).trans hr.2.2⟩

theorem local_alarmCell (value : Resource → Option Int) (state : Resource → Option Bool) :
    Local (F := F) (AlarmCell value state) := by
  intro _ _ _ _ h hd hr
  exact ⟨(h.uri _).trans hr.1, (h.value_of_distinct hd).trans hr.2.1,
    (h.alarmState_of_distinct hd).trans hr.2.2⟩

/-- A loop whose rounds all succeed establishes for each resource what
its round establishes: the rounds before it find the resource as it was,
and the later ones keep what it has become. -/
theorem Swept.establishes {P P' : Resource → World F → Prop} (hP : Local P) (hP' : Local P')
    (h : Swept f treat rs s out s') (hout : out = .ok ()) (hd : rs.Pairwise Distinct)
    {r : Resource} (hr : r ∈ rs) (hpre : P r s.world)
    (hround : ∀ s₁ s₂ : State F, P r s₁.world → Treated f s₁ r (treat r) (.ok ()) s₂ →
      P' r s₂.world) : P' r s'.world := by
  induction h with
  | nil quiet => cases hr
  | stop round => cases hout
  | @next q rs s s₁ s' out round rest ih =>
    obtain ⟨hq, hrs⟩ := List.pairwise_cons.mp hd
    rcases List.mem_cons.mp hr with rfl | hmem
    · exact hP' r rs s₁.world s'.world rest.touched (fun p hp => (hq p hp).symm)
        (hround s s₁ hpre round)
    · have hpre₁ : P r s₁.world := hP r [q] s.world s₁.world round.touched
        (fun p hp => List.mem_singleton.mp hp ▸ hq r hmem) hpre
      exact ih hout hrs hmem hpre₁

/-- Every round of a loop that comes to its end succeeds, from a state that
has its resource as the loop found it. -/
theorem Swept.round_of_mem (h : Swept f treat rs s out s') (hout : out = .ok ())
    (hd : rs.Pairwise Distinct) {r : Resource} (hr : r ∈ rs) :
    ∃ s₁ s₂ : State F, AsIn s.world r s₁.world ∧ Treated f s₁ r (treat r) (.ok ()) s₂ := by
  have hlocal : Local (F := F) fun _ _ =>
      ∃ s₁ s₂ : State F, AsIn s.world r s₁.world ∧ Treated f s₁ r (treat r) (.ok ()) s₂ := by
    intro _ _ _ _ _ _ hround
    exact hround
  refine h.establishes (local_asIn s.world) hlocal hout hd hr (.refl r s.world) ?_
  intro s₁ s₂ hasIn round
  exact ⟨s₁, s₂, hasIn, round⟩

/-- A loop none of whose rounds can throw comes to its end. -/
theorem Swept.ok_of_rounds {P : Resource → World F → Prop} (hP : Local P)
    (h : Swept f treat rs s out s') (hd : rs.Pairwise Distinct) (hpre : ∀ r ∈ rs, P r s.world)
    (hround : ∀ r ∈ rs, ∀ s s' : State F, ∀ ex, P r s.world →
      ¬Treated f s r (treat r) (.error ex) s') : out = .ok () := by
  induction h with
  | nil quiet => rfl
  | @stop r rs s s' ex round =>
    exact absurd round (hround r List.mem_cons_self s s' ex (hpre r List.mem_cons_self))
  | @next r rs s s₁ s' out round rest ih =>
    obtain ⟨hr, hrs⟩ := List.pairwise_cons.mp hd
    refine ih hrs ?_ fun q hq => hround q (List.mem_cons_of_mem _ hq)
    exact hP.of_touched round.touched (fun q hq p hp => List.mem_singleton.mp hp ▸ hr q hq)
      fun q hq => hpre q (List.mem_cons_of_mem _ hq)

/-- A loop that throws stops at one resource: the loop over those before
it has come to its end, those after it have not been touched. -/
theorem Swept.split {ex : JException} (h : Swept f treat rs s out s') (hout : out = .error ex) :
    ∃ pre r post s₁, rs = pre ++ r :: post ∧ Swept f treat pre s (.ok ()) s₁ ∧
      Treated f s₁ r (treat r) (.error ex) s' := by
  induction h with
  | nil quiet => cases hout
  | @stop r rs s s' ex' round =>
    cases hout
    exact ⟨[], r, rs, s, rfl, .nil (.refl s), round⟩
  | @next r rs s s₁ s' out round rest ih =>
    obtain ⟨pre, q, post, s₂, rfl, hpre, hq⟩ := ih hout
    exact ⟨r :: pre, q, post, s₂, rfl, .next round hpre, hq⟩

/-- What every round keeps of its own resource, whether it throws or not,
a loop keeps of all its resources. -/
theorem Swept.keeps {P : Resource → World F → Prop} (hP : Local P)
    (h : Swept f treat rs s out s') (hd : rs.Pairwise Distinct) {r : Resource} (hr : r ∈ rs)
    (hpre : P r s.world)
    (hround : ∀ (s₁ s₂ : State F) (out : Except JException Unit), P r s₁.world →
      Treated f s₁ r (treat r) out s₂ → P r s₂.world) : P r s'.world := by
  induction h with
  | nil quiet => cases hr
  | @stop q rs s s' ex round =>
    obtain ⟨hq, -⟩ := List.pairwise_cons.mp hd
    rcases List.mem_cons.mp hr with rfl | hmem
    · exact hround s s' _ hpre round
    · exact hP r [q] s.world s'.world round.touched
        (fun p hp => List.mem_singleton.mp hp ▸ hq r hmem) hpre
  | @next q rs s s₁ s' out round rest ih =>
    obtain ⟨hq, hrs⟩ := List.pairwise_cons.mp hd
    rcases List.mem_cons.mp hr with rfl | hmem
    · exact hP r rs s₁.world s'.world rest.touched (fun p hp => (hq p hp).symm)
        (hround s s₁ _ hpre round)
    · exact ih hrs hmem (hP r [q] s.world s₁.world round.touched
        (fun p hp => List.mem_singleton.mp hp ▸ hq r hmem) hpre)

/-- Where a loop stands at one of its resources: it has stopped before,
it stops there, or the round of the resource succeeds and the rest of the
loop is about other resources. -/
inductive Reached (f : Action F → Fault) (treat : Resource → Treatment) (pre : List Resource)
    (r : Resource) (post : List Resource) (s : State F) :
    Except JException Unit → State F → Prop where
  | before {pre₁ : List Resource} {q : Resource} {post₁ : List Resource} {s₁ s' : State F}
      {ex : JException} (eq : pre = pre₁ ++ q :: post₁)
      (rounds : Swept f treat pre₁ s (.ok ()) s₁)
      (round : Treated f s₁ q (treat q) (.error ex) s') :
      Reached f treat pre r post s (.error ex) s'
  | here {s₁ s' : State F} {ex : JException} (rounds : Swept f treat pre s (.ok ()) s₁)
      (round : Treated f s₁ r (treat r) (.error ex) s') :
      Reached f treat pre r post s (.error ex) s'
  | past {s₁ s₂ s' : State F} {out : Except JException Unit}
      (rounds : Swept f treat pre s (.ok ()) s₁)
      (round : Treated f s₁ r (treat r) (.ok ()) s₂) (rest : Touched post s₂.world s'.world) :
      Reached f treat pre r post s out s'

theorem Swept.reached {pre : List Resource} {r : Resource} {post : List Resource} :
    ∀ {s : State F}, Swept f treat (pre ++ r :: post) s out s' →
      Reached f treat pre r post s out s' := by
  induction pre with
  | nil =>
    intro s h
    cases h with
    | stop round => exact .here (.nil (.refl s)) round
    | next round rest => exact .past (.nil (.refl s)) round rest.touched
  | cons q pre ih =>
    intro s h
    cases h with
    | stop round => exact .before (List.nil_append (q :: pre)).symm (.nil (.refl s)) round
    | next round rest =>
      cases ih rest with
      | @before pre₁ p post₁ s₁ _ ex eq rounds last =>
        have heq : q :: pre = (q :: pre₁) ++ p :: post₁ := by rw [eq]; rfl
        exact .before heq (.next round rounds) last
      | here rounds last => exact .here (.next round rounds) last
      | past rounds round' rest' => exact .past (.next round rounds) round' rest'

theorem Treated.congr {treat' : Resource → Treatment} {r : Resource} (hr : treat r = treat' r)
    (h : Treated f s r (treat r) out s') : Treated f s r (treat' r) out s' := hr ▸ h

theorem Swept.congr {treat' : Resource → Treatment} (h : Swept f treat rs s out s')
    (heq : ∀ r ∈ rs, treat r = treat' r) : Swept f treat' rs s out s' := by
  induction h with
  | nil quiet => exact .nil quiet
  | stop round => exact .stop (round.congr (heq _ List.mem_cons_self))
  | next round rest ih =>
    exact .next (round.congr (heq _ List.mem_cons_self))
      (ih fun r hr => heq r (List.mem_cons_of_mem _ hr))

/-- Two loops one after the other are one loop. -/
theorem Swept.append {rs' : List Resource} {s₁ : State F} {out' : Except JException Unit}
    (h : Swept f treat rs s out s₁) (hout : out = .ok ())
    (h' : Swept f treat rs' s₁ out' s') : Swept f treat (rs ++ rs') s out' s' := by
  induction h with
  | nil quiet => exact h'.of_quiet quiet
  | stop round => cases hout
  | next round rest ih => exact .next round (ih hout h')

/-- A loop that throws throws in front of any other resources. -/
theorem Swept.append_of_error {ex : JException} (rs' : List Resource)
    (h : Swept f treat rs s out s') (hout : out = .error ex) :
    Swept f treat (rs ++ rs') s (.error ex) s' := by
  induction h with
  | nil quiet => cases hout
  | stop round =>
    cases hout
    exact .stop round
  | next round rest ih => exact .next round (ih hout)

/-- A PUT that a round may send. -/
def MaySend (treat : Resource → Treatment) (w : World F) (r : Resource)
    (p : Uri × ObjectNode) : Prop :=
  p.1 = r.uri ∧ ∃ command c v, treat r = .update command ∧
    w.resources.value r.name = some c ∧ command c = some (p.2, v)

end Loops

/-! ## §5 Rounds that pass -/

section Passing

variable {f : Action F → Fault} {treat : Resource → Treatment} {r : Resource}
  {rs : List Resource} {w w₀ : World F} {s s' : State F} {out : Except JException Unit}

/-- The device behind a URI answers a PUT with success. -/
def Heeds (w : World F) (uri : Uri) (payload : ObjectNode) : Prop :=
  ∃ code text, (w.serve uri payload).1 = some (.message code text) ∧ code.isSuccess = true

/-- A round succeeds: there is nothing to do, or what the registered value
calls for is heeded, answered and recorded. -/
def Passes (f : Action F → Fault) (r : Resource) (w : World F) : Treatment → Prop
  | .broken => False
  | .ignore => True
  | .update command => ∃ c, w.resources.value r.name = some c ∧
      ∀ payload v, command c = some (payload, v) →
        f (.clientPut r.uri payload) = .none ∧ Heeds w r.uri payload ∧
          ∀ message, f (.updateValue r.name v) ≠ .failed message

theorem AsIn.heeds_iff (h : AsIn w₀ r w) (payload : ObjectNode) :
    Heeds w r.uri payload ↔ Heeds w₀ r.uri payload := by
  have hreply : (w.serve r.uri payload).1 = (w₀.serve r.uri payload).1 := by
    unfold World.serve
    rw [h.2.2]
    cases w₀.devices r.uri <;> rfl
  simp only [Heeds, hreply]

theorem AsIn.passes_iff (h : AsIn w₀ r w) (a : Treatment) :
    Passes f r w a ↔ Passes f r w₀ a := by
  cases a with
  | broken => rfl
  | ignore => rfl
  | update command => simp only [Passes, h.2.1, h.heeds_iff]

theorem passes_iff_of_command {command : Int → Option (ObjectNode × Int)} {c v : Int}
    {payload : ObjectNode} (hc : w.resources.value r.name = some c)
    (hmove : command c = some (payload, v)) :
    Passes f r w (.update command) ↔ f (.clientPut r.uri payload) = .none ∧
      Heeds w r.uri payload ∧ ∀ message, f (.updateValue r.name v) ≠ .failed message := by
  constructor
  · intro h
    obtain ⟨c', hc', hpass⟩ := h
    obtain rfl : c' = c := Option.some.inj (hc'.symm.trans hc)
    exact hpass payload v hmove
  · intro hpass
    refine ⟨c, hc, fun payload' v' hmove' => ?_⟩
    cases hmove.symm.trans hmove'
    exact hpass

/-- **A round succeeds exactly if it passes.** -/
theorem Treated.ok_iff {a : Treatment} (h : Treated f s r a out s') :
    out = .ok () ↔ Passes f r s.world a := by
  cases h with
  | broken quiet => simp [Passes]
  | ignored quiet => simp [Passes]
  | updated h =>
    cases h with
    | unset value quiet => simp [Passes, value]
    | kept value keep quiet => simp [Passes, value, keep]
    | commanded value move result =>
      rw [passes_iff_of_command value move]
      cases result with
      | lost why _ _ =>
        simp only [reduceCtorEq, false_iff]
        intro h'
        obtain ⟨hnone, ⟨code, text, hreply, -⟩, -⟩ := h'
        rcases why with ⟨hlost, -⟩ | hdevice
        · exact hlost hnone
        · simp [World.serve, hdevice] at hreply
      | unanswered why _ _ => simp [why]
      | rejected _ reply refused _ _ => simp [Heeds, reply, Response.message, refused]
      | unrecorded _ _ _ failed _ _ => simp [failed]
      | done delivered reply accepted recorded _ _ =>
        exact iff_of_true rfl ⟨delivered, ⟨_, _, reply, accepted⟩, recorded⟩

/-- **A loop comes to its end exactly if every round passes.** -/
theorem Swept.ok_iff (h : Swept f treat rs s out s') (hd : rs.Pairwise Distinct) :
    out = .ok () ↔ ∀ r ∈ rs, Passes f r s.world (treat r) := by
  induction h with
  | nil quiet => simp
  | stop round =>
    have hround := round.ok_iff
    simp only [reduceCtorEq, false_iff] at hround ⊢
    exact fun hall => hround (hall _ List.mem_cons_self)
  | @next r rs s s₁ s' out round rest ih =>
    obtain ⟨hr, hrs⟩ := List.pairwise_cons.mp hd
    rw [ih hrs, List.forall_mem_cons, ← round.ok_iff, eq_self, true_and]
    refine forall₂_congr fun q hq => ?_
    exact (local_asIn s.world q [r] _ _ round.touched
      (fun p hp => List.mem_singleton.mp hp ▸ hr q hq) (.refl q s.world)).passes_iff _

/-- A round sends at most one PUT, the one that is called for. -/
theorem Treated.sends {treat : Resource → Treatment} (h : Treated f s r (treat r) out s') :
    ∃ sent, s'.puts = sent ++ s.puts ∧ (sent.map Prod.fst).Sublist [r.uri] ∧
      ∀ p, p ∈ sent ↔ MaySend treat s.world r p := by
  generalize ha : treat r = a at h
  have hidle : (∀ command c, a = .update command → s.world.resources.value r.name = some c →
      command c = none) → ∀ p, p ∈ ([] : List (Uri × ObjectNode)) ↔ MaySend treat s.world r p := by
    intro hnone p
    simp only [List.not_mem_nil, false_iff]
    intro h'
    obtain ⟨-, command, c, v, htreat, hc, hcmd⟩ := h'
    rw [hnone command c (ha.symm.trans htreat) hc] at hcmd
    cases hcmd
  cases h with
  | broken quiet => exact ⟨[], quiet.puts, List.nil_sublist _, hidle fun _ _ h => by cases h⟩
  | ignored quiet => exact ⟨[], quiet.puts, List.nil_sublist _, hidle fun _ _ h => by cases h⟩
  | @updated command _ _ h =>
    cases h with
    | unset value quiet =>
      refine ⟨[], quiet.puts, List.nil_sublist _, hidle fun _ c _ hc => ?_⟩
      rw [value] at hc
      cases hc
    | kept value keep quiet =>
      refine ⟨[], quiet.puts, List.nil_sublist _, hidle fun command' c h hc => ?_⟩
      cases h
      rw [value] at hc
      cases hc
      exact keep
    | @commanded _ c v payload _ hc hmove result =>
      have hp : s'.puts = (r.uri, payload) :: s.puts := by cases result <;> assumption
      refine ⟨[(r.uri, payload)], hp, List.Sublist.refl _, fun p => ?_⟩
      rw [List.mem_singleton]
      constructor
      · rintro rfl
        exact ⟨rfl, command, c, v, ha, hc, hmove⟩
      · intro h'
        obtain ⟨huri, command', c', v', htreat, hc', hcmd⟩ := h'
        cases ha.symm.trans htreat
        cases hc.symm.trans hc'
        cases hmove.symm.trans hcmd
        exact Prod.ext huri rfl

theorem AsIn.maySend_iff {treat : Resource → Treatment} (h : AsIn w₀ r w)
    {p : Uri × ObjectNode} : MaySend treat w r p ↔ MaySend treat w₀ r p := by
  simp only [MaySend, h.2.1]

/-- A loop comes to `p`: the registered values call for it, and the rounds
before pass. -/
def Called (f : Action F → Fault) (treat : Resource → Treatment) (w : World F)
    (rs : List Resource) (p : Uri × ObjectNode) : Prop :=
  ∃ pre r post, rs = pre ++ r :: post ∧ (∀ q ∈ pre, Passes f q w (treat q)) ∧ MaySend treat w r p

theorem called_cons {treat : Resource → Treatment} {p : Uri × ObjectNode} :
    Called f treat w (r :: rs) p ↔
      MaySend treat w r p ∨ Passes f r w (treat r) ∧ Called f treat w rs p := by
  constructor
  · intro h
    obtain ⟨pre, q, post, heq, hpre, hsend⟩ := h
    cases pre with
    | nil =>
      cases heq
      exact Or.inl hsend
    | cons q' pre =>
      cases heq
      rw [List.forall_mem_cons] at hpre
      exact Or.inr ⟨hpre.1, pre, q, post, rfl, hpre.2, hsend⟩
  · intro h
    rcases h with hsend | ⟨hpass, pre, q, post, rfl, hpre, hsend⟩
    · exact ⟨[], r, rs, rfl, by simp, hsend⟩
    · exact ⟨r :: pre, q, post, rfl, List.forall_mem_cons.mpr ⟨hpass, hpre⟩, hsend⟩

theorem called_congr {treat : Resource → Treatment} {p : Uri × ObjectNode}
    (h : ∀ q ∈ rs, AsIn w₀ q w) : Called f treat w rs p ↔ Called f treat w₀ rs p := by
  refine exists_congr fun pre => exists_congr fun q => exists_congr fun post =>
    and_congr_right fun hrs => ?_
  subst hrs
  refine and_congr (forall₂_congr fun q' hq' => ?_) ?_
  · exact (h q' (List.mem_append_left _ hq')).passes_iff _
  · exact (h q (List.mem_append_right _ List.mem_cons_self)).maySend_iff

/-- **What a loop sends**: what the registered values call for, as far as
the rounds before pass. -/
theorem Swept.sends (h : Swept f treat rs s out s') (hd : rs.Pairwise Distinct) :
    ∃ sent, s'.puts = sent ++ s.puts ∧ ∀ p, p ∈ sent ↔ ∃ pre r post, rs = pre ++ r :: post ∧
      (∀ q ∈ pre, Passes f q s.world (treat q)) ∧ MaySend treat s.world r p := by
  induction h with
  | nil quiet => exact ⟨[], quiet.puts, by simp⟩
  | @stop r rs s s' ex round =>
    obtain ⟨sent, hsent, -, hmem⟩ := round.sends
    have hstops : ¬Passes f r s.world (treat r) := fun hpass => by
      cases round.ok_iff.mpr hpass
    refine ⟨sent, hsent, fun p => (hmem p).trans ?_⟩
    change _ ↔ Called f treat s.world (r :: rs) p
    rw [called_cons, or_iff_left fun h => hstops h.1]
  | @next r rs s s₁ s' out round rest ih =>
    obtain ⟨hr, hrs⟩ := List.pairwise_cons.mp hd
    obtain ⟨sent, hsent, -, hmem⟩ := round.sends
    obtain ⟨sent', hsent', hmem'⟩ := ih hrs
    -- the first round leaves the other resources as they were
    have hasIn : ∀ q ∈ rs, AsIn s.world q s₁.world := fun q hq =>
      local_asIn s.world q [r] _ _ round.touched
        (fun p hp => List.mem_singleton.mp hp ▸ hr q hq) (.refl q s.world)
    have hpass := round.ok_iff.mp rfl
    refine ⟨sent' ++ sent, by rw [hsent', hsent, List.append_assoc], fun p => ?_⟩
    change _ ↔ Called f treat s.world (r :: rs) p
    rw [List.mem_append, hmem p, (hmem' p).trans (called_congr hasIn), called_cons, or_comm,
      and_iff_right hpass]

/-- **Every PUT of a loop** is one that the registered value of its
resource calls for. -/
theorem Swept.puts_mem (h : Swept f treat rs s out s') (hd : rs.Pairwise Distinct) :
    ∃ sent, s'.puts = sent ++ s.puts ∧ ∀ p ∈ sent, ∃ r ∈ rs, MaySend treat s.world r p := by
  obtain ⟨sent, hsent, hmem⟩ := h.sends hd
  refine ⟨sent, hsent, fun p hp => ?_⟩
  obtain ⟨pre, r, post, rfl, -, hsend⟩ := (hmem p).mp hp
  exact ⟨r, List.mem_append_right _ List.mem_cons_self, hsend⟩

/-- **A loop sends each of its resources at most one PUT**, in the order
of the loop. -/
theorem Swept.sent (h : Swept f treat rs s out s') :
    ∃ sent, s'.puts = sent ++ s.puts ∧
      (sent.map Prod.fst).Sublist (rs.map Resource.uri).reverse := by
  induction h with
  | nil quiet => exact ⟨[], quiet.puts, List.nil_sublist _⟩
  | @stop r rs s s' ex round =>
    obtain ⟨sent, hsent, hsub, -⟩ := round.sends
    refine ⟨sent, hsent, hsub.trans ?_⟩
    rw [List.map_cons, List.reverse_cons]
    exact List.sublist_append_right _ _
  | @next r rs s s₁ s' out round rest ih =>
    obtain ⟨sent, hsent, hsub, -⟩ := round.sends
    obtain ⟨sent', hsent', hsub'⟩ := ih
    refine ⟨sent' ++ sent, by rw [hsent', hsent, List.append_assoc], ?_⟩
    rw [List.map_append, List.map_cons, List.reverse_cons]
    exact hsub'.append hsub

/-- No PUT of a loop is sent twice. -/
theorem Swept.puts_nodup (h : Swept f treat rs s out s') (hd : rs.Pairwise Distinct)
    {sent : List (Uri × ObjectNode)} (hsent : s'.puts = sent ++ s.puts) : sent.Nodup := by
  obtain ⟨sent', hsent', hsub⟩ := h.sent
  obtain rfl : sent' = sent := List.append_cancel_right (hsent'.symm.trans hsent)
  have huris : (rs.map Resource.uri).reverse.Nodup := by
    rw [List.nodup_reverse]
    exact hd.map Resource.uri fun _ _ hdistinct => hdistinct.2
  exact (hsub.nodup huris).of_map _

end Passing

end DamMonitoring.Controller
