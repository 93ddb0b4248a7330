/-
DamMonitoring.Controller.Authority — who may move the gates, and when.

The operative mode is meant to give the gates to one thread: the `Gate`
command refuses to work in AUTO mode, a cycle leaves the gates alone in
MANUAL mode. Only the shell changes the mode, so a `Gate` command still
finds MANUAL at its PUT. A cycle tests the mode ONCE, before its loop over
the gates: its PUTs may come after the shell has set MANUAL
(`gate_put_after_manual`). `gate_put_authority` says what does hold.

  §1 what a cycle knows about the mode
  §2 what each thread promises
  §3 every PUT to a gate
-/
import DamMonitoring.Controller.Demo

namespace DamMonitoring.Controller

open Program Java Motes Persistence Collector
open ControlLogic AutomaticControlUnit

variable {F : Type}

/-! ## §1 The sampled mode -/

/-- The current cycle has found the mode AUTO, and the mode is AUTO still
unless a command has set MANUAL since. -/
def SampledAuto (s : State F) : Prop :=
  ∃ since before, s.log = since ++ .did .scheduler .getMode .AUTO :: before ∧
    (∀ e ∈ since, e ≠ .started .scheduler) ∧
    (s.world.mode = .AUTO ∨ ∃ e ∈ since, e = .did .shell (.setMode .MANUAL) ())

/-- One more line of the log that does not start a cycle, under the same
mode. -/
theorem SampledAuto.cons {s : State F} (h : SampledAuto s) {w' : World F} {e : Entry F}
    (he : e ≠ .started .scheduler) (hmode : w'.mode = s.world.mode) :
    SampledAuto ⟨w', e :: s.log⟩ := by
  obtain ⟨since, before, hlog, hstart, hauto⟩ := h
  refine ⟨e :: since, before, by rw [hlog]; rfl, ?_, ?_⟩
  · intro e' he'
    rcases List.mem_cons.mp he' with rfl | he'
    · exact he
    · exact hstart e' he'
  · rcases hauto with hauto | ⟨e', he', hmanual⟩
    · exact Or.inl (hmode.trans hauto)
    · exact Or.inr ⟨e', List.mem_cons_of_mem e he', hmanual⟩

variable [JavaFloat F]

/-- Only `setMode` changes the mode. -/
theorem perform_mode {a : Action F} (ha : ∀ m, a ≠ .setMode m) (fault : Fault) (w : World F) :
    (w.perform fault a).2.mode = w.mode := by
  cases a with
  | setMode m => exact absurd rfl (ha m)
  | clientPut uri payload => exact w.clientPut_mode fault
  | updateValue name v => cases fault <;> rfl
  | _ => rfl

/-- No action spoils the sample, if the shell alone sets the mode. -/
theorem SampledAuto.act {s : State F} (h : SampledAuto s) {t : Thread} {a : Action F}
    (ha : t = .scheduler → ∀ m, a ≠ .setMode m) (fault : Fault) :
    SampledAuto (handler t fault a s).2 := by
  by_cases hset : ∃ m, a = .setMode m
  · obtain ⟨m, rfl⟩ := hset
    cases t with
    | scheduler => exact absurd rfl (ha rfl m)
    | shell =>
      obtain ⟨since, before, hlog, hstart, -⟩ := h
      refine ⟨.did .shell (.setMode m) () :: since, before, ?_, ?_, ?_⟩
      · exact congrArg _ hlog
      · intro e he
        rcases List.mem_cons.mp he with rfl | he
        · simp
        · exact hstart e he
      · cases m with
        | AUTO => exact Or.inl rfl
        | MANUAL => exact Or.inr ⟨_, List.mem_cons_self, rfl⟩
  · exact h.cons (by simp) (perform_mode (fun m heq => hset ⟨m, heq⟩) fault s.world)

/-! ## §2 Contracts -/

/-- The scheduler moves gates under a sample of AUTO and never sets the
mode; the shell moves gates in MANUAL mode. Each relies on the others for
what it must know of the mode. -/
def modeContract : Thread → Contract (Action F) Action.Answer Fault (State F)
  | .scheduler =>
    { handler := handler .scheduler
      allowed := fun _ _ _ => True
      rely := fun s s' => SampledAuto s → SampledAuto s'
      guar := fun _ a s => (∀ m, a ≠ .setMode m) ∧
        ∀ uri L, a = .clientPut uri (ResGate.openingLevelNode L) → SampledAuto s }
  | .shell =>
    { handler := handler .shell
      allowed := fun _ _ _ => True
      rely := fun s s' => s'.world.mode = s.world.mode
      guar := fun _ a s => ∀ uri L, a = .clientPut uri (ResGate.openingLevelNode L) →
        s.world.mode = .MANUAL }

open Contract

/-- Before its test of the mode a cycle sends nothing to a gate. -/
theorem mode_scheduler_act {a : Action F} (hmode : ∀ m, a ≠ .setMode m)
    (hgate : ∀ uri L, a ≠ .clientPut uri (ResGate.openingLevelNode L)) :
    (modeContract .scheduler).Keeps (ε := JException) (fun _ => True) (perform a) := by
  intro _ _ _ _ _ _
  exact ⟨⟨hmode, fun uri L heq => absurd heq (hgate uri L)⟩, trivial⟩

/-- After the test every action of a cycle keeps the sample. -/
theorem mode_sampled_act {a : Action F} (hmode : ∀ m, a ≠ .setMode m) :
    (modeContract .scheduler).Keeps (ε := JException) SampledAuto (perform a) := by
  intro s hs s' hrely fault _
  exact ⟨⟨hmode, fun _ _ _ => hrely hs⟩, (hrely hs).act (fun _ => hmode) fault⟩

theorem mode_shell_act {a : Action F}
    (hgate : ∀ uri L, a ≠ .clientPut uri (ResGate.openingLevelNode L)) :
    (modeContract .shell).Keeps (ε := JException) (fun _ => True) (perform a) := by
  intro _ _ _ _ _ _
  exact ⟨fun uri L heq => absurd heq (hgate uri L), trivial⟩

/-- In MANUAL mode every action of a `Gate` command finds MANUAL. -/
theorem mode_manual_act {a : Action F} (hmode : ∀ m, a ≠ .setMode m) :
    (modeContract .shell).Keeps (ε := JException) (fun s => s.world.mode = .MANUAL)
      (perform a) := by
  intro s hs s' hrely fault _
  have hmanual : s'.world.mode = .MANUAL := Eq.trans hrely hs
  exact ⟨fun _ _ _ => hmanual, (perform_mode hmode fault s'.world).trans hmanual⟩

omit [JavaFloat F] in
theorem silent_ne_setMode {a : Action F} (ha : a.isSilent = true) (m : OperativeMode) :
    a ≠ .setMode m := by
  rintro rfl
  cases ha

omit [JavaFloat F] in
theorem silent_ne_clientPut {a : Action F} (ha : a.isSilent = true) (uri : Uri)
    (payload : ObjectNode) : a ≠ .clientPut uri payload := by
  rintro rfl
  cases ha

theorem mode_scheduler_silent : Silent (F := F) (modeContract .scheduler) fun _ => True := by
  intro _ ha
  exact mode_scheduler_act (silent_ne_setMode ha) fun uri _ => silent_ne_clientPut ha uri _

theorem mode_sampled_silent : Silent (F := F) (modeContract .scheduler) SampledAuto := by
  intro _ ha
  exact mode_sampled_act (silent_ne_setMode ha)

theorem mode_shell_silent : Silent (F := F) (modeContract .shell) fun _ => True := by
  intro _ ha
  exact mode_shell_act fun uri _ => silent_ne_clientPut ha uri _

theorem mode_manual_silent : Silent (F := F) (modeContract .shell) fun s => s.world.mode = .MANUAL := by
  intro _ ha
  exact mode_manual_act (silent_ne_setMode ha)

/-- A run of the control unit: alarms first, then the test of the mode,
then the gates under the sample. -/
theorem mode_run (maxStale : Int) : (modeContract .scheduler).Keeps (fun _ => True)
    (AutomaticControlUnit.run maxStale : Java F Unit) := by
  refine keeps_run mode_scheduler_silent maxStale fun w i o => ?_
  refine keeps_query mode_scheduler_silent rfl _ fun safe => Keeps.bind ?_ fun _ => ?_
  · refine keeps_setAlarmStatus mode_scheduler_silent _ fun alarm =>
      keeps_updateAlarm mode_scheduler_silent _ alarm (fun uri => ?_) ?_
    · exact mode_scheduler_act (by simp) fun _ L => by
        simp [ResAlarm.stateNode, ResGate.openingLevelNode]
    · exact mode_scheduler_act (by simp) (by simp)
  · intro s _ s' _ fault _
    refine ⟨⟨by simp, by simp⟩, ?_⟩
    change (modeContract .scheduler).Safe
      (if s'.world.mode = .MANUAL then Prog.pure () else controlGates w i o) _
      ⟨s'.world, .did .scheduler .getMode s'.world.mode :: s'.log⟩
    split
    · trivial
    · next hmode =>
      have hauto : s'.world.mode = .AUTO := by
        cases h : s'.world.mode with
        | AUTO => rfl
        | MANUAL => exact absurd h hmode
      -- the line this action leaves in the log is the sample
      have hsample : SampledAuto
          (⟨s'.world, .did .scheduler .getMode s'.world.mode :: s'.log⟩ : State F) := by
        rw [hauto]
        exact ⟨[], s'.log, rfl, by simp, Or.inl hauto⟩
      refine (keeps_controlGates mode_sampled_silent w i o (fun name next _ => ?_) _
        hsample).mono fun _ _ _ => trivial
      exact keeps_updateGate mode_sampled_silent name next
        (fun uri L => mode_sampled_act (by simp)) fun L => mode_sampled_act (by simp)

/-- A command: a `Gate` command moves its gate after finding MANUAL. -/
theorem mode_command {p : Java F Unit} (hp : Command p) :
    (modeContract .shell).Keeps (fun _ => True) p := by
  cases hp with
  | gate list gateName openingLevel =>
    refine keeps_gateCall mode_shell_silent list gateName openingLevel fun name L => ?_
    intro s _ s' _ fault _
    refine ⟨fun uri L heq => (by cases heq), ?_⟩
    change (modeContract .shell).Safe
      (if s'.world.mode = .AUTO then Prog.throw _ else ControlLogic.setGateOpening name L) _
      ⟨s'.world, .did .shell .getMode s'.world.mode :: s'.log⟩
    split
    · trivial
    · next hmode =>
      have hmanual : s'.world.mode = .MANUAL := by
        cases h : s'.world.mode with
        | AUTO => exact absurd h hmode
        | MANUAL => rfl
      refine (keeps_updateGate mode_manual_silent name (setNext L) (fun uri L => ?_) (fun L => ?_)
        _ hmanual).mono fun _ _ _ => trivial
      · exact mode_manual_act (by simp)
      · exact mode_manual_act (by simp)
  | mode mode => exact keeps_modeCall mode_shell_silent mode fun _ => mode_shell_act (by simp)
  | threshold threshold value =>
    exact keeps_thresholdCall mode_shell_silent threshold value fun _ _ => mode_shell_act (by simp)

/-! ## §3 Every PUT to a gate -/

omit [JavaFloat F] in
theorem Moves.mode {w w' : World F} (h : Moves w w') : w'.mode = w.mode := by
  cases h with
  | measures hm =>
    obtain ⟨waterLevels, flowRates, clock, rfl⟩ := hm
    rfl
  | registers => rfl
  | reboots => rfl

omit [JavaFloat F] in
theorem SampledAuto.moves {s s' : State F} (h : SampledAuto s) (hmove : Moves s.world s'.world)
    (hlog : s'.log = s.log) : SampledAuto s' := by
  obtain ⟨since, before, heq, hstart, hauto⟩ := h
  exact ⟨since, before, hlog.trans heq, hstart, hauto.imp_left hmove.mode.trans⟩

/-- The two contracts fit together. -/
theorem mode_sound (maxStale : Int) :
    (system (F := F) maxStale (fun _ _ => True) Moves).Sound (fun _ => True) (fun _ _ => True)
      modeContract where
  handler t := by cases t <;> rfl
  allowed t := by cases t <;> rfl
  refl t s _ := by
    cases t with
    | scheduler => exact fun h => h
    | shell => exact rfl
  trans t a b c hab hbc := by
    cases t with
    | scheduler => exact fun h => hbc (hab h)
    | shell => exact Eq.trans hbc hab
  idle_stable _ _ _ _ h := h
  act_inv _ _ _ _ _ h _ := h
  act_rely t u fault a s hne _ _ hguar := by
    rcases Thread.cases_of_ne hne with ⟨rfl, rfl⟩ | ⟨rfl, rfl⟩
    · exact perform_mode hguar.1 fault s.world
    · exact fun h => h.act (fun ht => by cases ht) fault
  start_inv _ _ h := h
  start_rely t u s hne _ := by
    rcases Thread.cases_of_ne hne with ⟨rfl, rfl⟩ | ⟨rfl, rfl⟩
    · exact rfl
    · exact fun h => h.cons (by simp) rfl
  start_safe t p s hp _ _ := by
    cases t with
    | scheduler =>
      obtain rfl := hp
      exact mode_run maxStale _ trivial
    | shell => exact mode_command hp _ trivial
  env_inv _ _ _ h := h
  env_rely u s s' hmove _ := by
    obtain ⟨hworld, hlog⟩ := hmove
    cases u with
    | scheduler => exact fun h => h.moves hworld hlog
    | shell => exact hworld.mode

/-- **Authority over the gates.** Whenever a thread is about to send a
level to a gate: if it is the shell, the mode is MANUAL; if it is the
scheduler, its current cycle has found the mode AUTO, and the mode is AUTO
unless a command has set MANUAL since. This holds under every
interleaving, every fault and every move of the environment. -/
theorem gate_put_authority (maxStale : Int) {s : State F}
    {P : Pool Thread (Action F) Action.Answer (State F) JException Unit}
    (hP : (system maxStale (fun _ _ => True) Moves).Reachable s P) {t : Thread} {uri : Uri}
    {L : Int} {k : (Action.clientPut uri (ResGate.openingLevelNode L) : Action F).Answer →
      Java F Unit}
    (hnext : P.threads t = some (.act (.clientPut uri (ResGate.openingLevelNode L)) k)) :
    (t = .shell → P.shared.world.mode = .MANUAL) ∧ (t = .scheduler → SampledAuto P.shared) := by
  have hguar := (mode_sound maxStale).guar_next trivial (fun _ => trivial) hP hnext
    (i := Fault.none) trivial
  cases t with
  | scheduler => exact ⟨(by cases ·), fun _ => hguar.2 uri L rfl⟩
  | shell => exact ⟨fun _ => hguar uri L rfl, (by cases ·)⟩

/-- A cycle at its PUT knows of the mode. -/
theorem gate_put_authority_cycle :
    ∃ P, (system 5 (fun _ _ => True) Moves).runSchedule cycleToPut
      ⟨oneGateFlood .AUTO, fun _ => none⟩ = some P ∧ SampledAuto P.shared := by
  obtain ⟨P, hrun, k, hnext⟩ : ∃ P, (system 5 (fun _ _ => True) Moves).runSchedule cycleToPut
      ⟨oneGateFlood .AUTO, fun _ => none⟩ = some P ∧ ∃ k, P.threads .scheduler =
        some (.act (.clientPut gate1Uri (ResGate.openingLevelNode 100)) k) := ⟨_, rfl, _, rfl⟩
  have hP := System.reachable_runSchedule .refl (admits_cycleToPut fun _ => trivial) hrun
  exact ⟨P, hrun, (gate_put_authority 5 hP hnext).2 rfl⟩

/-- The operator sets MANUAL between a cycle's test of the mode and its
PUT: the cycle is about to open the gate in MANUAL mode. -/
theorem gate_put_after_manual :
    ∃ P, (system 5 (fun _ _ => True) Moves).Reachable (oneGateFlood .AUTO) P ∧
      (∃ k, P.threads .scheduler =
        some (.act (.clientPut gate1Uri (ResGate.openingLevelNode 100)) k)) ∧
      P.shared.world.mode = .MANUAL := by
  obtain ⟨P, hrun, hnext, hmode⟩ : ∃ P, (system 5 (fun _ _ => True) Moves).runSchedule
      (cycleToPut ++ setManual) ⟨oneGateFlood .AUTO, fun _ => none⟩ = some P ∧
      (∃ k, P.threads .scheduler =
        some (.act (.clientPut gate1Uri (ResGate.openingLevelNode 100)) k)) ∧
      P.shared.world.mode = .MANUAL := ⟨_, rfl, ⟨_, rfl⟩, rfl⟩
  have hadmits : Admits (fun _ _ => True) Moves (cycleToPut ++ setManual) :=
    (admits_cycleToPut fun _ => trivial).append (admits_setManual fun _ => trivial)
  exact ⟨P, System.reachable_runSchedule .refl hadmits hrun, hnext, hmode⟩

end DamMonitoring.Controller
