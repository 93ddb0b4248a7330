/-
DamMonitoring.Controller.Displays — the commands that show something.

`Alarm`, `Flow` and `Level`, and `Gate`, `Mode` and `Threshold` without a
value to set, read the database, the devices and the parameters while the
scheduler and the environment go on. `displays_unseen` takes them out of
every run: the world, all that the scheduler does and all that the shell
sets, writes and publishes are those of a run in which the operator gives
instructions only. So what holds of `system` under every interleaving
holds of the console with all its commands.

  §1 instructions and displays
  §2 displays only read
  §3 taking them out of a run
-/
import DamMonitoring.Controller.Authority
import DamMonitoring.Program.Looking

namespace DamMonitoring.Controller

open Program Java Motes Persistence Collector

variable {F : Type} [JavaFloat F]

/-! ## §1 Commands -/

/-- The commands that show something. -/
inductive Display : Java F Unit → Prop where
  | alarm : Display Alarm.call
  | flow (list : Bool) (channel : Option String) : Display (Flow.call list channel)
  | level : Display Level.call
  | gateList (gateName : Option String) (openingLevel : Option Int) :
      Display (Gate.call true gateName openingLevel)
  | gates (openingLevel : Option Int) : Display (Gate.call false none openingLevel)
  | gate (gateName : String) : Display (Gate.call false (some gateName) none)
  | mode : Display (Mode.call none)
  | thresholds (value : Option F) : Display (Threshold.call none value)
  | threshold (threshold : String) : Display (Threshold.call (some threshold) none)

/-- The commands that set something. -/
inductive Instruction : Java F Unit → Prop where
  | gate (gateName : String) (openingLevel : Int) :
      Instruction (Gate.call false (some gateName) (some openingLevel))
  | mode (mode : String) : Instruction (Mode.call (some mode))
  | threshold (threshold : String) (value : F) :
      Instruction (Threshold.call (some threshold) (some value))

/-- There are no others among `Gate`, `Mode` and `Threshold`. -/
theorem Command.instruction_or_display {p : Java F Unit} (h : Command p) : Instruction p ∨ Display p := by
  cases h with
  | gate list gateName openingLevel =>
    cases list with
    | true => exact Or.inr (.gateList gateName openingLevel)
    | false =>
      cases gateName with
      | none => exact Or.inr (.gates openingLevel)
      | some gateName =>
        cases openingLevel with
        | none => exact Or.inr (.gate gateName)
        | some openingLevel => exact Or.inl (.gate gateName openingLevel)
  | mode mode =>
    cases mode with
    | none => exact Or.inr .mode
    | some mode => exact Or.inl (.mode mode)
  | threshold threshold value =>
    cases threshold with
    | none => exact Or.inr (.thresholds value)
    | some threshold =>
      cases value with
      | none => exact Or.inr (.threshold threshold)
      | some value => exact Or.inl (.threshold threshold value)

/-- The Controller with all its commands. -/
def console (maxStale : Int) (allowed : Fault → Action F → Prop) (env : World F → World F → Prop) :
    System Thread (Action F) Action.Answer Fault (State F) JException Unit :=
  { system maxStale allowed env with
    starts
      | .scheduler, p => p = AutomaticControlUnit.run maxStale
      | .shell, p => Command p ∨ Display p }

/-- The Controller of an operator who gives instructions only. -/
def instructed (maxStale : Int) (allowed : Fault → Action F → Prop) (env : World F → World F → Prop) :
    System Thread (Action F) Action.Answer Fault (State F) JException Unit :=
  { system maxStale allowed env with
    starts
      | .scheduler, p => p = AutomaticControlUnit.run maxStale
      | .shell, p => Instruction p }

/-! ## §2 Displays only read -/

section Reads

open Contract

variable {C : Contract (Action F) Action.Answer Fault (State F)} {P : State F → Prop}

omit [JavaFloat F]

theorem keeps_readState (answer : CoapAnswer) :
    C.Keeps P (CoapManager.readState answer : Java F Bool) := by
  cases answer with
  | response r =>
    unfold CoapManager.readState
    dsimp only
    split
    · refine (keeps_deref _).bind fun n => (keeps_deref _).bind fun vb => ?_
      split
      · exact keeps_throw _
      · exact keeps_pure _
    · exact keeps_throw _
  | noResponse => exact keeps_throw _
  | ioError message => exact keeps_throw _

variable (hread : Reading C P)
include hread

theorem reads_getAlarmStatus (uri : Uri) :
    C.Keeps P (CoapManager.getAlarmStatus uri : Java F Bool) :=
  (reads_query hread rfl _ keeps_readState).tryCatch fun _ => keeps_throw _

theorem reads_lastRecord (channel : String) : C.Keeps P (Flow.lastRecord channel : Java F Unit) :=
  Keeps.bind (reads_query hread rfl _ fun answer => keeps_session answer) fun _ => keeps_pure ()

theorem reads_resources (type : String) {f : List Resource → Java F Unit}
    (hf : ∀ rows, C.Keeps P (f rows)) :
    C.Keeps P ((perform (.resourcesOfType type) >>= DataManager.session) >>= f) :=
  Keeps.bind (reads_query hread rfl _ fun answer => keeps_session answer) hf

/-- **A display keeps what reading keeps.** -/
theorem reads_display [JavaFloat F] {p : Java F Unit} (h : Display p) : C.Keeps P p := by
  have hthreshold : ∀ name, C.Keeps (ε := JException) P (perform (.getThreshold name)) :=
    fun name => hread _ rfl
  cases h with
  | alarm =>
    exact reads_resources hread "alarm" fun alarms => Keeps.forEach fun alarm _ =>
      (reads_getAlarmStatus hread alarm.uri).bind fun _ => keeps_pure ()
  | flow list channel =>
    unfold Flow.call
    split
    · exact keeps_pure ()
    · cases channel with
      | none => exact Keeps.forEach fun channel _ => reads_lastRecord hread channel
      | some channel => exact reads_lastRecord hread channel
  | level =>
    exact Keeps.bind (reads_query hread rfl _ fun answer => keeps_session answer)
      fun _ => keeps_pure ()
  | gateList gateName openingLevel =>
    exact reads_resources hread "gate" fun _ => keeps_pure ()
  | gates openingLevel =>
    exact reads_resources hread "gate" fun gates => Keeps.forEach fun gate _ =>
      reads_getLevel hread gate.name
  | gate gateName => exact reads_getLevel hread gateName
  | mode => exact (hread .getMode rfl).bind fun _ => keeps_pure ()
  | thresholds value =>
    exact (hthreshold _).bind fun _ => (hthreshold _).bind fun _ => (hthreshold _).bind fun _ =>
      keeps_pure ()
  | threshold threshold =>
    refine (keeps_thresholdName threshold).bind fun name => Keeps.bind ?_ fun _ => keeps_pure ()
    cases name <;> exact hthreshold _

end Reads

/-! ## §3 Runs without displays -/

omit [JavaFloat F] in
/-- The entries that are not a display's: all of the scheduler's, and what
the shell sets, writes, sends and publishes. -/
def Entry.remains : Entry F → Bool
  | .started t => t = .scheduler
  | .did .scheduler _ _ => true
  | .did .shell a _ => !a.isRead

omit [JavaFloat F] in
/-- The same world, and the same history but for displays. -/
structure SameButDisplays (s s' : State F) : Prop where
  world : s.world = s'.world
  log : s.log.filter Entry.remains = s'.log.filter Entry.remains

/-- Reading leaves the world as it is. -/
theorem perform_of_isRead {a : Action F} (h : a.isRead = true) (fault : Fault) (w : World F) :
    (w.perform fault a).2 = w := by
  cases a <;> first | rfl | cases h

variable {maxStale : Int} {allowed : Fault → Action F → Prop} {env : World F → World F → Prop}

/-- Displays can be taken out. -/
theorem console_unseen : (console maxStale allowed env).Unseen (instructed maxStale allowed env)
    (fun t => t = .shell) (fun a => a.isRead = true) SameButDisplays where
  handler t fault a s s' h := by
    obtain ⟨hw, hlog⟩ := h
    simp only [console, instructed, system, handler, hw]
    exact ⟨trivial, rfl, by simp [List.filter_cons, hlog]⟩
  allowed fault a _ _ _ h := h
  starts t p hp := by
    cases t with
    | scheduler => exact Or.inl hp
    | shell =>
      have hdisplay : Instruction p ∨ Display p := hp.elim Command.instruction_or_display Or.inr
      rcases hdisplay with hinstruction | hdisplay
      · exact Or.inl hinstruction
      · refine Or.inr ⟨rfl, reads_display ?_ hdisplay⟩
        intro a ha s _
        exact fun s' _ fault _ => ⟨ha, trivial⟩
  onStart t s s' h := ⟨h.world, by simp [console, instructed, system, List.filter_cons, h.log]⟩
  env s s' s₁ h hmove := by
    obtain ⟨hmove, hlog⟩ := hmove
    exact ⟨⟨s₁.world, s'.log⟩, ⟨h.world ▸ hmove, rfl⟩, rfl, by rw [hlog]; exact h.log⟩
  looks t fault a s s' ht ha h := by
    subst ht
    refine ⟨(perform_of_isRead ha fault s.world).trans h.world, ?_⟩
    simp [console, system, handler, Entry.remains, ha, h.log]
  looksOnStart t s s' ht h := by
    subst ht
    exact ⟨h.world, by simp [console, system, Entry.remains, h.log]⟩

/-- **Displays are unseen.** Whatever the operator looks at, and whenever:
a run of the console is one of an operator who gives instructions only, with
the same world, the same cycles of the scheduler and the same record of
all that is set, written, sent and published. -/
theorem displays_unseen {s : State F}
    {P : Pool Thread (Action F) Action.Answer (State F) JException Unit}
    (hP : (console maxStale allowed env).Reachable s P) :
    ∃ Q, (instructed maxStale allowed env).Reachable s Q ∧ Q.shared.world = P.shared.world ∧
      Q.shared.log.filter Entry.remains = P.shared.log.filter Entry.remains ∧
      Q.threads .scheduler = P.threads .scheduler ∧
      (Q.threads .shell = P.threads .shell ∨ Q.threads .shell = none) := by
  have hsame : SameButDisplays s s := ⟨rfl, rfl⟩
  obtain ⟨Q, hQ, hshared, hthreads⟩ := console_unseen.reachable hsame hP
  refine ⟨Q, hQ, hshared.world.symm, hshared.log.symm, ?_, ?_⟩
  · rcases hthreads .scheduler with hsame | ⟨-, hshell, -⟩
    · exact hsame
    · cases hshell
  · rcases hthreads .shell with hsame | ⟨hnone, -⟩
    · exact Or.inl hsame
    · exact Or.inr hnone

/-- The operator lists the levels of the gates; a cycle comes in between. -/
def listWhileCycling : Schedule ℚ :=
  .start .shell (Gate.call false none none) :: (steps .shell 2 ++ (cycleToPut ++ steps .shell 1))

/-- The display is at work, and its traces are gone. -/
theorem displays_unseen_listing :
    ∃ P Q, (console 5 (fun _ _ => True) Moves).Reachable (oneGateFlood .AUTO) P ∧
      (∃ p, P.threads .shell = some p) ∧
      (instructed 5 (fun _ _ => True) Moves).Reachable (oneGateFlood .AUTO) Q ∧
      Q.shared.world = P.shared.world ∧ Q.threads .scheduler = P.threads .scheduler := by
  obtain ⟨P, hrun, hshell⟩ : ∃ P, (console 5 (fun _ _ => True) Moves).runSchedule listWhileCycling
      ⟨oneGateFlood .AUTO, fun _ => none⟩ = some P ∧ ∃ p, P.threads .shell = some p :=
    ⟨_, rfl, _, rfl⟩
  have hadmits : ∀ c ∈ listWhileCycling, (console 5 (fun _ _ => True) Moves).ChoiceOk c := by
    have hsteps : ∀ t n, ∀ c ∈ (steps t n : Schedule ℚ), (console 5 (fun _ _ => True) Moves).ChoiceOk c := by
      intro t n c hc
      rw [(List.mem_replicate.mp hc).2]
      exact fun _ _ => trivial
    intro c hc
    simp only [listWhileCycling, cycleToPut, List.mem_cons, List.mem_append] at hc
    rcases hc with rfl | hc | (rfl | hc) | hc
    · exact Or.inr (.gates none)
    · exact hsteps .shell 2 c hc
    · exact rfl
    · exact hsteps .scheduler 11 c hc
    · exact hsteps .shell 1 c hc
  have hP := System.reachable_runSchedule .refl hadmits hrun
  obtain ⟨Q, hQ, hworld, -, hscheduler, -⟩ := displays_unseen hP
  exact ⟨P, Q, hP, hshell, hQ, hworld, hscheduler⟩

end DamMonitoring.Controller
