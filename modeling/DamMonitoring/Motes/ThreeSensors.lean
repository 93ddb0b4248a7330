/-
DamMonitoring.Motes.ThreeSensors — `demo/mote-2` and the three builds of
`firmwares/flow-sensor` it stands for.

mote-2 does in one loop what the builds do each on its own, with one
static variable `new_gate_value` for all channels where every build has
its own. `three_sensors` shows that nobody can tell: whatever messages,
ticks and button events come, each channel of mote-2 shows what its build
shows, and mote-2 divides by zero exactly when one of the builds does.
The build for the inflow is one that gets no messages.

  §1 what a build sees
  §2 one step
  §3 every run
-/
import DamMonitoring.Motes.FlowSensor
import DamMonitoring.Motes.Mote2

namespace DamMonitoring.Motes

open Program.Machine

namespace Mote2

/-! ## §1 Builds -/

/-- What an event is for the build of a channel, if it notices it. -/
def build : Channel → Event → Option FlowSensor.Event
  | .inflow, .message _ => none
  | _, .message chunk => some (.message chunk)
  | i, .tick random => some (.tick (random i))
  | _, .button e => some (.button e)

/-- The cells of a channel are those of its build. -/
structure Shows (i : Channel) (s : Mote2) (f : FlowSensor) : Prop where
  flow : f.flow = s.flow i
  targetFlow : f.targetFlow = s.targetFlow i
  btnRelease : i = .inflow → f.btnRelease = s.btnRelease

theorem init_shows (i : Channel) : Shows i init (FlowSensor.init i) := ⟨rfl, rfl, fun _ => rfl⟩

/-! ## §2 Steps -/

variable {i : Channel} {s : Mote2} {f : FlowSensor}

theorem Shows.message (h : Shows i s f) (hi : i ≠ .inflow) (chunk : Chunk) :
    Shows i (s.handleMessage chunk) (f.handleMessage i chunk) := by
  obtain ⟨hflow, -, htarget⟩ := s.handleMessage_eq chunk
  obtain ⟨hflow', -, htarget'⟩ := f.handleMessage_flow i chunk
  refine ⟨?_, ?_, fun hinflow => absurd hinflow hi⟩
  · rw [hflow, hflow', h.flow]
  · cases haccepted : chunk.accepted i <;> simp [htarget, htarget', hi, haccepted, h.targetFlow]

/-- mote-2 passes over what a message says about the inflow. -/
theorem Shows.message_inflow (h : Shows .inflow s f) (chunk : Chunk) :
    Shows .inflow (s.handleMessage chunk) f := by
  obtain ⟨hflow, hrelease, htarget⟩ := s.handleMessage_eq chunk
  refine ⟨?_, ?_, fun hinflow => ?_⟩
  · rw [hflow, h.flow]
  · rw [htarget, if_pos rfl, h.targetFlow]
  · rw [hrelease, h.btnRelease hinflow]

theorem Shows.button (h : Shows i s f) (e : ButtonEvent) :
    Shows i (s.button e) (f.button i e) := by
  by_cases hi : i = .inflow
  · subst hi
    simp only [Mote2.button, FlowSensor.button, if_true, h.flow, h.targetFlow, h.btnRelease]
    exact ⟨by simp, by simp, fun _ => rfl⟩
  · obtain ⟨hflow, htarget⟩ := button_other e s hi
    refine ⟨?_, ?_, fun hinflow => absurd hinflow hi⟩
    · rw [hflow, FlowSensor.button, if_neg hi, h.flow]
    · rw [htarget, FlowSensor.button, if_neg hi, h.targetFlow]

/-- A tick reads every channel, or divides by zero on one. -/
theorem together_tick {f : Channel → FlowSensor} (h : ∀ i, Shows i s (f i))
    (random : Channel → Rand) :
    Together Shows (s.simulateReadFlow random) fun i => (f i).simulateReadFlow (random i) := by
  cases htick : s.simulateReadFlow random with
  | none =>
    obtain ⟨i, hi⟩ := simulateReadFlow_eq_none.mp htick
    refine ⟨i, ?_⟩
    simp only [FlowSensor.simulateReadFlow, (h i).flow, (h i).targetFlow, hi, Option.map_none]
  | some s' =>
    obtain ⟨hread, hs'⟩ := simulateReadFlow_eq_some htick
    intro i
    have hread' : readFlow (random i) (f i).flow (f i).targetFlow = some (s'.flow i) := by
      rw [(h i).flow, (h i).targetFlow, hread i]
    refine ⟨_, FlowSensor.simulateReadFlow_eq_some.mpr ⟨_, hread', rfl⟩, rfl, ?_, fun hi => ?_⟩
    · rw [hs']
      exact (h i).targetFlow
    · rw [hs']
      exact (h i).btnRelease hi

theorem together_step {f : Channel → FlowSensor} (h : ∀ i, Shows i s (f i)) (e : Event) :
    Together Shows (step s e) fun i => seen (FlowSensor.step i) (build i) (f i) e := by
  cases e with
  | message chunk =>
    intro i
    by_cases hi : i = .inflow
    · subst hi
      exact ⟨_, rfl, (h .inflow).message_inflow chunk⟩
    · have hsees : build i (.message chunk) = some (.message chunk) := by
        cases i <;> first | rfl | exact absurd rfl hi
      refine ⟨_, ?_, (h i).message hi chunk⟩
      simp only [seen, hsees, FlowSensor.step]
  | tick random =>
    have hsees : ∀ i, build i (.tick random) = some (.tick (random i)) := by
      intro i
      cases i <;> rfl
    simpa only [seen, hsees, FlowSensor.step, Mote2.step] using together_tick h random
  | button e =>
    intro i
    have hsees : build i (.button e) = some (.button e) := by
      cases i <;> rfl
    refine ⟨_, ?_, (h i).button e⟩
    simp only [seen, hsees, FlowSensor.step]

/-! ## §3 Runs -/

/-- **mote-2 is its three builds**: it takes a run exactly if each of them
takes its part of it, and then shows what they show. -/
theorem three_sensors (es : List Event) :
    ((run step init es).isSome = true ↔
      ∀ i, (run (FlowSensor.step i) (.init i) (es.filterMap (build i))).isSome = true) ∧
      ∀ s, run step init es = some s → ∀ i,
        ∃ f, run (FlowSensor.step i) (.init i) (es.filterMap (build i)) = some f ∧
          s.flow i = f.flow ∧ s.targetFlow i = f.targetFlow := by
  have htogether := run_parts (fun _ _ e h => together_step h e) init_shows es
  cases hrun : run step init es with
  | none =>
    rw [hrun] at htogether
    obtain ⟨i, hi⟩ := htogether
    have hnone : run (FlowSensor.step i) (.init i) (es.filterMap (build i)) = none := hi
    refine ⟨iff_of_false (by simp) fun hall => ?_, by simp⟩
    exact absurd (hall i) (by simp [hnone])
  | some s =>
    rw [hrun] at htogether
    refine ⟨iff_of_true rfl fun i => ?_, ?_⟩
    · obtain ⟨f, hf, -⟩ := htogether i
      exact Option.isSome_iff_exists.mpr ⟨f, hf⟩
    · intro s' hs' i
      obtain rfl := Option.some.inj hs'
      obtain ⟨f, hf, hshows⟩ := htogether i
      exact ⟨f, hf, hshows.flow.symm, hshows.targetFlow.symm⟩

end Mote2

end DamMonitoring.Motes
