/-
DamMonitoring.Controller.Decisions — what a cycle decides, apart from
what it does about it.

A cycle decides twice, each time on thresholds it reads there and then:
whether the alarms are to be on, and which of the four loops over the
gates it runs (`Branch`). `decidingRun` is `run` with its decisions as
the result; `decidingRun_erased` says that it is `run` in every other
respect.

  §1 the branches of the gates' part
  §2 a run that tells what it has decided
-/
import DamMonitoring.Controller.AutomaticControlUnit

namespace DamMonitoring.Controller

open Program Java Persistence
open Program.Prog (forEach)
open ControlLogic AutomaticControlUnit

variable {F : Type} [JavaFloat F]

/-! ## §1 Branches -/

/-- The four branches of the gates' part, by the test that leads there. -/
inductive Branch where
  | aboveSafe | aboveMax | belowMin | normal
  deriving DecidableEq, Repr

/-- The branch that thresholds call for. -/
def branchOf (θ : Thresholds F) (w : F) : Branch :=
  if θ.safe < w then .aboveSafe
  else if θ.max < w then .aboveMax
  else if w < θ.min then .belowMin
  else .normal

/-- The tests, each on the threshold it reads. -/
def readBranch (w : F) : Java F Branch := do
  if (← getSafeThreshold) < w then pure .aboveSafe
  else
    if (← getMaxThreshold) < w then pure .aboveMax
    else
      if w < (← getMinThreshold) then pure .belowMin
      else pure .normal

/-- The loop of a branch. -/
def branchLoop (inflowRate outFlowRate : F) (onlineGates : List Resource) : Branch → Java F Unit
  | .aboveSafe => forEach onlineGates fun gate => ControlLogic.setGateOpening gate.name FULL_OPEN
  | .aboveMax =>
      let step := if outFlowRate < inflowRate then LONG_STEP else STEP
      forEach onlineGates (closeEmergency fun gate => increaseGateOpening gate.name step)
  | .belowMin =>
      let step := if inflowRate < outFlowRate then LONG_STEP else STEP
      forEach onlineGates (closeEmergency fun gate => decreaseGateOpening gate.name step)
  | .normal => forEach onlineGates (closeEmergency (normalPrimary inflowRate outFlowRate))

/-- The tests one after the other. -/
theorem readBranch_bind {β : Type} (w : F) (k : Branch → Java F β) :
    readBranch w >>= k = Prog.act (.getThreshold .safe) fun safe =>
      if safe < w then k .aboveSafe
      else Prog.act (.getThreshold .max) fun max =>
        if max < w then k .aboveMax
        else Prog.act (.getThreshold .min) fun min =>
          if w < min then k .belowMin else k .normal := by
  simp only [readBranch, getSafeThreshold, getMaxThreshold, getMinThreshold, Controller.perform,
    Prog.perform_bind, Prog.act_bind, Prog.ite_bind, Prog.pure_eq, Prog.pure_bind]

/-- **The gates' part is a decision and a loop.** -/
theorem controlGates_eq (w i o : F) :
    controlGates w i o = DataManager.gateResources >>= fun onlineGates =>
      readBranch w >>= fun b => branchLoop i o onlineGates b := by
  simp only [readBranch_bind]
  rfl

/-- Telling the branch throws nothing. -/
theorem readBranch_tryCatch (w : F) (k : Branch → Java F Unit) (h : JException → Java F Unit) :
    (readBranch w >>= k).tryCatch h = readBranch w >>= fun b => (k b).tryCatch h := by
  simp only [readBranch_bind, Prog.tryCatch_act, Prog.ite_tryCatch]

/-! ## §2 Decisions -/

/-- What a cycle has decided: the water level it acts on, the state it
wants of the alarms, and the branch, if it has come to the gates. -/
structure Decision (F : Type) where
  level : F
  status : Bool
  branch : Option Branch
  deriving DecidableEq

/-- The data of a cycle; `none` where they are not fresh. -/
def inputs (maxStale : Int) : Java F (Option (F × F × F)) := do
  let waterLevel ← DataManager.retrieveWaterLevel
  let inflow ← deref (← DataManager.retrieveFlowRate INFLOW)
  let outFlowRate ← DataManager.retrieveOutFlowRate
  let fiveMinutesAgo := (← perform .now) - maxStale * 60000
  match waterLevel with
  | none => pure none
  | some waterLevel =>
      if waterLevel.timestamp < fiveMinutesAgo then pure none
      else pure (some (waterLevel.value, inflow.value, outFlowRate))

/-- The gates' part, with its decision. -/
def decidingGates (w i o : F) (d : Decision F) : Java F (Decision F) := do
  match ← (DataManager.gateResources : Java F (List Resource)).attempt with
  | none => pure d
  | some onlineGates =>
      let b ← readBranch w
      let _ ← (branchLoop i o onlineGates b).attempt
      pure { d with branch := some b }

/-- Acting on fresh data, with the decisions. -/
def decidingActuate (w i o : F) : Java F (Decision F) := do
  let status := decide ((← getSafeThreshold) < w)
  match ← (ControlLogic.setAlarmStatus status).attempt with
  | none => pure ⟨w, status, none⟩
  | some () =>
      if (← getRunningMode) = .MANUAL then pure ⟨w, status, none⟩
      else decidingGates w i o ⟨w, status, none⟩

/-- `run`, with the decisions as its result. -/
def decidingRun (maxStale : Int) : Java F (Option (Decision F)) := do
  match ← (inputs maxStale).attempt with
  | some (some (w, i, o)) =>
      let d ← decidingActuate w i o
      pure (some d)
  | _ => pure none

theorem cycle_eq (maxStale : Int) :
    (cycle maxStale : Java F Unit) = inputs maxStale >>= fun data => match data with
      | none => .pure ()
      | some (w, i, o) => actuate w i o := by
  unfold cycle inputs
  simp only [Prog.bind_assoc]
  refine congrArg _ (funext fun waterLevel => ?_)
  refine congrArg _ (funext fun inflow => ?_)
  refine congrArg _ (funext fun inflow => ?_)
  refine congrArg _ (funext fun outFlowRate => ?_)
  refine congrArg _ (funext fun now => ?_)
  cases waterLevel with
  | none => rfl
  | some waterLevel =>
    dsimp only
    split <;> rfl

theorem decidingGates_erased (w i o : F) (d : Decision F) :
    (decidingGates w i o d >>= fun _ => .pure () : Java F Unit) =
      (controlGates w i o).tryCatch fun _ => .pure () := by
  rw [controlGates_eq, Prog.tryCatch_bind, decidingGates, Prog.bind_assoc]
  refine congrArg _ (funext fun onlineGates => ?_)
  cases onlineGates with
  | none => rfl
  | some onlineGates =>
    simp only [readBranch_tryCatch, Prog.bind_assoc, Prog.pure_eq, Prog.pure_bind,
      Prog.attempt_erased]

theorem decidingActuate_erased (w i o : F) :
    (decidingActuate w i o >>= fun _ => .pure () : Java F Unit) =
      (actuate w i o).tryCatch fun _ => .pure () := by
  unfold decidingActuate actuate
  simp only [getSafeThreshold, Controller.perform, Prog.perform_bind, Prog.act_bind,
    Prog.tryCatch_act]
  refine congrArg _ (funext fun safe => ?_)
  rw [Prog.tryCatch_bind, Prog.bind_assoc]
  refine congrArg _ (funext fun done => ?_)
  cases done with
  | none => rfl
  | some done =>
    simp only [getRunningMode, Controller.perform, Prog.perform_bind, Prog.act_bind,
      Prog.tryCatch_act, Prog.ite_bind, Prog.ite_tryCatch, decidingGates_erased, Prog.pure_eq,
      Prog.pure_bind, Prog.tryCatch_pure]

/-- **Without its result, `decidingRun` is `run`.** -/
theorem decidingRun_erased (maxStale : Int) :
    (decidingRun maxStale >>= fun _ => .pure () : Java F Unit) =
      AutomaticControlUnit.run maxStale := by
  rw [AutomaticControlUnit.run, cycle_eq, Prog.pure_eq, Prog.tryCatch_bind, decidingRun,
    Prog.bind_assoc]
  refine congrArg _ (funext fun data => ?_)
  match data with
  | none => rfl
  | some none => rfl
  | some (some (w, i, o)) =>
    simp only [Prog.bind_assoc, Prog.pure_eq, Prog.pure_bind, decidingActuate_erased]

end DamMonitoring.Controller
