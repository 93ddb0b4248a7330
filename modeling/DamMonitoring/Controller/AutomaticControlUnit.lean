/-
DamMonitoring.Controller.AutomaticControlUnit — `AutomaticControlUnit.run`,
one cycle of the automatic control.

The branches of the Java method are kept in their order: each threshold
is read again where the source reads it, and the four gate loops differ
in what they do with a gate (`Policy`).
-/
import DamMonitoring.Controller.ControlLogic

namespace DamMonitoring.Controller.AutomaticControlUnit

open Program Java Persistence
open Program.Prog (forEach)
open ControlLogic

variable {F : Type}

def STEP : Int := 5

def LONG_STEP : Int := 10

def SHORT_STEP : Int := 1

def INFLOW : String := "inflow"

/-- `gate.getTag().equalsIgnoreCase("emergency")`. -/
def isEmergency (gate : Resource) : Java F Bool := do
  pure (equalsIgnoreCase (← deref gate.tag) "emergency")

/-- The body of a loop that closes emergency gates and does `primary`
with the others. -/
def closeEmergency (primary : Resource → Java F Unit) (gate : Resource) : Java F Unit := do
  if ← isEmergency gate then setGateOpening gate.name FULL_CLOSE
  else primary gate

variable [JavaFloat F]

/-- The step between the minimum and the maximum threshold. -/
def normalStep (inflowRate outFlowRate : F) : Int :=
  if ((20 : Nat) : F) < mathAbs (outFlowRate - inflowRate) then LONG_STEP
  else if ((10 : Nat) : F) < mathAbs (outFlowRate - inflowRate) then STEP
  else SHORT_STEP

theorem normalStep_bounds (inflowRate outFlowRate : F) :
    0 < normalStep inflowRate outFlowRate ∧ normalStep inflowRate outFlowRate ≤ LONG_STEP := by
  unfold normalStep
  split
  · decide
  · split <;> decide

/-- What happens to a primary gate between the two thresholds. -/
def normalPrimary (inflowRate outFlowRate : F) (gate : Resource) : Java F Unit :=
  if outFlowRate < inflowRate - ((1 : Nat) : F) then
    increaseGateOpening gate.name (normalStep inflowRate outFlowRate)
  else if inflowRate + ((1 : Nat) : F) < outFlowRate then
    decreaseGateOpening gate.name (normalStep inflowRate outFlowRate)
  else pure ()

/-- The gates' part of a cycle. -/
def controlGates (waterLevel inflowRate outFlowRate : F) : Java F Unit := do
  let onlineGates ← DataManager.gateResources
  if (← getSafeThreshold) < waterLevel then
    forEach onlineGates fun gate => setGateOpening gate.name FULL_OPEN
  else
    if (← getMaxThreshold) < waterLevel then
      let step := if outFlowRate < inflowRate then LONG_STEP else STEP
      forEach onlineGates (closeEmergency fun gate => increaseGateOpening gate.name step)
    else
      if waterLevel < (← getMinThreshold) then
        let step := if inflowRate < outFlowRate then LONG_STEP else STEP
        forEach onlineGates (closeEmergency fun gate => decreaseGateOpening gate.name step)
      else
        forEach onlineGates (closeEmergency (normalPrimary inflowRate outFlowRate))

/-- A cycle once fresh data are there. -/
def actuate (waterLevel inflowRate outFlowRate : F) : Java F Unit := do
  setAlarmStatus (decide ((← getSafeThreshold) < waterLevel))
  if (← getRunningMode) = .MANUAL then pure ()
  else controlGates waterLevel inflowRate outFlowRate

/-- The body of the `try` block. -/
def cycle (maxStale : Int) : Java F Unit := do
  let waterLevel ← DataManager.retrieveWaterLevel
  let inflow ← deref (← DataManager.retrieveFlowRate INFLOW)
  let outFlowRate ← DataManager.retrieveOutFlowRate
  let fiveMinutesAgo := (← perform .now) - maxStale * 60000
  match waterLevel with
  | none => pure ()
  | some waterLevel =>
      if waterLevel.timestamp < fiveMinutesAgo then pure ()
      else actuate waterLevel.value inflow.value outFlowRate

/-- `run`: every exception of the cycle is caught and logged. -/
def run (maxStale : Int) : Java F Unit :=
  (cycle maxStale).tryCatch fun _ => pure ()

end DamMonitoring.Controller.AutomaticControlUnit
