/-
DamMonitoring.Controller.ControlLogic — `ControlLogic`: the thresholds,
the operative mode, and the methods that actuate gates and alarms.

The three gate methods share everything but the level they aim at, so
each is `updateGate` applied to its own next level: `none` where the
method decides that there is nothing to send.
-/
import DamMonitoring.Controller.Managers

namespace DamMonitoring.Controller.ControlLogic

open Program Java Motes Persistence
open Program.Prog (forEach)

variable {F : Type}

def FULL_OPEN : Int := 100

def FULL_CLOSE : Int := 0

/-- The opening levels. -/
def InRange (c : Int) : Prop := FULL_CLOSE ≤ c ∧ c ≤ FULL_OPEN

theorem InRange.accepts {c : Int} (h : InRange c) : ResGate.Accepts c := h

/-! ## §1 Thresholds and mode -/

def getMaxThreshold : Java F F := perform (.getThreshold .max)

def getMinThreshold : Java F F := perform (.getThreshold .min)

def getSafeThreshold : Java F F := perform (.getThreshold .safe)

def inconsistent : JException :=
  .controlException "Value not consistent with the other thresholds"

variable [JavaFloat F]

def setMaxThreshold (maxThreshold : F) : Java F Unit := do
  if (← getSafeThreshold) < maxThreshold then throw inconsistent
  else
    if maxThreshold < (← getMinThreshold) then throw inconsistent
    else perform (.setThreshold .max maxThreshold)

def setMinThreshold (minThreshold : F) : Java F Unit := do
  if (← getMaxThreshold) < minThreshold then throw inconsistent
  else
    if (← getSafeThreshold) < minThreshold then throw inconsistent
    else perform (.setThreshold .min minThreshold)

def setSafeThreshold (safeThreshold : F) : Java F Unit := do
  if safeThreshold < (← getMinThreshold) then throw inconsistent
  else
    if safeThreshold < (← getMaxThreshold) then throw inconsistent
    else perform (.setThreshold .safe safeThreshold)

omit [JavaFloat F]

def getRunningMode : Java F OperativeMode := perform .getMode

def startAutomaticControlUnit : Java F OperativeMode := do
  if (← getRunningMode) = .AUTO then
    throw (.controlException "Automatic control unit already started")
  else
    perform (.setMode .AUTO)
    getRunningMode

def stopAutomaticControlUnit : Java F OperativeMode := do
  if (← getRunningMode) = .MANUAL then
    throw (.controlException "Automatic control unit already stopped")
  else
    perform (.setMode .MANUAL)
    getRunningMode

/-! ## §2 Gates -/

/-- An `MqttException` is caught and logged. -/
def simulate (gate : String) (level : Int) : Java F Unit := do
  let _ ← perform (.publish gate level)

/-- Read the registered level; if `next` asks for another one, command
the device, then record the level, then inform the simulation. -/
def updateGate (gateName : String) (next : Int → Option Int) : Java F Unit := do
  let currentOpeningLevel ← deref (← DataManager.getResourceValue gateName)
  match next currentOpeningLevel with
  | none => pure ()
  | some newLevel =>
      let _ ← CoapManager.setGateOpening gateName newLevel
      DataManager.setResourceValue gateName newLevel
      simulate gateName newLevel

def setNext (openingLevel current : Int) : Option Int :=
  if current ≠ openingLevel then some openingLevel else none

def decreaseNext (step current : Int) : Option Int :=
  if current ≠ FULL_CLOSE ∧ 0 < step then some (max (int32 (current - step)) FULL_CLOSE)
  else none

def increaseNext (step current : Int) : Option Int :=
  if current ≠ FULL_OPEN ∧ 0 < step then some (min (int32 (current + step)) FULL_OPEN)
  else none

def setGateOpening (gateName : String) (openingLevel : Int) : Java F Unit :=
  updateGate gateName (setNext openingLevel)

def decreaseGateOpening (gateName : String) (step : Int) : Java F Unit :=
  updateGate gateName (decreaseNext step)

def increaseGateOpening (gateName : String) (step : Int) : Java F Unit :=
  updateGate gateName (increaseNext step)

/-! ## §3 Alarms -/

/-- The value the registry holds for an alarm. -/
def statusValue (status : Bool) : Int := if status then 1 else 0

/-- One round of the loop of `setAlarmStatus`. -/
def updateAlarm (status : Bool) (alarm : Resource) : Java F Unit := do
  let value ← deref (← DataManager.getResourceValue alarm.name)
  let currentStatus := decide (value = 1)
  if currentStatus ≠ status then
    let _ ← CoapManager.setAlarmStatus alarm.name status
    DataManager.setResourceValue alarm.name (statusValue status)
  else pure ()

def setAlarmStatus (status : Bool) : Java F Unit := do
  forEach (← DataManager.alarmResources) (updateAlarm status)

end DamMonitoring.Controller.ControlLogic
