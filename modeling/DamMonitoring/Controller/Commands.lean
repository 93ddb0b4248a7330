/-
DamMonitoring.Controller.Commands — the shell commands. Options and
parameters are those picocli has parsed; the lines a command prints are
left out.
-/
import DamMonitoring.Controller.AutomaticControlUnit

namespace DamMonitoring.Controller

open Program Java Persistence
open Program.Prog (forEach)

variable {F : Type}

namespace Gate

def setLevel (gateName : String) (level : Int) : Java F Unit := do
  if (← ControlLogic.getRunningMode) = .AUTO then
    throw (.commandException "Set MANUAL mode to control the gates")
  else ControlLogic.setGateOpening gateName level

def getLevel (gateName : String) : Java F Unit := do
  let _ ← CoapManager.getGateOpening gateName

def call (list : Bool) (gateName : Option String) (openingLevel : Option Int) :
    Java F Unit := do
  if list then
    let _ ← DataManager.gateResources
  else
    match gateName, openingLevel with
    | none, _ => forEach (← DataManager.gateResources) fun gate => getLevel gate.name
    | some gateName, none => getLevel gateName
    | some gateName, some openingLevel => setLevel gateName openingLevel

end Gate

namespace Mode

/-- A `ControlException` is caught and its message printed. -/
def catchControl : JException → Java F Unit
  | .controlException _ => pure ()
  | ex => throw ex

def call (mode : Option String) : Java F Unit :=
  match mode with
  | none => do
      let _ ← ControlLogic.getRunningMode
  | some mode =>
      (do
        if toUpperCaseIs mode "AUTO" then
          let _ ← ControlLogic.startAutomaticControlUnit
        else if toUpperCaseIs mode "MANUAL" then
          let _ ← ControlLogic.stopAutomaticControlUnit
        else pure () : Java F Unit).tryCatch catchControl

end Mode

namespace Threshold

variable [JavaFloat F]

/-- `switch (threshold.toLowerCase())`. -/
def name (threshold : String) : Java F ThresholdName :=
  if toLowerCaseIs threshold "max" then pure .max
  else if toLowerCaseIs threshold "min" then pure .min
  else if toLowerCaseIs threshold "safe" then pure .safe
  else throw (.commandException "Threshold not available")

def get : ThresholdName → Java F F
  | .max => ControlLogic.getMaxThreshold
  | .min => ControlLogic.getMinThreshold
  | .safe => ControlLogic.getSafeThreshold

def set : ThresholdName → F → Java F Unit
  | .max => ControlLogic.setMaxThreshold
  | .min => ControlLogic.setMinThreshold
  | .safe => ControlLogic.setSafeThreshold

def call (threshold : Option String) (value : Option F) : Java F Unit := do
  match threshold, value with
  | none, _ =>
      let _ ← ControlLogic.getMaxThreshold
      let _ ← ControlLogic.getMinThreshold
      let _ ← ControlLogic.getSafeThreshold
  | some threshold, none =>
      let _ ← get (← name threshold)
  | some threshold, some value => set (← name threshold) value

end Threshold

namespace Alarm

def call : Java F Unit := do
  forEach (← DataManager.alarmResources) fun alarm => do
    let _ ← CoapManager.getAlarmStatus alarm.uri

end Alarm

namespace Flow

def CHANNELS : List String := ["INFLOW", "OUTFLOW-1", "OUTFLOW-2"]

def lastRecord (channel : String) : Java F Unit := do
  let _ ← DataManager.retrieveFlowRate channel

def call (list : Bool) (channel : Option String) : Java F Unit :=
  if list then pure ()
  else
    match channel with
    | none => forEach CHANNELS fun channel => lastRecord channel
    | some channel => lastRecord channel

end Flow

namespace Level

def lastRecord : Java F Unit := do
  let _ ← DataManager.retrieveWaterLevel

def call : Java F Unit := lastRecord

end Level

end DamMonitoring.Controller
