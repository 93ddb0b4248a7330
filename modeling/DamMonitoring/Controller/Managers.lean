/-
DamMonitoring.Controller.Managers — `DataManager` and `CoapManager`, the
two classes through which the Controller reaches the database and the
devices.

A method returns what the Java method returns; a Java `null` is `none`,
and dereferencing one is a `nullPointerException`.
-/
import DamMonitoring.Controller.World

namespace DamMonitoring.Controller

open Program Java Motes Persistence

variable {F : Type}

/-- Dereference a value that may be null. -/
def deref {α : Type} : Option α → Java F α
  | none => throw .nullPointerException
  | some x => pure x

/-! ## §1 DataManager -/

namespace DataManager

/-- A session that fails is a `PersistenceException`. -/
def session {α : Type} : Query α → Java F α
  | .ok x => pure x
  | .error message => throw (.persistenceException message)

def retrieveWaterLevel : Java F (Option (WaterLevel F)) := do
  session (← perform .retrieveWaterLevel)

def retrieveFlowRate (flowChannel : String) : Java F (Option (FlowRate F)) := do
  session (← perform (.retrieveFlowRate flowChannel))

/-- The sum of no row is null, and its `floatValue()` is not caught. -/
def retrieveOutFlowRate : Java F F := do
  deref (← session (← perform .retrieveOutFlowRate))

def gateResources : Java F (List Resource) := do
  session (← perform (.resourcesOfType "gate"))

def alarmResources : Java F (List Resource) := do
  session (← perform (.resourcesOfType "alarm"))

def lookupResource (resName : String) : Java F (Option Resource) := do
  session (← perform (.getResource resName))

def setResourceValue (resName : String) (value : Int) : Java F Unit := do
  session (← perform (.updateValue resName value))

/-- A missing row is a `PersistenceException`; a null value is returned. -/
def getResourceValue (resName : String) : Java F (Option Int) := do
  match ← session (← perform (.getResource resName)) with
  | none => throw (.persistenceException "Resource unavailable")
  | some resource => pure resource.value

end DataManager

/-! ## §2 CoapManager -/

namespace CoapManager

/-- `node.get(name)`. -/
def getMember (node : ObjectNode) (name : String) : Option JsonValue :=
  (node.find? fun m => m.1 == name).map Prod.snd

def asText : JsonValue → String
  | .num n => toString n
  | .str s => s
  | .bool b => toString b

/-- `asInt()`, of a number. What Jackson makes of other values no device
puts to the test. -/
def asInt : JsonValue → Int
  | .num n => n
  | _ => 0

/-- `asBoolean()`. -/
def asBoolean : JsonValue → Bool
  | .num n => n ≠ 0
  | .str s => trim s = "true".toList
  | .bool b => b

/-- `response.getCode().name()`. -/
def codeName : ResponseCode → String
  | .CREATED_2_01 => "CREATED"
  | .VALID_2_03 => "VALID"
  | .CHANGED_2_04 => "CHANGED"
  | .CONTENT_2_05 => "CONTENT"
  | .BAD_REQUEST_4_00 => "BAD_REQUEST"
  | .INTERNAL_SERVER_ERROR_5_00 => "INTERNAL_SERVER_ERROR"

def URILookup (resName : String) : Java F Uri := do
  match ← DataManager.lookupResource resName with
  | none => throw (.coapException "Resource unavailable")
  | some resource => pure resource.uri

/-- `coapPutRequest` from the response on. -/
def readPutAnswer : CoapAnswer → Java F String
  | .ioError message => throw (.io message)
  | .noResponse => throw (.coapException "Request failed: no response from server")
  | .response r => do
      if r.code.isSuccess ∨ r.code = .BAD_REQUEST_4_00 then
        let message ← deref (getMember r.payload "message")
        if r.code.isSuccess then pure (asText message)
        else throw (.coapException (asText message))
      else throw (.coapException ("Request failed: " ++ codeName r.code))

def coapPutRequest (resource : String) (requestPayload : ObjectNode) : Java F String := do
  let uri ← URILookup resource
  readPutAnswer (← perform (.clientPut uri requestPayload))

/-- `catch (ConnectorException | IOException | PersistenceException ex)`. -/
def asCoapException (context : String) : JException → JException
  | .io message => .coapException (context ++ message)
  | .persistenceException message => .coapException (context ++ message)
  | ex => ex

def setGateOpening (gate : String) (level : Int) : Java F String :=
  (coapPutRequest gate [("opening_level", .num level)]).tryCatch fun ex =>
    throw (asCoapException "" ex)

def setAlarmStatus (name : String) (state : Bool) : Java F String :=
  (coapPutRequest name [("state", .bool state)]).tryCatch fun ex =>
    throw (asCoapException "" ex)

/-- The last element of `text.split("/")`, which drops empty strings at
the end. -/
def lastSegment (text : String) : String :=
  String.ofList ((text.toList.reverse.dropWhile (· = '/')).takeWhile (· ≠ '/')).reverse

/-- `getGateOpening` from the response on. -/
def readOpeningLevel : CoapAnswer → Java F Int
  | .ioError message => throw (.io message)
  | .noResponse => throw (.coapException "Request failed: no response from server")
  | .response r => do
      if r.code.isSuccess then
        let name := lastSegment (asText (← deref (getMember r.payload "n")))
        let unit := asText (← deref (getMember r.payload "u"))
        let value := asInt (← deref (getMember r.payload "v"))
        if name ≠ "opening_level" ∨ unit ≠ "percent" then throw (.coapException "Bad record")
        else pure value
      else throw (.coapException ("Request failed: " ++ codeName r.code))

def getGateOpening (gate : String) : Java F Int :=
  (do
    let uri ← URILookup gate
    readOpeningLevel (← perform (.clientGet uri)) : Java F Int).tryCatch fun ex =>
      throw (asCoapException (gate.toUpper ++ ": ") ex)

/-- `getAlarmStatus` from the response on. -/
def readState : CoapAnswer → Java F Bool
  | .ioError message => throw (.io message)
  | .noResponse => throw (.coapException "Request failed: no response from server")
  | .response r => do
      if r.code.isSuccess then
        let name := lastSegment (asText (← deref (getMember r.payload "n")))
        let value := asBoolean (← deref (getMember r.payload "vb"))
        if name ≠ "state" then throw (.coapException "Bad record")
        else pure value
      else throw (.coapException ("Request failed: " ++ codeName r.code))

def getAlarmStatus (uri : Uri) : Java F Bool :=
  (do readState (← perform (.clientGet uri)) : Java F Bool).tryCatch fun ex =>
    throw (asCoapException "Alarm: " ex)

end CoapManager

end DamMonitoring.Controller
