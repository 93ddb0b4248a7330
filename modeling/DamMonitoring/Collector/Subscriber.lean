/-
DamMonitoring.Collector.Subscriber — `Subscriber.messageArrived`: from a
message of the broker to the rows of the database.

Times are milliseconds. The time zone is fixed, without clock changes, so
that the offset that `messageArrived` adds and the one it takes off cancel. `simulate`, which
publishes to the simulator and touches neither the database nor
`lastRecord`, is left out.

  §1 messages, as Jackson decodes them
  §2 the rows, and how storing one can end
  §3 one round of the loop, one message, a run
-/
import DamMonitoring.Persistence.Measurements
import DamMonitoring.Control.Limiter

namespace DamMonitoring.Collector

open Java Persistence Control

variable {F : Type}

/-! ## §1 Messages -/

/-- `Measurement`: every member may be missing. -/
structure Measurement (F : Type) where
  name : Option String
  value : Option F

/-- `SensorRecord`. A list in JSON may hold nulls. -/
structure SensorRecord (F : Type) where
  baseName : Option String
  baseUnit : Option String
  measurements : Option (List (Option (Measurement F)))

/-- What `readValue` makes of the bytes of a message. -/
inductive Payload (F : Type) where
  | malformed (message : String)
  | null
  | record (record : SensorRecord F)

/-- `a + b` for texts in Java, where either may be null. -/
def concat (a b : Option String) : String := a.getD "null" ++ b.getD "null"

/-- What the loop over the measurements can throw. -/
inductive Failure where
  | nullPointerException
  | runtimeException (message : String)
  | persistenceException (message : String)
  deriving DecidableEq, Repr

/-! ## §2 Rows -/

/-- `collector.properties`, and how the driver and the server bring a
time to the whole seconds of the column `timestamp`: what they add before
they cut it off (0 to truncate, 500 to round). -/
structure Settings where
  minPeriod : Int
  rounding : Int

namespace Settings

def period (c : Settings) : Int := 1000 * c.minPeriod

/-- A time as the column holds it. The column holds local time; the zone
has a fixed offset of whole seconds and no clock changes, so that it moves
every time alike and is left out. -/
def datetime (c : Settings) (t : Int) : Int := (t + c.rounding) / 1000 * 1000

end Settings

/-- A row of either table. -/
inductive Row (F : Type) where
  | flowRate (row : FlowRate F)
  | waterLevel (row : WaterLevel F)

namespace Row

def topic : Row F → String
  | .flowRate _ => "flow-rate"
  | .waterLevel _ => "water-level"

def timestamp : Row F → Int
  | .flowRate row => row.timestamp
  | .waterLevel row => row.timestamp

end Row

/-- A row in the database, with what the database does not keep: the two
names of the measurement, the time before it was cut to seconds, and
whether `record` returned. -/
structure Stored (F : Type) where
  row : Row F
  baseName : Option String
  name : Option String
  clock : Int
  committed : Bool

/-- How `record` can end. The tables are MyISAM tables, which do not roll
back: if `commit` fails, the row stays. -/
inductive Save where
  | committed
  | failed (message : String)
  | commitFailed (message : String)

/-- The `Subscriber` and the tables it writes, newest row first. -/
structure Subscriber (F : Type) where
  lastRecord : Limiter String Int
  stored : List (Stored F)
  flowRateId : Int
  waterLevelId : Int

namespace Subscriber

/-- The state after the constructor, over tables that are still empty. -/
def init (flowRateId waterLevelId : Int) : Subscriber F :=
  ⟨Limiter.empty, [], flowRateId, waterLevelId⟩

/-- The table `flowRate`. -/
def flowRate (s : Subscriber F) : List (FlowRate F) :=
  s.stored.filterMap fun x =>
    match x.row with
    | .flowRate row => some row
    | .waterLevel _ => none

/-- The table `waterLevel`. -/
def waterLevel (s : Subscriber F) : List (WaterLevel F) :=
  s.stored.filterMap fun x =>
    match x.row with
    | .flowRate _ => none
    | .waterLevel row => some row

/-- An `INSERT`; the id is taken from the table's `AUTO_INCREMENT`. -/
def insert (x : Stored F) (s : Subscriber F) : Subscriber F :=
  match x.row with
  | .flowRate _ => { s with stored := x :: s.stored, flowRateId := s.flowRateId + 1 }
  | .waterLevel _ => { s with stored := x :: s.stored, waterLevelId := s.waterLevelId + 1 }

@[simp] theorem insert_stored (x : Stored F) (s : Subscriber F) :
    (s.insert x).stored = x :: s.stored := by
  unfold insert
  split <;> rfl

@[simp] theorem insert_lastRecord (x : Stored F) (s : Subscriber F) :
    (s.insert x).lastRecord = s.lastRecord := by
  unfold insert
  split <;> rfl

end Subscriber

/-- `DataManager.record`. -/
def record (save : Save) (x : Stored F) (s : Subscriber F) : Subscriber F × Option Failure :=
  match save with
  | .committed => (s.insert x, none)
  | .failed message => (s, some (.persistenceException message))
  | .commitFailed message =>
      (s.insert { x with committed := false }, some (.persistenceException message))

/-- `recordFlowRate(name, value)`, called at `clock` (`baseName` is for
the record only). The entity it returns keeps the milliseconds. -/
def recordFlowRate (c : Settings) (baseName name : Option String) (value : Option F)
    (clock : Int) (save : Save) (s : Subscriber F) : Subscriber F × Except Failure (FlowRate F) :=
  match name, value with
  | some flowChannel, some value =>
    let flowRate : FlowRate F := ⟨s.flowRateId, flowChannel, clock, value⟩
    let row := Row.flowRate { flowRate with timestamp := c.datetime clock }
    match record save ⟨row, baseName, name, clock, true⟩ s with
    | (s', none) => (s', .ok flowRate)
    | (s', some ex) => (s', .error ex)
  | _, _ => (s, .error (.persistenceException "could not execute statement"))  -- NOT NULL

/-- `recordWaterLevel(value)`, called at `clock`. -/
def recordWaterLevel (c : Settings) (baseName name : Option String) (value : Option F)
    (clock : Int) (save : Save) (s : Subscriber F) : Subscriber F × Option Failure :=
  match value with
  | some value =>
    let row := Row.waterLevel ⟨s.waterLevelId, c.datetime clock, value⟩
    record save ⟨row, baseName, name, clock, true⟩ s
  | none => (s, some (.persistenceException "could not execute statement"))

/-! ## §3 messageArrived -/

/-- What one round of the loop meets: the measurement, the time `new
Date()` tells and the end of `record`, should it come to that. -/
structure Turn (F : Type) where
  measurement : Option (Measurement F)
  clock : Int
  save : Save

/-- A message and what its handling meets: the time `now()` tells, and
for each round the time and the end of `record`. -/
structure Delivery (F : Type) where
  topic : String
  payload : Payload F
  now : Int
  clock : Nat → Int
  save : Nat → Save

namespace Delivery

def minNextTime (c : Settings) (d : Delivery F) : Int := d.now - c.period

def turnsOf (d : Delivery F) (measurements : List (Option (Measurement F))) : List (Turn F) :=
  measurements.mapIdx fun i m => ⟨m, d.clock i, d.save i⟩

end Delivery

/-- The body of the loop. A round that ends normally goes on to the next
one, also where the source says `continue`. -/
def round (c : Settings) (d : Delivery F) (r : SensorRecord F) (turn : Turn F)
    (s : Subscriber F) : Subscriber F × Option Failure :=
  match turn.measurement with
  | none => (s, some .nullPointerException)
  | some ⟨name, value⟩ =>
    if s.lastRecord.holds (d.minNextTime c) (concat r.baseName name) then (s, none)
    else if d.topic = "flow-rate" then
      match r.baseUnit with
      | none => (s, some .nullPointerException)
      | some baseUnit =>
        if baseUnit ≠ "m3/s" then
          (s, some (.runtimeException "Unit of measurement not supported"))
        else
          match recordFlowRate c r.baseName name value turn.clock turn.save s with
          | (s', .ok flowRate) =>
            ({ s' with lastRecord :=
                s'.lastRecord.pass (concat r.baseName name) flowRate.timestamp }, none)
          | (s', .error ex) => (s', some ex)
    else if d.topic = "water-level" then
      match r.baseUnit with
      | none => (s, some .nullPointerException)
      | some baseUnit =>
        if baseUnit ≠ "m" then
          (s, some (.runtimeException "Unit of measurement not supported"))
        else recordWaterLevel c r.baseName name value turn.clock turn.save s
    else (s, some (.runtimeException "Message on unhandled topic"))

/-- The loop: an exception leaves it. -/
def rounds (c : Settings) (d : Delivery F) (r : SensorRecord F) :
    List (Turn F) → Subscriber F → Subscriber F × Option Failure
  | [], s => (s, none)
  | turn :: turns, s =>
    match round c d r turn s with
    | (s', none) => rounds c d r turns s'
    | (s', some ex) => (s', some ex)

/-- `messageArrived`. Every exception ends up in the log, that of
`readValue` and of a missing record or list included. -/
def messageArrived (c : Settings) (d : Delivery F) (s : Subscriber F) : Subscriber F :=
  match d.payload with
  | .record ⟨baseName, baseUnit, some measurements⟩ =>
    (rounds c d ⟨baseName, baseUnit, some measurements⟩ (d.turnsOf measurements) s).1
  | .record ⟨_, _, none⟩ => s
  | .null => s
  | .malformed _ => s

/-- Messages arrive one at a time. -/
def arrive (c : Settings) (run : List (Delivery F)) (s : Subscriber F) : Subscriber F :=
  run.foldl (fun s d => messageArrived c d s) s

end DamMonitoring.Collector
