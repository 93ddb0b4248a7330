/-
DamMonitoring.Motes.Resources — the actuator resources `res-gate.c` and
`res-alarm.c`.

A PUT handler is a function from the state of the addressed actuator and
the request to the new state and the response. Each `return` of the C
handler is one branch; the two tests both handlers share after decoding
(`param_len == 0`, `param_ok != 1`) are `ResGate.apply` and
`ResAlarm.apply`.
-/
import DamMonitoring.Motes.Common

namespace DamMonitoring.Motes

def missingContentType : Response :=
  .message .BAD_REQUEST_4_00 "Missing required option 'content-type'"

def unsupportedContentType : Response :=
  .message .BAD_REQUEST_4_00 "Unsupported content type"

/-! ## §1 res-gate.c -/

namespace ResGate

def blinks : Nat := 5

/-- `struct gate_t`. `timer` is whether the blink timer is armed and
`ledOn` whether the gate's LED is lit. -/
structure GateT where
  openingLevel : Int
  timer : Bool
  blinks : Nat
  ledOn : Bool
  deriving DecidableEq, Repr

/-- A gate at boot: `INIT_OUTGATE`, timer never set. -/
def boot : GateT := ⟨0, false, blinks, false⟩

def missingOpeningLevel : Response :=
  .message .BAD_REQUEST_4_00 "Missing required opening level parameter"

def badOpeningLevel : Response :=
  .message .BAD_REQUEST_4_00 "Opening level must be integer between 0 and 100"

def levelSet (level : Int) : String := "Opening level set to " ++ toString level ++ "%"

/-- The part of `res_put_handler` after decoding. -/
def apply (gate : GateT) (paramLen : Nat) (paramOk newLevel : Int) : GateT × Response :=
  if paramLen = 0 then (gate, missingOpeningLevel)
  else if paramOk ≠ 1 then (gate, badOpeningLevel)
  else if gate.openingLevel ≠ newLevel then
    (⟨newLevel, true, blinks, false⟩,
      .message .CHANGED_2_04 (levelSet newLevel))
  else
    (gate, .message .VALID_2_03 (levelSet newLevel))

/-- `res_put_handler` of a gate; `gate` is `gates[res_index]`. Where the
C code leaves `new_level` unset it is 0 here, and then `apply` answers
before reading it. -/
def resPutHandler (overflow : Int → Int) (keyBuf : List Char) (gate : GateT)
    (request : Request) : GateT × Response :=
  match request.contentFormat with
  | none => (gate, missingContentType)
  | some .textPlain =>
      let (paramLen, param) := request.postVariable "opening_level"
      if 0 < paramLen then
        let newLevel := atoi overflow param
        let paramOk :=
          if (param ≠ ['0'] ∧ newLevel = 0) ∨ newLevel < 0 ∨ 100 < newLevel then 0 else 1
        apply gate paramLen paramOk newLevel
      else apply gate paramLen 0 0
  | some .applicationJson =>
      if 0 < request.payloadLen then
        let (paramOk, value) := getJsonIntField overflow keyBuf "opening_level" request.tokens
        let newLevel := value.getD 0
        if paramOk = -1 then apply gate 0 paramOk newLevel
        else if paramOk ≠ 1 ∨ newLevel < 0 ∨ 100 < newLevel then
          apply gate request.payloadLen 0 newLevel
        else apply gate request.payloadLen paramOk newLevel
      else apply gate request.payloadLen 0 0
  | some .other => (gate, unsupportedContentType)

/-- `res_get_handler` of a gate. -/
def resGetHandler (addr : LinkAddr) (gate : GateT) : Response :=
  ⟨.CONTENT_2_05, [("n", .str (urn addr ++ "opening_level")),
    ("v", .num gate.openingLevel), ("u", .str "percent")]⟩

end ResGate

/-! ## §2 res-alarm.c -/

namespace ResAlarm

/-- `struct alarm_t`. -/
structure AlarmT where
  state : Bool
  timer : Bool
  ledOn : Bool
  deriving DecidableEq, Repr

def boot : AlarmT := ⟨false, false, false⟩

def missingState : Response :=
  .message .BAD_REQUEST_4_00 "Missing required state parameter"

def badState : Response :=
  .message .BAD_REQUEST_4_00 "State must be boolean (true/false)"

/-- `strncmp(param, word, strlen(param)) == 0`: only as many characters
as the parameter has are compared. -/
def prefixOfWord (param : List Char) (word : String) : Bool :=
  strncmpEq param word.toList param.length

/-- The part of `res_put_handler` after decoding. -/
def apply (alarm : AlarmT) (paramLen : Nat) (paramOk : Int) (newState : Bool) :
    AlarmT × Response :=
  if paramLen = 0 then (alarm, missingState)
  else if paramOk ≠ 1 then (alarm, badState)
  else
    let alarm' :=
      if alarm.state ≠ newState then
        if newState then { alarm with state := true, timer := true }
        else ⟨false, false, false⟩
      else alarm
    (alarm', .message .CHANGED_2_04 ("Alarm " ++ if newState then "on" else "off"))

/-- `res_put_handler` of the alarm. -/
def resPutHandler (keyBuf : List Char) (alarm : AlarmT) (request : Request) :
    AlarmT × Response :=
  match request.contentFormat with
  | none => (alarm, missingContentType)
  | some .textPlain =>
      let (paramLen, param) := request.postVariable "state"
      if 0 < paramLen then
        let paramOk := if prefixOfWord param "true" ∨ prefixOfWord param "false" then 1 else 0
        apply alarm paramLen paramOk (prefixOfWord param "true")
      else apply alarm paramLen 0 false
  | some .applicationJson =>
      if 0 < request.payloadLen then
        let (paramOk, value) := getJsonBoolField keyBuf "state" request.tokens
        if paramOk = -1 then apply alarm 0 paramOk (value.getD false)
        else apply alarm request.payloadLen paramOk (value.getD false)
      else apply alarm request.payloadLen 0 false
  | some .other => (alarm, unsupportedContentType)

/-- `res_get_handler` of the alarm. -/
def resGetHandler (addr : LinkAddr) (alarm : AlarmT) : Response :=
  ⟨.CONTENT_2_05, [("n", .str (urn addr ++ "state")), ("vb", .bool alarm.state)]⟩

end ResAlarm

/-! ## §3 The resource behind a URI -/

/-- The actuator a URI addresses. What the stack holds where `key_buf`
is allocated does not matter to a request that names its member first,
so the handlers get an empty `key_buf` here. -/
inductive Actuator where
  | gate (g : ResGate.GateT)
  | alarm (a : ResAlarm.AlarmT)
  deriving DecidableEq, Repr

/-- The server behind a URI: its link address and its actuator. -/
structure Device where
  linkAddr : LinkAddr
  actuator : Actuator

/-- What a reboot does to an actuator. -/
def Actuator.reboot : Actuator → Actuator
  | .gate _ => .gate ResGate.boot
  | .alarm _ => .alarm ResAlarm.boot

/-- The firmware keeps no state across a reboot. -/
def Device.reboot (d : Device) : Device := { d with actuator := d.actuator.reboot }

def Actuator.put (request : Request) : Actuator → Actuator × Response
  | .gate g =>
      let (g', response) := ResGate.resPutHandler saturate [] g request
      (.gate g', response)
  | .alarm a =>
      let (a', response) := ResAlarm.resPutHandler [] a request
      (.alarm a', response)

/-- A PUT served by the device. -/
def Device.put (d : Device) (request : Request) : Device × Response :=
  let (actuator, response) := d.actuator.put request
  ({ d with actuator }, response)

/-- A GET served by the device. -/
def Device.get (d : Device) : Response :=
  match d.actuator with
  | .gate g => ResGate.resGetHandler d.linkAddr g
  | .alarm a => ResAlarm.resGetHandler d.linkAddr a

end DamMonitoring.Motes
