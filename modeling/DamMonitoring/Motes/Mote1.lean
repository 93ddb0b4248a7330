/-
DamMonitoring.Motes.Mote1 — `demo/mote-1`, which serves two gates from
one pair of handlers.

Both gate resources run the same `res_get_handler` and `res_put_handler`,
which find the gate they are about by the LAST CHARACTER of the URI path
(`res_index`), and print what they answer into buffers of fixed size. As
long as the levels are in range nothing is cut short, and each path
behaves as a device of its own (`Mote1.get_eq`, `Mote1.put_eq`).

  §1 the buffers
  §2 the array of gates
  §3 each gate is a device
-/
import DamMonitoring.Motes.ResourceTheorems
import Mathlib.Logic.Function.Basic

namespace DamMonitoring.Motes

/-! ## §1 Buffers -/

/-- `URN_BUF_LEN`. -/
def urnBufLen : Nat := 31

/-- `BUFFER_LEN`. -/
def bufferLen : Nat := 256

/-- A reply whose payload is `text`, printed into `response_buffer`. What
a client makes of a text that was cut short is left open. -/
def printed (text : String) (r : Response) : Option Response :=
  if text.length < bufferLen then some r else none

/-- `URN` fits its buffer, the terminating NUL included. -/
theorem urn_fits (addr : LinkAddr) : (urn addr).length + 1 ≤ urnBufLen := by
  rw [urn_length]
  decide

namespace ResGate

/-- The text a gate prints for a GET. -/
def getText (addr : LinkAddr) (level : Int) : String :=
  "\x7b\"n\":\"" ++ urn addr ++ "opening_level\", \"v\": " ++ toString level ++
    ", \"u\":\"percent\"\x7d"

/-- The text around a message. -/
def messageText (text : String) : String := "\x7b\"message\": \"" ++ text ++ "\"\x7d"

theorem Accepts.length {level : Int} (h : Accepts level) : (toString level).length ≤ 3 := by
  obtain ⟨hlo, hhi⟩ := h
  obtain ⟨n, rfl⟩ := Int.eq_ofNat_of_zero_le hlo
  have htext : (toString (n : Int)).length = (Nat.toDigits 10 n).length := by
    rw [← String.length_toList]
    simp [Int.toString_eq_repr, Int.repr]
  rw [htext, Nat.length_toDigits_le_iff (by decide) (by decide)]
  omega

/-- The answer to a GET fits. -/
theorem getText_fits (addr : LinkAddr) {level : Int} (h : Accepts level) :
    (getText addr level).length < bufferLen := by
  have hurn := urn_fits addr
  have hlevel := h.length
  simp only [getText, String.length_append, urnBufLen, bufferLen] at *
  have h₁ : "\x7b\"n\":\"".length = 6 := rfl
  have h₂ : "opening_level\", \"v\": ".length = 21 := rfl
  have h₃ : ", \"u\":\"percent\"\x7d".length = 16 := rfl
  omega

/-- The messages of the handler fit. -/
theorem messageText_fits {text : String} (h : text.length ≤ 200) :
    (messageText text).length < bufferLen := by
  simp only [messageText, String.length_append, bufferLen]
  have h₁ : "\x7b\"message\": \"".length = 13 := rfl
  have h₂ : "\"\x7d".length = 2 := rfl
  omega

/-- The message of a reply to a PUT. -/
def messageOf (r : Response) : String :=
  match r.payload with
  | [("message", .str text)] => text
  | _ => ""

theorem messageOf_message (code : ResponseCode) (text : String) :
    messageOf (.message code text) = text := rfl

theorem messageOf_apply_length (g : GateT) (paramLen : Nat) {paramOk newLevel : Int}
    (h : paramOk = 1 → Accepts newLevel) :
    (messageOf (apply g paramLen paramOk newLevel).2).length ≤ 200 := by
  have hset : Accepts newLevel → (levelSet newLevel).length ≤ 200 := by
    intro hacc
    have hlevel := hacc.length
    have hprefix : "Opening level set to ".length = 21 := by decide
    have hpercent : "%".length = 1 := by decide
    unfold levelSet
    rw [String.length_append, String.length_append, hprefix, hpercent]
    omega
  unfold apply
  split
  · rw [missingOpeningLevel, messageOf_message]
    decide
  · split
    · rw [badOpeningLevel, messageOf_message]
      decide
    · next hok =>
      have hacc := h (not_not.mp hok)
      split
      · rw [messageOf_message]
        exact hset hacc
      · rw [messageOf_message]
        exact hset hacc

/-- Every answer to a PUT fits. -/
theorem resPutHandler_fits (overflow : Int → Int) (keyBuf : List Char) (g : GateT)
    (request : Request) :
    (messageText (messageOf (resPutHandler overflow keyBuf g request).2)).length < bufferLen := by
  refine messageText_fits ?_
  rcases resPutHandler_cases overflow keyBuf g request with
    h | h | ⟨paramLen, paramOk, newLevel, hok, h⟩
  · rw [h, missingContentType, messageOf_message]
    decide
  · rw [h, unsupportedContentType, messageOf_message]
    decide
  · rw [h]
    exact messageOf_apply_length g paramLen fun h1 => (hok h1).1

end ResGate

/-! ## §2 The gates -/

/-- The two gates of `mote-1`. -/
inductive Outflow where
  | outflow1 | outflow2
  deriving DecidableEq, Repr

def Outflow.name : Outflow → String
  | .outflow1 => "outflow-1"
  | .outflow2 => "outflow-2"

/-- The path its resource is activated under. -/
def Outflow.path (o : Outflow) : String := "actuator/gate/" ++ o.name

/-- The firmware of `mote-1`, the alarm left out. -/
structure Mote1 where
  linkAddr : LinkAddr
  gates : Fin 2 → ResGate.GateT

/-- At boot. -/
def Mote1.boot (linkAddr : LinkAddr) : Mote1 := ⟨linkAddr, fun _ => ResGate.boot⟩

/-- `res_index`, from the last character of the path. -/
def resIndex (uriPath : String) : Int :=
  match uriPath.toList.getLast? with
  | some c => (c.toNat : Int) - 48 - 1
  | none => -1

/-- `gates[res_index]`, if there is such a gate. -/
def slot (uriPath : String) : Option (Fin 2) :=
  if h : 0 ≤ resIndex uriPath ∧ resIndex uriPath < 2 then
    some ⟨(resIndex uriPath).toNat, by omega⟩
  else none

def Outflow.index : Outflow → Fin 2
  | .outflow1 => 0
  | .outflow2 => 1

theorem slot_path (o : Outflow) : slot o.path = some o.index := by
  cases o <;> decide

namespace Mote1

/-- A GET on a path. -/
def get (uriPath : String) (m : Mote1) : Option Response :=
  (slot uriPath).bind fun i =>
    printed (ResGate.getText m.linkAddr (m.gates i).openingLevel)
      (ResGate.resGetHandler m.linkAddr (m.gates i))

/-- A PUT on a path. -/
def put (uriPath : String) (request : Request) (m : Mote1) : Option (Response × Mote1) :=
  (slot uriPath).bind fun i =>
    let (gate, response) := ResGate.resPutHandler saturate [] (m.gates i) request
    (printed (ResGate.messageText (ResGate.messageOf response)) response).map fun r =>
      (r, { m with gates := Function.update m.gates i gate })

/-! ## §3 Devices -/

/-- A gate of the mote as a device of its own. -/
def device (m : Mote1) (o : Outflow) : Device := ⟨m.linkAddr, .gate (m.gates o.index)⟩

/-- Every level is one a gate accepts. -/
def InRange (m : Mote1) : Prop := ∀ o : Outflow, ResGate.Accepts (m.gates o.index).openingLevel

theorem boot_inRange (linkAddr : LinkAddr) : (boot linkAddr).InRange :=
  fun _ => show ResGate.Accepts 0 by decide

/-- **A GET on the path of a gate** is a GET to its device. -/
theorem get_eq {m : Mote1} (hm : m.InRange) (o : Outflow) :
    m.get o.path = some (m.device o).get := by
  simp only [get, slot_path, Option.bind_some, printed, if_pos (ResGate.getText_fits _ (hm o)),
    device, Device.get]

/-- **A PUT on the path of a gate** is a PUT to its device, and leaves the
other gate alone. -/
theorem put_eq (m : Mote1) (o : Outflow) (request : Request) :
    ∃ m', m.put o.path request = some (((m.device o).put request).2, m') ∧
      m'.device o = ((m.device o).put request).1 ∧
      ∀ o', o' ≠ o → m'.device o' = m.device o' := by
  have hfits := ResGate.resPutHandler_fits saturate [] (m.gates o.index) request
  refine ⟨⟨m.linkAddr, Function.update m.gates o.index
    (ResGate.resPutHandler saturate [] (m.gates o.index) request).1⟩, ?_, ?_, fun o' ho' => ?_⟩
  · simp only [put, slot_path, Option.bind_some, printed, if_pos hfits, Option.map_some, device,
      Device.put, Actuator.put]
  · simp [device, Device.put, Actuator.put]
  · have hindex : o'.index ≠ o.index := by
      cases o <;> cases o' <;> first | exact absurd rfl ho' | decide
    simp [device, Function.update_of_ne hindex]

/-- The opening level of a gate. -/
def level (m : Mote1) (o : Outflow) : Int := (m.gates o.index).openingLevel

theorem level_congr {m m' : Mote1} {o : Outflow} (h : m'.device o = m.device o) :
    m'.level o = m.level o := by
  simp only [device, Device.mk.injEq, Actuator.gate.injEq] at h
  rw [level, h.2, level]

/-- **One request of the Controller**: an acceptable level is obeyed by the
gate that is addressed, and nothing else changes. -/
theorem put_openingLevel (m : Mote1) (o : Outflow) (L : Int) :
    ∃ code text m', m.put o.path (.json (ResGate.openingLevelNode L)) =
        some (.message code text, m') ∧
      code.isSuccess = decide (ResGate.Accepts L) ∧
      ∀ o', m'.level o' = if o' = o ∧ ResGate.Accepts L then L else m.level o' := by
  obtain ⟨m', hput, hself, hother⟩ := m.put_eq o (.json (ResGate.openingLevelNode L))
  have hlevel : ∀ o', o' ≠ o → m'.level o' = m.level o' := fun o' ho' =>
    level_congr (hother o' ho')
  simp only [device, Device.put, Actuator.put, ResGate.resPutHandler_openingLevel,
    Device.mk.injEq, Actuator.gate.injEq] at hput hself
  by_cases hacc : ResGate.Accepts L
  · have hobeys : m'.level o = L := by
      rw [level, hself.2, if_pos hacc]
      split
      · rfl
      · next hsame => exact not_not.mp hsame
    have hlevels : ∀ o', m'.level o' = if o' = o ∧ ResGate.Accepts L then L else m.level o' := by
      intro o'
      by_cases ho' : o' = o
      · rw [if_pos ⟨ho', hacc⟩, ho', hobeys]
      · rw [if_neg fun h => ho' h.1, hlevel o' ho']
    rw [if_pos hacc] at hput
    split at hput
    · exact ⟨_, _, m', hput, by simp [hacc, ResponseCode.isSuccess], hlevels⟩
    · exact ⟨_, _, m', hput, by simp [hacc, ResponseCode.isSuccess], hlevels⟩
  · rw [if_neg hacc] at hput
    refine ⟨_, _, m', hput, by simp [hacc, ResponseCode.isSuccess], fun o' => ?_⟩
    · rw [if_neg fun h => hacc h.2]
      by_cases ho' : o' = o
      · rw [ho', level, hself.2, if_neg hacc, level]
      · exact hlevel o' ho'

end Mote1

end DamMonitoring.Motes
