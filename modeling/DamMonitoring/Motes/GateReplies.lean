/-
DamMonitoring.Motes.GateReplies — what the replies of `mote-1` say about
its gates.

A client that sees 2.04 may rely on it that the gate has moved, one that
sees 2.03 that it was there already, and one that sees 4.00 that nothing
has happened at all, whatever it sent and whatever was sent before
(`replies_truthful`). The blink timers run in between.

  §1 one request
  §2 any sequence of requests
-/
import DamMonitoring.Motes.Mote1
import DamMonitoring.Program.Runs

namespace DamMonitoring.Motes

open Program.Machine

/-! ## §1 One request -/

namespace ResGate

/-- `blink`, the callback of the timer of a gate. -/
def blink (gate : GateT) : GateT :=
  let ledOn := !gate.ledOn
  if 0 < gate.blinks then { gate with ledOn, blinks := gate.blinks - 1, timer := true }
  else { gate with ledOn := false, blinks, timer := false }

@[simp] theorem blink_openingLevel (gate : GateT) :
    (blink gate).openingLevel = gate.openingLevel := by
  unfold blink
  dsimp only
  split <;> rfl

/-- What a gate may make of a request. -/
inductive Outcome (gate : GateT) (parsed : Option Int) : GateT → Response → Prop where
  | rejected (text : String) :
      Outcome gate parsed gate (.message .BAD_REQUEST_4_00 text)
  | changed (level : Int) : parsed = some level → Accepts level → gate.openingLevel ≠ level →
      Outcome gate parsed ⟨level, true, blinks, false⟩ (.message .CHANGED_2_04 (levelSet level))
  | valid (level : Int) : parsed = some level → Accepts level → gate.openingLevel = level →
      Outcome gate parsed gate (.message .VALID_2_03 (levelSet level))

theorem apply_outcome (gate : GateT) (paramLen : Nat) {paramOk newLevel : Int}
    {parsed : Option Int} (h : paramOk = 1 → Accepts newLevel ∧ parsed = some newLevel) :
    Outcome gate parsed (apply gate paramLen paramOk newLevel).1
      (apply gate paramLen paramOk newLevel).2 := by
  unfold apply
  split
  · exact .rejected _
  · split
    · exact .rejected _
    · next hok =>
      obtain ⟨hacc, hparsed⟩ := h (not_not.mp hok)
      split
      · next hmoved => exact .changed newLevel hparsed hacc hmoved
      · next hsame => exact .valid newLevel hparsed hacc (not_not.mp hsame)

theorem resPutHandler_outcome (overflow : Int → Int) (keyBuf : List Char) (gate : GateT)
    (request : Request) :
    Outcome gate (parsedLevel overflow keyBuf request)
      (resPutHandler overflow keyBuf gate request).1
      (resPutHandler overflow keyBuf gate request).2 := by
  rcases resPutHandler_cases overflow keyBuf gate request with
    h | h | ⟨paramLen, paramOk, newLevel, hok, h⟩
  · rw [h]
    exact .rejected _
  · rw [h]
    exact .rejected _
  · rw [h]
    exact apply_outcome gate paramLen hok

end ResGate

namespace Mote1

/-- A PUT on a path, with what the handler finds in `key_buf` and what
`atoi` makes of a number beyond `int`. -/
def serve (uriPath : String) (overflow : Int → Int) (keyBuf : List Char) (request : Request)
    (m : Mote1) : Option (Response × Mote1) :=
  (slot uriPath).bind fun i =>
    let (gate, response) := ResGate.resPutHandler overflow keyBuf (m.gates i) request
    (printed (ResGate.messageText (ResGate.messageOf response)) response).map fun r =>
      (r, { m with gates := Function.update m.gates i gate })

/-- `put` is the case of an empty `key_buf` and an `atoi` that saturates. -/
theorem serve_nil (uriPath : String) (request : Request) (m : Mote1) :
    m.serve uriPath saturate [] request = m.put uriPath request := rfl

/-- What a reply says is what has happened. -/
structure Truthful (m : Mote1) (o : Outflow) (overflow : Int → Int) (keyBuf : List Char)
    (request : Request) (r : Response) (m' : Mote1) : Prop where
  code : r.code = .BAD_REQUEST_4_00 ∨ r.code = .CHANGED_2_04 ∨ r.code = .VALID_2_03
  rejected : r.code = .BAD_REQUEST_4_00 → m' = m
  changed : r.code = .CHANGED_2_04 → m'.level o ≠ m.level o
  valid : r.code = .VALID_2_03 → m'.level o = m.level o
  /-- The level now is the one the request had. -/
  parsed : r.code.isSuccess = true → ResGate.parsedLevel overflow keyBuf request = some (m'.level o)
  other : ∀ o', o' ≠ o → m'.gates o'.index = m.gates o'.index

variable {m m' : Mote1}

theorem index_ne {o o' : Outflow} (h : o' ≠ o) : o'.index ≠ o.index := by
  cases o <;> cases o' <;> first | exact absurd rfl h | decide

/-- The mote with another state of one gate. -/
def setGate (m : Mote1) (o : Outflow) (gate : ResGate.GateT) : Mote1 where
  linkAddr := m.linkAddr
  gates := Function.update m.gates o.index gate

@[simp] theorem setGate_self (m : Mote1) (o : Outflow) : m.setGate o (m.gates o.index) = m := by
  simp [setGate]

@[simp] theorem setGate_level (m : Mote1) (o : Outflow) (gate : ResGate.GateT) :
    (m.setGate o gate).level o = gate.openingLevel := by
  simp [setGate, level]

theorem setGate_other (m : Mote1) (gate : ResGate.GateT) {o o' : Outflow} (h : o' ≠ o) :
    (m.setGate o gate).gates o'.index = m.gates o'.index := by
  simp [setGate, Function.update_of_ne (index_ne h)]

theorem InRange.setGate {o : Outflow} {gate : ResGate.GateT} (h : m.InRange)
    (hacc : ResGate.Accepts gate.openingLevel) : (m.setGate o gate).InRange := by
  intro o'
  by_cases ho' : o' = o
  · subst ho'
    simpa [Mote1.setGate] using hacc
  · rw [setGate_other m gate ho']
    exact h o'

/-- A request to a gate is answered by its handler. -/
theorem serve_eq (m : Mote1) (o : Outflow) (overflow : Int → Int) (keyBuf : List Char)
    (request : Request) :
    m.serve o.path overflow keyBuf request =
      some ((ResGate.resPutHandler overflow keyBuf (m.gates o.index) request).2,
        m.setGate o (ResGate.resPutHandler overflow keyBuf (m.gates o.index) request).1) := by
  have hfits := ResGate.resPutHandler_fits overflow keyBuf (m.gates o.index) request
  simp only [serve, slot_path, Option.bind_some, printed, if_pos hfits, Option.map_some, setGate]

/-- **A reply is truthful** by what the gate makes of the request. -/
theorem truthful_of_outcome {o : Outflow} {overflow : Int → Int} {keyBuf : List Char}
    {request : Request} {gate : ResGate.GateT} {r : Response}
    (h : ResGate.Outcome (m.gates o.index) (ResGate.parsedLevel overflow keyBuf request) gate r) :
    Truthful m o overflow keyBuf request r (m.setGate o gate) := by
  cases h with
  | rejected text =>
    exact ⟨by simp [Response.message], by simp, by simp [Response.message], by simp,
      by simp [Response.message, ResponseCode.isSuccess], fun o' ho' => setGate_other m _ ho'⟩
  | changed newLevel hparsed hacc hmoved =>
    have hmoved' : ¬newLevel = m.level o := fun h => hmoved h.symm
    exact ⟨by simp [Response.message], by simp [Response.message], by simp [hmoved'],
      by simp [Response.message], by simp [hparsed], fun o' ho' => setGate_other m _ ho'⟩
  | valid newLevel hparsed hacc hsame =>
    exact ⟨by simp [Response.message], by simp, by simp [Response.message], by simp,
      by simp [hparsed, ← hsame, level], fun o' ho' => setGate_other m _ ho'⟩

theorem serve_truthful (m : Mote1) (o : Outflow) (overflow : Int → Int) (keyBuf : List Char)
    (request : Request) :
    ∃ r m', m.serve o.path overflow keyBuf request = some (r, m') ∧
      Truthful m o overflow keyBuf request r m' :=
  ⟨_, _, m.serve_eq o overflow keyBuf request,
    truthful_of_outcome (ResGate.resPutHandler_outcome overflow keyBuf (m.gates o.index) request)⟩

/-! ## §2 Sequences -/

/-- What may happen to the gates. -/
inductive GateEvent where
  | put (o : Outflow) (overflow : Int → Int) (keyBuf : List Char) (request : Request)
  | blink (o : Outflow)

/-- A timer runs out only if it was set. -/
def step (m : Mote1) : GateEvent → Option Mote1
  | .put o overflow keyBuf request => (m.serve o.path overflow keyBuf request).map Prod.snd
  | .blink o =>
    if (m.gates o.index).timer then some (m.setGate o (ResGate.blink (m.gates o.index))) else none

/-- A request gets a truthful reply, and a timer moves no gate. -/
def Honest (m : Mote1) : GateEvent → Prop
  | .put o overflow keyBuf request =>
    ∃ r m', m.serve o.path overflow keyBuf request = some (r, m') ∧
      Truthful m o overflow keyBuf request r m'
  | .blink o => ∀ m', m.step (.blink o) = some m' → ∀ o', m'.level o' = m.level o'

theorem step_blink {o : Outflow} (h : m.step (.blink o) = some m') :
    m' = m.setGate o (ResGate.blink (m.gates o.index)) := by
  simp only [step] at h
  split at h
  · exact (Option.some.inj h).symm
  · cases h

theorem honest (m : Mote1) (e : GateEvent) : m.Honest e := by
  cases e with
  | put o overflow keyBuf request => exact m.serve_truthful o overflow keyBuf request
  | blink o =>
    intro m' hstep o'
    rw [step_blink hstep]
    by_cases ho' : o' = o
    · subst ho'
      rw [setGate_level, ResGate.blink_openingLevel, level]
    · rw [level, setGate_other m _ ho', level]

theorem InRange.step {e : GateEvent} (h : m.InRange) (hstep : m.step e = some m') :
    m'.InRange := by
  cases e with
  | put o overflow keyBuf request =>
    obtain rfl : _ = m' := by simpa only [Mote1.step, serve_eq, Option.map_some,
      Option.some.injEq] using hstep
    exact h.setGate (ResGate.resPutHandler_accepts overflow keyBuf (h o) request)
  | blink o =>
    rw [step_blink hstep]
    exact h.setGate (by simpa using h o)

/-- **Replies are truthful and errors are atomic**, over any sequence of
requests to both gates: each is answered, its reply says what it did to
the gate it was about, and both levels are always in range. -/
theorem replies_truthful (linkAddr : LinkAddr) (es : List GateEvent) :
    Each step Honest (boot linkAddr) es ∧ Always step InRange (boot linkAddr) es :=
  ⟨each_of_forall honest _ es,
    always_invariant (fun _ _ _ h hstep => h.step hstep) (boot_inRange linkAddr)⟩

end Mote1

end DamMonitoring.Motes
