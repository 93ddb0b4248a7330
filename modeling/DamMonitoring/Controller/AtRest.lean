/-
DamMonitoring.Controller.AtRest — registry and device of a gate that both
threads move.

A thread that moves a gate sends the level, waits for the answer, then
records the level. One thread alone leaves registry and device in
agreement. The two threads share no lock, and a Mode command may come
between the test of the mode and the PUT of a cycle, so both sequences
can be under way for one gate. `gates_agree_at_rest`: where that has left
registry and device apart, the last accepted PUT and the last update are
of different threads. `crossed_updates` is such a run.

  §1 what the log says about a gate
  §2 registry and device are what the log says
  §3 one thread: the last level it got accepted is the last it recorded
  §4 every reachable state
-/
import DamMonitoring.Controller.Demo

namespace DamMonitoring.Controller

open Program Java Motes Persistence
open ControlLogic AutomaticControlUnit

variable {F : Type}

/-! ## §1 The log of a gate -/

def Entry.thread : Entry F → Thread
  | .started t => t
  | .did t _ _ => t

/-- The opening level a payload asks for. -/
def openingLevel? (payload : ObjectNode) : Option Int :=
  match CoapManager.getMember payload "opening_level" with
  | some (.num L) => some L
  | _ => none

/-- The level a PUT has set at the gate `r`, if the gate has accepted it,
and the thread that sent it. -/
def Entry.putTo? (r : Resource) : Entry F → Option (Thread × Int)
  | .did t (.clientPut uri payload) (.response answer) =>
      if uri = r.uri ∧ answer.code.isSuccess then (openingLevel? payload).map (t, ·) else none
  | _ => none

/-- The value an update has given to the row of `r`, and the thread that
made it. -/
def Entry.writeTo? (r : Resource) : Entry F → Option (Thread × Int)
  | .did t (.updateValue name v) (.ok _) => if fold name = fold r.name then some (t, v) else none
  | _ => none

/-- The last accepted PUT to the gate `r`. -/
def lastPut (r : Resource) (log : List (Entry F)) : Option (Thread × Int) :=
  log.findSome? (Entry.putTo? r)

/-- The last update of the row of `r`. -/
def lastWrite (r : Resource) (log : List (Entry F)) : Option (Thread × Int) :=
  log.findSome? (Entry.writeTo? r)

variable {r : Resource} {log : List (Entry F)} {e : Entry F}

theorem signed_putTo (r : Resource) : Signed Entry.thread (Entry.putTo? (F := F) r) := by
  intro e t v h
  unfold Entry.putTo? at h
  split at h
  · split at h
    · obtain ⟨L, -, heq⟩ := Option.map_eq_some_iff.mp h
      cases heq
      rfl
    · cases h
  · cases h

theorem signed_writeTo (r : Resource) : Signed Entry.thread (Entry.writeTo? (F := F) r) := by
  intro e t v h
  unfold Entry.writeTo? at h
  split at h
  · split at h
    · cases h
      rfl
    · cases h
  · cases h

theorem lastPut_cons_of_none (h : e.putTo? r = none) : lastPut r (e :: log) = lastPut r log := by
  simp [lastPut, h]

theorem lastPut_cons_of_some {hit : Thread × Int} (h : e.putTo? r = some hit) :
    lastPut r (e :: log) = some hit := by
  simp [lastPut, h]

theorem lastWrite_cons_of_none (h : e.writeTo? r = none) :
    lastWrite r (e :: log) = lastWrite r log := by
  simp [lastWrite, h]

theorem lastWrite_cons_of_some {hit : Thread × Int} (h : e.writeTo? r = some hit) :
    lastWrite r (e :: log) = some hit := by
  simp [lastWrite, h]

theorem openingLevel_stateNode (b : Bool) : openingLevel? (ResAlarm.stateNode b) = none := rfl

/-- An answered PUT of a level. -/
theorem putTo_openingLevel {t : Thread} {L : Int} (uri : Uri) (answer : Response) :
    (Entry.did t (.clientPut uri (ResGate.openingLevelNode L)) (.response answer) :
      Entry F).putTo? r =
        if uri = r.uri ∧ answer.code.isSuccess then some (t, L) else none := rfl

/-- A PUT of an alarm state sets no level, whatever its answer. -/
theorem putTo_state {t : Thread} {uri : Uri} {b : Bool} {answer : CoapAnswer} :
    (Entry.did t (.clientPut uri (ResAlarm.stateNode b)) answer : Entry F).putTo? r = none := by
  cases answer with
  | response answer => simp [Entry.putTo?, openingLevel_stateNode]
  | noResponse => rfl
  | ioError message => rfl

/-- A silent action sets no level. -/
theorem putTo_of_silent {t : Thread} {a : Action F} (ha : a.isSilent = true) (answer : a.Answer) :
    (Entry.did t a answer).putTo? r = none := by
  cases a with
  | clientPut => cases ha
  | _ => rfl

/-- The action `a` is an update of the row of `r`. -/
def Writes (r : Resource) (a : Action F) : Prop :=
  ∃ name v, a = .updateValue name v ∧ fold name = fold r.name

theorem writeTo_of_not_writes {a : Action F} (ha : ¬Writes r a) (t : Thread) (answer : a.Answer) :
    (Entry.did t a answer).writeTo? r = none := by
  cases a with
  | updateValue name v =>
    have hname : fold name ≠ fold r.name := fun h => ha ⟨name, v, rfl, h⟩
    cases answer with
    | ok u => exact if_neg hname
    | error message => rfl
  | _ => rfl

theorem not_writes_of_silent {a : Action F} (ha : a.isSilent = true) : ¬Writes r a := by
  intro h
  obtain ⟨name, v, rfl, -⟩ := h
  cases ha

/-! ## §2 Registry and device -/

/-- The level after the last of some settings, from `c`. -/
def levelAfter (c : Int) (last : Option (Thread × Int)) : Int := (last.map Prod.snd).getD c

/-- The gate `r` has kept its name and URI, no alarm has its name, and its
device and its row hold what was set last, `c` at first. -/
structure Tracked (r : Resource) (c : Int) (s : State F) : Prop where
  uri : ∀ name, s.world.resources.uri name = some r.uri ↔ fold name = fold r.name
  alarms : ∀ a ∈ s.world.resources.alarms, fold a.name ≠ fold r.name
  level : s.world.level r.uri = some (levelAfter c (lastPut r s.log))
  value : s.world.resources.value r.name = some (levelAfter c (lastWrite r s.log))

/-- The actions the Controller performs: a PUT carries an opening level or
an alarm state. -/
def Speaks : Action F → Prop
  | .clientPut _ payload =>
      (∃ L, payload = ResGate.openingLevelNode L) ∨ ∃ b, payload = ResAlarm.stateNode b
  | _ => True

/-- No message is lost and no update fails. -/
def Reliably : Fault → Action F → Prop
  | fault, .clientPut _ _ => fault = .none
  | fault, .updateValue _ _ => ∀ message, fault ≠ .failed message
  | _, _ => True

theorem reliably_none (a : Action F) : Reliably .none a := by
  cases a <;> simp [Reliably]

variable {c : Int} {s : State F} {t : Thread}

/-- The registry has not changed, and the level is that of the log. -/
theorem Tracked.of_level (h : Tracked r c s) {w' : World F} {log' : List (Entry F)}
    (hresources : w'.resources = s.world.resources)
    (hwrite : lastWrite r log' = lastWrite r s.log)
    (hlevel : w'.level r.uri = some (levelAfter c (lastPut r log'))) : Tracked r c ⟨w', log'⟩ where
  uri name := by
    rw [hresources]
    exact h.uri name
  alarms a ha := by
    rw [hresources] at ha
    exact h.alarms a ha
  level := hlevel
  value := by
    rw [hresources, hwrite]
    exact h.value

/-- What leaves the gate alone. -/
theorem Tracked.cons (h : Tracked r c s) {w' : World F}
    (hresources : w'.resources = s.world.resources)
    (hlevel : w'.level r.uri = s.world.level r.uri) (hput : e.putTo? r = none)
    (hwrite : e.writeTo? r = none) : Tracked r c ⟨w', e :: s.log⟩ := by
  refine h.of_level hresources (lastWrite_cons_of_none hwrite) ?_
  rw [hlevel, lastPut_cons_of_none hput]
  exact h.level

/-- A committed update, of this row or of another. -/
theorem Tracked.write (h : Tracked r c s) (t : Thread) (name : String) (v : Int) :
    Tracked r c ⟨s.world.setValue name v, .did t (.updateValue name v) (.ok ()) :: s.log⟩ where
  uri name' := by
    rw [← h.uri name']
    simp [World.setValue]
  alarms a ha := by
    have ha : a ∈ (s.world.resources.setValue name v).alarms := ha
    unfold ResourceTable.alarms at ha
    rw [ResourceTable.ofType_setValue] at ha
    obtain ⟨a₀, ha₀, rfl⟩ := List.mem_map.mp ha
    rw [ResourceTable.updateRow_name]
    exact h.alarms a₀ ha₀
  level := by
    rw [lastPut_cons_of_none rfl]
    exact h.level
  value := by
    change (s.world.resources.setValue name v).value r.name = _
    by_cases hname : fold name = fold r.name
    · have hhit : (.did t (.updateValue name v) (.ok ()) : Entry F).writeTo? r = some (t, v) :=
        if_pos hname
      have huri := (h.uri name).mpr hname
      rw [ResourceTable.value_setValue_self huri hname.symm v, lastWrite_cons_of_some hhit]
      rfl
    · have hmiss : (.did t (.updateValue name v) (.ok ()) : Entry F).writeTo? r = none :=
        if_neg hname
      rw [ResourceTable.value_setValue_of_ne _ (fun heq => hname heq.symm) v,
        lastWrite_cons_of_none hmiss]
      exact h.value

/-- An answered PUT of a level to the gate itself: it obeys a level it
accepts and answers with success, it refuses any other. -/
theorem Tracked.answered (h : Tracked r c s) (t : Thread) {L : Int} {code : ResponseCode}
    {text : String}
    (hreply : (s.world.serve r.uri (ResGate.openingLevelNode L)).1 = some (.message code text)) :
    Tracked r c ⟨(s.world.serve r.uri (ResGate.openingLevelNode L)).2,
      .did t (.clientPut r.uri (ResGate.openingLevelNode L)) (.response (.message code text)) ::
        s.log⟩ := by
  have hsuccess : code.isSuccess = decide (ResGate.Accepts L) := by
    obtain ⟨text', code', hreply', hsuccess⟩ := World.serve_openingLevel h.level L
    rw [hreply'] at hreply
    cases hreply
    exact hsuccess
  have hentry : (.did t (.clientPut r.uri (ResGate.openingLevelNode L))
      (.response (.message code text)) : Entry F).putTo? r =
        if ResGate.Accepts L then some (t, L) else none := by
    rw [putTo_openingLevel]
    simp [Response.message, hsuccess]
  have hlevel := World.level_serve_self h.level L
  by_cases hacc : ResGate.Accepts L
  · rw [if_pos hacc] at hentry hlevel
    refine h.of_level s.world.serve_resources (lastWrite_cons_of_none rfl) ?_
    rw [lastPut_cons_of_some hentry]
    exact hlevel
  · rw [if_neg hacc] at hentry hlevel
    exact h.cons s.world.serve_resources (hlevel.trans h.level.symm) hentry rfl

variable [JavaFloat F]

/-- A PUT: this gate obeys an opening level it accepts, and nothing else
moves it. -/
theorem Tracked.put (h : Tracked r c s) (t : Thread) {uri : Uri} {payload : ObjectNode}
    (hpayload : Speaks (F := F) (.clientPut uri payload)) :
    Tracked r c (handler t .none (.clientPut uri payload) s).2 := by
  simp only [handler, World.perform]
  rcases s.world.clientPut_cases uri payload with ⟨-, hput⟩ | ⟨code, text, hreply, hput⟩
  · rw [hput]
    exact h.cons rfl rfl rfl rfl
  · rw [hput]
    by_cases huri : uri = r.uri
    · rcases hpayload with ⟨L, rfl⟩ | ⟨b, rfl⟩
      · subst huri
        exact h.answered t hreply
      · refine h.cons s.world.serve_resources ?_ putTo_state rfl
        rw [huri, World.level_serve_state h.level b, h.level]
    · refine h.cons s.world.serve_resources (s.world.level_serve_of_ne (Ne.symm huri)) ?_ rfl
      exact if_neg fun hboth => huri hboth.1

/-- **Every action of a reliable run keeps registry and device at what the
log says.** -/
theorem Tracked.act (h : Tracked r c s) {a : Action F} (ha : Speaks a) {fault : Fault}
    (hfault : Reliably fault a) (t : Thread) : Tracked r c (handler t fault a s).2 := by
  cases a with
  | clientPut uri payload =>
    cases hfault
    exact h.put t ha
  | updateValue name v =>
    cases fault with
    | failed message => exact absurd rfl (hfault message)
    | _ => exact h.write t name v
  | _ => exact h.cons rfl rfl rfl rfl

/-! ## §3 One thread -/

/-- The last level `t` has got the gate `r` to accept is the last it has
recorded. -/
def Balanced (r : Resource) (t : Thread) (s : State F) : Prop :=
  (lastPut r (own Entry.thread t s.log)).map Prod.snd =
    (lastWrite r (own Entry.thread t s.log)).map Prod.snd

omit [JavaFloat F] in
theorem Balanced.of_own {s' : State F} (h : Balanced r t s)
    (hown : own Entry.thread t s'.log = own Entry.thread t s.log) : Balanced r t s' := by
  unfold Balanced
  rw [hown]
  exact h

omit [JavaFloat F] in
/-- One more entry of the thread, about something else. -/
theorem Balanced.cons (h : Balanced r t s) {w' : World F} (ht : e.thread = t)
    (hput : e.putTo? r = none) (hwrite : e.writeTo? r = none) :
    Balanced r t ⟨w', e :: s.log⟩ := by
  unfold Balanced
  rw [own_cons_self ht, lastPut_cons_of_none hput, lastWrite_cons_of_none hwrite]
  exact h

/-- The level `L` has been accepted by the device of that name, and is not
recorded yet. -/
def Pending (r : Resource) (t : Thread) (name : String) (L : Int) (s : State F) : Prop :=
  if fold name = fold r.name then
    (lastPut r (own Entry.thread t s.log)).map Prod.snd = some L
  else Balanced r t s

omit [JavaFloat F] in
theorem Pending.of_own {name : String} {L : Int} {s' : State F} (h : Pending r t name L s)
    (hown : own Entry.thread t s'.log = own Entry.thread t s.log) : Pending r t name L s' := by
  unfold Pending Balanced at h ⊢
  rw [hown]
  exact h

omit [JavaFloat F] in
/-- The gate accepts `L`. -/
theorem pending_of_put {name : String} {L : Int} {w' : World F} (hname : fold name = fold r.name)
    (ht : e.thread = t) (hput : e.putTo? r = some (t, L)) :
    Pending r t name L ⟨w', e :: s.log⟩ := by
  unfold Pending
  rw [if_pos hname, own_cons_self ht, lastPut_cons_of_some hput]
  rfl

omit [JavaFloat F] in
/-- The row gets `L`. -/
theorem Pending.write {name : String} {L : Int} {w' : World F} (h : Pending r t name L s)
    (hname : fold name = fold r.name) (ht : e.thread = t) (hput : e.putTo? r = none)
    (hwrite : e.writeTo? r = some (t, L)) : Balanced r t ⟨w', e :: s.log⟩ := by
  unfold Pending at h
  rw [if_pos hname] at h
  unfold Balanced
  rw [own_cons_self ht, lastPut_cons_of_none hput, lastWrite_cons_of_some hwrite, h]
  rfl

/-- The terms of thread `t`: between its actions the others leave its own
log alone; it is balanced whenever it is not about to write the row. -/
def restContract (r : Resource) (c : Int) (t : Thread) :
    Contract (Action F) Action.Answer Fault (State F) where
  handler := handler t
  allowed := fun fault a _ => Reliably fault a
  rely := fun s s' => Tracked r c s' ∧ own Entry.thread t s'.log = own Entry.thread t s.log
  guar := fun _ a s => Speaks a ∧ (¬Writes r a → Balanced r t s)

open Contract

theorem rest_act {a : Action F} (hspeaks : Speaks a) (hwrites : ¬Writes r a)
    (hput : ∀ answer, (Entry.did t a answer).putTo? r = none) :
    (restContract r c t).Keeps (ε := JException) (Balanced r t) (perform a) := by
  intro s hs s' ⟨_, hown⟩ fault _
  have hs' := hs.of_own hown
  exact ⟨⟨hspeaks, fun _ => hs'⟩,
    hs'.cons rfl (hput _) (writeTo_of_not_writes hwrites t _)⟩

theorem rest_silent : Silent (F := F) (restContract r c t) (Balanced r t) := by
  intro a ha
  refine rest_act ?_ (not_writes_of_silent ha) (putTo_of_silent ha)
  cases a with
  | clientPut => cases ha
  | _ => trivial

/-- The URI found under a name is that of the gate `r` if and only if the
name is. -/
theorem rest_URILookup (name : String) {s : State F} (hs : Balanced r t s) :
    (restContract r c t).Safe (CoapManager.URILookup name : Java F Uri)
      (fun out s' => Balanced r t s' ∧
        ∀ uri, out = .ok uri → (uri = r.uri ↔ fold name = fold r.name)) s := by
  intro s' ⟨htracked, hown⟩ fault _
  have hs' := hs.of_own hown
  refine ⟨⟨trivial, fun _ => hs'⟩, ?_⟩
  have hcons : ∀ answer, Balanced r t
      (⟨s'.world, .did t (.getResource name) answer :: s'.log⟩ : State F) := by
    intro answer
    exact hs'.cons rfl rfl rfl
  simp only [restContract, handler, World.perform]
  rcases fault.query_cases (s'.world.resources.get name) with hquery | ⟨message, hquery⟩
  · rw [hquery]
    cases hget : s'.world.resources.get name with
    | none =>
      refine ⟨hcons _, ?_⟩
      intro uri h
      cases h
    | some row =>
      refine ⟨hcons _, ?_⟩
      intro uri h
      have huri : row.uri = uri := Except.ok.inj h
      subst huri
      rw [← htracked.uri name]
      simp [ResourceTable.uri, hget]
  · rw [hquery]
    refine ⟨hcons _, ?_⟩
    intro uri h
    cases h

/-- How a request that has reached its device ends: accepted and pending,
or refused and without effect on the balance. -/
theorem rest_readPutAnswer {name : String} {uri : Uri}
    (huri : uri = r.uri ↔ fold name = fold r.name) (L : Int) {s : State F} (hs : Balanced r t s) :
    (restContract r c t).Safe
      (CoapManager.readPutAnswer
        (handler t .none (.clientPut uri (ResGate.openingLevelNode L)) s).1 : Java F String)
      (fun out s' => match out with
        | .ok _ => Pending r t name L s'
        | .error _ => Balanced r t s')
      (handler t .none (.clientPut uri (ResGate.openingLevelNode L)) s).2 := by
  simp only [handler, World.perform]
  rcases s.world.clientPut_cases uri (ResGate.openingLevelNode L) with
    ⟨-, hput⟩ | ⟨code, text, -, hput⟩
  · rw [hput]
    exact hs.cons rfl rfl rfl
  · rw [hput, CoapManager.readPutAnswer_message]
    have hentry := putTo_openingLevel (F := F) (r := r) (t := t) (L := L) uri
      (.message code text)
    by_cases hcode : code.isSuccess = true
    · rw [if_pos hcode]
      change Pending r t name L _
      by_cases hname : fold name = fold r.name
      · rw [if_pos ⟨huri.mpr hname, hcode⟩] at hentry
        exact pending_of_put hname rfl hentry
      · rw [if_neg fun hboth => hname (huri.mp hboth.1)] at hentry
        rw [Pending, if_neg hname]
        exact hs.cons rfl hentry rfl
    · rw [if_neg fun hboth => hcode hboth.2] at hentry
      rw [if_neg hcode]
      exact hs.cons rfl hentry rfl

/-- A level that `setGateOpening` gets through is pending; otherwise the
thread is as balanced as before. -/
theorem rest_setGateOpening (name : String) (L : Int) {s : State F} (hs : Balanced r t s) :
    (restContract r c t).Safe (CoapManager.setGateOpening name L : Java F String)
      (fun out s' => match out with
        | .ok _ => Pending r t name L s'
        | .error _ => Balanced r t s') s := by
  have hrequest : (restContract r c t).Safe
      (CoapManager.coapPutRequest name (ResGate.openingLevelNode L) : Java F String)
      (fun out s' => match out with
        | .ok _ => Pending r t name L s'
        | .error _ => Balanced r t s') s := by
    unfold CoapManager.coapPutRequest
    rw [safe_bind]
    refine (rest_URILookup name hs).mono fun out s₁ hout => ?_
    cases out with
    | error ex => exact hout.1
    | ok uri =>
      obtain ⟨hs₁, huri⟩ := hout
      have huri := huri uri rfl
      intro s₂ ⟨_, hown⟩ fault hfault
      have hs₂ := hs₁.of_own hown
      refine ⟨⟨Or.inl ⟨L, rfl⟩, fun _ => hs₂⟩, ?_⟩
      cases hfault
      exact rest_readPutAnswer huri L hs₂
  unfold CoapManager.setGateOpening
  rw [safe_tryCatch]
  refine hrequest.mono fun out s' h => ?_
  cases out with
  | ok text => exact h
  | error ex => exact h

/-- Recording a pending level restores the balance. -/
theorem rest_setResourceValue (name : String) (L : Int) {s : State F}
    (hs : Pending r t name L s) :
    (restContract r c t).Safe (DataManager.setResourceValue name L : Java F Unit)
      (fun _ => Balanced r t) s := by
  intro s' ⟨_, hown⟩ fault hfault
  have hs' := hs.of_own hown
  have hsession : handler t fault (.updateValue name L) s' =
      (.ok (), ⟨s'.world.setValue name L, .did t (.updateValue name L) (.ok ()) :: s'.log⟩) := by
    cases fault with
    | failed message => exact absurd rfl (hfault message)
    | _ => rfl
  by_cases hname : fold name = fold r.name
  · refine ⟨⟨trivial, fun hwrites => absurd ⟨name, L, rfl, hname⟩ hwrites⟩, ?_⟩
    simp only [restContract]
    rw [hsession]
    exact hs'.write hname rfl rfl (if_pos hname)
  · have hbalanced : Balanced r t s' := by
      unfold Pending at hs'
      rw [if_neg hname] at hs'
      exact hs'
    refine ⟨⟨trivial, fun _ => hbalanced⟩, ?_⟩
    simp only [restContract]
    rw [hsession]
    exact hbalanced.cons rfl rfl (if_neg hname)

/-- **Moving a gate**: what is accepted is recorded. -/
theorem rest_updateGate (name : String) (next : Int → Option Int) :
    (restContract r c t).Keeps (Balanced r t) (updateGate name next : Java F Unit) := by
  unfold updateGate
  refine (keeps_getResourceValue rest_silent name).bind fun value =>
    (keeps_deref value).bind fun level => ?_
  cases next level with
  | none => exact keeps_pure ()
  | some L =>
    intro s hs
    dsimp only
    rw [safe_bind]
    refine (rest_setGateOpening name L hs).mono fun out s₁ hout => ?_
    cases out with
    | error ex => exact hout
    | ok text =>
      dsimp only
      rw [safe_bind]
      refine (rest_setResourceValue name L hout).mono fun out s₂ hs₂ => ?_
      cases out with
      | error ex => exact hs₂
      | ok u => exact keeps_simulate rest_silent name L s₂ hs₂

/-- The alarms' part of a cycle writes other rows. -/
theorem rest_setAlarmStatus (status : Bool) :
    (restContract r c t).Keeps (Balanced r t)
      (ControlLogic.setAlarmStatus status : Java F Unit) := by
  have hround : ∀ alarm : Resource, fold alarm.name ≠ fold r.name →
      (restContract r c t).Keeps (Balanced r t) (updateAlarm status alarm : Java F Unit) := by
    intro alarm hname
    refine keeps_updateAlarm rest_silent status alarm (fun uri => ?_) ?_
    · refine rest_act (Or.inr ⟨status, rfl⟩) ?_ fun _ => putTo_state
      intro h
      obtain ⟨name, v, heq, -⟩ := h
      cases heq
    · refine rest_act trivial ?_ fun _ => rfl
      intro h
      obtain ⟨name, v, heq, hfold⟩ := h
      cases heq
      exact hname hfold
  intro s hs s' ⟨htracked, hown⟩ fault _
  have hs' := hs.of_own hown
  refine ⟨⟨trivial, fun _ => hs'⟩, ?_⟩
  simp only [restContract, handler, World.perform]
  rcases fault.query_cases (s'.world.resources.ofType "alarm") with hquery | ⟨message, hquery⟩
  · rw [hquery]
    have hloop : (restContract r c t).Keeps (Balanced r t)
        (Prog.forEach s'.world.resources.alarms (updateAlarm status) : Java F Unit) :=
      Keeps.forEach fun alarm hmem => hround alarm (htracked.alarms alarm hmem)
    exact hloop _ (hs'.cons rfl rfl rfl)
  · rw [hquery]
    exact hs'.cons rfl rfl rfl

theorem rest_run (maxStale : Int) : (restContract r c .scheduler).Keeps (Balanced r .scheduler)
    (AutomaticControlUnit.run maxStale : Java F Unit) :=
  keeps_run rest_silent maxStale fun w i o =>
    keeps_actuate rest_silent w i o rest_setAlarmStatus fun name next _ =>
      rest_updateGate name next

theorem rest_command {p : Java F Unit} (hp : Command p) :
    (restContract r c .shell).Keeps (Balanced r .shell) p := by
  cases hp with
  | gate list gateName openingLevel =>
    refine keeps_gateCall rest_silent list gateName openingLevel fun name L => ?_
    refine keeps_query rest_silent rfl _ fun mode => ?_
    split
    · exact keeps_throw _
    · exact rest_updateGate name (setNext L)
  | mode mode =>
    refine keeps_modeCall rest_silent mode fun m => rest_act trivial ?_ fun _ => rfl
    intro h
    obtain ⟨name, v, heq, -⟩ := h
    cases heq
  | threshold threshold value =>
    refine keeps_thresholdCall rest_silent threshold value fun name v =>
      rest_act trivial ?_ fun _ => rfl
    intro h
    obtain ⟨name', v', heq, -⟩ := h
    cases heq

/-! ## §4 Reachable states -/

/-- The contracts fit together. -/
theorem rest_sound (r : Resource) (c : Int) (maxStale : Int) :
    (system (F := F) maxStale Reliably Measures).Sound (Tracked r c) (Balanced r)
      (restContract r c) where
  handler _ := rfl
  allowed _ := rfl
  refl _ _ h := ⟨h, rfl⟩
  trans := by
    rintro t s₁ s₂ s₃ ⟨-, h₁₂⟩ ⟨htracked, h₂₃⟩
    exact ⟨htracked, h₂₃.trans h₁₂⟩
  idle_stable := by
    rintro t s s' ⟨-, hown⟩ hs
    exact hs.of_own hown
  act_inv t _ _ _ hfault h hguar := h.act hguar.1 hfault t
  act_rely t _ _ _ _ hne hfault h hguar :=
    ⟨h.act hguar.1 hfault t, own_cons_of_ne fun heq => hne heq.symm⟩
  start_inv _ _ h := h.cons rfl rfl rfl rfl
  start_rely _ _ _ hne h :=
    ⟨h.cons rfl rfl rfl rfl, own_cons_of_ne fun heq => hne heq.symm⟩
  start_safe t p s hp _ hs := by
    have hstart : Balanced r t (⟨s.world, .started t :: s.log⟩ : State F) := hs.cons rfl rfl rfl
    cases t with
    | scheduler =>
      obtain rfl := hp
      exact rest_run maxStale _ hstart
    | shell => exact rest_command hp _ hstart
  env_inv := by
    rintro s ⟨world, log⟩ ⟨⟨waterLevels, flowRates, clock, rfl⟩, hlog⟩ h
    cases hlog
    exact ⟨h.uri, h.alarms, h.level, h.value⟩
  env_rely := by
    rintro u s ⟨world, log⟩ ⟨⟨waterLevels, flowRates, clock, rfl⟩, hlog⟩ h
    cases hlog
    exact ⟨⟨h.uri, h.alarms, h.level, h.value⟩, rfl⟩

omit [JavaFloat F] in
/-- A registered gate in agreement with its device is tracked from the
start. -/
theorem tracked_start {w : World F} (hr : r ∈ w.resources.gates) (hv : r.value = some c)
    (hlevel : w.level r.uri = some c) : Tracked r c ⟨w, []⟩ where
  uri name := by
    have hrow := ResourceTable.mem_of_gate hr
    constructor
    · intro huri
      obtain ⟨row, hmem, hu, hname⟩ := ResourceTable.exists_of_uri huri
      rw [ResourceTable.eq_of_uri hmem hrow hu] at hname
      exact hname.symm
    · intro hname
      exact ResourceTable.uri_of_fold_name hrow hname.symm
  alarms a ha := (ResourceTable.gate_distinct_alarm hr ha).symm.1
  level := hlevel
  value := (ResourceTable.value_of_mem (ResourceTable.mem_of_gate hr)).trans hv

/-- The registry shows the level of the gate `r`. -/
def Agrees (r : Resource) (w : World F) : Prop :=
  ∃ L, w.resources.value r.name = some L ∧ w.level r.uri = some L

/-- The last PUT that the gate `r` accepted and the last update of its row
are of different threads, and left these levels. -/
def Crossed (r : Resource) (s : State F) : Prop :=
  ∃ t t' L v, t ≠ t' ∧ lastPut r s.log = some (t, L) ∧ lastWrite r s.log = some (t', v) ∧
    s.world.level r.uri = some L ∧ s.world.resources.value r.name = some v

/-- **Registry and device at rest.** From a state in which every gate is
registered with the level of its device: under every interleaving of
cycles and commands without lost messages and failed updates, in every
reachable state in which no thread is about to record a level of the gate
`r` (in particular, while no method that moves it is under way), the
registry shows the level of its device, unless the last accepted PUT and
the last update are of different threads. -/
theorem gates_agree_at_rest (maxStale : Int) {w : World F} (hagree : GatesAgree w)
    {P : Pool Thread (Action F) Action.Answer (State F) JException Unit}
    (hP : (system maxStale Reliably Measures).Reachable ⟨w, []⟩ P)
    (hr : r ∈ w.resources.gates)
    (hrest : ∀ t a k, P.threads t = some (.act a k) → ¬Writes r a) :
    Agrees r P.shared.world ∨ Crossed r P.shared := by
  obtain ⟨c, hv, hlevel⟩ := hagree r hr
  have hstart := tracked_start hr hv hlevel
  have hsound := rest_sound (F := F) r c maxStale
  obtain ⟨htracked, hok⟩ := hsound.reachable hstart (fun _ => rfl) hP
  -- a thread that is not about to write is balanced
  have hbalanced : ∀ t, Balanced r t P.shared := by
    intro t
    have ht := hok t
    cases hthread : P.threads t with
    | none =>
      rw [hthread] at ht
      exact ht
    | some p =>
      cases p with
      | pure u =>
        rw [hthread] at ht
        exact ht
      | throw ex =>
        rw [hthread] at ht
        exact ht
      | act a k =>
        exact (hsound.guar_next hstart (fun _ => rfl) hP hthread (reliably_none a)).2
          (hrest t a k hthread)
  rcases (signed_putTo r).agree_or_crossed (signed_writeTo r) hbalanced with
    hsame | ⟨t, t', L, v, hne, hput, hwrite⟩
  · refine Or.inl ⟨_, htracked.value, htracked.level.trans ?_⟩
    unfold levelAfter lastPut lastWrite
    rw [hsame]
  · refine Or.inr ⟨t, t', L, v, hne, hput, hwrite, ?_, ?_⟩
    · have hlevel := htracked.level
      rw [lastPut, hput] at hlevel
      exact hlevel
    · have hvalue := htracked.value
      rw [lastWrite, hwrite] at hvalue
      exact hvalue

/-- In MANUAL mode the operator opens the gate to 50: registry and device
show it. -/
theorem gates_agree_at_rest_command :
    ∃ P, (system 5 Reliably Measures).runSchedule (gateToPut ++ ends .shell 3)
        ⟨oneGateFlood .MANUAL, fun _ => none⟩ = some P ∧
      Agrees (demoGate1 0) P.shared.world := by
  obtain ⟨P, hrun, hshell, hscheduler, hput, hwrite⟩ :
      ∃ P, (system 5 Reliably Measures).runSchedule (gateToPut ++ ends .shell 3)
        ⟨oneGateFlood .MANUAL, fun _ => none⟩ = some P ∧ P.threads .shell = none ∧
      P.threads .scheduler = none ∧ lastPut (demoGate1 0) P.shared.log = some (.shell, 50) ∧
      lastWrite (demoGate1 0) P.shared.log = some (.shell, 50) := ⟨_, rfl, rfl, rfl, rfl, rfl⟩
  have hadmits : Admits Reliably Measures (gateToPut ++ ends .shell 3) :=
    (admits_gateToPut reliably_none).append (admits_ends reliably_none .shell 3)
  have hagrees := gates_agree_at_rest 5 (oneGate_agree .MANUAL)
    (System.reachable_runSchedule .refl hadmits hrun) oneGate_mem (fun t a k hnext => by
      cases t with
      | scheduler => rw [hscheduler] at hnext; cases hnext
      | shell => rw [hshell] at hnext; cases hnext)
  rcases hagrees with hagrees | ⟨t, t', L, v, hne, hput', hwrite', -⟩
  · exact ⟨P, hrun, hagrees⟩
  · rw [hput] at hput'
    rw [hwrite] at hwrite'
    cases hput'
    cases hwrite'
    exact absurd rfl hne

/-- A cycle and a command move the gate at once: the device follows the
cycle first and the command then, the registry the command first and the
cycle then. At rest the registry shows 100 and the device is at 50. -/
theorem crossed_updates :
    GatesAgree (oneGateFlood .AUTO).world ∧
    ∃ P, (system 5 Reliably Measures).Reachable (oneGateFlood .AUTO) P ∧
      (∀ t, P.threads t = none) ∧
      P.shared.world.resources.value "outflow-1" = some 100 ∧
      P.shared.world.level gate1Uri = some 50 := by
  refine ⟨oneGate_agree .AUTO, ?_⟩
  obtain ⟨P, hrun, hshell, hscheduler, hvalue, hlevel⟩ :
      ∃ P, (system 5 Reliably Measures).runSchedule
        (cycleToPut ++ (setManual ++ (gateToPut ++
          (steps .scheduler 1 ++ (ends .shell 3 ++ ends .scheduler 2)))))
        ⟨oneGateFlood .AUTO, fun _ => none⟩ = some P ∧ P.threads .shell = none ∧
      P.threads .scheduler = none ∧ P.shared.world.resources.value "outflow-1" = some 100 ∧
      P.shared.world.level gate1Uri = some 50 := ⟨_, rfl, rfl, rfl, rfl, rfl⟩
  have hlast : Admits Reliably Measures
      (steps .scheduler 1 ++ (ends .shell 3 ++ ends .scheduler 2)) :=
    (admits_steps reliably_none .scheduler 1).append
      ((admits_ends reliably_none .shell 3).append (admits_ends reliably_none .scheduler 2))
  have hadmits := (admits_cycleToPut reliably_none).append
    ((admits_setManual reliably_none).append ((admits_gateToPut reliably_none).append hlast))
  refine ⟨P, System.reachable_runSchedule .refl hadmits hrun, ?_, hvalue, hlevel⟩
  intro t
  cases t with
  | scheduler => exact hscheduler
  | shell => exact hshell

end DamMonitoring.Controller
