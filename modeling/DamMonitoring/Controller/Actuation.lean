/-
DamMonitoring.Controller.Actuation — what one actuation does, whatever
goes wrong on the way.

`Commanded` lists the five ways in which "command the device, then
record the value" can end when nobody interferes, each with the fault
that leads to it, the world it leaves and the PUT it sent. Every result
about calls that run alone rests on this list: `safe_updateGate` and
`safe_updateAlarm` say that the actuating methods do nothing else.

  §1 running alone under a given pattern of faults
  §2 queries
  §3 commanding a device and recording the value
  §4 the gate methods and the round of an alarm
-/
import DamMonitoring.Controller.ControlLogic

namespace DamMonitoring.Controller

open Program Java Motes Persistence

variable {F α : Type} [JavaFloat F]

/-! ## §1 Running alone -/

/-- The actions that only read the database. -/
def Action.isQuery : Action F → Bool
  | .retrieveWaterLevel | .retrieveFlowRate _ | .retrieveOutFlowRate
  | .resourcesOfType _ | .getResource _ => true
  | _ => false

omit [JavaFloat F] in
/-- The faults spare the queries. -/
def Answering (f : Action F → Fault) : Prop :=
  ∀ a, a.isQuery = true → ∀ message, f a ≠ .failed message

/-- The terms on which a thread runs alone when each action `a` meets the
fault `f a`. -/
def under (t : Thread) (f : Action F → Fault) :
    Contract (Action F) Action.Answer Fault (State F) :=
  .alone (handler t) fun fault a _ => fault = f a

/-- Run a method alone. -/
def run (t : Thread) (f : Action F → Fault) (p : Java F α) (s : State F) :
    Except JException α × State F :=
  exec (handler t) (fun _ => f) p s

variable {t : Thread} {f : Action F → Fault} {s s' s'' : State F}

theorem run_of_safe {p : Java F α} {Q : Except JException α → State F → Prop}
    (h : (under t f).Safe p Q s) : Q (run t f p s).1 (run t f p s).2 :=
  Contract.safe_exec (fun _ _ _ => rfl) h

theorem under_act {a : Action F} {k : a.Answer → Java F α}
    {Q : Except JException α → State F → Prop} :
    (under t f).Safe (.act a k) Q s ↔
      (under t f).Safe (k (handler t (f a) a s).1) Q (handler t (f a) a s).2 := by
  simp [under, Contract.alone_act]

omit [JavaFloat F] in
theorem Answering.query {f : Action F → Fault} (hf : Answering f) (a : Action F)
    (ha : a.isQuery = true) {β : Type} (x : β) : (f a).query x = .ok x := by
  have h := hf a ha
  cases hfa : f a with
  | failed message => exact absurd hfa (h message)
  | none => rfl
  | requestLost => rfl
  | responseLost => rfl

omit [JavaFloat F] in
/-- The world is as before, and no PUT has been sent. -/
structure Quiet (s s' : State F) : Prop where
  world : s'.world = s.world
  puts : s'.puts = s.puts

omit [JavaFloat F] in
theorem Quiet.refl (s : State F) : Quiet s s := ⟨rfl, rfl⟩

omit [JavaFloat F] in
theorem Quiet.trans (h : Quiet s s') (h' : Quiet s' s'') : Quiet s s'' :=
  ⟨h'.world.trans h.world, h'.puts.trans h.puts⟩

/-! ## §2 Queries -/

namespace DataManager

variable {name : String}

theorem safe_lookupResource_always {Q : Except JException (Option Resource) → State F → Prop}
    (failed : ∀ why s', f (.getResource name) = .failed why → Quiet s s' →
      Q (.error (.persistenceException why)) s')
    (h : ∀ s', Quiet s s' → Q (.ok (s.world.resources.get name)) s') :
    (under t f).Safe (lookupResource name) Q s := by
  simp only [lookupResource, perform, Prog.perform_bind, under_act, handler, World.perform]
  cases hfault : f (.getResource name) with
  | failed why => exact failed why _ hfault ⟨rfl, rfl⟩
  | none => exact h _ ⟨rfl, rfl⟩
  | requestLost => exact h _ ⟨rfl, rfl⟩
  | responseLost => exact h _ ⟨rfl, rfl⟩

theorem safe_lookupResource (hf : Answering f)
    {Q : Except JException (Option Resource) → State F → Prop}
    (h : ∀ s', Quiet s s' → Q (.ok (s.world.resources.get name)) s') :
    (under t f).Safe (lookupResource name) Q s :=
  safe_lookupResource_always (fun why _ hwhy _ => absurd hwhy (hf _ rfl why)) h

theorem safe_getResourceValue (hf : Answering f) {r : Resource}
    (hr : s.world.resources.get name = some r)
    {Q : Except JException (Option Int) → State F → Prop}
    (h : ∀ s', Quiet s s' → Q (.ok r.value) s') :
    (under t f).Safe (getResourceValue name) Q s := by
  simp only [getResourceValue, perform, Prog.perform_bind, under_act, handler, World.perform,
    hf.query (.getResource name) rfl, session, Prog.pure_eq, Prog.pure_bind, hr,
    Contract.safe_pure]
  exact h _ ⟨rfl, rfl⟩

theorem safe_retrieveWaterLevel (hf : Answering f)
    {Q : Except JException (Option (WaterLevel F)) → State F → Prop}
    (h : ∀ s', Quiet s s' → Q (.ok (Persistence.retrieveWaterLevel s.world.waterLevels)) s') :
    (under t f).Safe retrieveWaterLevel Q s := by
  simp only [retrieveWaterLevel, perform, Prog.perform_bind, under_act, handler, World.perform,
    hf.query .retrieveWaterLevel rfl, session, Prog.pure_eq, Contract.safe_pure]
  exact h _ ⟨rfl, rfl⟩

theorem safe_retrieveFlowRate (hf : Answering f) (channel : String)
    {Q : Except JException (Option (FlowRate F)) → State F → Prop}
    (h : ∀ s', Quiet s s' →
      Q (.ok (Persistence.retrieveFlowRate s.world.collation s.world.flowRates channel)) s') :
    (under t f).Safe (retrieveFlowRate channel) Q s := by
  simp only [retrieveFlowRate, perform, Prog.perform_bind, under_act, handler, World.perform,
    hf.query (.retrieveFlowRate channel) rfl, session, Prog.pure_eq, Contract.safe_pure]
  exact h _ ⟨rfl, rfl⟩

theorem safe_retrieveOutFlowRate (hf : Answering f) {Q : Except JException F → State F → Prop}
    (null : Persistence.retrieveOutFlowRate s.world.collation s.world.flowRates = none →
      ∀ s', Quiet s s' → Q (.error .nullPointerException) s')
    (found : ∀ o, Persistence.retrieveOutFlowRate s.world.collation s.world.flowRates = some o →
      ∀ s', Quiet s s' → Q (.ok o) s') :
    (under t f).Safe retrieveOutFlowRate Q s := by
  simp only [retrieveOutFlowRate, perform, Prog.perform_bind, under_act, handler, World.perform,
    hf.query .retrieveOutFlowRate rfl, session, Prog.pure_eq, Prog.pure_bind]
  cases hsum : Persistence.retrieveOutFlowRate s.world.collation s.world.flowRates with
  | none => exact null hsum _ ⟨rfl, rfl⟩
  | some o => exact found o hsum _ ⟨rfl, rfl⟩

theorem safe_resourcesOfType (hf : Answering f) (type : String)
    {Q : Except JException (List Resource) → State F → Prop}
    (h : ∀ s', Quiet s s' → Q (.ok (s.world.resources.ofType type)) s') :
    (under t f).Safe (perform (.resourcesOfType type) >>= fun answer => session answer) Q s := by
  simp only [perform, Prog.perform_bind, under_act, handler, World.perform,
    hf.query (.resourcesOfType type) rfl, session, Prog.pure_eq, Contract.safe_pure]
  exact h _ ⟨rfl, rfl⟩

end DataManager

/-! ## §3 Command and record -/

/-- The registry update: failed and without effect, or committed. -/
theorem DataManager.safe_setResourceValue {name : String} {v : Int}
    {Q : Except JException Unit → State F → Prop}
    (failed : ∀ message s', f (.updateValue name v) = .failed message → Quiet s s' →
      Q (.error (.persistenceException message)) s')
    (recorded : ∀ s', (∀ message, f (.updateValue name v) ≠ .failed message) →
      s'.world = s.world.setValue name v → s'.puts = s.puts → Q (.ok ()) s') :
    (under t f).Safe (setResourceValue name v) Q s := by
  simp only [setResourceValue, perform, Prog.perform_bind, under_act, handler, World.perform]
  cases hfault : f (.updateValue name v) with
  | failed message => exact failed message _ hfault ⟨rfl, rfl⟩
  | none => exact recorded _ (by simp [hfault]) rfl rfl
  | requestLost => exact recorded _ (by simp [hfault]) rfl rfl
  | responseLost => exact recorded _ (by simp [hfault]) rfl rfl

/-- How "PUT `payload` to `uri`, then record `v` for `name`" ends from
`s`: the result and the state after it. -/
inductive Commanded (f : Action F → Fault) (s : State F) (name : String) (uri : Uri)
    (payload : ObjectNode) (v : Int) : Except JException Unit → State F → Prop where
  /-- The device has not been reached. -/
  | lost {message s'}
      (why : (f (.clientPut uri payload) ≠ .none ∧ f (.clientPut uri payload) ≠ .responseLost) ∨
        s.world.devices uri = none)
      (world : s'.world = s.world)
      (puts : s'.puts = (uri, payload) :: s.puts) :
      Commanded f s name uri payload v (.error (.coapException message)) s'
  /-- The device has acted, but the Controller does not learn of it. -/
  | unanswered {message s'}
      (why : f (.clientPut uri payload) = .responseLost)
      (world : s'.world = (s.world.serve uri payload).2)
      (puts : s'.puts = (uri, payload) :: s.puts) :
      Commanded f s name uri payload v (.error (.coapException message)) s'
  /-- The device has answered with an error. -/
  | rejected {message s' code text}
      (delivered : f (.clientPut uri payload) = .none)
      (reply : (s.world.serve uri payload).1 = some (.message code text))
      (refused : code.isSuccess = false)
      (world : s'.world = (s.world.serve uri payload).2)
      (puts : s'.puts = (uri, payload) :: s.puts) :
      Commanded f s name uri payload v (.error (.coapException message)) s'
  /-- The device has obeyed, but its value has not been recorded. -/
  | unrecorded {message s' code text}
      (delivered : f (.clientPut uri payload) = .none)
      (reply : (s.world.serve uri payload).1 = some (.message code text))
      (accepted : code.isSuccess = true)
      (failed : f (.updateValue name v) = .failed message)
      (world : s'.world = (s.world.serve uri payload).2)
      (puts : s'.puts = (uri, payload) :: s.puts) :
      Commanded f s name uri payload v (.error (.persistenceException message)) s'
  /-- The device has obeyed and its value is recorded. -/
  | done {s' code text}
      (delivered : f (.clientPut uri payload) = .none)
      (reply : (s.world.serve uri payload).1 = some (.message code text))
      (accepted : code.isSuccess = true)
      (recorded : ∀ message, f (.updateValue name v) ≠ .failed message)
      (world : s'.world = (s.world.serve uri payload).2.setValue name v)
      (puts : s'.puts = (uri, payload) :: s.puts) :
      Commanded f s name uri payload v (.ok ()) s'

section Commanded

variable {name : String} {uri : Uri} {payload : ObjectNode} {v : Int}
  {out : Except JException Unit}

omit [JavaFloat F]

/-- Quiet actions before or after a command do not show in its outcome. -/
theorem Commanded.quiet (h : Commanded f s name uri payload v out s') (hq : Quiet s' s'') :
    Commanded f s name uri payload v out s'' := by
  cases h with
  | lost why world puts => exact .lost why (hq.world.trans world) (hq.puts.trans puts)
  | unanswered why world puts => exact .unanswered why (hq.world.trans world) (hq.puts.trans puts)
  | rejected delivered reply refused world puts =>
    exact .rejected delivered reply refused (hq.world.trans world) (hq.puts.trans puts)
  | unrecorded delivered reply accepted failed world puts =>
    exact .unrecorded delivered reply accepted failed (hq.world.trans world) (hq.puts.trans puts)
  | done delivered reply accepted recorded world puts =>
    exact .done delivered reply accepted recorded (hq.world.trans world) (hq.puts.trans puts)

theorem Commanded.of_quiet (hq : Quiet s s') (h : Commanded f s' name uri payload v out s'') :
    Commanded f s name uri payload v out s'' := by
  obtain ⟨hw, hp⟩ := hq
  cases h with
  | lost why world puts => exact .lost (hw ▸ why) (world.trans hw) (hp ▸ puts)
  | unanswered why world puts => exact .unanswered why (hw ▸ world) (hp ▸ puts)
  | rejected delivered reply refused world puts =>
    exact .rejected delivered (hw ▸ reply) refused (hw ▸ world) (hp ▸ puts)
  | unrecorded delivered reply accepted failed world puts =>
    exact .unrecorded delivered (hw ▸ reply) accepted failed (hw ▸ world) (hp ▸ puts)
  | done delivered reply accepted recorded world puts =>
    exact .done delivered (hw ▸ reply) accepted recorded (hw ▸ world) (hp ▸ puts)

end Commanded

namespace CoapManager

/-- What `setGateOpening` and `setAlarmStatus` have in common. -/
def put (name : String) (payload : ObjectNode) : Java F String :=
  (coapPutRequest name payload).tryCatch fun ex => throw (asCoapException "" ex)

omit [JavaFloat F] in
theorem readPutAnswer_message (code : ResponseCode) (text : String) :
    (readPutAnswer (.response (.message code text)) : Java F String) =
      if code.isSuccess then .pure text
      else .throw (.coapException
        (if code = .BAD_REQUEST_4_00 then text else "Request failed: " ++ codeName code)) := by
  cases code <;> rfl

/-- How a PUT ends: not sent, lost, unanswered, refused or accepted. -/
theorem safe_put_always {name : String} {payload : ObjectNode} {uri : Uri}
    (huri : s.world.resources.uri name = some uri)
    {Q : Except JException String → State F → Prop}
    (unsent : ∀ why s', f (.getResource name) = .failed why → s'.world = s.world →
      Q (.error (.coapException why)) s')
    (lost : ∀ message s', ((f (.clientPut uri payload) ≠ .none ∧
        f (.clientPut uri payload) ≠ .responseLost) ∨ s.world.devices uri = none) →
      s'.world = s.world → s'.puts = (uri, payload) :: s.puts →
      Q (.error (.coapException message)) s')
    (unanswered : ∀ message s', f (.clientPut uri payload) = .responseLost →
      s'.world = (s.world.serve uri payload).2 → s'.puts = (uri, payload) :: s.puts →
      Q (.error (.coapException message)) s')
    (answered : ∀ code text s', f (.clientPut uri payload) = .none →
      (s.world.serve uri payload).1 = some (.message code text) →
      s'.world = (s.world.serve uri payload).2 → s'.puts = (uri, payload) :: s.puts →
      (code.isSuccess = true → Q (.ok text) s') ∧
      (code.isSuccess = false → ∀ message, Q (.error (.coapException message)) s')) :
    (under t f).Safe (put name payload) Q s := by
  obtain ⟨r, hr, rfl⟩ := Option.map_eq_some_iff.mp huri
  unfold put coapPutRequest URILookup
  rw [Contract.safe_tryCatch, Contract.safe_bind, Contract.safe_bind]
  refine DataManager.safe_lookupResource_always (fun why s₁ hwhy h₁ => ?_) fun s₁ h₁ => ?_
  · exact unsent why s₁ hwhy h₁.world
  simp only [hr, Prog.pure_eq, Contract.safe_pure, perform, Prog.perform_bind, under_act, handler,
    World.perform, h₁.world]
  have hputs : ∀ answer, (⟨s.world, .did t (.clientPut r.uri payload) answer :: s₁.log⟩ :
      State F).puts = (r.uri, payload) :: s.puts := by
    intro answer
    rw [← h₁.puts]
    rfl
  cases hfault : f (.clientPut r.uri payload) with
  | requestLost =>
    exact lost _ _ (Or.inl (by simp [hfault])) rfl (hputs _)
  | failed message =>
    exact lost _ _ (Or.inl (by simp [hfault])) rfl (hputs _)
  | responseLost =>
    exact unanswered _ _ hfault rfl (hputs _)
  | none =>
    rcases s.world.clientPut_cases r.uri payload with ⟨hdev, hput⟩ | ⟨code, text, hreply, hput⟩
    · rw [hput]
      exact lost _ _ (Or.inr hdev) rfl (hputs _)
    · rw [hput, readPutAnswer_message]
      obtain ⟨hok, herr⟩ := answered code text
        ⟨(s.world.serve r.uri payload).2, .did t (.clientPut r.uri payload)
          (.response (.message code text)) :: s₁.log⟩ hfault hreply rfl (hputs _)
      cases hcode : code.isSuccess with
      | true => exact hok hcode
      | false => exact herr hcode _

/-- How a PUT ends when the registry answers. -/
theorem safe_put (hf : Answering f) {name : String} {payload : ObjectNode} {uri : Uri}
    (huri : s.world.resources.uri name = some uri)
    {Q : Except JException String → State F → Prop}
    (lost : ∀ message s', ((f (.clientPut uri payload) ≠ .none ∧
        f (.clientPut uri payload) ≠ .responseLost) ∨ s.world.devices uri = none) →
      s'.world = s.world → s'.puts = (uri, payload) :: s.puts →
      Q (.error (.coapException message)) s')
    (unanswered : ∀ message s', f (.clientPut uri payload) = .responseLost →
      s'.world = (s.world.serve uri payload).2 → s'.puts = (uri, payload) :: s.puts →
      Q (.error (.coapException message)) s')
    (answered : ∀ code text s', f (.clientPut uri payload) = .none →
      (s.world.serve uri payload).1 = some (.message code text) →
      s'.world = (s.world.serve uri payload).2 → s'.puts = (uri, payload) :: s.puts →
      (code.isSuccess = true → Q (.ok text) s') ∧
      (code.isSuccess = false → ∀ message, Q (.error (.coapException message)) s')) :
    (under t f).Safe (put name payload) Q s :=
  safe_put_always huri (fun why _ hwhy _ => absurd hwhy (hf _ rfl why)) lost unanswered answered

/-- Commanding a device and recording the value ends in one of the five
ways of `Commanded`. -/
theorem safe_command (hf : Answering f) {name : String} {uri : Uri}
    (huri : s.world.resources.uri name = some uri) (payload : ObjectNode) (v : Int) :
    (under t f).Safe (put name payload >>= fun _ => DataManager.setResourceValue name v)
      (Commanded f s name uri payload v) s := by
  rw [Contract.safe_bind]
  refine safe_put hf huri (fun m s' why hw hp => .lost why hw hp)
    (fun m s' why hw hp => .unanswered why hw hp) fun code text s' hnone hreply hw hp => ?_
  refine ⟨fun hacc => ?_, fun href m => .rejected hnone hreply href hw hp⟩
  refine DataManager.safe_setResourceValue
    (fun m s'' hfail hq => ?_) (fun s'' hrec hw' hp' => ?_)
  · exact .unrecorded hnone hreply hacc hfail (hq.world.trans hw) (hq.puts.trans hp)
  · exact .done hnone hreply hacc hrec (by rw [hw', hw]) (hp'.trans hp)

end CoapManager

/-! ## §4 The actuating methods -/

/-- How a method that reads the registered value of `name` and commands
`command value`, if there is something to command, ends from `s`. -/
inductive Updated (f : Action F → Fault) (s : State F) (name : String) (uri : Uri)
    (command : Int → Option (ObjectNode × Int)) :
    Except JException Unit → State F → Prop where
  /-- The registered value is null. -/
  | unset {s' : State F} (value : s.world.resources.value name = none) (quiet : Quiet s s') :
      Updated f s name uri command (.error .nullPointerException) s'
  /-- Nothing has to change. -/
  | kept {s' : State F} {c : Int} (value : s.world.resources.value name = some c) (keep : command c = none)
      (quiet : Quiet s s') :
      Updated f s name uri command (.ok ()) s'
  | commanded {s' : State F} {c v : Int} {payload : ObjectNode} {out : Except JException Unit}
      (value : s.world.resources.value name = some c)
      (move : command c = some (payload, v))
      (result : Commanded f s name uri payload v out s') :
      Updated f s name uri command out s'

namespace ControlLogic

/-- The PUT and the record of a gate that is to move. -/
def gateCommand (next : Int → Option Int) (c : Int) : Option (ObjectNode × Int) :=
  (next c).map fun L => (ResGate.openingLevelNode L, L)

/-- The PUT and the record of an alarm that is to change. -/
def alarmCommand (status : Bool) (c : Int) : Option (ObjectNode × Int) :=
  if decide (c = 1) ≠ status then some (ResAlarm.stateNode status, statusValue status) else none

theorem safe_simulate (gate : String) (level : Int) :
    (under t f).Safe (simulate gate level) (fun out s' => out = .ok () ∧ Quiet s s') s := by
  simp only [simulate, perform, Prog.perform_bind, under_act, handler, World.perform, Prog.pure_eq,
    Contract.safe_pure]
  exact ⟨trivial, rfl, rfl⟩

variable {name : String} {uri : Uri}

/-- **The gate methods** do what `Updated` lists and nothing else. -/
theorem safe_updateGate (hf : Answering f) (huri : s.world.resources.uri name = some uri)
    (next : Int → Option Int) :
    (under t f).Safe (updateGate name next) (Updated f s name uri (gateCommand next)) s := by
  obtain ⟨r, hr, hruri⟩ := Option.map_eq_some_iff.mp huri
  have hval : s.world.resources.value name = r.value := by simp [ResourceTable.value, hr]
  unfold updateGate
  rw [Contract.safe_bind]
  refine DataManager.safe_getResourceValue hf hr fun s₁ h₁ => ?_
  cases hv : r.value with
  | none => exact .unset (hval.trans hv) h₁
  | some c =>
    simp only [deref, Prog.pure_eq, Prog.pure_bind]
    cases hnext : next c with
    | none => exact .kept (hval.trans hv) (by simp [gateCommand, hnext]) h₁
    | some L =>
      have huri₁ : s₁.world.resources.uri name = some uri := by rw [h₁.world]; exact huri
      have hcmd := CoapManager.safe_command (t := t) hf huri₁ (ResGate.openingLevelNode L) L
      rw [Contract.safe_bind] at hcmd ⊢
      refine hcmd.mono fun out s₂ h₂ => ?_
      cases out with
      | error ex => exact .commanded (hval.trans hv) (by simp [gateCommand, hnext]) (h₂.of_quiet h₁)
      | ok text =>
        rw [Contract.safe_bind]
        refine h₂.mono fun out s₃ h₃ => ?_
        have hdone : Updated f s name uri (gateCommand next) out s₃ :=
          .commanded (hval.trans hv) (by simp [gateCommand, hnext]) (h₃.of_quiet h₁)
        cases out with
        | error ex => exact hdone
        | ok _ =>
          refine (safe_simulate name L).mono fun out s₄ h₄ => ?_
          obtain ⟨rfl, hq⟩ := h₄
          exact .commanded (hval.trans hv) (by simp [gateCommand, hnext])
            ((h₃.of_quiet h₁).quiet hq)

/-- **A round of the alarm loop** does what `Updated` lists and nothing else. -/
theorem safe_updateAlarm (hf : Answering f) {alarm : Resource}
    (huri : s.world.resources.uri alarm.name = some uri) (status : Bool) :
    (under t f).Safe (updateAlarm status alarm)
      (Updated f s alarm.name uri (alarmCommand status)) s := by
  obtain ⟨r, hr, hruri⟩ := Option.map_eq_some_iff.mp huri
  have hval : s.world.resources.value alarm.name = r.value := by simp [ResourceTable.value, hr]
  unfold updateAlarm
  rw [Contract.safe_bind]
  refine DataManager.safe_getResourceValue hf hr fun s₁ h₁ => ?_
  cases hv : r.value with
  | none => exact .unset (hval.trans hv) h₁
  | some c =>
    simp only [deref, Prog.pure_eq, Prog.pure_bind]
    split
    · next hne =>
      have huri₁ : s₁.world.resources.uri alarm.name = some uri := by rw [h₁.world]; exact huri
      have hcmd := CoapManager.safe_command (t := t) hf huri₁ (ResAlarm.stateNode status)
        (statusValue status)
      exact hcmd.mono fun out s₂ h₂ =>
        .commanded (hval.trans hv) (if_pos hne) (h₂.of_quiet h₁)
    · next heq => exact .kept (hval.trans hv) (if_neg heq) h₁

end ControlLogic

end DamMonitoring.Controller
