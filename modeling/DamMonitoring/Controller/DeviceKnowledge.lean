/-
DamMonitoring.Controller.DeviceKnowledge — what the answers of
`CoapManager` tell about the devices when messages get lost.

A request may be lost before the device sees it, its answer after the
device has acted, and the registry may fail to answer; all the caller sees
is that the method returned or threw. `devices_known_iff`: after any
sequence of calls under any faults, the settings the devices can have are
exactly those that `leavesOpen` lists, call by call. A call that returns
settles its device; one that throws leaves two settings open if the device
takes the new one, and nothing is ever opened by reading.

  §1 settings
  §2 calls, and what is seen of them
  §3 what one call leaves open
  §4 what a sequence of calls leaves open
-/
import DamMonitoring.Controller.GateProtocol
import DamMonitoring.Program.Knowledge

namespace DamMonitoring.Motes

/-! ## §1 DeviceSettings -/

/-- What a device is set to. -/
inductive Setting where
  | level (L : Int)
  | state (b : Bool)
  deriving DecidableEq, Repr

def Setting.node : Setting → ObjectNode
  | .level L => ResGate.openingLevelNode L
  | .state b => ResAlarm.stateNode b

/-- Whether a device in the one setting takes the other. -/
def Setting.takes : Setting → Setting → Bool
  | .level _, .level L => ResGate.Accepts L
  | .state _, .state _ => true
  | _, _ => false

def Device.setting (d : Device) : Setting :=
  match d.actuator with
  | .gate g => .level g.openingLevel
  | .alarm a => .state a.state

/-- A device answers with success exactly if it takes the setting, and
then has it. -/
theorem Device.put_setting (d : Device) (v : Setting) :
    ∃ code text, (d.put (.json v.node)).2 = .message code text ∧
      code.isSuccess = d.setting.takes v ∧
      (d.put (.json v.node)).1.setting = if d.setting.takes v then v else d.setting := by
  obtain ⟨addr, g | a⟩ := d
  · cases v with
    | level L =>
      simp only [Setting.node, Device.put, Actuator.put, ResGate.resPutHandler_openingLevel,
        Device.setting, Setting.takes, decide_eq_true_eq]
      by_cases hacc : ResGate.Accepts L
      · by_cases hsame : g.openingLevel = L
        · exact ⟨.VALID_2_03, _, by simp [hacc, hsame]; rfl, by simp [hacc, ResponseCode.isSuccess],
            by simp [hacc, hsame]⟩
        · exact ⟨.CHANGED_2_04, _, by simp [hacc, hsame]; rfl,
            by simp [hacc, ResponseCode.isSuccess], by simp [hacc, hsame]⟩
      · exact ⟨.BAD_REQUEST_4_00, _, by simp [hacc, ResGate.badOpeningLevel]; rfl,
          by simp [hacc, ResponseCode.isSuccess], by simp [hacc]⟩
    | state b =>
      simp only [Setting.node, ResAlarm.stateNode, Device.put, Actuator.put,
        ResGate.resPutHandler_other, Device.setting, Setting.takes]
      exact ⟨_, _, rfl, rfl, rfl⟩
  · cases v with
    | level L =>
      simp only [Setting.node, Device.put, Actuator.put, ResAlarm.resPutHandler_other,
        Device.setting, Setting.takes]
      exact ⟨_, _, rfl, rfl, rfl⟩
    | state b =>
      obtain ⟨hstate, hreply⟩ := ResAlarm.resPutHandler_state [] a b
      simp only [Setting.node, Device.put, Actuator.put, Device.setting, Setting.takes, hstate,
        hreply, if_true]
      exact ⟨_, _, rfl, rfl, trivial⟩

end DamMonitoring.Motes

namespace DamMonitoring.Controller

open Program Program.Knowledge Java Motes Persistence

variable {F : Type}

/-- The settings of the devices. -/
abbrev DeviceSettings : Type := Uri → Option Setting

def World.settings (w : World F) : DeviceSettings := fun uri => (w.devices uri).map Device.setting

/-- The settings after a PUT that is served. -/
def DeviceSettings.put (p : DeviceSettings) (uri : Uri) (v : Setting) : DeviceSettings :=
  if (p uri).any (·.takes v) then Function.update p uri (some v) else p

variable {w : World F} {uri : Uri}

theorem settings_serve (w : World F) (uri : Uri) (v : Setting) :
    (w.serve uri v.node).2.settings = w.settings.put uri v := by
  cases hd : w.devices uri with
  | none => simp [World.serve, DeviceSettings.put, World.settings, hd]
  | some d =>
    obtain ⟨code, text, -, -, hset⟩ := d.put_setting v
    have hany : (w.settings uri).any (·.takes v) = d.setting.takes v := by
      simp [World.settings, hd]
    funext u
    simp only [DeviceSettings.put, hany]
    by_cases hu : u = uri
    · subst hu
      simp only [World.serve, hd, World.settings, Function.update_self, Option.map_some, hset]
      cases d.setting.takes v with
      | true => simp
      | false => simp [World.settings, hd]
    · have hother : (w.serve uri v.node).2.settings u = w.settings u := by
        simp only [World.settings, w.serve_devices_of_ne hu]
      rw [hother]
      split
      · rw [Function.update_of_ne hu]
      · rfl

/-- The server answers with success exactly if it takes the setting. -/
theorem reply_serve {v : Setting} {code : ResponseCode} {text : String}
    (h : (w.serve uri v.node).1 = some (.message code text)) :
    code.isSuccess = (w.settings uri).any (·.takes v) := by
  cases hd : w.devices uri with
  | none => simp [World.serve, hd] at h
  | some d =>
    obtain ⟨code', text', hreply, hcode, -⟩ := d.put_setting v
    simp only [World.serve, hd, hreply, Option.some.injEq, Response.message, Response.mk.injEq] at h
    simp [World.settings, hd, ← hcode, h.1]

/-- What a GET answers, if it answers. -/
theorem World.clientGet_cases (w : World F) (uri : Uri) (fault : Fault) :
    (w.clientGet uri fault = .noResponse ∧ (fault = .none → w.devices uri = none)) ∨
      (∃ message, w.clientGet uri fault = .ioError message ∧ fault ≠ .none) ∨
      ∃ d, w.devices uri = some d ∧ w.clientGet uri fault = .response d.get ∧ fault = .none := by
  cases fault with
  | requestLost => exact Or.inl ⟨rfl, nofun⟩
  | responseLost => exact Or.inl ⟨rfl, nofun⟩
  | failed message => exact Or.inr (Or.inl ⟨message, rfl, nofun⟩)
  | none =>
    cases hd : w.devices uri with
    | none => exact Or.inl ⟨by simp [World.clientGet, hd], fun _ => rfl⟩
    | some d => exact Or.inr (Or.inr ⟨d, rfl, by simp [World.clientGet, hd], rfl⟩)

/-- What the decoder of `getGateOpening` makes of the record of a device. -/
theorem readOpeningLevel_device (d : Device) :
    (CoapManager.readOpeningLevel (.response d.get) : Java F Int) =
      match d.setting with
      | .level L => .pure L
      | .state _ => .throw .nullPointerException := by
  obtain ⟨addr, g | a⟩ := d
  · exact readOpeningLevel_get addr g
  · simp [CoapManager.readOpeningLevel, Device.get, ResAlarm.resGetHandler, ResponseCode.isSuccess,
      CoapManager.getMember, CoapManager.asText, deref, Device.setting]

/-- What the decoder of `getAlarmStatus` makes of the record of a device. -/
theorem readState_device (d : Device) :
    (CoapManager.readState (.response d.get) : Java F Bool) =
      match d.setting with
      | .level _ => .throw .nullPointerException
      | .state b => .pure b := by
  obtain ⟨addr, g | a⟩ := d
  · simp [CoapManager.readState, Device.get, ResGate.resGetHandler, ResponseCode.isSuccess,
      CoapManager.getMember, deref, Device.setting]
  · have hname : CoapManager.lastSegment (urn addr ++ "state") = "state" :=
      lastSegment_append _ "state" (by decide) (by decide)
    simp [CoapManager.readState, Device.get, ResAlarm.resGetHandler, ResponseCode.isSuccess,
      CoapManager.getMember, CoapManager.asText, CoapManager.asBoolean, deref, Device.setting, hname]

/-! ## §2 Calls -/

/-- The calls of `CoapManager`; `getAlarmStatus` is given the URI. -/
inductive DeviceCall where
  | set (name : String) (v : Setting)
  | getGateOpening (gate : String)
  | getAlarmStatus (uri : Uri)

/-- What a call shows, if it shows something. -/
def DeviceCall.method : DeviceCall → Java F (Option Setting)
  | .set name (.level L) => do
      let _ ← CoapManager.setGateOpening name L
      pure none
  | .set name (.state b) => do
      let _ ← CoapManager.setAlarmStatus name b
      pure none
  | .getGateOpening gate => do
      let L ← CoapManager.getGateOpening gate
      pure (some (.level L))
  | .getAlarmStatus uri => do
      let b ← CoapManager.getAlarmStatus uri
      pure (some (.state b))

theorem method_set (name : String) (v : Setting) :
    (DeviceCall.set name v).method (F := F) = CoapManager.put name v.node >>= fun _ => pure none := by
  cases v <;> rfl

/-- How a call is seen to end. -/
inductive Ending where
  | threw
  | returned (shown : Option Setting)

def Ending.of : Except JException (Option Setting) → Ending
  | .ok shown => .returned shown
  | .error _ => .threw

/-- A call, and what is seen of it. -/
abbrev DeviceReport : Type := DeviceCall × Ending

/-- The settings a call leaves open, from the settings it met. -/
def leavesOpen (t : ResourceTable) : DeviceReport → DeviceSettings → List DeviceSettings
  | (.set name v, .returned none), p =>
      match t.uri name with
      | some uri => if (p uri).any (·.takes v) then [p.put uri v] else []
      | none => []
  | (.set name v, .threw), p =>
      match t.uri name with
      | some uri => [p, p.put uri v]
      | none => [p]
  | (.getGateOpening gate, .returned (some (.level L))), p =>
      if (t.uri gate).bind p = some (.level L) then [p] else []
  | (.getAlarmStatus uri, .returned (some (.state b))), p =>
      if p uri = some (.state b) then [p] else []
  | (.getGateOpening _, .threw), p => [p]
  | (.getAlarmStatus _, .threw), p => [p]
  | _, _ => []

/-- A call leaves everything as it was, or sets the one device. -/
theorem leavesOpen_cases {t : ResourceTable} {c : DeviceCall} {ending : Ending}
    {p q : DeviceSettings} (h : q ∈ leavesOpen t (c, ending) p) :
    q = p ∨ ∃ name v uri, c = .set name v ∧ t.uri name = some uri ∧ q = p.put uri v := by
  cases c with
  | set name v =>
    cases huri : t.uri name with
    | none =>
      rcases ending with _ | _ | shown
      · exact Or.inl (by simpa [leavesOpen, huri] using h)
      · simp [leavesOpen, huri] at h
      · simp [leavesOpen] at h
    | some uri =>
      rcases ending with _ | _ | shown
      · rcases (by simpa [leavesOpen, huri] using h : q = p ∨ q = p.put uri v) with rfl | rfl
        · exact Or.inl rfl
        · exact Or.inr ⟨name, v, uri, rfl, huri, rfl⟩
      · obtain ⟨-, rfl⟩ : (p uri).any (·.takes v) = true ∧ q = p.put uri v := by
          simpa [leavesOpen, huri] using h
        exact Or.inr ⟨name, v, uri, rfl, huri, rfl⟩
      · simp [leavesOpen] at h
  | getGateOpening gate =>
    rcases ending with _ | _ | L | b <;> simp [leavesOpen] at h
    · exact Or.inl h
    · exact Or.inl h.2
  | getAlarmStatus uri =>
    rcases ending with _ | _ | L | b <;> simp [leavesOpen] at h
    · exact Or.inl h
    · exact Or.inl h.2

variable [JavaFloat F] {f : Action F → Fault} {s : State F}

/-- One call under some faults, as it is seen. -/
def Exchange (s : State F) (r : DeviceReport) (s' : State F) : Prop :=
  ∃ f, Ending.of (run .shell f r.1.method s).1 = r.2 ∧ (run .shell f r.1.method s).2 = s'

/-! ## §3 One call -/

/-- A name that is not registered cannot be addressed. -/
theorem safe_put_unknown {name : String} (huri : s.world.resources.uri name = none)
    (payload : ObjectNode) :
    (under .shell f).Safe (CoapManager.put name payload)
      (fun out s' => (∃ ex, out = .error ex) ∧ s'.world = s.world) s := by
  have hget : s.world.resources.get name = none := Option.map_eq_none_iff.mp huri
  unfold CoapManager.put CoapManager.coapPutRequest CoapManager.URILookup
  rw [Contract.safe_tryCatch, Contract.safe_bind, Contract.safe_bind]
  refine DataManager.safe_lookupResource_always (fun why s₁ _ h₁ => ?_) fun s₁ h₁ => ?_
  · exact ⟨⟨_, rfl⟩, h₁.world⟩
  · simp only [hget]
    exact ⟨⟨_, rfl⟩, h₁.world⟩

/-- What is seen of a call that sets something. -/
theorem safe_setting (name : String) (v : Setting) :
    (under .shell f).Safe (DeviceCall.set name v).method (fun out s' =>
      s'.world.resources = s.world.resources ∧ s'.world.settings ∈
        leavesOpen s.world.resources (.set name v, .of out) s.world.settings) s := by
  rw [method_set, Contract.safe_bind]
  cases huri : s.world.resources.uri name with
  | none =>
    refine (safe_put_unknown huri v.node).mono ?_
    rintro out s' ⟨⟨ex, rfl⟩, hw⟩
    simp [leavesOpen, Ending.of, huri, hw]
  | some uri =>
    have hunchanged : ∀ ex (s' : State F), s'.world = s.world →
        s'.world.resources = s.world.resources ∧ s'.world.settings ∈
          leavesOpen s.world.resources (.set name v, .of (.error ex)) s.world.settings := by
      intro ex s' hw
      simp [leavesOpen, Ending.of, huri, hw]
    have hserved : ∀ s' : State F, s'.world = (s.world.serve uri v.node).2 →
        s'.world.resources = s.world.resources ∧
          s'.world.settings = s.world.settings.put uri v := by
      intro s' hw
      rw [hw]
      exact ⟨World.serve_resources _, settings_serve _ uri v⟩
    refine CoapManager.safe_put_always huri (fun why s' _ hw => hunchanged _ s' hw)
      (fun message s' _ hw _ => hunchanged _ s' hw) (fun message s' _ hw _ => ?_)
      fun code text s' _ hreply hw _ => ⟨fun hcode => ?_, fun _ message => ?_⟩
    · obtain ⟨hres, hset⟩ := hserved s' hw
      exact ⟨hres, by simp [leavesOpen, Ending.of, huri, hset]⟩
    · obtain ⟨hres, hset⟩ := hserved s' hw
      rw [reply_serve hreply] at hcode
      exact ⟨hres, by simp [leavesOpen, Ending.of, huri, hset, hcode]⟩
    · obtain ⟨hres, hset⟩ := hserved s' hw
      exact ⟨hres, by simp [leavesOpen, Ending.of, huri, hset]⟩

/-- The faults spare everything. -/
def Lossless (f : Action F → Fault) : Prop := ∀ a, f a = .none

/-- `getGateOpening` changes nothing, and shows a level if there is one and
nothing is lost. -/
theorem safe_getGateOpening (gate : String) :
    (under .shell f).Safe (DeviceCall.getGateOpening gate).method (fun out s' =>
      s'.world = s.world ∧
        ((∃ ex, out = .error ex) ∧
            (Lossless f → ∀ L, (s.world.resources.uri gate).bind s.world.settings ≠ some (.level L)) ∨
          ∃ L, out = .ok (some (.level L)) ∧
            (s.world.resources.uri gate).bind s.world.settings = some (.level L) ∧
            ∃ uri, f (.clientGet uri) = .none)) s := by
  change (under .shell f).Safe (CoapManager.getGateOpening gate >>= fun L =>
    Prog.pure (some (Setting.level L))) _ s
  unfold CoapManager.getGateOpening CoapManager.URILookup
  rw [Contract.safe_bind, Contract.safe_tryCatch, Contract.safe_bind, Contract.safe_bind]
  refine DataManager.safe_lookupResource_always (fun why s₁ hwhy h₁ => ?_) fun s₁ h₁ => ?_
  · exact ⟨h₁.world, Or.inl ⟨⟨_, rfl⟩, fun hf => by simp [hf (.getResource gate)] at hwhy⟩⟩
  cases hget : s.world.resources.get gate with
  | none => exact ⟨h₁.world, Or.inl ⟨⟨_, rfl⟩, fun _ L => by simp [ResourceTable.uri, hget]⟩⟩
  | some row =>
    have huri : s.world.resources.uri gate = some row.uri := by simp [ResourceTable.uri, hget]
    simp only [Prog.pure_eq, Contract.safe_pure, perform, Prog.perform_bind, under_act, handler,
      World.perform, h₁.world, huri, Option.bind_some]
    rcases s.world.clientGet_cases row.uri (f (.clientGet row.uri)) with
      ⟨hno, hwhy⟩ | ⟨m, hio, hwhy⟩ | ⟨d, hd, hr, hnone⟩
    · rw [hno]
      exact ⟨rfl, Or.inl ⟨⟨_, rfl⟩, fun hf L => by simp [World.settings, hwhy (hf _)]⟩⟩
    · rw [hio]
      exact ⟨rfl, Or.inl ⟨⟨_, rfl⟩, fun hf => absurd (hf _) hwhy⟩⟩
    · rw [hr, readOpeningLevel_device]
      cases hset : d.setting with
      | level L =>
        exact ⟨rfl, Or.inr ⟨L, rfl, by simp [World.settings, hd, hset], row.uri, hnone⟩⟩
      | state b => exact ⟨rfl, Or.inl ⟨⟨_, rfl⟩, fun _ L => by simp [World.settings, hd, hset]⟩⟩

/-- `getAlarmStatus` neither. -/
theorem safe_getAlarmStatus (uri : Uri) :
    (under .shell f).Safe (DeviceCall.getAlarmStatus uri).method (fun out s' =>
      s'.world = s.world ∧
        ((∃ ex, out = .error ex) ∧ (Lossless f → ∀ b, s.world.settings uri ≠ some (.state b)) ∨
          ∃ b, out = .ok (some (.state b)) ∧ s.world.settings uri = some (.state b) ∧
            f (.clientGet uri) = .none)) s := by
  change (under .shell f).Safe (CoapManager.getAlarmStatus uri >>= fun b =>
    Prog.pure (some (Setting.state b))) _ s
  unfold CoapManager.getAlarmStatus
  rw [Contract.safe_bind, Contract.safe_tryCatch]
  simp only [perform, Prog.perform_bind, under_act, handler, World.perform]
  rcases s.world.clientGet_cases uri (f (.clientGet uri)) with
    ⟨hno, hwhy⟩ | ⟨m, hio, hwhy⟩ | ⟨d, hd, hr, hnone⟩
  · rw [hno]
    exact ⟨rfl, Or.inl ⟨⟨_, rfl⟩, fun hf b => by simp [World.settings, hwhy (hf _)]⟩⟩
  · rw [hio]
    exact ⟨rfl, Or.inl ⟨⟨_, rfl⟩, fun hf => absurd (hf _) hwhy⟩⟩
  · rw [hr, readState_device]
    cases hset : d.setting with
    | level L => exact ⟨rfl, Or.inl ⟨⟨_, rfl⟩, fun _ b => by simp [World.settings, hd, hset]⟩⟩
    | state b => exact ⟨rfl, Or.inr ⟨b, rfl, by simp [World.settings, hd, hset], hnone⟩⟩

/-- **One call**, whatever goes wrong, leaves the registry as it was and
the devices in settings that its ending leaves open. -/
theorem exchange_sound {r : DeviceReport} {s' : State F} (h : Exchange s r s') :
    s'.world.resources = s.world.resources ∧
      s'.world.settings ∈ leavesOpen s.world.resources r s.world.settings := by
  obtain ⟨c, ending⟩ := r
  obtain ⟨f, hending, rfl⟩ := h
  dsimp only at hending ⊢
  subst hending
  cases c with
  | set name v => exact run_of_safe (safe_setting name v)
  | getGateOpening gate =>
    obtain ⟨hw, ⟨⟨ex, hout⟩, -⟩ | ⟨L, hout, hset, -⟩⟩ :=
      run_of_safe (f := f) (safe_getGateOpening (s := s) gate)
    · simp [hw, hout, Ending.of, leavesOpen]
    · simp [hw, hout, Ending.of, leavesOpen, hset]
  | getAlarmStatus uri =>
    obtain ⟨hw, ⟨⟨ex, hout⟩, -⟩ | ⟨b, hout, hset, -⟩⟩ :=
      run_of_safe (f := f) (safe_getAlarmStatus (s := s) uri)
    · simp [hw, hout, Ending.of, leavesOpen]
    · simp [hw, hout, Ending.of, leavesOpen, hset]

/-- A call that ends as wanted is an exchange. -/
theorem exchange_of_safe {c : DeviceCall} {p : DeviceSettings} {e : Ending} (f : Action F → Fault)
    (h : (under .shell f).Safe c.method (fun out s' => Ending.of out = e ∧
      s'.world.resources = s.world.resources ∧ s'.world.settings = p) s) :
    ∃ s', Exchange s (c, e) s' ∧ s'.world.resources = s.world.resources ∧ s'.world.settings = p :=
  ⟨_, ⟨f, (run_of_safe h).1, rfl⟩, (run_of_safe h).2⟩

/-- The request of every call can be lost. -/
theorem exchange_lost (s : State F) (c : DeviceCall) :
    ∃ s', Exchange s (c, .threw) s' ∧ s'.world.resources = s.world.resources ∧
      s'.world.settings = s.world.settings := by
  refine exchange_of_safe (fun _ => .requestLost) ?_
  refine Contract.Safe.mono (Q := fun out s' => (∃ ex, out = .error ex) ∧ s'.world = s.world) ?_ ?_
  · cases c with
    | set name v =>
      rw [method_set, Contract.safe_bind]
      cases huri : s.world.resources.uri name with
      | none =>
        refine (safe_put_unknown huri v.node).mono ?_
        rintro out s' ⟨⟨ex, rfl⟩, hw⟩
        exact ⟨⟨ex, rfl⟩, hw⟩
      | some uri =>
        refine CoapManager.safe_put_always huri nofun (fun message s' _ hw _ => ⟨⟨_, rfl⟩, hw⟩)
          nofun nofun
    | getGateOpening gate =>
      refine (safe_getGateOpening gate).mono ?_
      rintro out s' ⟨hw, ⟨hex, -⟩ | ⟨L, -, -, uri, hnone⟩⟩
      · exact ⟨hex, hw⟩
      · cases hnone
    | getAlarmStatus uri =>
      refine (safe_getAlarmStatus uri).mono ?_
      rintro out s' ⟨hw, ⟨hex, -⟩ | ⟨b, -, -, hnone⟩⟩
      · exact ⟨hex, hw⟩
      · cases hnone
  · rintro out s' ⟨⟨ex, rfl⟩, hw⟩
    rw [hw]
    exact ⟨rfl, rfl, rfl⟩

/-- So can the answer to a call that sets something. -/
theorem exchange_unanswered {name : String} {uri : Uri} (v : Setting)
    (huri : s.world.resources.uri name = some uri) :
    ∃ s', Exchange s (.set name v, .threw) s' ∧ s'.world.resources = s.world.resources ∧
      s'.world.settings = s.world.settings.put uri v := by
  refine exchange_of_safe (fun _ => .responseLost) ?_
  rw [method_set, Contract.safe_bind]
  refine CoapManager.safe_put_always huri nofun (fun message s' hwhy hw _ => ?_)
    (fun message s' _ hw _ => ?_) nofun
  · have hdev : s.world.devices uri = none := hwhy.resolve_left fun h => h.2 rfl
    rw [hw]
    exact ⟨rfl, rfl, by simp [DeviceSettings.put, World.settings, hdev]⟩
  · rw [hw]
    exact ⟨rfl, World.serve_resources _, settings_serve _ uri v⟩

/-- A setting that is taken can be confirmed. -/
theorem exchange_confirmed {name : String} {uri : Uri} {v : Setting}
    (huri : s.world.resources.uri name = some uri)
    (htakes : (s.world.settings uri).any (·.takes v) = true) :
    ∃ s', Exchange s (.set name v, .returned none) s' ∧
      s'.world.resources = s.world.resources ∧
      s'.world.settings = s.world.settings.put uri v := by
  refine exchange_of_safe (fun _ => .none) ?_
  rw [method_set, Contract.safe_bind]
  refine CoapManager.safe_put_always huri nofun (fun message s' hwhy hw _ => ?_) nofun
    fun code text s' _ hreply hw _ => ?_
  · have hdev : s.world.devices uri = none := hwhy.resolve_left fun h => h.1 rfl
    simp [World.settings, hdev] at htakes
  · rw [reply_serve hreply, htakes]
    refine ⟨fun _ => ⟨rfl, ?_, ?_⟩, nofun⟩
    · rw [hw, World.serve_resources]
    · rw [hw, settings_serve]

/-- **Every setting left open is reached** by a call with this ending. -/
theorem exchange_complete {r : DeviceReport} {p : DeviceSettings}
    (h : p ∈ leavesOpen s.world.resources r s.world.settings) :
    ∃ s', Exchange s r s' ∧ s'.world.resources = s.world.resources ∧ s'.world.settings = p := by
  obtain ⟨c, ending⟩ := r
  cases c with
  | set name v =>
    cases huri : s.world.resources.uri name with
    | none =>
      cases ending with
      | threw =>
        obtain rfl : p = s.world.settings := by simpa [leavesOpen, huri] using h
        exact exchange_lost s _
      | returned shown => cases shown <;> simp [leavesOpen, huri] at h
    | some uri =>
      cases ending with
      | threw =>
        rcases (by simpa [leavesOpen, huri] using h :
          p = s.world.settings ∨ p = s.world.settings.put uri v) with rfl | rfl
        · exact exchange_lost s _
        · exact exchange_unanswered v huri
      | returned shown =>
        cases shown with
        | some x => simp [leavesOpen] at h
        | none =>
          obtain ⟨htakes, rfl⟩ : (s.world.settings uri).any (·.takes v) = true ∧
              p = s.world.settings.put uri v := by simpa [leavesOpen, huri] using h
          exact exchange_confirmed huri htakes
  | getGateOpening gate =>
    cases ending with
    | threw =>
      obtain rfl : p = s.world.settings := by simpa [leavesOpen] using h
      exact exchange_lost s _
    | returned shown =>
      rcases shown with _ | L | b
      · simp [leavesOpen] at h
      · obtain ⟨hset, rfl⟩ : (s.world.resources.uri gate).bind s.world.settings = some (.level L) ∧
            p = s.world.settings := by simpa [leavesOpen] using h
        refine exchange_of_safe (fun _ => .none) ((safe_getGateOpening gate).mono ?_)
        rintro out s' ⟨hw, ⟨-, hno⟩ | ⟨L', rfl, hset', -⟩⟩
        · exact absurd hset (hno (fun _ => rfl) L)
        · rw [hset] at hset'
          cases hset'
          rw [hw]
          exact ⟨rfl, rfl, rfl⟩
      · simp [leavesOpen] at h
  | getAlarmStatus uri =>
    cases ending with
    | threw =>
      obtain rfl : p = s.world.settings := by simpa [leavesOpen] using h
      exact exchange_lost s _
    | returned shown =>
      rcases shown with _ | L | b
      · simp [leavesOpen] at h
      · simp [leavesOpen] at h
      · obtain ⟨hset, rfl⟩ : s.world.settings uri = some (.state b) ∧ p = s.world.settings := by
          simpa [leavesOpen] using h
        refine exchange_of_safe (fun _ => .none) ((safe_getAlarmStatus uri).mono ?_)
        rintro out s' ⟨hw, ⟨-, hno⟩ | ⟨b', rfl, hset', -⟩⟩
        · exact absurd hset (hno (fun _ => rfl) b)
        · rw [hset] at hset'
          cases hset'
          rw [hw]
          exact ⟨rfl, rfl, rfl⟩

/-! ## §4 Sequences of calls -/

/-- The registry is `t`, and the devices have the settings `p`. -/
structure Holding (t : ResourceTable) (s : State F) (p : DeviceSettings) : Prop where
  resources : s.world.resources = t
  settings : s.world.settings = p

variable {t : ResourceTable} {p : DeviceSettings}

theorem Holding.sound (h : Holding t s p) {r : DeviceReport} {s' : State F} (hr : Exchange s r s') :
    ∃ q ∈ leavesOpen t r p, Holding t s' q := by
  obtain ⟨rfl, rfl⟩ := h
  obtain ⟨hres, hset⟩ := exchange_sound hr
  exact ⟨_, hset, hres, rfl⟩

theorem Holding.complete (h : Holding t s p) {r : DeviceReport} {q : DeviceSettings}
    (hq : q ∈ leavesOpen t r p) : ∃ s', Exchange s r s' ∧ Holding t s' q := by
  obtain ⟨rfl, rfl⟩ := h
  obtain ⟨s', hr, hres, hset⟩ := exchange_complete hq
  exact ⟨s', hr, hres, hset⟩

/-- No sequence of these calls changes the registry. -/
theorem seen_resources {rs : List DeviceReport} {s' : State F} (h : Seen Exchange s rs s') :
    s'.world.resources = s.world.resources := by
  refine h.keeps (P := fun s' => s'.world.resources = s.world.resources) ?_ rfl
  exact fun _ _ s₁ s₂ hs hr => (exchange_sound hr).1.trans hs

/-- **What the answers tell.** After any sequence of calls under any
faults, with any registry and any devices: the devices can be in the
settings `p` exactly if `p` is among those that the calls and their
endings leave open. -/
theorem devices_known_iff (s : State F) (rs : List DeviceReport) (p : DeviceSettings) :
    p ∈ possible (leavesOpen s.world.resources) rs [s.world.settings] ↔
      ∃ s', Seen Exchange s rs s' ∧ s'.world.settings = p := by
  have hknown : p ∈ possible (leavesOpen s.world.resources) rs [s.world.settings] ↔
      ∃ s', Seen Exchange s rs s' ∧ Holding s.world.resources s' p :=
    known_iff (fun _ _ _ hx hy => hx.settings.symm.trans hy.settings)
      (fun _ _ _ _ h hr => h.sound hr) (fun _ _ _ _ h hq => h.complete hq) ⟨rfl, rfl⟩
  rw [hknown]
  constructor
  · exact fun ⟨s', hseen, hholding⟩ => ⟨s', hseen, hholding.settings⟩
  · exact fun ⟨s', hseen, hset⟩ => ⟨s', hseen, seen_resources hseen, hset⟩

/-- A call that does not set a device leaves it as it was. -/
theorem leavesOpen_of_ne {r : DeviceReport} {q : DeviceSettings} {uri : Uri}
    (hq : q ∈ leavesOpen t r p)
    (hr : ∀ name v, r.1 = .set name v → t.uri name ≠ some uri) : q uri = p uri := by
  obtain ⟨c, ending⟩ := r
  rcases leavesOpen_cases hq with rfl | ⟨name, v, uri', rfl, huri', rfl⟩
  · rfl
  · have hne : uri ≠ uri' := fun heq => hr name v rfl (heq ▸ huri')
    unfold DeviceSettings.put
    split
    · rw [Function.update_of_ne hne]
    · rfl

/-- **A call that returned is in force** until the device is addressed
again: whatever is read or set elsewhere in the meantime, and whatever is
lost on the way. -/
theorem confirmed_stays {before later : List DeviceReport} {name : String} {uri : Uri} {v : Setting}
    (huri : s.world.resources.uri name = some uri)
    (hlater : ∀ r ∈ later, ∀ name' v', r.1 = .set name' v' →
      s.world.resources.uri name' ≠ some uri)
    {s' : State F}
    (h : Seen Exchange s (before ++ (.set name v, .returned none) :: later) s') :
    s'.world.settings uri = some v := by
  obtain ⟨s₁, hbefore, hrest⟩ := h.split
  cases hrest with
  | @cons _ s₂ _ _ _ hset hafter =>
    have hres₁ := seen_resources hbefore
    obtain ⟨hres₂, hopen⟩ := exchange_sound hset
    have htaken : s₂.world.settings uri = some v := by
      obtain ⟨htakes, hput⟩ : (s₁.world.settings uri).any (·.takes v) = true ∧
          s₂.world.settings = s₁.world.settings.put uri v := by
        simpa [leavesOpen, hres₁, huri] using hopen
      simp [hput, DeviceSettings.put, htakes]
    have hend := hafter.keeps (P := fun s' => s'.world.resources = s.world.resources ∧
      s'.world.settings uri = some v) ?_ ⟨hres₂.trans hres₁, htaken⟩
    · exact hend.2
    · rintro r hr s₃ s₄ ⟨hres, hv⟩ hstep
      obtain ⟨hres', hq⟩ := exchange_sound hstep
      rw [hres] at hq
      exact ⟨hres'.trans hres, (leavesOpen_of_ne hq (hlater r hr)).trans hv⟩

end DamMonitoring.Controller
