/-
DamMonitoring.Controller.GateProtocol — `CoapManager` and the gates of
`mote-1`, end to end.

A sequence of `setGateOpening` and `getGateOpening` calls goes through the
registry, the Java encoder, the handlers of the firmware and the Java
decoder, with nothing lost on the way. `gate_protocol` compares it with
what it is for: a pair of registers that take the levels `0..100`.

  §1 the deployment
  §2 one exchange
  §3 one call
  §4 sequences of calls
-/
import DamMonitoring.Controller.Demo
import DamMonitoring.Motes.Mote1

namespace DamMonitoring.Controller

open Program Java Motes Persistence Collector

variable {F : Type}

/-! ## §1 Deployment -/

/-- The URI `mote-1` registers for a gate. -/
def gateUri (host : String) (o : Outflow) : Uri := actuatorUri host ("gate/" ++ o.name)

theorem gateUri_ne (host : String) {o o' : Outflow} (h : o' ≠ o) :
    gateUri host o' ≠ gateUri host o := by
  intro heq
  have hname : o'.name = o.name := by
    simpa [gateUri, actuatorUri, String.append_right_inj, String.append_assoc] using heq
  cases o <;> cases o' <;> first | exact h rfl | exact absurd hname (by decide)

/-- Both gates of `m` are registered and served at `host`. -/
structure Hosts (host : String) (m : Mote1) (w : World F) : Prop where
  rows : ∀ o : Outflow, w.resources.uri o.name = some (gateUri host o)
  devices : ∀ o, w.devices (gateUri host o) = some (m.device o)

theorem mote1Registration_distinct (host : String) :
    (mote1Registration host).Pairwise fun r r' => fold r.name ≠ fold r'.name := by
  have hnames : [fold "outflow-1", fold "outflow-2", fold "alarm"].Pairwise (· ≠ ·) := by
    decide
  exact List.pairwise_map.mp hnames

theorem gateResource_mem (host : String) (o : Outflow) :
    ∃ tag, gateResource o.name tag (gateUri host o) ∈ mote1Registration host := by
  have h₁ : "gate/" ++ "outflow-1" = "gate/outflow-1" := by decide
  have h₂ : "gate/" ++ "outflow-2" = "gate/outflow-2" := by decide
  cases o with
  | outflow1 =>
    refine ⟨"Primary", ?_⟩
    simp only [gateUri, Outflow.name, h₁, mote1Registration, List.mem_cons, true_or]
  | outflow2 =>
    refine ⟨"Emergency", ?_⟩
    simp only [gateUri, Outflow.name, h₂, mote1Registration, List.mem_cons, true_or, or_true]

/-- A `mote-1` that has booted and registered is such a deployment,
whatever was registered before. -/
theorem hosts_of_registration {t : ResourceTable} {w : World F} {host : String}
    {linkAddr : LinkAddr} (hrows : t.addResources (mote1Registration host) = some w.resources)
    (hdevices : ∀ o, w.devices (gateUri host o) = some ((Mote1.boot linkAddr).device o)) :
    Hosts host (.boot linkAddr) w where
  rows o := by
    obtain ⟨tag, hrow⟩ := gateResource_mem host o
    have huri := ResourceTable.uri_addResources hrows (mote1Registration_distinct host) hrow
    rwa [gateResource] at huri
  devices := hdevices

/-! ## §2 Exchanges -/

variable {host : String} {m : Mote1} {w : World F}

/-- A PUT is served by the firmware. -/
theorem Hosts.serve (h : Hosts host m w) (o : Outflow) (payload : ObjectNode) :
    ∃ r m', m.put o.path (.json payload) = some (r, m') ∧
      (w.serve (gateUri host o) payload).1 = some r ∧
      Hosts host m' (w.serve (gateUri host o) payload).2 := by
  obtain ⟨m', hput, hself, hother⟩ := m.put_eq o (.json payload)
  refine ⟨_, m', hput, ?_, fun o' => ?_, fun o' => ?_⟩
  · simp only [World.serve, h.devices o]
  · rw [World.serve_resources]
    exact h.rows o'
  · by_cases ho' : o' = o
    · subst ho'
      simp [World.serve, h.devices o', hself]
    · rw [w.serve_devices_of_ne (gateUri_ne host ho'), h.devices o', hother o' ho']

/-- A PUT of an opening level: the gate it addresses obeys, if it can. -/
theorem Hosts.serve_openingLevel (h : Hosts host m w) (o : Outflow) (L : Int) :
    ∃ code text m', (w.serve (gateUri host o) (ResGate.openingLevelNode L)).1 =
        some (.message code text) ∧
      code.isSuccess = decide (ResGate.Accepts L) ∧
      Hosts host m' (w.serve (gateUri host o) (ResGate.openingLevelNode L)).2 ∧
      ∀ o', m'.level o' = if o' = o ∧ ResGate.Accepts L then L else m.level o' := by
  obtain ⟨r, m', hput, hreply, hhosts⟩ := h.serve o (ResGate.openingLevelNode L)
  obtain ⟨code, text, m'', hput', hsuccess, hlevels⟩ := m.put_openingLevel o L
  obtain ⟨rfl, rfl⟩ : r = .message code text ∧ m' = m'' := by
    rw [hput] at hput'
    simpa using hput'
  exact ⟨code, text, m', hreply, hsuccess, hhosts, hlevels⟩

/-- A GET is served by the firmware. -/
theorem Hosts.clientGet (h : Hosts host m w) (hm : m.InRange) (o : Outflow) :
    ∃ r, m.get o.path = some r ∧ w.clientGet (gateUri host o) .none = .response r := by
  refine ⟨_, m.get_eq hm o, ?_⟩
  simp only [World.clientGet, h.devices o]

/-- The last segment is what stands after the last slash. -/
theorem lastSegment_append (text name : String) (hne : name ≠ "") (hname : '/' ∉ name.toList) :
    CoapManager.lastSegment (text ++ "/" ++ name) = name := by
  have hslash : ∀ c ∈ name.toList.reverse, c ≠ '/' := by
    rintro c hc rfl
    exact hname (List.mem_reverse.mp hc)
  have hdrop : (name.toList.reverse ++ ('/' :: text.toList.reverse)).dropWhile (· = '/') =
      name.toList.reverse ++ ('/' :: text.toList.reverse) := by
    cases hrev : name.toList.reverse with
    | nil => exact absurd (by simpa using hrev) hne
    | cons c cs =>
      have hc : c ≠ '/' := hslash c (by rw [hrev]; exact List.mem_cons_self)
      simp [hc]
  have htake : (name.toList.reverse ++ ('/' :: text.toList.reverse)).takeWhile (· ≠ '/') =
      name.toList.reverse := by
    rw [List.takeWhile_append_of_pos (by simpa using hslash)]
    simp
  unfold CoapManager.lastSegment
  rw [String.toList_append, String.toList_append, List.reverse_append, List.reverse_append]
  simp only [String.reduceToList, List.reverse_cons, List.reverse_nil, List.nil_append,
    List.singleton_append, hdrop, htake, List.reverse_reverse, String.ofList_toList]

/-- The Java decoder reads the record a gate prints. -/
theorem readOpeningLevel_get (addr : LinkAddr) (g : ResGate.GateT) :
    (CoapManager.readOpeningLevel (.response (ResGate.resGetHandler addr g)) : Java F Int) =
      .pure g.openingLevel := by
  have hname : CoapManager.lastSegment (urn addr ++ "opening_level") = "opening_level" :=
    lastSegment_append _ "opening_level" (by decide) (by decide)
  simp [CoapManager.readOpeningLevel, ResGate.resGetHandler, ResponseCode.isSuccess,
    CoapManager.getMember, CoapManager.asText, CoapManager.asInt, deref, hname]

/-! ## §3 Calls -/

inductive GateCall where
  | set (o : Outflow) (level : Int)
  | get (o : Outflow)

/-- The call; the message that `setGateOpening` returns is not looked at. -/
def GateCall.method : GateCall → Java F (Option Int)
  | .set o level => do
      let _ ← CoapManager.setGateOpening o.name level
      pure none
  | .get o => do
      let level ← CoapManager.getGateOpening o.name
      pure (some level)

variable [JavaFloat F] {s : State F}

/-- One call over a lossless transport. -/
def gateCall (c : GateCall) (s : State F) : Except JException (Option Int) × State F :=
  run .shell (fun _ => .none) c.method s

omit [JavaFloat F] in
theorem answering_none : Answering (F := F) fun _ => .none := by
  intro _ _ message h
  cases h

/-- `setGateOpening` is obeyed, or refused and without effect. -/
theorem set_ends (h : Hosts host m s.world) (o : Outflow) (L : Int) :
    ∃ m', Hosts host m' (gateCall (.set o L) s).2.world ∧
      (∀ o', m'.level o' = if o' = o ∧ ResGate.Accepts L then L else m.level o') ∧
      (ResGate.Accepts L → (gateCall (.set o L) s).1 = .ok none) ∧
      (¬ResGate.Accepts L → ∃ message,
        (gateCall (.set o L) s).1 = .error (.coapException message)) := by
  obtain ⟨code, text, m', hreply, hsuccess, hhosts, hlevels⟩ := h.serve_openingLevel o L
  refine run_of_safe (Q := fun out s' => ∃ m', Hosts host m' s'.world ∧
    (∀ o', m'.level o' = if o' = o ∧ ResGate.Accepts L then L else m.level o') ∧
    (ResGate.Accepts L → out = .ok none) ∧
    (¬ResGate.Accepts L → ∃ message, out = .error (.coapException message))) ?_
  change (under .shell fun _ => .none).Safe
    (CoapManager.put o.name (ResGate.openingLevelNode L) >>= fun _ => Prog.pure none) _ s
  rw [Contract.safe_bind]
  refine CoapManager.safe_put answering_none (h.rows o) ?_ ?_ ?_
  · rintro message s' (⟨hne, -⟩ | hdevice) _ _
    · exact absurd rfl hne
    · rw [h.devices o] at hdevice
      cases hdevice
  · intro message s' hlost
    cases hlost
  · intro code' text' s' _ hreply' hworld _
    rw [hreply] at hreply'
    cases hreply'
    rw [hsuccess]
    refine ⟨fun hacc => ?_, fun hrefused message => ?_⟩
    · have hacc : ResGate.Accepts L := of_decide_eq_true hacc
      exact ⟨m', hworld ▸ hhosts, hlevels, fun _ => rfl, fun hno => absurd hacc hno⟩
    · have hrefused : ¬ResGate.Accepts L := of_decide_eq_false hrefused
      exact ⟨m', hworld ▸ hhosts, hlevels, fun hacc => absurd hacc hrefused,
        fun _ => ⟨message, rfl⟩⟩

/-- `getGateOpening` returns the level of the gate. -/
theorem get_ends (h : Hosts host m s.world) (hm : m.InRange) (o : Outflow) :
    Hosts host m (gateCall (.get o) s).2.world ∧
      (gateCall (.get o) s).1 = .ok (some (m.level o)) := by
  obtain ⟨row, hrow, huri⟩ := Option.map_eq_some_iff.mp (h.rows o)
  obtain ⟨r, hget, hanswer⟩ := h.clientGet hm o
  obtain rfl : r = (m.device o).get := by
    rw [m.get_eq hm o] at hget
    exact (Option.some.inj hget).symm
  refine run_of_safe (Q := fun out s' => Hosts host m s'.world ∧ out = .ok (some (m.level o))) ?_
  change (under .shell fun _ => .none).Safe
    (CoapManager.getGateOpening o.name >>= fun level => Prog.pure (some level)) _ s
  unfold CoapManager.getGateOpening CoapManager.URILookup
  rw [Contract.safe_bind, Contract.safe_tryCatch, Contract.safe_bind, Contract.safe_bind]
  refine DataManager.safe_lookupResource answering_none fun s₁ h₁ => ?_
  simp only [hrow, Prog.pure_eq, Contract.safe_pure, perform, Prog.perform_bind, under_act, handler,
    World.perform, h₁.world, huri, hanswer]
  have hread := readOpeningLevel_get (F := F) m.linkAddr (m.gates o.index)
  simp only [Mote1.device, Device.get, hread, Contract.safe_pure]
  exact ⟨h, rfl⟩

/-! ## §4 Sequences -/

/-- The state after a sequence of calls, oldest first. -/
def after (history : List GateCall) (s : State F) : State F :=
  history.foldl (fun s c => (gateCall c s).2) s

/-- What one call makes of the level of `o`. -/
def accept (o : Outflow) (level : Int) : GateCall → Int
  | .set o' L => if o = o' ∧ 0 ≤ L ∧ L ≤ 100 then L else level
  | .get _ => level

/-- The last level accepted for `o`, 0 if there is none. -/
def lastAccepted (o : Outflow) (history : List GateCall) : Int := history.foldl (accept o) 0

/-- How a call has to end after `history`. -/
def Answers (history : List GateCall) : GateCall → Except JException (Option Int) → Prop
  | .set _ L, out => (0 ≤ L ∧ L ≤ 100 → out = .ok none) ∧
      (¬(0 ≤ L ∧ L ≤ 100) → ∃ message, out = .error (.coapException message))
  | .get o, out => out = .ok (some (lastAccepted o history))

/-- The firmware holds what has been accepted. -/
def Holds (host : String) (history : List GateCall) (s : State F) : Prop :=
  ∃ m, Hosts host m s.world ∧ m.InRange ∧ ∀ o, m.level o = lastAccepted o history

omit [JavaFloat F] in
theorem lastAccepted_append (o : Outflow) (history : List GateCall) (c : GateCall) :
    lastAccepted o (history ++ [c]) = accept o (lastAccepted o history) c := by
  simp [lastAccepted]

/-- **One call** is answered as its history demands, and is history. -/
theorem Holds.call {history : List GateCall} (h : Holds host history s) (c : GateCall) :
    Answers history c (gateCall c s).1 ∧ Holds host (history ++ [c]) (gateCall c s).2 := by
  obtain ⟨m, hhosts, hrange, hlevels⟩ := h
  cases c with
  | set o L =>
    obtain ⟨m', hhosts', hlevels', hok, herr⟩ := set_ends hhosts o L
    refine ⟨⟨hok, herr⟩, m', hhosts', fun o' => ?_, fun o' => ?_⟩
    · change ResGate.Accepts (m'.level o')
      rw [hlevels']
      split
      · next hset => exact hset.2
      · exact hrange o'
    · rw [lastAccepted_append, hlevels', hlevels o']
      rfl
  | get o =>
    obtain ⟨hhosts', hanswer⟩ := get_ends hhosts hrange o
    refine ⟨?_, m, hhosts', hrange, fun o' => ?_⟩
    · rw [Answers, hanswer, hlevels o]
    · rw [lastAccepted_append, hlevels o']
      rfl

theorem Holds.after {history later : List GateCall} (h : Holds host history s) :
    Holds host (history ++ later) (after later s) := by
  induction later generalizing history s with
  | nil => simpa [Controller.after] using h
  | cons c later ih =>
    have hnext := ih (h.call c).2
    rwa [List.append_assoc] at hnext

/-- **Controller and firmware speak the same protocol.** From a freshly
booted, registered `mote-1` with any link address, after any sequence of
calls: `setGateOpening` returns normally exactly for the levels `0..100`
and throws a `CoapException` for every other integer, and `getGateOpening`
returns the last level accepted for its gate. -/
theorem gate_protocol (linkAddr : LinkAddr) (h : Hosts host (.boot linkAddr) s.world)
    (history : List GateCall) (c : GateCall) :
    Answers history c (gateCall c (after history s)).1 := by
  have hboot : Holds host [] s := ⟨_, h, Mote1.boot_inRange linkAddr, fun _ => rfl⟩
  have hafter : Holds host ([] ++ history) (Controller.after history s) := hboot.after
  exact (hafter.call c).1

/-- After 40 and the refused 101 the gate is at 40. -/
theorem gate_protocol_demo : (gateCall (.get .outflow1)
    (after [.set .outflow1 40, .set .outflow1 101] (demoState .MANUAL 0 0 false 50 20 20))).1 =
      .ok (some 40) := by
  have hhosts : Hosts demoAddr (.boot fun _ => 3)
      (demoState .MANUAL 0 0 false 50 20 20).world := by
    refine ⟨fun o => ?_, fun o => ?_⟩
    · cases o <;> rfl
    · cases o <;> rfl
  exact gate_protocol _ hhosts [.set .outflow1 40, .set .outflow1 101] (.get .outflow1)

end DamMonitoring.Controller
