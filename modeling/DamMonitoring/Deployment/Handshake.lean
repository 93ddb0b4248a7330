/-
DamMonitoring.Deployment.Handshake — how `mote-1` gets into the registry.

`mote-1` posts its resources to the Collector until a response to the post
it is waiting for says 2.01, and serves them from then on. A post it has
given up is still on its way, and may be handled much later: then the
registry says again that everything is closed. `registration_agrees_iff`
says exactly in which runs this does no harm.

Messages overtake each other, and a message that is never delivered is
lost. Each post has a message id of its own, under which it is handled
once and its response is recognised.

  §1 the parties
  §2 gate operations, before and after
  §3 what stays true
  §4 registry and gates
-/
import DamMonitoring.Controller.NormalBand
import DamMonitoring.Deployment.Plant

namespace DamMonitoring.Deployment

open Program Java Persistence Collector Controller ControlLogic
open Motes hiding maxInflow

variable {F : Type} [JavaFloat F]

/-! ## §1 The parties -/

/-- `registered` is the variable of `mote-1`, `waiting` the message id of
its blocking request, if one is going on. A gate of `mote-1` has a server
in the world of the Controller once its resource has been activated. -/
structure Handshake (F : Type) where
  controller : State F
  registered : Bool
  waiting : Option Nat
  next : Nat
  posts : List Nat
  responses : List (Nat × Bool)

namespace Handshake

abbrev world (s : Handshake F) : World F := s.controller.world

/-- `mote-1` starts. -/
def start (w : World F) : Handshake F := ⟨⟨w, []⟩, false, none, 0, [], []⟩

/-- The servers of the resources that `coap_br_proc` activates. -/
def activated (host : String) (linkAddr : LinkAddr) (uri : Uri) : Option Device :=
  if uri = gateUri host .outflow1 then some ((Mote1.boot linkAddr).device .outflow1)
  else if uri = gateUri host .outflow2 then some ((Mote1.boot linkAddr).device .outflow2)
  else if uri = actuatorUri host "alarm" then some ⟨linkAddr, .alarm ResAlarm.boot⟩
  else none

inductive Event where
  /-- The loop in `coap_br_proc` sends its request. -/
  | post
  /-- `handlePOST`; `fails` if the session does. -/
  | handle (id : Nat) (fails : Bool)
  /-- `handle_coap_response`, if the response is the one waited for. -/
  | response (id : Nat) (created : Bool)
  /-- The request is given up. -/
  | timeout
  | reboot
  | operate (name : GateName) (op : GateOp)

/-- The table after `handlePOST`, and whether the answer is 2.01. -/
def register (host : String) (t : ResourceTable) (fails : Bool) : ResourceTable × Bool :=
  if fails then (t, false) else handlePOST t (mote1Registration host)

def step (host : String) (linkAddr : LinkAddr) (s : Handshake F) : Event → Option (Handshake F)
  | .post =>
    if s.registered = false ∧ s.waiting = none then
      some { s with waiting := some s.next, next := s.next + 1, posts := s.posts ++ [s.next] }
    else none
  | .handle id fails =>
    if id ∈ s.posts then
      let (resources, created) := register host s.world.resources fails
      some { s with
        controller := ⟨{ s.world with resources }, s.controller.log⟩
        posts := s.posts.erase id
        responses := s.responses ++ [(id, created)] }
    else none
  | .response id created =>
    if (id, created) ∈ s.responses then
      let responses := s.responses.erase (id, created)
      if s.waiting = some id then
        if created then
          let devices := fun uri => (activated host linkAddr uri).or (s.world.devices uri)
          some { s with
            controller := ⟨{ s.world with devices }, s.controller.log⟩
            registered := true
            waiting := none
            responses }
        else some { s with waiting := none, responses }
      else some { s with responses }  -- a response to a request that was given up
    else none
  | .timeout => if s.waiting = none then none else some { s with waiting := none }
  | .reboot =>
    let devices := fun uri =>
      if uri ∈ (mote1Registration host).map Resource.uri then none else s.world.devices uri
    some { s with
      controller := ⟨{ s.world with devices }, s.controller.log⟩
      registered := false
      waiting := none }
  | .operate name op => some { s with controller := op.operate name.text s.controller }

end Handshake

/-! ## §2 Gate operations -/

variable {host : String} {m : Mote1} {s : State F} {o : Outflow}

omit [JavaFloat F] in
theorem hosts_level {w : World F} (h : Hosts host m w) (o : Outflow) :
    w.level (gateUri host o) = some (m.level o) := by
  simp only [World.level, h.devices o, Mote1.device, Mote1.level]

omit [JavaFloat F] in
/-- A gate that is not served does not become served by a request. -/
theorem serve_devices_none {w : World F} {uri uri' : Uri} (h : w.devices uri = none)
    (payload : ObjectNode) : (w.serve uri' payload).2.devices uri = none := by
  by_cases huri : uri = uri'
  · subst huri
    simp only [World.serve, h]
  · rw [w.serve_devices_of_ne huri]
    exact h

theorem operate_devices_none {uri : Uri} (h : s.world.devices uri = none) (gateName : String)
    (op : GateOp) : (op.operate gateName s).world.devices uri = none := by
  have hsilent : Silent (under .shell fun _ => .none)
      fun s : State F => s.world.devices uri = none := by
    intro a ha
    refine keeps_perform fun s hs => ?_
    cases a <;> first | exact hs | cases ha
  have hkeeps := keeps_updateGate hsilent gateName op.next
    (fun uri' L => keeps_perform fun s hs => ?_) fun L => keeps_perform fun s hs => hs
  · rw [GateOp.operate, GateOp.method_eq]
    exact run_of_safe (Q := fun _ s' => s'.world.devices uri = none) (hkeeps s h)
  · rcases s.world.clientPut_cases uri' (ResGate.openingLevelNode L) with
      ⟨-, hput⟩ | ⟨code, text, -, hput⟩
    · simpa only [handler, World.perform, hput] using hs
    · simpa only [handler, World.perform, hput] using serve_devices_none hs _

/-- As long as the gates are not served, an operation changes nothing. -/
theorem operate_asleep (hrows : ∀ o : Outflow, s.world.resources.uri o.name = some (gateUri host o))
    (hdevices : ∀ o, s.world.devices (gateUri host o) = none) (name : GateName) (op : GateOp) :
    (op.operate name.text s).world = s.world := by
  have huri := (ResourceTable.uri_congr name.spells).trans (hrows name.gate)
  rw [GateOp.operate, GateOp.method_eq]
  refine run_of_safe (Q := fun _ s' => s'.world = s.world) ?_
  refine (safe_updateGate answering_none huri op.next).mono fun out s' h => ?_
  have hserve : ∀ payload, s.world.serve (gateUri host name.gate) payload = (none, s.world) := by
    intro payload
    simp only [World.serve, hdevices]
  cases h with
  | unset value quiet => exact quiet.world
  | kept value keep quiet => exact quiet.world
  | commanded value move result =>
    cases result with
    | lost why world puts => exact world
    | unanswered why world puts => cases why
    | rejected delivered reply refused world puts =>
      rw [hserve] at reply
      cases reply
    | unrecorded delivered reply accepted failed world puts => cases failed
    | done delivered reply accepted recorded world puts =>
      rw [hserve] at reply
      cases reply

/-- Once they are, registry and gates go together. -/
theorem operate_awake (hm : Hosts host m s.world)
    (hagree : ∀ o : Outflow, s.world.resources.value o.name = some (m.level o)) (name : GateName)
    (op : GateOp) : ∃ m', Hosts host m' (op.operate name.text s).world ∧
      ∀ o : Outflow, (op.operate name.text s).world.resources.value o.name = some (m'.level o) := by
  have huri := (ResourceTable.uri_congr name.spells).trans (hm.rows name.gate)
  rw [GateOp.operate, GateOp.method_eq]
  refine run_of_safe (Q := fun _ s' => ∃ m', Hosts host m' s'.world ∧
    ∀ o : Outflow, s'.world.resources.value o.name = some (m'.level o)) ?_
  refine (safe_updateGate answering_none huri op.next).mono fun out s' h => ?_
  cases h with
  | unset value quiet =>
    rw [quiet.world]
    exact ⟨m, hm, hagree⟩
  | kept value keep quiet =>
    rw [quiet.world]
    exact ⟨m, hm, hagree⟩
  | @commanded _ c level payload out value move result =>
    obtain ⟨L, -, hpair⟩ := Option.map_eq_some_iff.mp move
    obtain ⟨rfl, rfl⟩ := Prod.mk.inj hpair
    obtain ⟨code', text', m', hreply, hsuccess, hhosts, hlevels⟩ :=
      hm.serve_openingLevel name.gate L
    cases result with
    | lost why world puts =>
      rw [world]
      exact ⟨m, hm, hagree⟩
    | unanswered why world puts => cases why
    | rejected delivered reply refused world puts =>
      rw [hreply] at reply
      cases reply
      have hrefused : ¬ResGate.Accepts L := of_decide_eq_false (hsuccess.symm.trans refused)
      refine ⟨m', world ▸ hhosts, fun o => ?_⟩
      rw [world, World.serve_resources, hagree, hlevels, if_neg fun h => hrefused h.2]
    | unrecorded delivered reply accepted failed world puts => cases failed
    | done delivered reply accepted recorded world puts =>
      rw [hreply] at reply
      cases reply
      have haccepted : ResGate.Accepts L := of_decide_eq_true (hsuccess.symm.trans accepted)
      refine ⟨m', ⟨fun o => ?_, ?_⟩, fun o => ?_⟩
      · rw [world]
        simpa [World.setValue] using hm.rows o
      · rw [world]
        exact hhosts.devices
      · rw [world, hlevels]
        by_cases ho : o = name.gate
        · subst ho
          rw [if_pos ⟨rfl, haccepted⟩]
          have hrow : (s.world.serve (gateUri host name.gate)
              (ResGate.openingLevelNode L)).2.resources.uri name.text = some _ :=
            s.world.serve_resources ▸ huri
          exact ResourceTable.value_setValue_self hrow name.spells.symm L
        · have hfold : fold o.name ≠ fold name.text := fun hfold =>
            ho (fold_name_injective (hfold.trans name.spells))
          rw [if_neg fun h => ho h.1, World.setValue, ResourceTable.value_setValue_of_ne _ hfold,
            World.serve_resources, hagree]

/-! ## §3 What stays true -/

/-- The registry as a registration leaves it: every gate of `mote-1` is
there, and closed. -/
structure Announced (host : String) (t : ResourceTable) : Prop where
  uri : ∀ o : Outflow, t.uri o.name = some (gateUri host o)
  value : ∀ o : Outflow, t.value o.name = some 0

namespace Handshake

theorem register_created {t t' : ResourceTable} {fails : Bool}
    (h : register host t fails = (t', true)) : Announced host t' := by
  cases fails with
  | true => cases h
  | false =>
    have hrows := handlePOST_created.mp h
    refine ⟨fun o => ?_, fun o => ?_⟩
    · obtain ⟨tag, hrow⟩ := gateResource_mem host o
      have huri := ResourceTable.uri_addResources hrows (mote1Registration_distinct host) hrow
      rwa [gateResource] at huri
    · obtain ⟨tag, hrow⟩ := gateResource_mem host o
      have hvalue := ResourceTable.value_addResources hrows (mote1Registration_distinct host) hrow
      rwa [gateResource] at hvalue

theorem register_rejected {t t' : ResourceTable} {fails : Bool}
    (h : register host t fails = (t', false)) : t' = t := by
  cases fails with
  | true => exact (Prod.mk.inj h).1.symm
  | false =>
    simp only [register, handlePOST, Bool.false_eq_true, if_false] at h
    split at h
    · cases h
    · exact (Prod.mk.inj h).1.symm

theorem activated_gate (host : String) (linkAddr : LinkAddr) (o : Outflow) :
    activated host linkAddr (gateUri host o) = some ((Mote1.boot linkAddr).device o) := by
  cases o with
  | outflow1 => simp only [activated, if_true]
  | outflow2 =>
    have hne : gateUri host .outflow2 ≠ gateUri host .outflow1 := gateUri_ne host (by decide)
    simp only [activated, hne, if_false, if_true]

/-- A message id stands for one message, and `mote-1` serves its gates
exactly if it is registered. A response 2.01 that it waits for means that
the registry still is as the post left it: nobody can operate the gates in
the meantime. -/
structure Sound (host : String) (s : Handshake F) : Prop where
  posts : ∀ id ∈ s.posts, id < s.next
  responses : ∀ answer ∈ s.responses, answer.1 < s.next
  single : s.posts.Nodup
  handled : ∀ answer ∈ s.responses, answer.1 ∉ s.posts
  waits : ∀ id, s.waiting = some id → s.registered = false
  created : ∀ id, s.waiting = some id → (id, true) ∈ s.responses →
    Announced host s.world.resources
  asleep : s.registered = false → ∀ o, s.world.devices (gateUri host o) = none
  awake : s.registered = true → (∃ m, Hosts host m s.world) ∧
    ∀ o : Outflow, ∃ c, s.world.resources.value o.name = some c

variable {s s' : Handshake F} {linkAddr : LinkAddr}

omit [JavaFloat F]

theorem sound_start {w : World F} (h : ∀ o, w.devices (gateUri host o) = none) :
    Sound host (start w) where
  posts := by simp [start]
  responses := by simp [start]
  single := List.nodup_nil
  handled := by simp [start]
  waits := by simp [start]
  created := by simp [start]
  asleep _ := h
  awake := by simp [start]

theorem Sound.post (h : Sound host s) (hregistered : s.registered = false) :
    Sound host { s with
      waiting := some s.next, next := s.next + 1, posts := s.posts ++ [s.next] } where
  posts id hid := by
    rcases List.mem_append.mp hid with hold | hnew
    · exact Nat.lt_succ_of_lt (h.posts id hold)
    · rw [List.mem_singleton.mp hnew]
      exact Nat.lt_succ_self s.next
  responses answer hanswer := Nat.lt_succ_of_lt (h.responses answer hanswer)
  single := by
    rw [List.nodup_append]
    refine ⟨h.single, List.nodup_singleton _, fun id hid id' hid' => ?_⟩
    rw [List.mem_singleton.mp hid']
    exact Nat.ne_of_lt (h.posts id hid)
  handled answer hanswer := by
    have hold := h.handled answer hanswer
    have hnew := Nat.ne_of_lt (h.responses answer hanswer)
    simp [hold, hnew]
  waits _ _ := hregistered
  created id hid hresponse := by
    obtain rfl := Option.some.inj hid
    exact absurd (h.responses _ hresponse) (Nat.lt_irrefl _)
  asleep := h.asleep
  awake := h.awake

/-- A registration that is handled, whoever still waits for it. -/
theorem Sound.handle {id : Nat} {fails created : Bool} {resources : ResourceTable}
    (h : Sound host s) (hid : id ∈ s.posts)
    (hregister : register host s.world.resources fails = (resources, created)) :
    Sound host { s with
      controller := ⟨{ s.world with resources }, s.controller.log⟩
      posts := s.posts.erase id
      responses := s.responses ++ [(id, created)] } where
  posts id' hid' := h.posts id' (List.mem_of_mem_erase hid')
  responses answer hanswer := by
    rcases List.mem_append.mp hanswer with hold | hnew
    · exact h.responses answer hold
    · rw [List.mem_singleton.mp hnew]
      exact h.posts id hid
  single := h.single.erase id
  handled answer hanswer := by
    rcases List.mem_append.mp hanswer with hold | hnew
    · exact fun hmem => h.handled answer hold (List.mem_of_mem_erase hmem)
    · rw [List.mem_singleton.mp hnew]
      exact h.single.not_mem_erase
  waits := h.waits
  created id' hwaiting hresponse := by
    cases created with
    | true => exact register_created hregister
    | false =>
      have hold : (id', true) ∈ s.responses := by simpa using hresponse
      rw [register_rejected hregister]
      exact h.created id' hwaiting hold
  asleep := h.asleep
  awake hregistered := by
    obtain ⟨⟨m, hm⟩, hvalues⟩ := h.awake hregistered
    cases created with
    | true =>
      have hannounced := register_created hregister
      exact ⟨⟨m, hannounced.uri, hm.devices⟩, fun o => ⟨0, hannounced.value o⟩⟩
    | false =>
      obtain rfl := register_rejected hregister
      exact ⟨⟨m, hm.rows, hm.devices⟩, hvalues⟩

/-- A response that says nothing new. -/
theorem Sound.drop (h : Sound host s) (answer : Nat × Bool) (waiting : Option Nat)
    (hwaiting : ∀ id, waiting = some id → s.waiting = some id) :
    Sound host { s with waiting, responses := s.responses.erase answer } where
  posts := h.posts
  responses answer' hanswer := h.responses answer' (List.mem_of_mem_erase hanswer)
  single := h.single
  handled answer' hanswer := h.handled answer' (List.mem_of_mem_erase hanswer)
  waits id hid := h.waits id (hwaiting id hid)
  created id hid hresponse := h.created id (hwaiting id hid) (List.mem_of_mem_erase hresponse)
  asleep := h.asleep
  awake := h.awake

/-- The response that `mote-1` waits for: it serves its gates, which are
closed. -/
theorem Sound.register {id : Nat} (h : Sound host s) (hwaiting : s.waiting = some id)
    (hresponse : (id, true) ∈ s.responses) (linkAddr : LinkAddr) :
    Sound host { s with
      controller := ⟨{ s.world with
        devices := fun uri => (activated host linkAddr uri).or (s.world.devices uri) },
        s.controller.log⟩
      registered := true
      waiting := none
      responses := s.responses.erase (id, true) } where
  posts := h.posts
  responses answer hanswer := h.responses answer (List.mem_of_mem_erase hanswer)
  single := h.single
  handled answer hanswer := h.handled answer (List.mem_of_mem_erase hanswer)
  waits := by simp
  created := by simp
  asleep := by simp
  awake _ := by
    have hannounced := h.created id hwaiting hresponse
    refine ⟨⟨.boot linkAddr, hannounced.uri, fun o => ?_⟩, fun o => ⟨0, hannounced.value o⟩⟩
    simp only [activated_gate, Option.some_or]

theorem Sound.reboot (h : Sound host s) :
    Sound host { s with
      controller := ⟨{ s.world with
        devices := fun uri =>
          if uri ∈ (mote1Registration host).map Resource.uri then none
          else s.world.devices uri }, s.controller.log⟩
      registered := false
      waiting := none } where
  posts := h.posts
  responses := h.responses
  single := h.single
  handled := h.handled
  waits := by simp
  created := by simp
  asleep _ o := by
    obtain ⟨tag, hrow⟩ := gateResource_mem host o
    have huri : gateUri host o ∈ (mote1Registration host).map Resource.uri :=
      List.mem_map_of_mem hrow
    simp only [huri, if_true]
  awake := by simp

theorem Sound.operate [JavaFloat F] (h : Sound host s) (name : GateName) (op : GateOp) :
    Sound host { s with controller := op.operate name.text s.controller } where
  posts := h.posts
  responses := h.responses
  single := h.single
  handled := h.handled
  waits := h.waits
  created id hwaiting hresponse := by
    have hannounced := h.created id hwaiting hresponse
    have hworld : (op.operate name.text s.controller).world = s.world :=
      operate_asleep hannounced.uri (h.asleep (h.waits id hwaiting)) name op
    simpa only [world, hworld] using hannounced
  asleep hregistered o := operate_devices_none (h.asleep hregistered o) name.text op
  awake hregistered := by
    obtain ⟨⟨m, hm⟩, hvalues⟩ := h.awake hregistered
    obtain ⟨value, hvalue⟩ := hvalues name.gate
    have hmoves := GateOp.operate_moves hm name.spells hvalue op
    cases htarget : op.target value with
    | none =>
      rw [htarget] at hmoves
      exact ⟨hmoves.hosts, fun o => hmoves.resources ▸ hvalues o⟩
    | some level =>
      rw [htarget] at hmoves
      obtain ⟨hhosts, hresources, -⟩ := hmoves
      refine ⟨hhosts, fun o => ?_⟩
      rw [hresources]
      by_cases ho : fold o.name = fold name.text
      · have huri := (ResourceTable.uri_congr name.spells).trans (hm.rows name.gate)
        exact ⟨level, ResourceTable.value_setValue_self huri ho level⟩
      · rw [ResourceTable.value_setValue_of_ne _ ho]
        exact hvalues o

theorem Sound.step [JavaFloat F] {e : Event} (h : Sound host s)
    (hstep : step host linkAddr s e = some s') : Sound host s' := by
  cases e with
  | post =>
    simp only [Handshake.step] at hstep
    split at hstep
    · next hfree => exact Option.some.inj hstep ▸ h.post hfree.1
    · cases hstep
  | handle id fails =>
    simp only [Handshake.step] at hstep
    split at hstep
    · next hid => exact Option.some.inj hstep ▸ h.handle hid rfl
    · cases hstep
  | response id created =>
    simp only [Handshake.step] at hstep
    split at hstep
    · next hresponse =>
      split at hstep
      · next hwaiting =>
        split at hstep
        · next hcreated =>
          subst hcreated
          exact Option.some.inj hstep ▸ h.register hwaiting hresponse linkAddr
        · exact Option.some.inj hstep ▸ h.drop (id, created) none (by simp)
      · exact Option.some.inj hstep ▸ h.drop (id, created) s.waiting fun _ h => h
    · cases hstep
  | timeout =>
    simp only [Handshake.step] at hstep
    split at hstep
    · cases hstep
    · exact Option.some.inj hstep ▸
        { h with waits := by simp, created := by simp }
  | reboot => exact Option.some.inj hstep ▸ h.reboot
  | operate name op => exact Option.some.inj hstep ▸ h.operate name op

/-! ## §4 Registry and gates -/

/-- While `mote-1` serves its gates, the registry shows their levels. -/
def Agrees (host : String) (s : Handshake F) : Prop :=
  s.registered = true →
    ∀ o : Outflow, s.world.resources.value o.name = s.world.level (gateUri host o)

/-- A registration that reaches the registry when `mote-1` already serves
its gates finds them closed. -/
def Harmless (host : String) (s : Handshake F) : Event → Prop
  | .handle id fails =>
    s.registered = true → id ∈ s.posts → (register host s.world.resources fails).2 = true →
      ∀ o, s.world.level (gateUri host o) = some 0
  | _ => True

/-- `mote-1` gives up no post that is still on its way. -/
def Patient (s : Handshake F) : Event → Prop
  | .timeout | .reboot => s.posts = []
  | _ => True

theorem Agrees.operate [JavaFloat F] (h : Sound host s) (hagree : Agrees host s) (name : GateName)
    (op : GateOp) : Agrees host { s with controller := op.operate name.text s.controller } := by
  intro hregistered o
  obtain ⟨⟨m, hm⟩, -⟩ := h.awake hregistered
  obtain ⟨m', hm', hvalues⟩ :=
    operate_awake hm (fun o => (hagree hregistered o).trans (hosts_level hm o)) name op
  exact (hvalues o).trans (hosts_level hm' o).symm

/-- A step keeps registry and gates together exactly if it is harmless. -/
theorem agrees_step [JavaFloat F] {e : Event} (h : Sound host s) (hagree : Agrees host s)
    (hstep : step host linkAddr s e = some s') : Agrees host s' ↔ Harmless host s e := by
  have hsound := h.step hstep
  cases e with
  | post =>
    simp only [Handshake.step] at hstep
    split at hstep
    · obtain rfl := Option.some.inj hstep
      exact iff_of_true hagree trivial
    · cases hstep
  | handle id fails =>
    simp only [Handshake.step] at hstep
    split at hstep
    · next hid =>
      obtain rfl := Option.some.inj hstep
      simp only [Harmless, hid, true_imp_iff]
      refine forall_congr' fun hregistered => ?_
      cases hregister : register host s.world.resources fails with
      | mk resources created =>
        cases created with
        | true =>
          have hannounced := register_created hregister
          simp only [true_imp_iff]
          exact forall_congr' fun o => by rw [hannounced.value o]; exact eq_comm
        | false =>
          obtain rfl := register_rejected hregister
          simp only [Bool.false_eq_true, false_imp_iff, iff_true]
          exact hagree hregistered
    · cases hstep
  | response id created =>
    refine iff_of_true ?_ trivial
    simp only [Handshake.step] at hstep
    split at hstep
    · next hresponse =>
      split at hstep
      · next hwaiting =>
        split at hstep
        · next hcreated =>
          subst hcreated
          obtain rfl := Option.some.inj hstep
          intro hregistered o
          have hannounced := h.created id hwaiting hresponse
          simp only [hannounced.value o, World.level, activated_gate, Option.some_or]
          rfl
        · exact Option.some.inj hstep ▸ hagree
      · exact Option.some.inj hstep ▸ hagree
    · cases hstep
  | timeout =>
    simp only [Handshake.step] at hstep
    split at hstep
    · cases hstep
    · obtain rfl := Option.some.inj hstep
      exact iff_of_true hagree trivial
  | reboot =>
    obtain rfl := Option.some.inj hstep
    exact iff_of_true (fun hregistered => by cases hregistered) trivial
  | operate name op =>
    obtain rfl := Option.some.inj hstep
    exact iff_of_true (hagree.operate h name op) trivial

/-- A run in which every post is handled before it is given up leaves none
on its way once `mote-1` is registered. -/
theorem Patient.posts [JavaFloat F] {e : Event} (h : Sound host s)
    (hposts : ∀ id ∈ s.posts, s.waiting = some id) (hpatient : Patient s e)
    (hstep : step host linkAddr s e = some s') : ∀ id ∈ s'.posts, s'.waiting = some id := by
  cases e with
  | post =>
    simp only [Handshake.step] at hstep
    split at hstep
    · next hfree =>
      obtain rfl := Option.some.inj hstep
      intro id hid
      rcases List.mem_append.mp hid with hold | hnew
      · exact absurd (hposts id hold) (by simp [hfree.2])
      · rw [List.mem_singleton.mp hnew]
    · cases hstep
  | handle id fails =>
    simp only [Handshake.step] at hstep
    split at hstep
    · obtain rfl := Option.some.inj hstep
      exact fun id' hid' => hposts id' (List.mem_of_mem_erase hid')
    · cases hstep
  | response id created =>
    simp only [Handshake.step] at hstep
    split at hstep
    · next hresponse =>
      -- the post it answers is no longer on its way, and it was the only one
      split at hstep
      · next hwaiting =>
        have hempty : ∀ id' ∈ s.posts, False := by
          intro id' hid'
          have hsame : id = id' := Option.some.inj (hwaiting.symm.trans (hposts id' hid'))
          exact h.handled _ hresponse (hsame ▸ hid')
        split at hstep
        · obtain rfl := Option.some.inj hstep
          exact fun id' hid' => (hempty id' hid').elim
        · obtain rfl := Option.some.inj hstep
          exact fun id' hid' => (hempty id' hid').elim
      · obtain rfl := Option.some.inj hstep
        exact hposts
    · cases hstep
  | timeout =>
    simp only [Handshake.step] at hstep
    split at hstep
    · cases hstep
    · obtain rfl := Option.some.inj hstep
      have hempty : s.posts = [] := hpatient
      simp [hempty]
  | reboot =>
    obtain rfl := Option.some.inj hstep
    have hempty : s.posts = [] := hpatient
    simp [hempty]
  | operate name op => exact Option.some.inj hstep ▸ hposts

theorem Patient.harmless [JavaFloat F] {w : World F} {es : List Event}
    (hasleep : ∀ o, w.devices (gateUri host o) = none)
    (h : Machine.Each (step host linkAddr) Patient (start w) es) :
    Machine.Each (step host linkAddr) (Harmless host) (start w) es := by
  refine Machine.each_guarded
    (I := fun s => Sound host s ∧ ∀ id ∈ s.posts, s.waiting = some id) ?_ ?_
    ⟨sound_start hasleep, by simp [start]⟩ h
  · intro s e s' ⟨hsound, hposts⟩ hpatient hstep
    exact ⟨hsound.step hstep, Patient.posts hsound hposts hpatient hstep⟩
  · intro s e ⟨hsound, hposts⟩ _
    cases e with
    | handle id fails =>
      intro hregistered hid
      have hwaits := hsound.waits id (hposts id hid)
      exact absurd (hregistered.symm.trans hwaits) (by decide)
    | _ => trivial

/-- **The handshake**: while `mote-1` serves its gates they are registered
under its address. The registry shows their levels as long as no
registration that was given up is handled while a gate is open, and no
longer; if `mote-1` gives up no post that is still on its way, always. -/
theorem registration_agrees_iff [JavaFloat F] {w : World F}
    (hasleep : ∀ o, w.devices (gateUri host o) = none) (linkAddr : LinkAddr) (es : List Event) :
    let machine := step (F := F) host linkAddr
    Machine.Always machine (fun s => s.registered = true → ∃ m, Hosts host m s.world) (start w) es ∧
      (Machine.Always machine (Agrees host) (start w) es ↔
        Machine.Each machine (Harmless host) (start w) es) ∧
      (Machine.Each machine Patient (start w) es →
        Machine.Always machine (Agrees host) (start w) es) := by
  intro machine
  have hsound : Machine.Always machine (Sound host) (start w) es :=
    Machine.always_invariant (fun _ _ _ h hstep => h.step hstep) (sound_start hasleep)
  have hiff : Machine.Always machine (Agrees host) (start w) es ↔
      Machine.Each machine (Harmless host) (start w) es := by
    refine Machine.always_iff_each (I := Sound host) ?_ ?_ (sound_start hasleep) ?_
    · intro s e s' h hagree hstep
      exact ⟨fun _ => h.step hstep, agrees_step h hagree hstep⟩
    · intro s e h hagree hstep
      cases e with
      | handle id fails =>
        intro _ hid
        simp only [machine, Handshake.step, hid, if_true] at hstep
        cases hstep
      | _ => trivial
    · exact fun hregistered => by cases hregistered
  refine ⟨hsound.mono fun s h hregistered => (h.awake hregistered).1, hiff, fun hpatient => ?_⟩
  exact hiff.mpr (Patient.harmless hasleep hpatient)

/-- Nothing is registered yet. -/
def bare : World ℚ := { Plant.closed with resources := .empty, devices := fun _ => none }

/-- The name a gate is registered under. -/
def ownName (o : Outflow) : GateName := ⟨o.name, o, rfl⟩

/-- `mote-1` waits for its answer, and is restarted once it has opened a
gate. -/
def patient : List Event :=
  [.post, .handle 0 true, .response 0 false, .post, .handle 1 false, .response 1 true,
    .operate (ownName .outflow1) (.setGateOpening 50), .reboot, .post, .handle 2 false,
    .response 2 true]

/-- The first post is given up, and overtaken by the second. -/
def impatient : List Event :=
  [.post, .timeout, .post, .handle 1 false, .response 1 true,
    .operate (ownName .outflow1) (.setGateOpening 50), .handle 0 false]

instance {p : Outflow → Prop} [DecidablePred p] : Decidable (∀ o, p o) :=
  decidable_of_iff (p .outflow1 ∧ p .outflow2)
    ⟨fun h o => match o with | .outflow1 => h.1 | .outflow2 => h.2, fun h => ⟨h _, h _⟩⟩

instance (s : Handshake F) : ∀ e, Decidable (Harmless host s e)
  | .handle id fails => inferInstanceAs (Decidable (s.registered = true → id ∈ s.posts →
      (register host s.world.resources fails).2 = true →
        ∀ o, s.world.level (gateUri host o) = some 0))
  | .post | .response .. | .timeout | .reboot | .operate .. => isTrue trivial

instance (s : Handshake F) : ∀ e, Decidable (Patient s e)
  | .timeout | .reboot => inferInstanceAs (Decidable (s.posts = []))
  | .post | .handle .. | .response .. | .operate .. => isTrue trivial

theorem registration_agrees_iff_demo :
    Machine.Always (step demoAddr fun _ => 3) (Agrees demoAddr) (start bare) patient ∧
      ¬Machine.Always (step demoAddr fun _ => 3) (Agrees demoAddr) (start bare) impatient := by
  have hagrees (es : List Event) :=
    (@registration_agrees_iff ℚ demoAddr _ bare (fun _ => rfl) (fun _ => 3) es).2
  exact ⟨(hagrees patient).2 (by decide +kernel), mt (hagrees impatient).1.mp (by decide +kernel)⟩

/-- The registry says that outflow-1 is closed, and it is open. -/
example :
    (Machine.run (step demoAddr fun _ => 3) (start bare) impatient).map (fun s =>
      (s.world.resources.value "outflow-1", s.world.level (gateUri demoAddr .outflow1))) =
      some (some 0, some 50) := by
  decide +kernel

end Handshake

end DamMonitoring.Deployment
