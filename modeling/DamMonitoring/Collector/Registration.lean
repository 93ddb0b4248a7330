/-
DamMonitoring.Collector.Registration — what the actuator firmwares
register, and how the Collector stores it.

`demo/mote-1` drives both gates and the alarm; `firmwares/gate-controller`
is built once for each `FLOW` and drives one gate and an alarm of its own.
A registration is the list of resources Jackson decodes from the message.
-/
import DamMonitoring.Persistence.ResourceTable

namespace DamMonitoring.Collector

open Persistence

/-! ## §1 Messages -/

/-- `coap://[addr]/actuator/…`. -/
def actuatorUri (addr path : String) : Uri := "coap://[" ++ addr ++ "]/actuator/" ++ path

/-- The path behind the authority. -/
theorem actuatorUri_path (addr path : String) :
    actuatorUri addr path = "coap://[" ++ addr ++ "]/" ++ ("actuator/" ++ path) := by
  have hsplit : "]/actuator/" = "]/" ++ "actuator/" := by decide
  simp only [actuatorUri, hsplit, String.append_assoc]

/-- Paths are told apart behind one address. -/
theorem actuatorUri_ne (addr : String) {path path' : String} (h : path ≠ path') :
    actuatorUri addr path ≠ actuatorUri addr path' :=
  fun heq => h (String.append_right_inj _ |>.mp heq)

def gateResource (name tag : String) (uri : Uri) : Resource :=
  ⟨name, "gate", some "Gate controller", some tag, uri, some 0⟩

def alarmResource (name : String) (uri : Uri) : Resource :=
  ⟨name, "alarm", some "Alarm controller", none, uri, some 0⟩

/-- The registration of `mote-1.c`. -/
def mote1Registration (addr : String) : List Resource :=
  [gateResource "outflow-1" "Primary" (actuatorUri addr "gate/outflow-1"),
    gateResource "outflow-2" "Emergency" (actuatorUri addr "gate/outflow-2"),
    alarmResource "alarm" (actuatorUri addr "alarm")]

/-- The registration of `gate-controller.c`. -/
def gateControllerRegistration (FLOW : Nat) (addr : String) : List Resource :=
  [gateResource ("outflow-" ++ toString FLOW) (if FLOW = 1 then "Primary" else "Emergency")
      (actuatorUri addr ("gate/outflow-" ++ toString FLOW)),
    alarmResource ("alarm-" ++ toString FLOW) (actuatorUri addr "alarm")]

/-! ## §2 Registry.handlePOST -/

/-- `handlePOST` on a message that decodes to `resources`: the new table
and whether the answer is `CREATED`. -/
def handlePOST (t : ResourceTable) (resources : List Resource) : ResourceTable × Bool :=
  match t.addResources resources with
  | some t' => (t', true)
  | none => (t, false)

theorem handlePOST_created {t t' : ResourceTable} {resources : List Resource} :
    handlePOST t resources = (t', true) ↔ t.addResources resources = some t' := by
  unfold handlePOST
  cases h : t.addResources resources <;> simp

theorem mote1Registration_value {addr : String} {r : Resource}
    (h : r ∈ mote1Registration addr) : r.value = some 0 := by
  simp only [mote1Registration, List.mem_cons, List.not_mem_nil, or_false] at h
  rcases h with rfl | rfl | rfl <;> rfl

theorem gateControllerRegistration_value {FLOW : Nat} {addr : String} {r : Resource}
    (h : r ∈ gateControllerRegistration FLOW addr) : r.value = some 0 := by
  simp only [gateControllerRegistration, List.mem_cons, List.not_mem_nil, or_false] at h
  rcases h with rfl | rfl <;> rfl

/-- Every row after a registration is an old one or carries the data of a
registered resource. -/
theorem mem_handlePOST {t : ResourceTable} {resources : List Resource} {r : Resource}
    (h : r ∈ (handlePOST t resources).1.rows) :
    r ∈ t.rows ∨ ∃ resource ∈ resources, ∃ name, r = { resource with name } := by
  unfold handlePOST at h
  split at h
  · next t' ht => exact ResourceTable.mem_addResources ht h
  · exact Or.inl h

end DamMonitoring.Collector
