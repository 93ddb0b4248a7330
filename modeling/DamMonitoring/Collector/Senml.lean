/-
DamMonitoring.Collector.Senml — from the text a mote publishes to the rows
of the database.

Jackson is not part of the repository. `Reads` is what the Collector
relies on: a JSON text of a document that has nothing but the annotated
members, each of its type or null, is read as that record. A `Float` is
whatever `number` makes of the decimal; with `id` it is the exact decimal.

  §1 documents as records
  §2 what a message of a mote is read as
  §3 what is stored
-/
import DamMonitoring.Collector.Spacing
import DamMonitoring.Motes.Messages
import Mathlib.Tactic.NormNum

namespace DamMonitoring.Collector

open Java Persistence Control Motes

variable {F : Type}

/-! ## §1 Records -/

/-- The members of an object, if they have distinct names among `names`. -/
def properties (names : List String) : Json → Option (String → Option Json)
  | .obj members =>
    if (members.map Prod.fst).Nodup ∧ ∀ name ∈ members.map Prod.fst, name ∈ names then
      some fun name => members.lookup name
    else none
  | _ => none

/-- A member of type `String`. -/
def stringOf : Option Json → Option (Option String)
  | none => some none
  | some (.scalar .null) => some none
  | some (.scalar (.str s)) => some (some s)
  | _ => none

/-- A member of type `Float`. -/
def floatOf (number : ℚ → F) : Option Json → Option (Option F)
  | none => some none
  | some (.scalar .null) => some none
  | some (.scalar (.num x)) => x.value?.map fun q => some (number q)
  | _ => none

/-- An element of the list. -/
def measurementOf (number : ℚ → F) (d : Json) : Option (Option (Measurement F)) :=
  match d with
  | .scalar .null => some none
  | d => do
    let property ← properties ["n", "v"] d
    let name ← stringOf (property "n")
    let value ← floatOf number (property "v")
    some (some ⟨name, value⟩)

/-- A member of type `List<Measurement>`. -/
def measurementsOf (number : ℚ → F) : Option Json → Option (Option (List (Option (Measurement F))))
  | none => some none
  | some (.scalar .null) => some none
  | some (.arr items) => (items.mapM (measurementOf number)).map some
  | _ => none

/-- The record of a document, by the annotations `@JsonProperty`. -/
def recordOf (number : ℚ → F) (d : Json) : Option (SensorRecord F) := do
  let property ← properties ["bn", "bu", "e"] d
  let baseName ← stringOf (property "bn")
  let baseUnit ← stringOf (property "bu")
  let measurements ← measurementsOf number (property "e")
  some ⟨baseName, baseUnit, measurements⟩

/-- `readValue` reads the texts of records. (Jackson bounds the lengths of
numbers and the depth of a text by 1000.) -/
def Reads (number : ℚ → F) (readValue : String → Payload F) : Prop :=
  ∀ (text : String) (d : Json) (r : SensorRecord F), text.length < 1000 →
    Spells text.toList d → recordOf number d = some r → readValue text = .record r

/-- A reader that reads these and nothing else. -/
def readRecord (number : ℚ → F) (text : String) : Payload F :=
  match (readJson text.toList).bind (recordOf number) with
  | some r => .record r
  | none => .malformed "JsonProcessingException"

theorem readRecord_reads (number : ℚ → F) : Reads number (readRecord number) := by
  intro text d r _ hspells hrecord
  simp [readRecord, readJson_eq hspells, hrecord]

/-! ## §2 Messages of motes -/

variable {number : ℚ → F} {readValue : String → Payload F}

/-- A value is printed in thousandths. -/
theorem value?_scaled {v : Int} (h : 0 ≤ v) :
    (⟨false, v.toNat, ['e', '-', '3'], by simp⟩ : JsonNumber).value? = some (v / 1000 : ℚ) := by
  have hexponent : JsonNumber.exponent? ['e', '-', '3'] = some (-3) := by decide
  have hcast : ((v.toNat : Nat) : ℚ) = v := by exact_mod_cast Int.toNat_of_nonneg h
  have hpower : (10 : ℚ) ^ (-3 : ℤ) = 1 / 1000 := by norm_num
  simp [JsonNumber.value?, hexponent, hcast, hpower, div_eq_mul_inv]

theorem measurementOf_document (number : ℚ → F) (name : String) {v : Int} (h : 0 ≤ v) :
    measurementOf number (measurementDocument name v) =
      some (some ⟨some name, some (number (v / 1000))⟩) := by
  simp [measurementOf, measurementDocument, properties, List.lookup_cons, stringOf, floatOf,
    value?_scaled h]

theorem recordOf_document (number : ℚ → F) (baseName baseUnit : String) {items : List Json}
    {measurements : List (Option (Measurement F))}
    (h : items.mapM (measurementOf number) = some measurements) :
    recordOf number (recordDocument baseName baseUnit items) =
      some ⟨some baseName, some baseUnit, some measurements⟩ := by
  simp [recordOf, recordDocument, properties, List.lookup_cons, stringOf, measurementsOf, h]

/-- The measurement of a channel, as it is read. -/
def measured (number : ℚ → F) (name : String) (v : Int) : Option (Measurement F) :=
  some ⟨some name, some (number (v / 1000))⟩

/-- **What the message of mote-2 is read as.** -/
theorem Reads.mote2 (hreads : Reads number readValue) (addr : LinkAddr) {f₀ f₁ f₂ : Int}
    (h₀ : 0 ≤ f₀ ∧ f₀ < 2 ^ 31) (h₁ : 0 ≤ f₁ ∧ f₁ < 2 ^ 31) (h₂ : 0 ≤ f₂ ∧ f₂ < 2 ^ 31) :
    readValue (mote2Message addr f₀ f₁ f₂) = .record ⟨some (urn addr), some "m3/s",
      some [measured number "inflow" f₀, measured number "outflow-1" f₁,
        measured number "outflow-2" f₂]⟩ := by
  have hshort : (mote2Message addr f₀ f₁ f₂).length < 1000 := by
    have hlen := mote2Text_length addr h₀ h₁ h₂
    rw [mote2Message, snprintf_eq hlen]
    exact hlen.trans (by decide)
  refine hreads _ _ _ hshort (mote2_spells addr h₀ h₁ h₂) (recordOf_document number _ _ ?_)
  simp [measurementOf_document, h₀.1, h₁.1, h₂.1, measured]

/-- **What the message of mote-3 is read as.** -/
theorem Reads.mote3 (hreads : Reads number readValue) (addr : LinkAddr) {n : Int}
    (h : 0 ≤ n ∧ n < 2 ^ 31) :
    readValue (mote3Message addr n) = .record ⟨some (urn addr), some "m",
      some [measured number "water-level" n]⟩ := by
  have hshort : (mote3Message addr n).length < 1000 := by
    have hlen := mote3Text_length addr h
    rw [mote3Message, snprintf_eq hlen]
    exact hlen.trans (by decide)
  refine hreads _ _ _ hshort (mote3_spells addr h) (recordOf_document number _ _ ?_)
  simp [measurementOf_document, h.1, measured]

/-- **What the message of a flow sensor is read as.** -/
theorem Reads.flowSensor (hreads : Reads number readValue) (FLOW : Motes.Channel)
    (addr : LinkAddr) {f : Int} (h : 0 ≤ f ∧ f < 2 ^ 31) :
    readValue (flowSensorMessage FLOW addr f) = .record ⟨some (urn addr), some "m3/s",
      some [measured number FLOW.gate f]⟩ := by
  have hshort : (flowSensorMessage FLOW addr f).length < 1000 := by
    have hlen := flowSensorText_length FLOW addr h
    rw [flowSensorMessage, snprintf_eq hlen]
    exact hlen.trans (by decide)
  refine hreads _ _ _ hshort (flowSensor_spells FLOW addr h) (recordOf_document number _ _ ?_)
  simp [measurementOf_document, h.1, measured]

/-! ## §3 Rows -/

variable {c : Settings} {s : Subscriber F}

/-- No measurement with this base name and name, read one after the other,
has been stored within the period. -/
def Free (c : Settings) (now : Int) (key : String) (s : Subscriber F) : Prop :=
  ∀ x ∈ s.stored, x.key = key → x.clock + c.period ≤ now

/-- `lastRecord` knows nothing that has not been stored. -/
theorem Path.recorded {vs : List (Visit F)} {s' : Subscriber F} (hpath : Path c s vs s')
    (h : ∀ k t, s.lastRecord k = some t → ∃ x ∈ s.stored, x.key = k ∧ x.clock = t) :
    ∀ k t, s'.lastRecord k = some t → ∃ x ∈ s'.stored, x.key = k ∧ x.clock = t := by
  induction hpath with
  | nil => exact h
  | @cons v vs s' _ ih =>
    refine ih ?_
    rcases v.after_cases c with hsame | ⟨m, x, -, -, hafter⟩
    · rw [hsame]
      exact h
    · intro k t hk
      rw [hafter, Subscriber.store_stored]
      rw [hafter] at hk
      by_cases hnew : x.noted = true ∧ k = x.key
      · obtain ⟨hnoted, rfl⟩ := hnew
        have ht : x.clock = t := by simpa [Subscriber.store, hnoted, Limiter.pass] using hk
        exact ⟨x, List.mem_cons_self, rfl, ht⟩
      · have hold : v.before.lastRecord k = some t := by
          by_cases hnoted : x.noted = true
          · have hne : k ≠ x.key := fun heq => hnew ⟨hnoted, heq⟩
            simpa [Subscriber.store, hnoted, Limiter.pass, hne] using hk
          · simpa [Subscriber.store, hnoted] using hk
        obtain ⟨y, hy, hkey, hclock⟩ := h k t hold
        exact ⟨y, List.mem_cons_of_mem _ hy, hkey, hclock⟩

/-- A free key is let through, in every run. -/
theorem Free.passes {run : List (Delivery F)} {flowRateId waterLevelId now : Int} {key : String}
    (h : Free c now key (arrive c run (Subscriber.init flowRateId waterLevelId))) :
    (arrive c run (Subscriber.init flowRateId waterLevelId)).lastRecord.holds (now - c.period)
      key = false := by
  rw [← Bool.not_eq_true, Limiter.holds_eq_true]
  intro hholds
  obtain ⟨t, hk, hlt⟩ := hholds
  obtain ⟨x, hx, hkey, rfl⟩ := (path_visits c run _).recorded (fun k t hk => by cases hk) key t hk
  have hold := h x hx hkey
  omega

/-- The row of a flow rate, and what goes with it. -/
def storedFlowRate (c : Settings) (recordId : Int) (baseName name : String) (clock : Int)
    (value : F) : Stored F :=
  ⟨.flowRate ⟨recordId, name, c.datetime clock, value⟩, some baseName, some name, clock, true⟩

def storedWaterLevel (c : Settings) (recordId : Int) (baseName name : String) (clock : Int)
    (value : F) : Stored F :=
  ⟨.waterLevel ⟨recordId, c.datetime clock, value⟩, some baseName, some name, clock, true⟩

/-- A flow rate that is let through is stored. -/
theorem rounds_flowRate {d : Delivery F} {baseName name : String} {value : F} {clock : Int}
    {measurements : Option (List (Option (Measurement F)))} (turns : List (Turn F))
    (htopic : d.topic = "flow-rate")
    (h : s.lastRecord.holds (d.minNextTime c) (baseName ++ name) = false) :
    rounds c d ⟨some baseName, some "m3/s", measurements⟩
        (⟨some ⟨some name, some value⟩, clock, .committed⟩ :: turns) s =
      rounds c d ⟨some baseName, some "m3/s", measurements⟩ turns
        (s.store (storedFlowRate c s.flowRateId baseName name clock value)) := by
  have hkey : concat (some baseName) (some name) = baseName ++ name := rfl
  simp [rounds, round, hkey, h, htopic, recordFlowRate, Collector.record, Subscriber.store,
    storedFlowRate, Stored.noted, Stored.key]

/-- Storing it holds back no other key. -/
theorem holds_store_flowRate (s : Subscriber F) (recordId : Int) {baseName name : String}
    (clock cutoff : Int) (value : F) {key : String} (h : key ≠ baseName ++ name) :
    (s.store (storedFlowRate c recordId baseName name clock value)).lastRecord.holds cutoff key =
      s.lastRecord.holds cutoff key :=
  s.lastRecord.holds_pass_of_ne clock cutoff h

/-- A level that is let through is stored. -/
theorem rounds_waterLevel {d : Delivery F} {baseName name : String} {value : F} {clock : Int}
    {measurements : Option (List (Option (Measurement F)))} (turns : List (Turn F))
    (htopic : d.topic = "water-level")
    (h : s.lastRecord.holds (d.minNextTime c) (baseName ++ name) = false) :
    rounds c d ⟨some baseName, some "m", measurements⟩
        (⟨some ⟨some name, some value⟩, clock, .committed⟩ :: turns) s =
      rounds c d ⟨some baseName, some "m", measurements⟩ turns
        (s.store (storedWaterLevel c s.waterLevelId baseName name clock value)) := by
  have hkey : concat (some baseName) (some name) = baseName ++ name := rfl
  rw [Subscriber.store_of_not_noted rfl]
  simp [rounds, round, hkey, h, htopic, recordWaterLevel, Collector.record, storedWaterLevel]

/-- A message that meets no failure. -/
def delivery (topic : String) (payload : Payload F) (now : Int) (clock : Nat → Int) : Delivery F :=
  ⟨topic, payload, now, clock, fun _ => .committed⟩

/-- The names of the channels are told apart behind one base name. -/
theorem append_ne {baseName a b : String} (h : a ≠ b) : baseName ++ a ≠ baseName ++ b :=
  fun heq => h (String.append_right_inj baseName |>.mp heq)

/-- **What a message of mote-2 stores**, newest row first. -/
theorem mote2_stored (hreads : Reads number readValue) (addr : LinkAddr) {f₀ f₁ f₂ : Int}
    (h₀ : 0 ≤ f₀ ∧ f₀ < 2 ^ 31) (h₁ : 0 ≤ f₁ ∧ f₁ < 2 ^ 31) (h₂ : 0 ≤ f₂ ∧ f₂ < 2 ^ 31)
    (now : Int) (clock : Nat → Int)
    (hpasses : ∀ name ∈ ["inflow", "outflow-1", "outflow-2"],
      s.lastRecord.holds (now - c.period) (urn addr ++ name) = false) :
    (messageArrived c (delivery "flow-rate" (readValue (mote2Message addr f₀ f₁ f₂)) now clock)
        s).stored =
      storedFlowRate c (s.flowRateId + 2) (urn addr) "outflow-2" (clock 2) (number (f₂ / 1000)) ::
      storedFlowRate c (s.flowRateId + 1) (urn addr) "outflow-1" (clock 1) (number (f₁ / 1000)) ::
      storedFlowRate c s.flowRateId (urn addr) "inflow" (clock 0) (number (f₀ / 1000)) ::
      s.stored := by
  rw [hreads.mote2 addr h₀ h₁ h₂]
  simp only [messageArrived, delivery, Delivery.turnsOf, measured, List.mapIdx_cons,
    List.mapIdx_nil]
  have hinflow := hpasses "inflow" (by decide)
  have houtflow1 := hpasses "outflow-1" (by decide)
  have houtflow2 := hpasses "outflow-2" (by decide)
  rw [rounds_flowRate _ rfl hinflow, rounds_flowRate _ rfl ?_, rounds_flowRate _ rfl ?_]
  · simp [rounds, Subscriber.store, Subscriber.insert, storedFlowRate]
    omega
  · rw [holds_store_flowRate _ _ _ _ _ (append_ne (by decide)),
      holds_store_flowRate _ _ _ _ _ (append_ne (by decide))]
    exact houtflow2
  · rw [holds_store_flowRate _ _ _ _ _ (append_ne (by decide))]
    exact houtflow1

/-- **What a message of mote-3 stores.** -/
theorem mote3_stored (hreads : Reads number readValue) (addr : LinkAddr) {n : Int}
    (h : 0 ≤ n ∧ n < 2 ^ 31) (now : Int) (clock : Nat → Int)
    (hpasses : s.lastRecord.holds (now - c.period) (urn addr ++ "water-level") = false) :
    (messageArrived c (delivery "water-level" (readValue (mote3Message addr n)) now clock)
        s).stored =
      storedWaterLevel c s.waterLevelId (urn addr) "water-level" (clock 0) (number (n / 1000)) ::
        s.stored := by
  rw [hreads.mote3 addr h]
  simp only [messageArrived, delivery, Delivery.turnsOf, measured, List.mapIdx_cons,
    List.mapIdx_nil]
  rw [rounds_waterLevel _ rfl hpasses]
  simp [rounds]

/-- **Measurements survive the trip**: a message is published whole, and
unless its names have been stored within the period it stores its values
and nothing else, newest row first, after every run. -/
theorem measurements_survive (hreads : Reads number readValue) (c : Settings)
    (run : List (Delivery F)) (flowRateId waterLevelId : Int) (addr : LinkAddr) (now : Int)
    (clock : Nat → Int) :
    let s := arrive c run (Subscriber.init flowRateId waterLevelId)
    (∀ f₀ f₁ f₂ : Int, 0 ≤ f₀ ∧ f₀ < 2 ^ 31 → 0 ≤ f₁ ∧ f₁ < 2 ^ 31 → 0 ≤ f₂ ∧ f₂ < 2 ^ 31 →
      (∀ name ∈ ["inflow", "outflow-1", "outflow-2"], Free c now (urn addr ++ name) s) →
      let text := mote2Message addr f₀ f₁ f₂
      text = mote2Text addr f₀ f₁ f₂ ∧
      (messageArrived c (delivery "flow-rate" (readValue text) now clock) s).stored.map Stored.row =
        .flowRate ⟨s.flowRateId + 2, "outflow-2", c.datetime (clock 2), number (f₂ / 1000)⟩ ::
        .flowRate ⟨s.flowRateId + 1, "outflow-1", c.datetime (clock 1), number (f₁ / 1000)⟩ ::
        .flowRate ⟨s.flowRateId, "inflow", c.datetime (clock 0), number (f₀ / 1000)⟩ ::
        s.stored.map Stored.row) ∧
    (∀ n : Int, 0 ≤ n ∧ n < 2 ^ 31 → Free c now (urn addr ++ "water-level") s →
      let text := mote3Message addr n
      text = mote3Text addr n ∧
      (messageArrived c (delivery "water-level" (readValue text) now clock) s).stored.map
          Stored.row =
        .waterLevel ⟨s.waterLevelId, c.datetime (clock 0), number (n / 1000)⟩ ::
        s.stored.map Stored.row) := by
  intro s
  refine ⟨fun f₀ f₁ f₂ h₀ h₁ h₂ hfree => ⟨snprintf_eq (mote2Text_length addr h₀ h₁ h₂), ?_⟩,
    fun n h hfree => ⟨snprintf_eq (mote3Text_length addr h), ?_⟩⟩
  · rw [mote2_stored hreads addr h₀ h₁ h₂ now clock fun name hname => (hfree name hname).passes]
    rfl
  · rw [mote3_stored hreads addr h now clock hfree.passes]
    rfl

/-- A mote with a link address of zeros. -/
def zeros : LinkAddr := fun _ => ⟨0, by decide⟩

/-- A flow rate of the same source is four seconds old. -/
theorem measurements_survive_demo :
    (messageArrived ⟨3, 0⟩
        (delivery "flow-rate" (readRecord id (mote2Message zeros 32150 0 350)) 4000 fun _ => 4000)
        (arrive ⟨3, 0⟩ [message "flow-rate" (urn zeros) "m3/s" "inflow" 32 0]
          (Subscriber.init 1 1))).stored.map Stored.row =
      [.flowRate ⟨4, "outflow-2", 4000, 7 / 20⟩, .flowRate ⟨3, "outflow-1", 4000, 0⟩,
        .flowRate ⟨2, "inflow", 4000, 643 / 20⟩, .flowRate ⟨1, "inflow", 0, 32⟩] := by
  have hsurvive := (measurements_survive (readRecord_reads id) ⟨3, 0⟩
    [message "flow-rate" (urn zeros) "m3/s" "inflow" 32 0] 1 1 zeros 4000 fun _ => 4000).1
    32150 0 350 (by decide) (by decide) (by decide) (by unfold Free; decide)
  have hid : (arrive ⟨3, 0⟩ [message "flow-rate" (urn zeros) "m3/s" "inflow" 32 0]
      (Subscriber.init 1 1)).flowRateId = 2 := by decide
  have hrow : (arrive ⟨3, 0⟩ [message "flow-rate" (urn zeros) "m3/s" "inflow" 32 0]
      (Subscriber.init 1 1)).stored.map Stored.row = [.flowRate ⟨1, "inflow", 0, 32⟩] := rfl
  rw [hsurvive.2, hid, hrow]
  norm_num [Settings.datetime]

/-- The start of the base name of a mote goes on in a name of its own. -/
def otherSource : Delivery ℚ := message "flow-rate" (urn zeros ++ "in") "m3/s" "flow" 1 0

/-- A second later the inflow of the mote is not stored, although there is
no row of its base name. -/
theorem other_source_takes_inflow :
    let s := arrive ⟨3, 0⟩ [otherSource] (Subscriber.init 1 1)
    (∀ x ∈ s.stored, x.baseName ≠ some (urn zeros)) ∧
      ∀ x ∈ (messageArrived ⟨3, 0⟩
        (delivery "flow-rate" (readRecord id (mote2Message zeros 32000 0 0)) 1000 fun _ => 1000)
        s).stored, x.name ≠ some "inflow" := by
  rw [(readRecord_reads id).mote2 zeros (by decide) (by decide) (by decide)]
  decide

end DamMonitoring.Collector
