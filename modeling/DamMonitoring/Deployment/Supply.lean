/-
DamMonitoring.Deployment.Supply — what the Controller has to act on while
the motes go on publishing.

A cycle tests the age of the water level and of nothing else, and the
Collector drops measurements that follow the last one of their sensor too
soon. `supplied` shows what both leave room for: whatever motes publish,
and however their messages interleave, if the last message about the
water level, the inflow and each outflow arrived at most `gap` ago, the
next cycle has its inputs, all of them are recent, and the level and the
inflow it acts on were measured by a mote.

A measurement that is dropped is one for which a row of the same sensor
is not a period old. That this row is about the same channel as well
rests on the base names of the motes all having the same length.

  §1 the messages of the motes
  §2 one message
  §3 the rows of a run
  §4 the next cycle
-/
import DamMonitoring.Collector.LatestFlow
import DamMonitoring.Collector.Senml
import DamMonitoring.Controller.Freshness

namespace DamMonitoring.Deployment

open Java Persistence Collector Controller AutomaticControlUnit
open Motes hiding maxInflow

variable {F : Type}

/-! ## §1 Messages -/

/-- What a mote publishes: mote-2 its three flows, a flow sensor its own,
and mote-3 or a water-level sensor the level. -/
inductive MoteReport where
  | flows (inflow outflow1 outflow2 : Int)
  | flow (FLOW : Motes.Channel) (value : Int)
  | level (waterLevel : Int)

namespace MoteReport

def topic : MoteReport → String
  | .flows .. | .flow .. => "flow-rate"
  | .level _ => "water-level"

def text (addr : LinkAddr) : MoteReport → String
  | .flows inflow outflow1 outflow2 => mote2Message addr inflow outflow1 outflow2
  | .flow FLOW value => flowSensorMessage FLOW addr value
  | .level waterLevel => mote3Message addr waterLevel

/-- The flows it reports. -/
def values : MoteReport → List (Motes.Channel × Int)
  | .flows inflow outflow1 outflow2 =>
    [(.inflow, inflow), (.outflow1, outflow1), (.outflow2, outflow2)]
  | .flow FLOW value => [(FLOW, value)]
  | .level _ => []

/-- Its values are those of an `int` that is not negative. -/
def Ints : MoteReport → Prop
  | .flows inflow outflow1 outflow2 =>
    (0 ≤ inflow ∧ inflow < 2 ^ 31) ∧ (0 ≤ outflow1 ∧ outflow1 < 2 ^ 31) ∧
      (0 ≤ outflow2 ∧ outflow2 < 2 ^ 31)
  | .flow _ value => 0 ≤ value ∧ value < 2 ^ 31
  | .level waterLevel => 0 ≤ waterLevel ∧ waterLevel < 2 ^ 31

end MoteReport

/-- A report of the mote at `addr`, and the times the Collector tells
while it handles it. -/
structure Arrival where
  addr : LinkAddr
  report : MoteReport
  now : Int
  clock : Nat → Int

/-- It is handled with no failure of the database, at times that do not go
back. -/
structure Arrival.Regular (m : Arrival) : Prop where
  ints : m.report.Ints
  late : ∀ n, m.now ≤ m.clock n

def Arrival.delivery (readValue : String → Payload F) (m : Arrival) : Delivery F :=
  Collector.delivery m.report.topic (readValue (m.report.text m.addr)) m.now m.clock

/-! ## §2 One message -/

variable {number : ℚ → F} {readValue : String → Payload F} {c : Settings} {m m' : Arrival}
  {x : Stored F} {s : Subscriber F} {i : Motes.Channel}

/-- The row comes from a report. -/
inductive Traced (c : Settings) (number : ℚ → F) (m : Arrival) : Stored F → Prop where
  | flow {i : Motes.Channel} {f : Int} (recordId : Int) (k : Nat) : (i, f) ∈ m.report.values →
      Traced c number m
        (storedFlowRate c recordId (urn m.addr) i.gate (m.clock k) (number (f / 1000)))
  | level {n : Int} (recordId : Int) (k : Nat) : m.report = .level n →
      Traced c number m
        (storedWaterLevel c recordId (urn m.addr) "water-level" (m.clock k) (number (n / 1000)))

/-- A row of `name` from the mote at `addr` that is not older than a
period. -/
def Supplied (c : Settings) (s : Subscriber F) (m : Arrival) (name : String) : Prop :=
  ∃ x ∈ s.stored, x.key = urn m.addr ++ name ∧ m.now - c.period ≤ x.clock

/-- What a run of messages has left behind: rows that come from reports,
and a `lastRecord` that knows of rows only. -/
structure Kept (c : Settings) (number : ℚ → F) (ms : List Arrival) (s : Subscriber F) : Prop where
  traced : ∀ x ∈ s.stored, ∃ m ∈ ms, Traced c number m x
  recorded : ∀ k t, s.lastRecord k = some t → ∃ x ∈ s.stored, x.key = k ∧ x.clock = t

theorem Supplied.mono {s' : Subscriber F} {name : String} (h : Supplied c s m name)
    (hstored : ∀ x ∈ s.stored, x ∈ s'.stored) : Supplied c s' m name := by
  obtain ⟨x, hx, hkey, hclock⟩ := h
  exact ⟨x, hstored x hx, hkey, hclock⟩

/-- A measurement that is held back has a row already. -/
theorem Kept.supplied_of_held {ms : List Arrival} {name : String} (h : Kept c number ms s)
    (hheld : s.lastRecord.holds (m.now - c.period) (urn m.addr ++ name) = true) :
    Supplied c s m name := by
  obtain ⟨t, hk, hlt⟩ := Control.Limiter.holds_eq_true.mp hheld
  obtain ⟨x, hx, hkey, rfl⟩ := h.recorded _ _ hk
  exact ⟨x, hx, hkey, by omega⟩

variable {ms : List Arrival} {d : Delivery F} {turns : List (Turn F)}
  {measurements : Option (List (Option (Measurement F)))}

/-- A round about a flow: the measurement is stored, or there is a row that
holds it back. -/
theorem Kept.flowRate (h : Kept c number ms s) (hm : m ∈ ms) (hregular : m.Regular)
    (htopic : d.topic = "flow-rate") (hnow : d.now = m.now) {f : Int}
    (hvalue : (i, f) ∈ m.report.values) (hperiod : 0 ≤ c.period) (k : Nat)
    (measurements : Option (List (Option (Measurement F)))) (turns : List (Turn F)) :
    ∃ s', rounds c d ⟨some (urn m.addr), some "m3/s", measurements⟩
        (⟨measured number i.gate f, m.clock k, .committed⟩ :: turns) s =
        rounds c d ⟨some (urn m.addr), some "m3/s", measurements⟩ turns s' ∧
      Kept c number ms s' ∧ (∀ x ∈ s.stored, x ∈ s'.stored) ∧ Supplied c s' m i.gate := by
  have hcutoff : d.minNextTime c = m.now - c.period := congrArg (· - c.period) hnow
  cases hheld : s.lastRecord.holds (d.minNextTime c) (urn m.addr ++ i.gate) with
  | true =>
    have hkey : concat (some (urn m.addr)) (some i.gate) = urn m.addr ++ i.gate := rfl
    refine ⟨s, ?_, h, fun x hx => hx, h.supplied_of_held (hcutoff ▸ hheld)⟩
    simp [rounds, Collector.round, measured, hkey, hheld]
  | false =>
    let x := storedFlowRate c s.flowRateId (urn m.addr) i.gate (m.clock k) (number (f / 1000))
    have hrounds : ∀ turns, rounds c d ⟨some (urn m.addr), some "m3/s", measurements⟩
        (⟨measured number i.gate f, m.clock k, .committed⟩ :: turns) s =
          rounds c d ⟨some (urn m.addr), some "m3/s", measurements⟩ turns (s.store x) :=
      fun turns => rounds_flowRate turns htopic hheld
    refine ⟨s.store x, hrounds turns, ⟨fun y hy => ?_, ?_⟩, fun y hy => ?_, x, ?_, rfl, ?_⟩
    · rw [Subscriber.store_stored] at hy
      rcases List.mem_cons.mp hy with rfl | hold
      · exact ⟨m, hm, .flow _ k hvalue⟩
      · exact h.traced y hold
    · have hpath := path_loopVisits c d ⟨some (urn m.addr), some "m3/s", measurements⟩
        [⟨measured number i.gate f, m.clock k, .committed⟩] s
      rw [hrounds []] at hpath
      exact hpath.recorded h.recorded
    · exact s.store_stored x ▸ List.mem_cons_of_mem x hy
    · exact s.store_stored x ▸ List.mem_cons_self
    · have hclock : x.clock = m.clock k := rfl
      have hlate := hregular.late k
      omega

/-- All rounds of a message about flows. -/
theorem Kept.flowRates (h : Kept c number ms s) (hm : m ∈ ms) (hregular : m.Regular)
    (htopic : d.topic = "flow-rate") (hnow : d.now = m.now) (hperiod : 0 ≤ c.period)
    (hturns : ∀ turn ∈ turns, ∃ v ∈ m.report.values, ∃ k,
      turn = ⟨measured number v.1.gate v.2, m.clock k, .committed⟩) :
    let s' := (rounds c d ⟨some (urn m.addr), some "m3/s", measurements⟩ turns s).1
    Kept c number ms s' ∧ (∀ x ∈ s.stored, x ∈ s'.stored) ∧
      ∀ turn ∈ turns, ∀ i f, turn.measurement = measured number (Channel.gate i) f →
        Supplied c s' m i.gate := by
  induction turns generalizing s with
  | nil => exact ⟨h, fun x hx => hx, by simp⟩
  | cons turn turns ih =>
    obtain ⟨hfirst, hrest⟩ := List.forall_mem_cons.mp hturns
    obtain ⟨⟨i, f⟩, hvalue, k, rfl⟩ := hfirst
    obtain ⟨s₁, hrounds, hkept, hstored, hsupplied⟩ :=
      h.flowRate hm hregular htopic hnow hvalue hperiod k measurements turns
    obtain ⟨hkept', hstored', hsupplied'⟩ := ih hkept hrest
    simp only [hrounds]
    refine ⟨hkept', fun x hx => hstored' x (hstored x hx), fun turn hturn j g hmeasured => ?_⟩
    rcases List.mem_cons.mp hturn with rfl | hlater
    · have hname : i.gate = j.gate := by
        simpa [measured] using congrArg (·.map Measurement.name) hmeasured
      exact (hname ▸ hsupplied).mono hstored'
    · exact hsupplied' turn hlater j g hmeasured

/-- The message about the water level. -/
theorem Kept.waterLevel {n : Int} (h : Kept c number ms s) (hm : m ∈ ms) (hregular : m.Regular)
    (htopic : d.topic = "water-level") (hnow : d.now = m.now) (hreport : m.report = .level n)
    (hperiod : 0 ≤ c.period) (k : Nat) :
    let s' := (rounds c d ⟨some (urn m.addr), some "m", measurements⟩
      [⟨measured number "water-level" n, m.clock k, .committed⟩] s).1
    Kept c number ms s' ∧ (∀ x ∈ s.stored, x ∈ s'.stored) ∧ Supplied c s' m "water-level" := by
  have hcutoff : d.minNextTime c = m.now - c.period := congrArg (· - c.period) hnow
  cases hheld : s.lastRecord.holds (d.minNextTime c) (urn m.addr ++ "water-level") with
  | true =>
    have hkey : concat (some (urn m.addr)) (some "water-level") = urn m.addr ++ "water-level" := rfl
    have hrounds : rounds c d ⟨some (urn m.addr), some "m", measurements⟩
        [⟨measured number "water-level" n, m.clock k, .committed⟩] s = (s, none) := by
      simp [rounds, Collector.round, measured, hkey, hheld]
    simp only [hrounds]
    exact ⟨h, fun x hx => hx, h.supplied_of_held (hcutoff ▸ hheld)⟩
  | false =>
    let x := storedWaterLevel c s.waterLevelId (urn m.addr) "water-level" (m.clock k)
      (number (n / 1000))
    have hrounds : rounds c d ⟨some (urn m.addr), some "m", measurements⟩
        [⟨measured number "water-level" n, m.clock k, .committed⟩] s = (s.store x, none) :=
      rounds_waterLevel [] htopic hheld
    have hpath := path_loopVisits c d ⟨some (urn m.addr), some "m", measurements⟩
      [⟨measured number "water-level" n, m.clock k, .committed⟩] s
    simp only [hrounds] at hpath ⊢
    refine ⟨⟨fun y hy => ?_, hpath.recorded h.recorded⟩, fun y hy => ?_, x, ?_, rfl, ?_⟩
    · rcases List.mem_cons.mp (s.store_stored x ▸ hy) with rfl | hold
      · exact ⟨m, hm, .level _ k hreport⟩
      · exact h.traced y hold
    · exact s.store_stored x ▸ List.mem_cons_of_mem x hy
    · exact s.store_stored x ▸ List.mem_cons_self
    · have hclock : x.clock = m.clock k := rfl
      have hlate := hregular.late k
      omega

/-- The names a report is about. -/
def MoteReport.names : MoteReport → List String
  | .level _ => ["water-level"]
  | r => r.values.map fun v => v.1.gate

/-- What a report about flows is read as. -/
theorem MoteReport.read_flows (hreads : Reads number readValue) (addr : LinkAddr) {r : MoteReport}
    (hints : r.Ints) (htopic : r.topic = "flow-rate") :
    readValue (r.text addr) = .record ⟨some (urn addr), some "m3/s",
      some (r.values.map fun v => measured number v.1.gate v.2)⟩ := by
  cases r with
  | flows f₀ f₁ f₂ => exact hreads.mote2 addr hints.1 hints.2.1 hints.2.2
  | flow FLOW f => exact hreads.flowSensor FLOW addr hints
  | level n => simp [topic] at htopic

theorem Kept.message_flows (h : Kept c number ms s) (hreads : Reads number readValue)
    (hm : m ∈ ms) (hregular : m.Regular) (hperiod : 0 ≤ c.period)
    (htopic : m.report.topic = "flow-rate") :
    let s' := messageArrived c (m.delivery readValue) s
    Kept c number ms s' ∧ (∀ x ∈ s.stored, x ∈ s'.stored) ∧
      ∀ v ∈ m.report.values, Supplied c s' m v.1.gate := by
  have hpayload := MoteReport.read_flows hreads m.addr hregular.ints htopic
  let measurements := m.report.values.map fun v => measured number v.1.gate v.2
  let d := m.delivery readValue
  have harrived : messageArrived c d s = (rounds c d
      ⟨some (urn m.addr), some "m3/s", some measurements⟩ (d.turnsOf measurements) s).1 := by
    simp only [messageArrived, d, Arrival.delivery, Collector.delivery, hpayload, measurements]
  have hturns : ∀ turn ∈ d.turnsOf measurements, ∃ v ∈ m.report.values, ∃ k,
      turn = ⟨measured number v.1.gate v.2, m.clock k, .committed⟩ := by
    intro turn hturn
    obtain ⟨n, hn, rfl⟩ := List.mem_mapIdx.mp hturn
    obtain ⟨v, hv, hmeasured⟩ := List.mem_map.mp (List.getElem_mem hn)
    exact ⟨v, hv, n, by rw [hmeasured]; rfl⟩
  obtain ⟨hkept, hstored, hsupplied⟩ := h.flowRates (d := d) hm hregular htopic rfl hperiod hturns
  simp only [d] at harrived
  rw [harrived]
  refine ⟨hkept, hstored, fun v hv => ?_⟩
  obtain ⟨n, hn, hmeasured⟩ := List.getElem_of_mem (List.mem_map_of_mem
    (f := fun v : Motes.Channel × Int => measured number v.1.gate v.2) hv)
  exact hsupplied _ (List.mem_mapIdx.mpr ⟨n, hn, rfl⟩) v.1 v.2 hmeasured

/-- **What a message of a mote leaves behind.** -/
theorem Kept.message (h : Kept c number ms s) (hreads : Reads number readValue) (hm : m ∈ ms)
    (hregular : m.Regular) (hperiod : 0 ≤ c.period) :
    let s' := messageArrived c (m.delivery readValue) s
    Kept c number ms s' ∧ (∀ x ∈ s.stored, x ∈ s'.stored) ∧
      ∀ name ∈ m.report.names, Supplied c s' m name := by
  have hflows := h.message_flows hreads hm hregular hperiod
  cases hreport : m.report with
  | level n =>
    have hpayload := hreads.mote3 m.addr (hreport ▸ hregular.ints : (MoteReport.level n).Ints)
    let d := m.delivery readValue
    have htopic : d.topic = "water-level" := congrArg MoteReport.topic hreport
    have harrived : messageArrived c d s = (rounds c d
        ⟨some (urn m.addr), some "m", some [measured number "water-level" n]⟩
        [⟨measured number "water-level" n, m.clock 0, .committed⟩] s).1 := by
      simp only [messageArrived, d, Arrival.delivery, Collector.delivery, hreport, MoteReport.text,
        hpayload]
      rfl
    obtain ⟨hkept, hstored, hsupplied⟩ :=
      h.waterLevel (d := d) hm hregular htopic rfl hreport hperiod 0
    simp only [d] at harrived
    rw [harrived]
    refine ⟨hkept, hstored, fun name hname => ?_⟩
    rw [List.mem_singleton.mp hname]
    exact hsupplied
  | flows f₀ f₁ f₂ =>
    obtain ⟨hkept, hstored, hsupplied⟩ := hflows (congrArg MoteReport.topic hreport)
    exact ⟨hkept, hstored, by simpa [hreport, MoteReport.names, MoteReport.values] using hsupplied⟩
  | flow FLOW f =>
    obtain ⟨hkept, hstored, hsupplied⟩ := hflows (congrArg MoteReport.topic hreport)
    exact ⟨hkept, hstored, by simpa [hreport, MoteReport.names, MoteReport.values] using hsupplied⟩

/-! ## §3 Runs -/

theorem Kept.more (h : Kept c number ms s) (m : Arrival) : Kept c number (ms ++ [m]) s where
  traced x hx := by
    obtain ⟨m', hm', htraced⟩ := h.traced x hx
    exact ⟨m', List.mem_append_left _ hm', htraced⟩
  recorded := h.recorded

/-- What any messages of motes leave behind. -/
theorem kept_run (hreads : Reads number readValue) (hperiod : 0 ≤ c.period)
    (flowRateId waterLevelId : Int) (hregular : ∀ m ∈ ms, m.Regular) :
    let s := arrive c (ms.map (Arrival.delivery readValue))
      (Subscriber.init flowRateId waterLevelId : Subscriber F)
    Kept c number ms s ∧ ∀ m ∈ ms, ∀ name ∈ m.report.names, Supplied c s m name := by
  induction ms using List.reverseRecOn with
  | nil => exact ⟨⟨by simp [arrive, Subscriber.init], fun k t hk => by cases hk⟩, by simp⟩
  | append_singleton ms m ih =>
    obtain ⟨hbefore, hlast⟩ := List.forall_mem_append.mp hregular
    obtain ⟨hkept, hsupplied⟩ := ih hbefore
    have hm : m ∈ ms ++ [m] := List.mem_append_right _ List.mem_cons_self
    obtain ⟨hkept', hstored', hsupplied'⟩ :=
      (hkept.more m).message hreads hm (hlast m List.mem_cons_self) hperiod
    simp only [arrive, List.map_append, List.foldl_append, List.map_cons, List.map_nil,
      List.foldl_cons, List.foldl_nil]
    refine ⟨hkept', fun m' hm' name hname => ?_⟩
    rcases List.mem_append.mp hm' with hold | hnew
    · exact (hsupplied m' hold name hname).mono hstored'
    · obtain rfl := List.mem_singleton.mp hnew
      exact hsupplied' name hname

/-- Behind base names of one length the names are told apart. -/
theorem name_of_key {a b : LinkAddr} {name name' : String} (h : urn a ++ name = urn b ++ name') :
    name = name' := by
  have hlists := congrArg String.toList h
  rw [String.toList_append, String.toList_append] at hlists
  have hlength : (urn a).toList.length = (urn b).toList.length := by
    simp only [String.length_toList, urn_length]
  exact String.toList_inj.mp (List.append_inj hlists hlength).2

/-- A row of a channel that is not older than a period. -/
theorem Kept.flowRow (h : Kept c number ms s) (hsupplied : Supplied c s m i.gate) :
    ∃ row ∈ s.flowRate, row.flowChannel = i.gate ∧ ∃ clock, row.timestamp = c.datetime clock ∧
      m.now - c.period ≤ clock := by
  obtain ⟨x, hx, hkey, hclock⟩ := hsupplied
  obtain ⟨m', hm', htraced⟩ := h.traced x hx
  cases htraced with
  | @flow j f recordId k hvalue =>
    have hname : j.gate = i.gate := name_of_key hkey
    exact ⟨_, mem_flowRate.mpr ⟨_, hx, rfl⟩, hname, _, rfl, hclock⟩
  | level recordId k hreport =>
    have hname : "water-level" = i.gate := name_of_key hkey
    cases i <;> exact absurd hname (by decide)

theorem Kept.levelRow (h : Kept c number ms s) (hsupplied : Supplied c s m "water-level") :
    ∃ row ∈ s.waterLevel, ∃ clock, row.timestamp = c.datetime clock ∧
      m.now - c.period ≤ clock := by
  obtain ⟨x, hx, hkey, hclock⟩ := hsupplied
  obtain ⟨m', hm', htraced⟩ := h.traced x hx
  cases htraced with
  | @flow j f recordId k hvalue =>
    have hname : j.gate = "water-level" := name_of_key hkey
    cases j <;> exact absurd hname (by decide)
  | level recordId k hreport => exact ⟨_, mem_waterLevel.mpr ⟨_, hx, rfl⟩, _, rfl, hclock⟩

/-- A row of the table `flowRate` is what a mote has reported. -/
theorem Kept.reported_flow {row : FlowRate F} (h : Kept c number ms s) (hrow : row ∈ s.flowRate) :
    ∃ m ∈ ms, ∃ i f k, (i, f) ∈ m.report.values ∧ row.flowChannel = Channel.gate i ∧
      row.value = number (f / 1000) ∧ row.timestamp = c.datetime (m.clock k) := by
  obtain ⟨x, hx, hxrow⟩ := mem_flowRate.mp hrow
  obtain ⟨m, hm, htraced⟩ := h.traced x hx
  cases htraced with
  | @flow i f recordId k hvalue =>
    obtain rfl := Row.flowRate.inj hxrow
    exact ⟨m, hm, i, f, k, hvalue, rfl, rfl, rfl⟩
  | level recordId k hreport => cases hxrow

theorem Kept.reported_level {row : WaterLevel F} (h : Kept c number ms s)
    (hrow : row ∈ s.waterLevel) :
    ∃ m ∈ ms, ∃ n k, m.report = .level n ∧ row.value = number (n / 1000) ∧
      row.timestamp = c.datetime (m.clock k) := by
  obtain ⟨x, hx, hxrow⟩ := mem_waterLevel.mp hrow
  obtain ⟨m, hm, htraced⟩ := h.traced x hx
  cases htraced with
  | flow recordId k hvalue => cases hxrow
  | @level n recordId k hreport =>
    obtain rfl := Row.waterLevel.inj hxrow
    exact ⟨m, hm, n, k, hreport, rfl, rfl⟩

/-! ## §4 Cycles -/

/-- When the Controller looks, the last message about the water level and
about each channel that is reported at all arrived at most `gap` ago, and
the inflow and some outflow are reported. -/
structure Supplying (gap now : Int) (ms : List Arrival) : Prop where
  level : ∃ m ∈ ms, "water-level" ∈ m.report.names ∧ now - gap ≤ m.now
  inflow : ∃ m ∈ ms, Channel.gate .inflow ∈ m.report.names
  outflow : ∃ m ∈ ms, ∃ i, i ≠ Channel.inflow ∧ i.gate ∈ m.report.names
  flows : ∀ m ∈ ms, ∀ i, Channel.gate i ∈ m.report.names →
    ∃ m' ∈ ms, i.gate ∈ m'.report.names ∧ now - gap ≤ m'.now

theorem MoteReport.gate_mem_names {r : MoteReport} {f : Int} (h : (i, f) ∈ r.values) :
    i.gate ∈ r.names := by
  cases r with
  | level n => cases h
  | flows f₀ f₁ f₂ => exact List.mem_map_of_mem (f := fun v => Channel.gate v.1) h
  | flow FLOW f => exact List.mem_map_of_mem (f := fun v => Channel.gate v.1) h

theorem datetime_le (hrounding : 0 ≤ c.rounding) (t : Int) : t - 999 ≤ c.datetime t := by
  unfold Settings.datetime
  omega

/-- Times whose rows are in order are themselves, up to the second. -/
theorem le_of_datetime_le {t t' : Int} (h : c.datetime t ≤ c.datetime t') : t - 999 ≤ t' := by
  unfold Settings.datetime at h
  omega

/-- Rows not older than `gap` and a period are recent. -/
theorem recent_of_gap {w : World F} {maxStale gap timestamp : Int} (hrounding : 0 ≤ c.rounding)
    (hgap : gap + c.period + 999 ≤ maxStale * 60000)
    (h : c.datetime (w.clock - gap - c.period) ≤ timestamp) : Recent maxStale w timestamp := by
  have hle := datetime_le hrounding (w.clock - gap - c.period)
  unfold Recent
  omega

/-- No collation of the database takes one channel for another. -/
theorem weight_gate_injective (col : Collation) {i j : Motes.Channel}
    (h : col.weight i.gate = col.weight j.gate) : i = j := by
  have hplain : ∀ k : Motes.Channel, Plain k.gate := by
    intro k
    cases k <;> decide
  have hfold : fold i.gate = fold j.gate := (col.plain _ _ (hplain i) (hplain j)).mp h
  cases i <;> cases j <;> first | rfl | exact absurd hfold (by decide)

variable {w : World F} {maxStale gap : Int}

/-- For every channel that is reported there is a row not older than `gap`
and a period. -/
theorem Kept.supplied_row (h : Kept c number ms s)
    (hsupplied : ∀ m ∈ ms, ∀ name ∈ m.report.names, Supplied c s m name)
    (hsupplying : Supplying gap w.clock ms) (hm : m ∈ ms) (hnames : i.gate ∈ m.report.names) :
    ∃ row ∈ s.flowRate, row.flowChannel = i.gate ∧
      c.datetime (w.clock - gap - c.period) ≤ row.timestamp := by
  obtain ⟨m', hm', hnames', hnow⟩ := hsupplying.flows m hm i hnames
  obtain ⟨row, hrow, hchannel, clock, htime, hclock⟩ := h.flowRow (hsupplied m' hm' _ hnames')
  refine ⟨row, hrow, hchannel, ?_⟩
  rw [htime]
  exact c.datetime_mono (by omega)

/-- Nor is the newest level. -/
theorem Kept.supplied_level (h : Kept c number ms s)
    (hsupplied : ∀ m ∈ ms, ∀ name ∈ m.report.names, Supplied c s m name)
    (hsupplying : Supplying gap w.clock ms) (hlevels : w.waterLevels.Perm s.waterLevel) :
    ∃ row, retrieveWaterLevel w.waterLevels = some row ∧ row ∈ s.waterLevel ∧
      c.datetime (w.clock - gap - c.period) ≤ row.timestamp := by
  obtain ⟨m, hm, hnames, hnow⟩ := hsupplying.level
  obtain ⟨row, hrow, clock, htime, hclock⟩ := h.levelRow (hsupplied m hm _ hnames)
  have hmem := hlevels.mem_iff.mpr hrow
  have hlate : c.datetime (w.clock - gap - c.period) ≤ row.timestamp := by
    rw [htime]
    exact c.datetime_mono (by omega)
  cases hfound : retrieveWaterLevel w.waterLevels with
  | none =>
    have hnil := List.argmax_eq_none.mp hfound
    rw [hnil] at hmem
    cases hmem
  | some newest =>
    have hle : row.timestamp ≤ newest.timestamp := List.le_of_mem_argmax hmem hfound
    exact ⟨newest, rfl, hlevels.mem_iff.mp (List.argmax_mem hfound), hlate.trans hle⟩

/-- Nor the newest row of a channel that is reported. -/
theorem Kept.supplied_flow (h : Kept c number ms s)
    (hsupplied : ∀ m ∈ ms, ∀ name ∈ m.report.names, Supplied c s m name)
    (hsupplying : Supplying gap w.clock ms) (hflows : w.flowRates.Perm s.flowRate)
    (hm : m ∈ ms) (hnames : i.gate ∈ m.report.names) :
    ∃ row, retrieveFlowRate w.collation w.flowRates i.gate = some row ∧ row ∈ s.flowRate ∧
      c.datetime (w.clock - gap - c.period) ≤ row.timestamp := by
  obtain ⟨row, hrow, hchannel, hlate⟩ := h.supplied_row hsupplied hsupplying hm hnames
  have hmem := hflows.mem_iff.mpr hrow
  have hsame : row.channel w.collation = w.collation.weight i.gate :=
    congrArg w.collation.weight hchannel
  obtain ⟨newest, hfound⟩ := exists_retrieveFlowRate hmem hsame
  obtain ⟨hnewest, hsame', hlatest⟩ := newest_of_retrieveFlowRate hfound
  exact ⟨newest, hfound, hflows.mem_iff.mp hnewest,
    hlate.trans (hlatest row hmem (hsame.trans hsame'.symm))⟩

/-- Nor any row that the outflow is the sum of. -/
theorem Kept.supplied_outflow (h : Kept c number ms s)
    (hsupplied : ∀ m ∈ ms, ∀ name ∈ m.report.names, Supplied c s m name)
    (hsupplying : Supplying gap w.clock ms) (hflows : w.flowRates.Perm s.flowRate)
    (horder : InOrder s.flowRate) :
    ∀ row ∈ outflowContributors w.collation w.flowRates,
      c.datetime (w.clock - gap - c.period) ≤ row.timestamp := by
  intro row hrow
  obtain ⟨hout, hlast⟩ := (mem_lastRows (horder.of_perm hflows)).mp hrow
  have hmem := (mem_outflowRows.mp hout).1
  obtain ⟨m, hm, i, f, k, hvalue, hchannel, -, -⟩ := h.reported_flow (hflows.mem_iff.mp hmem)
  obtain ⟨late, hlate, hname, htime⟩ :=
    h.supplied_row hsupplied hsupplying hm (MoteReport.gate_mem_names hvalue)
  have hmem' := hflows.mem_iff.mpr hlate
  have hsame : late.channel w.collation = row.channel w.collation :=
    congrArg w.collation.weight (hname.trans hchannel.symm)
  exact htime.trans (hlast.newest (horder.of_perm hflows) hmem late hmem' hsame)

theorem Kept.outflowRows_ne_nil (h : Kept c number ms s)
    (hsupplied : ∀ m ∈ ms, ∀ name ∈ m.report.names, Supplied c s m name)
    (hsupplying : Supplying gap w.clock ms) (hflows : w.flowRates.Perm s.flowRate) :
    outflowRows w.collation w.flowRates ≠ [] := by
  obtain ⟨m, hm, i, hi, hnames⟩ := hsupplying.outflow
  obtain ⟨row, hrow, hchannel, -⟩ := h.flowRow (hsupplied m hm _ hnames)
  have hother : w.collation.weight i.gate ≠ w.collation.weight (Channel.gate .inflow) :=
    fun hweight => hi (weight_gate_injective _ hweight)
  have hout : row ∈ outflowRows w.collation w.flowRates := by
    refine mem_outflowRows.mpr ⟨hflows.mem_iff.mpr hrow, ?_⟩
    rwa [FlowRate.channel, hchannel]
  exact List.ne_nil_of_mem hout

/-- **The supply lasts**: whatever motes have published, if the last
messages arrived at most `gap` ago then the next cycle acts, and all it
acts on is recent; the water level and the inflow were measured by a mote
whose message was handled at most `gap`, a period and a second ago. -/
theorem supplied [JavaFloat F] (hreads : Reads number readValue) (hperiod : 0 ≤ c.period)
    (hrounding : 0 ≤ c.rounding) (hgap : gap + c.period + 999 ≤ maxStale * 60000)
    (flowRateId waterLevelId : Int) (hregular : ∀ m ∈ ms, m.Regular)
    (hclock : NonDecreasing (ms.map (Arrival.delivery readValue))) (st : State F)
    (hsupplying : Supplying gap st.world.clock ms)
    (hflows : st.world.flowRates.Perm (arrive c (ms.map (Arrival.delivery readValue))
      (Subscriber.init flowRateId waterLevelId)).flowRate)
    (hlevels : st.world.waterLevels.Perm (arrive c (ms.map (Arrival.delivery readValue))
      (Subscriber.init flowRateId waterLevelId)).waterLevel) :
    DataRecent maxStale st.world ∧ ∃ level inflow outflow,
      (∀ f, Answering f → ∃ out,
        Controlled f level inflow outflow st out (runWith f maxStale st)) ∧
      (∃ m ∈ ms, ∃ n k, m.report = .level n ∧ level = number (n / 1000) ∧
        st.world.clock - gap - c.period - 999 ≤ m.clock k) ∧
      (∃ m ∈ ms, ∃ f k, (.inflow, f) ∈ m.report.values ∧ inflow = number (f / 1000) ∧
        st.world.clock - gap - c.period - 999 ≤ m.clock k) := by
  obtain ⟨hkept, hsupplied⟩ := kept_run hreads hperiod flowRateId waterLevelId hregular
  have horder := (written_of_run hclock c flowRateId waterLevelId).inOrder
  obtain ⟨levelRow, hlevel, hlevelMem, hlevelLate⟩ :=
    hkept.supplied_level hsupplied hsupplying hlevels
  obtain ⟨m₀, hm₀, hinflowNames⟩ := hsupplying.inflow
  obtain ⟨inflowRow, hinflow, hinflowMem, hinflowLate⟩ :=
    hkept.supplied_flow hsupplied hsupplying hflows hm₀ hinflowNames
  have hout : retrieveOutFlowRate st.world.collation st.world.flowRates ≠ none :=
    mt retrieveOutFlowRate_eq_none.mp (hkept.outflowRows_ne_nil hsupplied hsupplying hflows)
  obtain ⟨outflow, houtflow⟩ := Option.ne_none_iff_exists'.mp hout
  have hrecent : ∀ {timestamp : Int},
      c.datetime (st.world.clock - gap - c.period) ≤ timestamp →
        Recent maxStale st.world timestamp := recent_of_gap hrounding hgap
  have hinputs : Measured maxStale st.world levelRow.value inflowRow.value outflow :=
    ⟨⟨levelRow, hlevel, rfl, hrecent hlevelLate⟩, ⟨inflowRow, hinflow, rfl⟩, houtflow⟩
  refine ⟨⟨⟨fun row hrow => ?_, fun row hrow => ?_⟩, fun row hrow => ?_⟩, levelRow.value,
    inflowRow.value, outflow, fun f hf => runWith_controlled hf hinputs.cycleInputs, ?_, ?_⟩
  · obtain rfl := Option.some.inj (hinflow.symm.trans hrow)
    exact hrecent hinflowLate
  · exact hrecent (hkept.supplied_outflow hsupplied hsupplying hflows horder row hrow)
  · obtain rfl := Option.some.inj (hlevel.symm.trans hrow)
    exact hrecent hlevelLate
  · obtain ⟨m, hm, n, k, hreport, hvalue, htime⟩ := hkept.reported_level hlevelMem
    exact ⟨m, hm, n, k, hreport, hvalue, le_of_datetime_le (htime ▸ hlevelLate)⟩
  · obtain ⟨m, hm, i, f, k, hvalue, hchannel, hnumber, htime⟩ := hkept.reported_flow hinflowMem
    obtain rfl : i = .inflow := by
      refine weight_gate_injective st.world.collation ?_
      rw [← hchannel]
      exact (newest_of_retrieveFlowRate hinflow).2.1
    exact ⟨m, hm, f, k, hvalue, hnumber, le_of_datetime_le (htime ▸ hinflowLate)⟩

/-- A message in which no time passes is handled when it arrives. -/
theorem Arrival.readings_eq_now (hstill : ∀ n, m.clock n = m.now) :
    ∀ t ∈ (m.delivery readValue).readings, t = m.now := by
  intro t ht
  rcases List.mem_cons.mp ht with rfl | ht
  · rfl
  · obtain ⟨turn, hturn, rfl⟩ := List.mem_map.mp ht
    unfold Delivery.turns at hturn
    split at hturn
    · obtain ⟨n, -, rfl⟩ := List.mem_mapIdx.mp hturn
      exact hstill n
    · cases hturn

/-- Such messages, in the order they arrive. -/
theorem nonDecreasing_of_still (hstill : ∀ m ∈ ms, ∀ n, m.clock n = m.now)
    (horder : ms.Pairwise fun m m' => m.now ≤ m'.now) :
    NonDecreasing (ms.map (Arrival.delivery readValue)) := by
  unfold NonDecreasing
  rw [List.flatMap_map, List.pairwise_flatMap]
  constructor
  · intro m hm
    refine List.pairwise_of_forall_mem_list fun t ht t' ht' => ?_
    rw [Arrival.readings_eq_now (hstill m hm) t ht, Arrival.readings_eq_now (hstill m hm) t' ht']
  · refine horder.imp_of_mem fun {m m'} hm hm' hle t ht t' ht' => ?_
    rw [Arrival.readings_eq_now (hstill m hm) t ht, Arrival.readings_eq_now (hstill m' hm') t' ht']
    exact hle

/-- mote-2 publishes twice, the second time too soon, and mote-3 once. -/
def twoMotes : List Arrival :=
  [⟨zeros, .flows 32150 0 350, 1000, fun _ => 1000⟩,
    ⟨fun _ => Fin.last 255, .level 50123, 2000, fun _ => 2000⟩,
    ⟨zeros, .flows 32100 0 340, 3000, fun _ => 3000⟩]

/-- What the Collector makes of it. -/
def collected : Subscriber ℚ :=
  arrive ⟨3, 0⟩ (twoMotes.map (Arrival.delivery (readRecord id))) (Subscriber.init 1 1)

/-- The Controller after nine seconds. -/
def nineSeconds (sub : Subscriber ℚ) : State ℚ :=
  ⟨{ demoWorld .AUTO 0 0 false 50 20 20 with
      waterLevels := sub.waterLevel, flowRates := sub.flowRate, clock := 9000 }, []⟩

theorem supplied_demo : DataRecent 5 (nineSeconds collected).world ∧
    ∃ level inflow outflow out, Controlled (fun _ => .none) level inflow outflow
      (nineSeconds collected) out (runWith (fun _ => .none) 5 (nineSeconds collected)) := by
  have hregular : ∀ m ∈ twoMotes, m.Regular := by
    simp only [twoMotes, List.forall_mem_cons]
    refine ⟨⟨?_, fun _ => le_rfl⟩, ⟨?_, fun _ => le_rfl⟩, ⟨?_, fun _ => le_rfl⟩, by simp⟩ <;>
      simp [MoteReport.Ints]
  have hclock : NonDecreasing (twoMotes.map (Arrival.delivery (readRecord (F := ℚ) id))) := by
    refine nonDecreasing_of_still ?_ (by decide)
    simp [twoMotes]
  have hsupplying : Supplying 10000 (nineSeconds collected).world.clock twoMotes := by
    refine ⟨?_, ?_, ?_, ?_⟩
    · exact ⟨_, List.mem_cons_of_mem _ List.mem_cons_self, by decide, by decide⟩
    · exact ⟨_, List.mem_cons_self, by decide⟩
    · exact ⟨_, List.mem_cons_self, .outflow1, by decide, by decide⟩
    · intro m _ i _
      refine ⟨_, List.mem_cons_self, ?_, by decide⟩
      cases i <;> decide
  have hgap : 10000 + Settings.period ⟨3, 0⟩ + 999 ≤ 5 * 60000 := by decide
  have hflows (sub : Subscriber ℚ) : (nineSeconds sub).world.flowRates.Perm sub.flowRate := .refl _
  have hlevels (sub : Subscriber ℚ) : (nineSeconds sub).world.waterLevels.Perm sub.waterLevel :=
    .refl _
  obtain ⟨hrecent, level, inflow, outflow, hcontrolled, -⟩ := supplied (readRecord_reads id)
    (by decide) (by decide) hgap 1 1 hregular hclock _ hsupplying (hflows _)
    (hlevels _)
  exact ⟨hrecent, level, inflow, outflow, hcontrolled _ faultFree_answering⟩

end DamMonitoring.Deployment
