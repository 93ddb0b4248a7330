/-
DamMonitoring.Collector.Rounds — what one round of the loop over the
measurements can do, and the rounds that a run of messages consists of.

A round stores one row or changes nothing (`Visit.after_cases`); `Due`
says beforehand which. `visits` lists the
rounds of a run in order, each with the state it starts from. A property
of the state that every round keeps, given that no row is newer than the
clock, holds throughout the run (`Timed.visits`).

  §1 one round
  §2 the rounds of a run
  §3 the clock
-/
import DamMonitoring.Collector.Subscriber

namespace DamMonitoring.Collector

open Java Persistence Control

variable {F : Type} {c : Settings} {s s' : Subscriber F}

/-! ## §1 One round -/

/-- A round of the loop and the state it starts from. -/
structure Visit (F : Type) where
  delivery : Delivery F
  record : SensorRecord F
  turn : Turn F
  before : Subscriber F

namespace Visit

def after (c : Settings) (v : Visit F) : Subscriber F :=
  (round c v.delivery v.record v.turn v.before).1

/-- The key under which the round looks `m` up. -/
def key (v : Visit F) (m : Measurement F) : String := concat v.record.baseName m.name

end Visit

/-- The insert took place, whatever became of the commit. -/
def Save.inserts : Save → Bool
  | .committed => true
  | .failed _ => false
  | .commitFailed _ => true

/-- The message has the unit of its topic, and nothing is missing that a
column needs. -/
def Fits (topic : String) (r : SensorRecord F) (m : Measurement F) : Prop :=
  (topic = "flow-rate" ∧ r.baseUnit = some "m3/s" ∧ m.name ≠ none ∧ m.value ≠ none) ∨
    (topic = "water-level" ∧ r.baseUnit = some "m" ∧ m.value ≠ none)

/-- The round will store `m`: it is not held back as too fast, it fits,
and the database takes it. -/
structure Due (c : Settings) (v : Visit F) (m : Measurement F) : Prop where
  measurement : v.turn.measurement = some m
  passes : v.before.lastRecord.holds (v.delivery.minNextTime c) (v.key m) = false
  fits : Fits v.delivery.topic v.record m
  saved : v.turn.save.inserts = true

namespace Stored

/-- The key of a row. -/
def key (x : Stored F) : String := concat x.baseName x.name

/-- Rows that `lastRecord` is told about. -/
def noted (x : Stored F) : Bool :=
  match x.row with
  | .flowRate _ => x.committed
  | .waterLevel _ => false

/-- The row a round stores for `m`. -/
structure Of (c : Settings) (v : Visit F) (m : Measurement F) (x : Stored F) : Prop where
  topic : x.row.topic = v.delivery.topic
  baseName : x.baseName = v.record.baseName
  name : x.name = m.name
  clock : x.clock = v.turn.clock
  timestamp : x.row.timestamp = c.datetime v.turn.clock
  recordId : ∀ row, x.row = .flowRate row → row.recordId = v.before.flowRateId
  committed : x.committed = true ↔ v.turn.save = .committed

end Stored

theorem mem_waterLevel {row : WaterLevel F} :
    row ∈ s.waterLevel ↔ ∃ x ∈ s.stored, x.row = .waterLevel row := by
  unfold Subscriber.waterLevel
  rw [List.mem_filterMap]
  refine exists_congr fun x => and_congr_right fun _ => ?_
  cases x.row <;> simp

/-- Store a row, and note it if it is one of those. -/
def Subscriber.store (x : Stored F) (s : Subscriber F) : Subscriber F :=
  { s.insert x with
    lastRecord := if x.noted then s.lastRecord.pass x.key x.clock else s.lastRecord }

@[simp] theorem Subscriber.store_stored (x : Stored F) : (s.store x).stored = x :: s.stored :=
  s.insert_stored x

theorem Subscriber.store_of_not_noted {x : Stored F} (h : x.noted = false) :
    s.store x = s.insert x := by
  have hlast : (s.insert x).lastRecord = s.lastRecord := s.insert_lastRecord x
  rw [Subscriber.store, h, ← hlast]
  rfl

theorem record_of_not_inserts {save : Save} (h : save.inserts = false) (x : Stored F) :
    ∃ ex, Collector.record save x s = (s, some ex) := by
  cases save with
  | committed => cases h
  | failed message => exact ⟨_, rfl⟩
  | commitFailed message => cases h

theorem recordFlowRate_fails {baseName name : Option String} {value : Option F} {clock : Int}
    {save : Save} (h : ¬(name ≠ none ∧ value ≠ none ∧ save.inserts = true)) :
    ∃ ex, recordFlowRate c baseName name value clock save s = (s, .error ex) := by
  unfold recordFlowRate
  split
  · next flowChannel value =>
    have hsave : save.inserts = false := by simpa using h
    obtain ⟨ex, hrecord⟩ := record_of_not_inserts (s := s) hsave _
    dsimp only
    rw [hrecord]
    exact ⟨ex, rfl⟩
  · exact ⟨_, rfl⟩

theorem recordWaterLevel_fails {baseName name : Option String} {value : Option F} {clock : Int}
    {save : Save} (h : ¬(value ≠ none ∧ save.inserts = true)) :
    ∃ ex, recordWaterLevel c baseName name value clock save s = (s, some ex) := by
  unfold recordWaterLevel
  split
  · have hsave : save.inserts = false := by simpa using h
    exact record_of_not_inserts hsave _
  · exact ⟨_, rfl⟩

namespace Visit

variable {v : Visit F} {m : Measurement F}

/-- A round that is due stores its row. -/
theorem after_of_due (h : Due c v m) : ∃ x, Stored.Of c v m x ∧ v.after c = v.before.store x := by
  obtain ⟨d, ⟨baseName, baseUnit, measurements⟩, ⟨measurement, clock, save⟩, s⟩ := v
  obtain ⟨hmeasurement, hpasses, hfits, hsaved⟩ := h
  obtain ⟨name, value⟩ := m
  obtain rfl : measurement = some ⟨name, value⟩ := hmeasurement
  have hpasses' : s.lastRecord.holds (d.minNextTime c) (concat baseName name) = false := hpasses
  rcases hfits with ⟨htopic, hunit, hname, hvalue⟩ | ⟨htopic, hunit, hvalue⟩
  · obtain rfl : baseUnit = some "m3/s" := hunit
    obtain ⟨flowChannel, rfl⟩ := Option.ne_none_iff_exists'.mp hname
    obtain ⟨value, rfl⟩ := Option.ne_none_iff_exists'.mp hvalue
    have htopic' : d.topic = "flow-rate" := htopic
    let row : Row F := .flowRate ⟨s.flowRateId, flowChannel, c.datetime clock, value⟩
    cases save with
    | committed =>
      refine ⟨⟨row, baseName, some flowChannel, clock, true⟩, ?_, ?_⟩
      · exact ⟨htopic'.symm, rfl, rfl, rfl, rfl, by rintro _ ⟨⟩; rfl, by simp⟩
      · simp [after, round, hpasses', htopic', recordFlowRate, Collector.record,
          Subscriber.store, Stored.noted, Stored.key, row]
    | failed message => cases hsaved
    | commitFailed message =>
      refine ⟨⟨row, baseName, some flowChannel, clock, false⟩, ?_, ?_⟩
      · exact ⟨htopic'.symm, rfl, rfl, rfl, rfl, by rintro _ ⟨⟩; rfl, by simp⟩
      · rw [Subscriber.store_of_not_noted rfl]
        simp [after, round, hpasses', htopic', recordFlowRate, Collector.record, row]
  · obtain rfl : baseUnit = some "m" := hunit
    obtain ⟨value, rfl⟩ := Option.ne_none_iff_exists'.mp hvalue
    have htopic' : d.topic = "water-level" := htopic
    let row : Row F := .waterLevel ⟨s.waterLevelId, c.datetime clock, value⟩
    cases save with
    | committed =>
      refine ⟨⟨row, baseName, name, clock, true⟩, ?_, ?_⟩
      · exact ⟨htopic'.symm, rfl, rfl, rfl, rfl, by rintro _ ⟨⟩, by simp⟩
      · rw [Subscriber.store_of_not_noted rfl]
        simp [after, round, hpasses', htopic', recordWaterLevel, Collector.record, row]
    | failed message => cases hsaved
    | commitFailed message =>
      refine ⟨⟨row, baseName, name, clock, false⟩, ?_, ?_⟩
      · exact ⟨htopic'.symm, rfl, rfl, rfl, rfl, by rintro _ ⟨⟩, by simp⟩
      · rw [Subscriber.store_of_not_noted rfl]
        simp [after, round, hpasses', htopic', recordWaterLevel, Collector.record, row]

/-- A round that is not due changes nothing. -/
theorem after_of_not_due (h : ∀ m, ¬Due c v m) : v.after c = v.before := by
  obtain ⟨d, ⟨baseName, baseUnit, measurements⟩, ⟨measurement, clock, save⟩, s⟩ := v
  cases measurement with
  | none => rfl
  | some m =>
    obtain ⟨name, value⟩ := m
    unfold after round
    dsimp only
    split
    · rfl
    next hpasses =>
    have hdue : ¬(Fits d.topic ⟨baseName, baseUnit, measurements⟩ ⟨name, value⟩ ∧
        save.inserts = true) :=
      fun hfits => h ⟨name, value⟩ ⟨rfl, eq_false_of_ne_true hpasses, hfits.1, hfits.2⟩
    split
    · next htopic =>
      split
      · rfl
      next baseUnit =>
      split
      · rfl
      next hunit =>
      obtain rfl : baseUnit = "m3/s" := not_not.mp hunit
      have hfails : ¬(name ≠ none ∧ value ≠ none ∧ save.inserts = true) :=
        fun ⟨hname, hvalue, hsaved⟩ => hdue ⟨Or.inl ⟨htopic, rfl, hname, hvalue⟩, hsaved⟩
      obtain ⟨ex, hrecord⟩ := recordFlowRate_fails (c := c) (s := s) hfails
      rw [hrecord]
    · split
      · next htopic =>
        split
        · rfl
        next baseUnit =>
        split
        · rfl
        next hunit =>
        obtain rfl : baseUnit = "m" := not_not.mp hunit
        have hfails : ¬(value ≠ none ∧ save.inserts = true) :=
          fun ⟨hvalue, hsaved⟩ => hdue ⟨Or.inr ⟨htopic, rfl, hvalue⟩, hsaved⟩
        obtain ⟨ex, hrecord⟩ := recordWaterLevel_fails (c := c) (s := s) hfails
        rw [hrecord]
      · rfl

/-- **What a round does**: nothing, or it stores the row that is due. -/
theorem after_cases (c : Settings) (v : Visit F) : v.after c = v.before ∨
    ∃ m x, Due c v m ∧ Stored.Of c v m x ∧ v.after c = v.before.store x := by
  by_cases h : ∃ m, Due c v m
  · obtain ⟨m, hdue⟩ := h
    obtain ⟨x, hx, hafter⟩ := after_of_due hdue
    exact Or.inr ⟨m, x, hdue, hx, hafter⟩
  · exact Or.inl (after_of_not_due fun m hdue => h ⟨m, hdue⟩)

/-- Rows are only added. -/
theorem stored_suffix_after (c : Settings) (v : Visit F) :
    v.before.stored <:+ (v.after c).stored := by
  rcases v.after_cases c with hsame | ⟨m, x, -, -, hafter⟩
  · exact hsame.symm ▸ List.suffix_rfl
  · rw [hafter, Subscriber.store_stored]
    exact List.suffix_cons x _

/-- A row that a round adds has the time of the round. -/
theorem mem_stored_after {x : Stored F} (hx : x ∈ (v.after c).stored) :
    x ∈ v.before.stored ∨ x.clock = v.turn.clock := by
  rcases v.after_cases c with hsame | ⟨m, y, -, hy, hafter⟩
  · rw [hsame] at hx
    exact Or.inl hx
  · rw [hafter, Subscriber.store_stored] at hx
    rcases List.mem_cons.mp hx with rfl | hold
    · exact Or.inr hy.clock
    · exact Or.inl hold

end Visit

/-! ## §2 The rounds of a run -/

/-- The rounds of a loop, up to the one that throws. -/
def loopVisits (c : Settings) (d : Delivery F) (r : SensorRecord F) :
    List (Turn F) → Subscriber F → List (Visit F)
  | [], _ => []
  | turn :: turns, s =>
    ⟨d, r, turn, s⟩ ::
      match round c d r turn s with
      | (s', none) => loopVisits c d r turns s'
      | (_, some _) => []

def Delivery.visits (c : Settings) (d : Delivery F) (s : Subscriber F) : List (Visit F) :=
  match d.payload with
  | .record ⟨baseName, baseUnit, some measurements⟩ =>
    loopVisits c d ⟨baseName, baseUnit, some measurements⟩ (d.turnsOf measurements) s
  | _ => []

/-- All rounds that a run reaches. -/
def visits (c : Settings) : List (Delivery F) → Subscriber F → List (Visit F)
  | [], _ => []
  | d :: run, s => d.visits c s ++ visits c run (messageArrived c d s)

/-- Each round starts where the one before has ended. -/
inductive Path (c : Settings) : Subscriber F → List (Visit F) → Subscriber F → Prop where
  | nil (s : Subscriber F) : Path c s [] s
  | cons {v : Visit F} {vs : List (Visit F)} {s' : Subscriber F} :
      Path c (v.after c) vs s' → Path c v.before (v :: vs) s'

variable {vs ws : List (Visit F)}

theorem Path.append {s'' : Subscriber F} (h : Path c s vs s') (h' : Path c s' ws s'') :
    Path c s (vs ++ ws) s'' := by
  induction h with
  | nil => exact h'
  | cons _ ih => exact Path.cons (ih h')

theorem path_loopVisits (c : Settings) (d : Delivery F) (r : SensorRecord F)
    (turns : List (Turn F)) (s : Subscriber F) :
    Path c s (loopVisits c d r turns s) (rounds c d r turns s).1 := by
  induction turns generalizing s with
  | nil => exact Path.nil s
  | cons turn turns ih =>
    refine Path.cons (v := ⟨d, r, turn, s⟩) ?_
    unfold Visit.after rounds
    dsimp only
    split
    · next s' hround =>
      rw [hround]
      exact ih s'
    · next s' ex hround =>
      rw [hround]
      exact Path.nil s'

theorem Delivery.path_visits (c : Settings) (d : Delivery F) (s : Subscriber F) :
    Path c s (d.visits c s) (messageArrived c d s) := by
  unfold Delivery.visits messageArrived
  split
  · next hpayload =>
    rw [hpayload]
    exact path_loopVisits ..
  · next hother =>
    split
    · next hpayload => exact absurd hpayload (hother _ _ _)
    all_goals exact Path.nil s

/-- The rounds of a run lead to its last state. -/
theorem path_visits (c : Settings) (run : List (Delivery F)) (s : Subscriber F) :
    Path c s (visits c run s) (arrive c run s) := by
  induction run generalizing s with
  | nil => exact Path.nil s
  | cons d run ih => exact (d.path_visits c s).append (ih _)

theorem Path.stored_suffix (h : Path c s vs s') : s.stored <:+ s'.stored := by
  induction h with
  | nil => exact List.suffix_rfl
  | cons _ ih => exact (Visit.stored_suffix_after c _).trans ih

/-- What a round has stored is there at the end. -/
theorem Path.stored_suffix_of_mem (h : Path c s vs s') {v : Visit F} (hv : v ∈ vs) :
    (v.after c).stored <:+ s'.stored := by
  induction h with
  | nil => cases hv
  | cons hpath ih =>
    rcases List.mem_cons.mp hv with rfl | hv
    · exact hpath.stored_suffix
    · exact ih hv

/-! ## §3 The clock -/

/-- The rounds of the loop, if it is reached. -/
def Delivery.turns (d : Delivery F) : List (Turn F) :=
  match d.payload with
  | .record ⟨_, _, some measurements⟩ => d.turnsOf measurements
  | _ => []

/-- The times a message is handled at, in the order they are read. -/
def Delivery.readings (d : Delivery F) : List Int := d.now :: d.turns.map Turn.clock

/-- The clock never goes back. -/
def NonDecreasing (run : List (Delivery F)) : Prop :=
  (run.flatMap Delivery.readings).Pairwise (· ≤ ·)

/-- The same of the rounds alone. -/
structure Timed (vs : List (Visit F)) : Prop where
  sorted : vs.Pairwise fun v w => v.turn.clock ≤ w.turn.clock
  late : ∀ v ∈ vs, v.delivery.now ≤ v.turn.clock

theorem loopVisits_clocks (c : Settings) (d : Delivery F) (r : SensorRecord F)
    (turns : List (Turn F)) (s : Subscriber F) :
    ((loopVisits c d r turns s).map fun v => v.turn).Sublist turns := by
  induction turns generalizing s with
  | nil => exact List.Sublist.refl _
  | cons turn turns ih =>
    unfold loopVisits
    split
    · next s' hround =>
      exact (ih s').cons_cons turn
    · next s' ex hround =>
      exact (List.nil_sublist turns).cons_cons turn

theorem loopVisits_delivery {d : Delivery F} {r : SensorRecord F} {turns : List (Turn F)}
    {v : Visit F} (hv : v ∈ loopVisits c d r turns s) : v.delivery = d := by
  induction turns generalizing s with
  | nil => cases hv
  | cons turn turns ih =>
    unfold loopVisits at hv
    rcases List.mem_cons.mp hv with rfl | hv
    · rfl
    · split at hv
      · exact ih hv
      · cases hv

theorem Delivery.visits_turns (c : Settings) (d : Delivery F) (s : Subscriber F) :
    ((d.visits c s).map fun v => v.turn).Sublist d.turns := by
  unfold Delivery.visits Delivery.turns
  split
  · exact loopVisits_clocks ..
  · exact List.nil_sublist _

theorem Delivery.visits_delivery {d : Delivery F} {v : Visit F} (hv : v ∈ d.visits c s) :
    v.delivery = d := by
  unfold Delivery.visits at hv
  split at hv
  · exact loopVisits_delivery hv
  · cases hv

theorem visits_sublist (c : Settings) (run : List (Delivery F)) (s : Subscriber F) :
    ((visits c run s).map fun v => v.turn.clock).Sublist (run.flatMap Delivery.readings) := by
  induction run generalizing s with
  | nil => exact List.Sublist.refl _
  | cons d run ih =>
    unfold visits
    rw [List.map_append, List.flatMap_cons]
    refine List.Sublist.append ?_ (ih _)
    have hclocks := (d.visits_turns c s).map Turn.clock
    rw [List.map_map] at hclocks
    exact hclocks.cons d.now

theorem mem_visits {run : List (Delivery F)} {v : Visit F} (hv : v ∈ visits c run s) :
    v.delivery ∈ run ∧ v.turn ∈ v.delivery.turns := by
  induction run generalizing s with
  | nil => cases hv
  | cons d run ih =>
    rcases List.mem_append.mp hv with hfirst | hlater
    · have hd := Delivery.visits_delivery hfirst
      rw [hd]
      exact ⟨List.mem_cons_self, (d.visits_turns c s).subset (List.mem_map_of_mem hfirst)⟩
    · obtain ⟨hmem, hturn⟩ := ih hlater
      exact ⟨List.mem_cons_of_mem _ hmem, hturn⟩

theorem NonDecreasing.timed {run : List (Delivery F)} (h : NonDecreasing run) (c : Settings)
    (s : Subscriber F) : Timed (visits c run s) where
  sorted := List.pairwise_map.mp (h.sublist (visits_sublist c run s))
  late v hv := by
    obtain ⟨hd, hturn⟩ := mem_visits hv
    have hreadings := (List.pairwise_flatMap.mp h).1 v.delivery hd
    exact List.rel_of_pairwise_cons hreadings (List.mem_map_of_mem hturn)

/-- **The rule for runs**: what every round keeps, knowing that no row is
newer than it, holds at the end and before every round. -/
theorem Path.timed {P : Subscriber F → Prop} (hpath : Path c s vs s') (htimed : Timed vs)
    (hpast : ∀ x ∈ s.stored, ∀ v ∈ vs, x.clock ≤ v.turn.clock) (hP : P s)
    (hstep : ∀ v ∈ vs, P v.before → v.delivery.now ≤ v.turn.clock →
      (∀ x ∈ v.before.stored, x.clock ≤ v.turn.clock) → P (v.after c)) :
    P s' ∧ ∀ v ∈ vs, P v.before ∧ ∀ x ∈ v.before.stored, x.clock ≤ v.turn.clock := by
  induction hpath with
  | nil => exact ⟨hP, fun v hv => by cases hv⟩
  | @cons v vs s' _ ih =>
    obtain ⟨hsorted, hlate⟩ := htimed
    obtain ⟨hfirst, hrest⟩ := List.pairwise_cons.mp hsorted
    have hpastV : ∀ x ∈ v.before.stored, x.clock ≤ v.turn.clock :=
      fun x hx => hpast x hx v List.mem_cons_self
    have hafter : P (v.after c) :=
      hstep v List.mem_cons_self hP (hlate v List.mem_cons_self) hpastV
    have hpastRest : ∀ x ∈ (v.after c).stored, ∀ w ∈ vs, x.clock ≤ w.turn.clock := by
      intro x hx w hw
      rcases Visit.mem_stored_after hx with hold | hnew
      · exact hpast x hold w (List.mem_cons_of_mem _ hw)
      · rw [hnew]
        exact hfirst w hw
    obtain ⟨hlast, hall⟩ := ih ⟨hrest, fun w hw => hlate w (List.mem_cons_of_mem _ hw)⟩
      hpastRest hafter fun w hw => hstep w (List.mem_cons_of_mem _ hw)
    refine ⟨hlast, fun w hw => ?_⟩
    rcases List.mem_cons.mp hw with rfl | hw
    · exact ⟨hP, hpastV⟩
    · exact hall w hw

end DamMonitoring.Collector
