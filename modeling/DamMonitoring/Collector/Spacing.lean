/-
DamMonitoring.Collector.Spacing — how far apart the rows of one source
are, and which measurements hold back which.

`lastRecord` is told about the flow rates that `record` returned for, and
about nothing else: not about water levels, and not about a row that
stayed when its commit failed. Of the rows it is told about, it is an
exact limiter (`Known.held_iff`). `spaced_iff` says in which runs that is
enough to keep all rows of a source `minPeriod` apart, and
`discarded_by_same_key` whom a measurement can be held back by.

  §1 what `lastRecord` knows
  §2 rows of one source
  §3 measurements held back
-/
import DamMonitoring.Collector.Rounds
import Mathlib.Algebra.Order.Group.Unbundled.Abs
import Mathlib.Algebra.Order.Group.Int

namespace DamMonitoring.Collector

open Java Persistence Control

variable {F : Type} {c : Settings} {s : Subscriber F} {v : Visit F} {m : Measurement F}

/-! ## §1 What lastRecord knows -/

namespace Settings

theorem datetime_mono (c : Settings) {t t' : Int} (h : t ≤ t') : c.datetime t ≤ c.datetime t' := by
  unfold datetime
  omega

/-- Times a period apart are so as the column holds them. -/
theorem datetime_add_period_le (c : Settings) {t t' : Int} (h : t + c.period ≤ t') :
    c.datetime t + c.period ≤ c.datetime t' := by
  unfold datetime
  unfold period at *
  omega

end Settings

/-- The keys and times of the rows that `lastRecord` was told about. -/
def notes (stored : List (Stored F)) : List (String × Int) :=
  (stored.filter Stored.noted).map fun x => (x.key, x.clock)

theorem mem_notes {stored : List (Stored F)} {k : String} {t : Int} :
    (k, t) ∈ notes stored ↔ ∃ x ∈ stored, x.noted = true ∧ x.key = k ∧ x.clock = t := by
  simp [notes, and_assoc]

/-- `lastRecord` is up to date, and the rows have the times they were
stored at. -/
structure Known (c : Settings) (s : Subscriber F) : Prop where
  tracks : s.lastRecord.Tracks (notes s.stored)
  column : ∀ x ∈ s.stored, x.row.timestamp = c.datetime x.clock

theorem known_init (c : Settings) (flowRateId waterLevelId : Int) :
    Known c (Subscriber.init flowRateId waterLevelId : Subscriber F) where
  tracks := Limiter.tracks_empty
  column x hx := by cases hx

theorem tracks_store {x : Stored F} (h : s.lastRecord.Tracks (notes s.stored))
    (hpast : ∀ y ∈ s.stored, y.clock ≤ x.clock) :
    (s.store x).lastRecord.Tracks (notes (s.store x).stored) := by
  rw [Subscriber.store_stored]
  by_cases hx : x.noted = true
  · have hlate : ∀ e ∈ notes s.stored, e.2 ≤ x.clock := by
      rintro ⟨k, t⟩ he
      obtain ⟨y, hy, -, -, rfl⟩ := mem_notes.mp he
      exact hpast y hy
    simpa [Subscriber.store, notes, hx] using h.pass (k := x.key) hlate
  · simpa [Subscriber.store, notes, hx] using h

theorem Known.after (h : Known c v.before) (hpast : ∀ x ∈ v.before.stored, x.clock ≤ v.turn.clock) :
    Known c (v.after c) := by
  rcases v.after_cases c with hsame | ⟨m, x, -, hx, hafter⟩
  · rw [hsame]
    exact h
  · rw [hafter]
    refine ⟨tracks_store h.tracks (by rwa [hx.clock]), fun y hy => ?_⟩
    rw [Subscriber.store_stored] at hy
    rcases List.mem_cons.mp hy with rfl | hold
    · rw [hx.timestamp, hx.clock]
    · exact h.column y hold

/-- A measurement is held back exactly by a noted row of its key that is
not a period old. -/
theorem Known.held_iff (h : Known c v.before) :
    v.before.lastRecord.holds (v.delivery.minNextTime c) (v.key m) = true ↔
      ∃ x ∈ v.before.stored, x.noted = true ∧ x.key = v.key m ∧
        v.delivery.now < x.clock + c.period := by
  rw [h.tracks.holds_iff]
  unfold Delivery.minNextTime
  constructor
  · intro hnote
    obtain ⟨t, hmem, hlt⟩ := hnote
    obtain ⟨x, hx, hnoted, hkey, rfl⟩ := mem_notes.mp hmem
    exact ⟨x, hx, hnoted, hkey, by omega⟩
  · intro hrow
    obtain ⟨x, hx, hnoted, hkey, hlt⟩ := hrow
    exact ⟨x.clock, mem_notes.mpr ⟨x, hx, hnoted, hkey, rfl⟩, by omega⟩

/-- In every run `lastRecord` knows what it is told about. -/
theorem known_of_run {run : List (Delivery F)} (hrun : NonDecreasing run) (c : Settings)
    (flowRateId waterLevelId : Int) :
    ∀ v ∈ visits c run (Subscriber.init flowRateId waterLevelId),
      Known c v.before ∧ ∀ x ∈ v.before.stored, x.clock ≤ v.turn.clock :=
  ((path_visits c run _).timed (hrun.timed c _) (fun x hx => by cases hx)
    (known_init c flowRateId waterLevelId) fun v _ hknown _ hpast => hknown.after hpast).2

/-! ## §2 Rows of one source -/

/-- The rows come from the same topic, base name and name. -/
def SameSource (x y : Stored F) : Prop :=
  x.row.topic = y.row.topic ∧ x.baseName = y.baseName ∧ x.name = y.name

/-- The rows of each source are `minPeriod` apart. -/
def Spaced (c : Settings) (s : Subscriber F) : Prop :=
  s.stored.Pairwise fun x y =>
    SameSource x y → c.period ≤ |x.row.timestamp - y.row.timestamp|

/-- The round is going to store a measurement although a row of the same
source, one that `lastRecord` was not told about, is not `minPeriod` old. -/
def Repeats (c : Settings) (v : Visit F) : Prop :=
  ∃ m, Due c v m ∧ ∃ x ∈ v.before.stored, x.noted = false ∧
    x.row.topic = v.delivery.topic ∧ x.baseName = v.record.baseName ∧ x.name = m.name ∧
      c.datetime v.turn.clock < x.row.timestamp + c.period

/-- A row that is stored keeps its distance from the rows `lastRecord`
was told about. -/
theorem Known.apart (h : Known c v.before) (hdue : Due c v m)
    (hlate : v.delivery.now ≤ v.turn.clock) {y : Stored F} (hy : y ∈ v.before.stored)
    (hnoted : y.noted = true) (hkey : y.key = v.key m) :
    y.row.timestamp + c.period ≤ c.datetime v.turn.clock := by
  have hold : y.clock + c.period ≤ v.delivery.now := by
    by_contra hyoung
    have hheld := h.held_iff.mpr ⟨y, hy, hnoted, hkey, not_le.mp hyoung⟩
    rw [hdue.passes] at hheld
    cases hheld
  rw [h.column y hy]
  exact c.datetime_add_period_le (hold.trans hlate)

theorem Spaced.after (hspaced : Spaced c v.before) (hknown : Known c v.before)
    (hlate : v.delivery.now ≤ v.turn.clock) (hrepeats : ¬Repeats c v) : Spaced c (v.after c) := by
  rcases v.after_cases c with hsame | ⟨m, x, hdue, hx, hafter⟩
  · rw [hsame]
    exact hspaced
  · rw [hafter]
    unfold Spaced
    rw [Subscriber.store_stored]
    refine List.pairwise_cons.mpr ⟨fun y hy hsource => ?_, hspaced⟩
    obtain ⟨htopic, hbaseName, hname⟩ := hsource
    have hapart : y.row.timestamp + c.period ≤ x.row.timestamp := by
      rw [hx.timestamp]
      by_cases hnoted : y.noted = true
      · have hkey : y.key = v.key m := by
          rw [Stored.key, Visit.key, ← hbaseName, ← hname, hx.baseName, hx.name]
        exact hknown.apart hdue hlate hy hnoted hkey
      · by_contra hyoung
        exact hrepeats ⟨m, hdue, y, hy, eq_false_of_ne_true hnoted, htopic.symm.trans hx.topic,
          hbaseName.symm.trans hx.baseName, hname.symm.trans hx.name, not_le.mp hyoung⟩
    exact le_trans (by omega) (le_abs_self _)

/-- Once it has happened, the two rows stay. -/
theorem Repeats.not_spaced (h : Repeats c v) (hknown : Known c v.before)
    (hpast : ∀ x ∈ v.before.stored, x.clock ≤ v.turn.clock) : ¬Spaced c (v.after c) := by
  obtain ⟨m, hdue, y, hy, -, htopic, hbaseName, hname, hyoung⟩ := h
  obtain ⟨x, hx, hafter⟩ := Visit.after_of_due hdue
  intro hspaced
  rw [hafter] at hspaced
  unfold Spaced at hspaced
  rw [Subscriber.store_stored] at hspaced
  have hsame : SameSource x y :=
    ⟨hx.topic.trans htopic.symm, hx.baseName.trans hbaseName.symm, hx.name.trans hname.symm⟩
  have hapart := (List.pairwise_cons.mp hspaced).1 y hy hsame
  have horder : y.row.timestamp ≤ x.row.timestamp := by
    rw [hx.timestamp, hknown.column y hy]
    exact c.datetime_mono (hpast y hy)
  rw [abs_of_nonneg (sub_nonneg.mpr horder), hx.timestamp] at hapart
  omega

/-- **When rows are spaced**: the rows of each source are `minPeriod`
apart exactly in the runs in which no measurement is stored next to a
young row of its source that `lastRecord` was not told about. -/
theorem spaced_iff (c : Settings) (run : List (Delivery F)) (flowRateId waterLevelId : Int)
    (hrun : NonDecreasing run) :
    Spaced c (arrive c run (Subscriber.init flowRateId waterLevelId)) ↔
      ∀ v ∈ visits c run (Subscriber.init flowRateId waterLevelId), ¬Repeats c v := by
  have hpath := path_visits c run (Subscriber.init flowRateId waterLevelId)
  constructor
  · intro hspaced v hv hrepeats
    obtain ⟨hknown, hpast⟩ := known_of_run hrun c flowRateId waterLevelId v hv
    have hsublist := (hpath.stored_suffix_of_mem hv).sublist
    exact hrepeats.not_spaced hknown hpast (List.Pairwise.sublist hsublist hspaced)
  · intro hrepeats
    have hinit : Known c (Subscriber.init flowRateId waterLevelId : Subscriber F) ∧
        Spaced c (Subscriber.init flowRateId waterLevelId : Subscriber F) :=
      ⟨known_init c flowRateId waterLevelId, List.Pairwise.nil⟩
    have hlast := (hpath.timed (P := fun s => Known c s ∧ Spaced c s) (hrun.timed c _)
      (fun x hx => by cases hx) hinit fun v hv hP hlate hpast =>
        ⟨hP.1.after hpast, hP.2.after hP.1 hlate (hrepeats v hv)⟩).1
    exact hlast.2

/-- A message with one measurement that meets no failure. -/
def message (topic baseName baseUnit name : String) (value : ℚ) (now : Int) : Delivery ℚ where
  topic := topic
  payload := .record ⟨some baseName, some baseUnit, some [some ⟨some name, some value⟩]⟩
  now := now
  clock _ := now
  save _ := .committed

/-- Levels four seconds apart, flow rates one second apart. -/
def paced : List (Delivery ℚ) :=
  [message "water-level" "dam" "m" "level" 10 0, message "flow-rate" "dam" "m3/s" "inflow" 40 0,
    message "flow-rate" "dam" "m3/s" "inflow" 41 1000, message "water-level" "dam" "m" "level" 11 4000]

theorem paced_not_repeats :
    Spaced ⟨3, 0⟩ (arrive ⟨3, 0⟩ paced (Subscriber.init 1 1)) ∧
      ∀ v ∈ visits ⟨3, 0⟩ paced (Subscriber.init 1 1), ¬Repeats ⟨3, 0⟩ v := by
  have hrun : NonDecreasing paced := by
    unfold NonDecreasing
    decide
  have hspaced : Spaced ⟨3, 0⟩ (arrive ⟨3, 0⟩ paced (Subscriber.init 1 1)) := by
    unfold Spaced SameSource
    decide
  exact ⟨hspaced, (spaced_iff ⟨3, 0⟩ paced 1 1 hrun).mp hspaced⟩

/-- A level and, a second later, the next one from the same sensor. -/
def twoLevels : List (Delivery ℚ) :=
  [message "water-level" "dam" "m" "level" 10 0, message "water-level" "dam" "m" "level" 11 1000]

/-- With a `minPeriod` of three seconds both are stored. -/
theorem two_levels_in_a_period :
    NonDecreasing twoLevels ∧ ¬Spaced ⟨3, 0⟩ (arrive ⟨3, 0⟩ twoLevels (Subscriber.init 1 1)) := by
  refine ⟨by unfold NonDecreasing; decide, ?_⟩
  unfold Spaced SameSource
  decide

/-! ## §3 Measurements held back -/

/-- The round discards `m` as too fast. -/
def Discards (c : Settings) (v : Visit F) (m : Measurement F) : Prop :=
  v.turn.measurement = some m ∧
    v.before.lastRecord.holds (v.delivery.minNextTime c) (v.key m) = true

theorem Discards.after (h : Discards c v m) : round c v.delivery v.record v.turn v.before =
    (v.before, none) := by
  unfold round
  rw [h.1]
  exact if_pos h.2

/-- **Whom a measurement is held back by**: a flow rate whose base name
and name, one after the other, read the same, stored less than
`minPeriod` before the message arrived. -/
theorem discarded_by_same_key (c : Settings) (run : List (Delivery F))
    (flowRateId waterLevelId : Int) (hrun : NonDecreasing run) (v : Visit F)
    (hv : v ∈ visits c run (Subscriber.init flowRateId waterLevelId)) (m : Measurement F)
    (hdiscards : Discards c v m) :
    ∃ x ∈ v.before.stored, x.row.topic = "flow-rate" ∧
      concat x.baseName x.name = concat v.record.baseName m.name ∧
      v.delivery.now < x.clock + c.period := by
  obtain ⟨hknown, -⟩ := known_of_run hrun c flowRateId waterLevelId v hv
  obtain ⟨x, hx, hnoted, hkey, hyoung⟩ := hknown.held_iff.mp hdiscards.2
  refine ⟨x, hx, ?_, hkey, hyoung⟩
  unfold Stored.noted at hnoted
  cases hrow : x.row with
  | flowRate row => rfl
  | waterLevel row =>
    rw [hrow] at hnoted
    cases hnoted

/-- Two flow rates with no name in common, a second apart. -/
def twoNames : List (Delivery ℚ) :=
  [message "flow-rate" "ab" "m3/s" "c" 40 0, message "flow-rate" "a" "m3/s" "bc" 50 1000]

def secondOfTwoNames : Visit ℚ where
  delivery := message "flow-rate" "a" "m3/s" "bc" 50 1000
  record := ⟨some "a", some "m3/s", some [some ⟨some "bc", some 50⟩]⟩
  turn := ⟨some ⟨some "bc", some 50⟩, 1000, .committed⟩
  before := arrive ⟨3, 0⟩ [message "flow-rate" "ab" "m3/s" "c" 40 0] (Subscriber.init 1 1)

theorem mem_twoNames : secondOfTwoNames ∈ visits ⟨3, 0⟩ twoNames (Subscriber.init 1 1) :=
  List.mem_cons_of_mem _ List.mem_cons_self

theorem twoNames_discarded :
    ∃ x ∈ secondOfTwoNames.before.stored, x.row.topic = "flow-rate" ∧
      concat x.baseName x.name = concat (some "a") (some "bc") ∧ 1000 < x.clock + 3000 :=
  discarded_by_same_key ⟨3, 0⟩ twoNames 1 1 (by unfold NonDecreasing; decide) secondOfTwoNames
    mem_twoNames ⟨some "bc", some 50⟩ ⟨rfl, by decide⟩

/-- The second is discarded although nothing of its base name and name
has ever been stored. -/
theorem other_source_discards :
    NonDecreasing twoNames ∧ (∀ d ∈ twoNames, ∀ i, d.save i = .committed) ∧
      ∃ v ∈ visits ⟨3, 0⟩ twoNames (Subscriber.init 1 1), v.delivery.topic = "flow-rate" ∧
        v.record.baseUnit = some "m3/s" ∧
        ∃ m, Discards ⟨3, 0⟩ v m ∧
          ∀ x ∈ v.before.stored, ¬(x.baseName = v.record.baseName ∧ x.name = m.name) := by
  refine ⟨by unfold NonDecreasing; decide, ?_, secondOfTwoNames, mem_twoNames, rfl, rfl,
    ⟨some "bc", some 50⟩, ⟨rfl, by decide⟩, by decide⟩
  intro d hd i
  rcases List.mem_pair.mp hd with rfl | rfl <;> rfl

end DamMonitoring.Collector
