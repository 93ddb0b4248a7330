/-
DamMonitoring.Collector.LatestFlow — the latest flows in the table that
`messageArrived` writes.

Ids are handed out in the order of the inserts, and while the clock does
not go back so are the timestamps (`Written.inOrder`). So the two queries
for the latest flow can disagree only about rows of one second
(`latest_flows_agree_iff`). `lastRecord` does not prevent those: it keeps
apart the rows of one sensor, and a channel can have several sensors.
-/
import DamMonitoring.Collector.Spacing
import DamMonitoring.Persistence.LatestFlow

namespace DamMonitoring.Collector

open Java Persistence Control

variable {F : Type} {c : Settings} {s : Subscriber F} {v : Visit F} {m : Measurement F}

theorem mem_flowRate {row : FlowRate F} :
    row ∈ s.flowRate ↔ ∃ x ∈ s.stored, x.row = .flowRate row := by
  unfold Subscriber.flowRate
  rw [List.mem_filterMap]
  refine exists_congr fun x => and_congr_right fun _ => ?_
  cases x.row <;> simp

theorem flowRate_store_flowRate {x : Stored F} {row : FlowRate F} (h : x.row = .flowRate row) :
    (s.store x).flowRate = row :: s.flowRate ∧ (s.store x).flowRateId = s.flowRateId + 1 := by
  constructor
  · simp [Subscriber.flowRate, h]
  · simp [Subscriber.store, Subscriber.insert, h]

theorem flowRate_store_waterLevel {x : Stored F} {row : WaterLevel F}
    (h : x.row = .waterLevel row) :
    (s.store x).flowRate = s.flowRate ∧ (s.store x).flowRateId = s.flowRateId := by
  constructor
  · simp [Subscriber.flowRate, h]
  · simp [Subscriber.store, Subscriber.insert, h]

/-- The table `flowRate`, newest row first, has falling ids, all of them
handed out, and no rising timestamps. -/
structure Written (c : Settings) (s : Subscriber F) : Prop where
  known : Known c s
  handed : ∀ row ∈ s.flowRate, row.recordId < s.flowRateId
  falls : s.flowRate.Pairwise fun later earlier =>
    earlier.recordId < later.recordId ∧ earlier.timestamp ≤ later.timestamp

theorem written_init (c : Settings) (flowRateId waterLevelId : Int) :
    Written c (Subscriber.init flowRateId waterLevelId : Subscriber F) where
  known := known_init c flowRateId waterLevelId
  handed row hrow := by cases hrow
  falls := List.Pairwise.nil

theorem Written.after (h : Written c v.before)
    (hpast : ∀ x ∈ v.before.stored, x.clock ≤ v.turn.clock) : Written c (v.after c) := by
  have hknown := h.known.after hpast
  rcases v.after_cases c with hsame | ⟨m, x, -, hx, hafter⟩
  · rw [hsame]
    exact h
  rw [hafter] at hknown ⊢
  cases hrow : x.row with
  | flowRate row =>
    obtain ⟨htable, hid⟩ := flowRate_store_flowRate (s := v.before) hrow
    have hnew : row.recordId = v.before.flowRateId := hx.recordId row hrow
    have htime : row.timestamp = c.datetime v.turn.clock := by
      have htimestamp := hx.timestamp
      rw [hrow] at htimestamp
      exact htimestamp
    refine ⟨hknown, fun r hr => ?_, ?_⟩
    · rw [htable] at hr
      rcases List.mem_cons.mp hr with rfl | hr
      · omega
      · have hlt := h.handed r hr
        omega
    · rw [htable]
      refine List.pairwise_cons.mpr ⟨fun r hr => ⟨?_, ?_⟩, h.falls⟩
      · rw [hnew]
        exact h.handed r hr
      · obtain ⟨y, hy, hyrow⟩ := mem_flowRate.mp hr
        have hcolumn := h.known.column y hy
        rw [hyrow] at hcolumn
        rw [htime]
        exact hcolumn.le.trans (c.datetime_mono (hpast y hy))
  | waterLevel row =>
    obtain ⟨htable, hid⟩ := flowRate_store_waterLevel (s := v.before) hrow
    refine ⟨hknown, ?_, ?_⟩
    · rw [htable, hid]
      exact h.handed
    · rw [htable]
      exact h.falls

theorem Written.inOrder (h : Written c s) : InOrder s.flowRate where
  ids_nodup := List.pairwise_map.mpr (h.falls.imp fun hrow => hrow.1.ne')
  grows := by
    have hlater : s.flowRate.Pairwise fun later earlier =>
        later.recordId ≤ earlier.recordId → later.timestamp ≤ earlier.timestamp :=
      h.falls.imp fun hrow hle => absurd hrow.1 (not_lt.mpr hle)
    have hearlier : s.flowRate.Pairwise fun later earlier =>
        earlier.recordId ≤ later.recordId → earlier.timestamp ≤ later.timestamp :=
      h.falls.imp fun hrow _ => hrow.2
    intro r hr r' hr'
    exact hlater.forall_of_forall_of_flip (fun r _ _ => le_rfl) hearlier hr hr'

/-- What runs leave behind. -/
theorem written_of_run {run : List (Delivery F)} (hrun : NonDecreasing run) (c : Settings)
    (flowRateId waterLevelId : Int) :
    Written c (arrive c run (Subscriber.init flowRateId waterLevelId)) :=
  ((path_visits c run _).timed (hrun.timed c _) (fun x hx => by cases hx)
    (written_init c flowRateId waterLevelId) fun v _ hwritten _ hpast => hwritten.after hpast).1

/-- **When the latest flows agree**: after a run that has stored an
outflow, `retrieveOutFlowRate` is the sum of the latest rows of the
outflow channels, in whatever order rows of one second are returned,
exactly if no such channel has rows of its latest second that differ.
Which names are one channel is left to the collation. -/
theorem latest_flows_agree_iff (col : Collation) (c : Settings) (run : List (Delivery ℚ))
    (flowRateId waterLevelId : Int) (hrun : NonDecreasing run)
    (hout :
      outflowRows col (arrive c run (Subscriber.init flowRateId waterLevelId)).flowRate ≠ []) :
    (∀ rows, rows.Perm (arrive c run (Subscriber.init flowRateId waterLevelId)).flowRate →
        retrieveOutFlowRate col rows = some (sumOfLatest col rows)) ↔
      Settled col (arrive c run (Subscriber.init flowRateId waterLevelId)).flowRate :=
  sumOfLatest_iff (written_of_run hrun c flowRateId waterLevelId).inOrder hout

/-- A sensor on each of two channels, then one of them again. -/
def twoChannels : List (Delivery ℚ) :=
  [message "flow-rate" "a" "m3/s" "outflow-1" 10 0, message "flow-rate" "a" "m3/s" "outflow-2" 5 0,
    message "flow-rate" "a" "m3/s" "outflow-1" 20 3000]

theorem twoChannels_agree :
    outflowRows .ascii (arrive ⟨3, 0⟩ twoChannels (Subscriber.init 1 1)).flowRate ≠ [] ∧
      ∀ rows, rows.Perm (arrive ⟨3, 0⟩ twoChannels (Subscriber.init 1 1)).flowRate →
        retrieveOutFlowRate .ascii rows = some (sumOfLatest .ascii rows) := by
  have hrun : NonDecreasing twoChannels := by
    unfold NonDecreasing
    decide
  have hout :
      outflowRows .ascii (arrive ⟨3, 0⟩ twoChannels (Subscriber.init 1 1)).flowRate ≠ [] := by
    decide +kernel
  refine ⟨hout, (latest_flows_agree_iff .ascii ⟨3, 0⟩ twoChannels 1 1 hrun hout).mpr ?_⟩
  unfold Settled Newest
  decide +kernel

/-- Two sensors on one channel, 400 ms apart. -/
def twoSensors : List (Delivery ℚ) :=
  [message "flow-rate" "a" "m3/s" "outflow-1" 10 0,
    message "flow-rate" "b" "m3/s" "outflow-1" 20 400]

/-- After the run an outflow is stored, and the sum of the last rows is 20
while that of the latest rows may be 10. -/
def MayDiffer (c : Settings) (run : List (Delivery ℚ)) : Prop :=
  outflowRows .ascii (arrive c run (Subscriber.init 1 1)).flowRate ≠ [] ∧
    ∃ rows, rows.Perm (arrive c run (Subscriber.init 1 1)).flowRate ∧
      retrieveOutFlowRate .ascii rows = some 20 ∧ sumOfLatest .ascii rows = 10

/-- The largest id is that of the second; the row of the latest second
may be either, whether the column cuts times off or rounds them. -/
theorem two_sensors_in_a_second :
    NonDecreasing twoSensors ∧ MayDiffer ⟨3, 0⟩ twoSensors ∧ MayDiffer ⟨3, 500⟩ twoSensors := by
  refine ⟨by unfold NonDecreasing; decide, ⟨by decide +kernel, _, List.reverse_perm _, ?_, ?_⟩,
    by decide +kernel, _, List.reverse_perm _, ?_, ?_⟩
  · decide +kernel
  · decide +kernel
  · decide +kernel
  · decide +kernel

end DamMonitoring.Collector
