/-
DamMonitoring.Persistence.LatestFlow — the two notions of the latest flow.

`retrieveFlowRate` takes the row with the largest timestamp of a channel,
`retrieveOutFlowRate` the row with the largest id. In a table whose ids
and timestamps grow together (`InOrder`) the row with the largest id is
among those with the largest timestamp, but timestamps are whole seconds,
and of several rows the database returns any. `sumOfLatest_iff` says when
it makes no difference which.

  §1 the sum over the channels
  §2 both answers have one row of each channel
  §3 when they agree
-/
import DamMonitoring.Persistence.Measurements
import DamMonitoring.Persistence.Groups
import Mathlib.Data.List.Pairwise

namespace DamMonitoring.Persistence

open Java

variable {F : Type}

section

variable (col : Collation)

/-! ## §1 The sum over the channels -/

/-- `select distinct flowChannel … where flowChannel != 'inflow'`. -/
def outflowChannels (rows : List (FlowRate F)) : List String :=
  ((outflowRows col rows).map FlowRate.flowChannel).pwFilter fun a b =>
    col.weight a ≠ col.weight b

/-- `retrieveFlowRate(channel)` for each of these channels. -/
def latestRows (rows : List (FlowRate F)) : List (FlowRate F) :=
  (outflowChannels col rows).filterMap (retrieveFlowRate col rows)

/-- The sum of `retrieveFlowRate(channel).getValue()` over the channels
other than `inflow`. -/
def sumOfLatest (rows : List (FlowRate ℚ)) : ℚ := ((latestRows col rows).map FlowRate.value).sum

/-- What tells channels apart. -/
def FlowRate.channel (r : FlowRate F) : List Nat := col.weight r.flowChannel

/-- No row of the channel has a larger timestamp. -/
def Newest (rows : List (FlowRate F)) (r : FlowRate F) : Prop :=
  ∀ s ∈ rows, s.channel col = r.channel col → s.timestamp ≤ r.timestamp

/-- No row of the channel has a larger id. -/
def Last (rows : List (FlowRate F)) (r : FlowRate F) : Prop :=
  ∀ s ∈ rows, s.channel col = r.channel col → s.recordId ≤ r.recordId

end

/-- Ids are unique and grow with the timestamps. -/
structure InOrder (rows : List (FlowRate F)) : Prop where
  ids_nodup : (rows.map FlowRate.recordId).Nodup
  grows : ∀ r ∈ rows, ∀ s ∈ rows, r.recordId ≤ s.recordId → r.timestamp ≤ s.timestamp

/-- In every outflow channel the rows of its latest second have one value. -/
def Settled (col : Collation) (rows : List (FlowRate F)) : Prop :=
  ∀ r ∈ outflowRows col rows, ∀ s ∈ outflowRows col rows, r.channel col = s.channel col →
    Newest col rows r → Newest col rows s → r.value = s.value

variable {col : Collation} {rows rows' : List (FlowRate F)} {r s : FlowRate F}
  {flowChannel : String}

theorem InOrder.eq_of_recordId (h : InOrder rows) (hr : r ∈ rows) (hs : s ∈ rows)
    (hid : r.recordId = s.recordId) : r = s :=
  List.inj_on_of_nodup_map h.ids_nodup hr hs hid

/-- It does not matter in which order the rows are read. -/
theorem InOrder.of_perm (h : InOrder rows) (hperm : rows'.Perm rows) : InOrder rows' where
  ids_nodup := (hperm.map _).nodup_iff.mpr h.ids_nodup
  grows r hr s hs := h.grows r (hperm.mem_iff.mp hr) s (hperm.mem_iff.mp hs)

theorem Last.newest (hlast : Last col rows r) (h : InOrder rows) (hr : r ∈ rows) :
    Newest col rows r :=
  fun s hs hchannel => h.grows s hs r hr (hlast s hs hchannel)

theorem Newest.of_perm (h : Newest col rows r) (hperm : rows'.Perm rows) : Newest col rows' r :=
  fun s hs => h s (hperm.mem_iff.mp hs)

theorem mem_channelRows :
    r ∈ channelRows col rows flowChannel ↔ r ∈ rows ∧ r.channel col = col.weight flowChannel := by
  simp [channelRows, FlowRate.channel, Collation.same_iff]

theorem mem_outflowRows :
    r ∈ outflowRows col rows ↔ r ∈ rows ∧ r.channel col ≠ col.weight "inflow" := by
  simp [outflowRows, FlowRate.channel, Collation.same]

theorem mem_outflowRows_of_perm (hperm : rows'.Perm rows) :
    r ∈ outflowRows col rows' ↔ r ∈ outflowRows col rows := by
  rw [mem_outflowRows, mem_outflowRows, hperm.mem_iff]

theorem outflowRows_ne_nil_of_perm (hperm : rows'.Perm rows) (hne : outflowRows col rows ≠ []) :
    outflowRows col rows' ≠ [] := by
  obtain ⟨r, hr⟩ := List.exists_mem_of_ne_nil _ hne
  exact List.ne_nil_of_mem ((mem_outflowRows_of_perm hperm).mpr hr)

/-! ## §2 One row of each channel -/

/-- What `retrieveFlowRate` finds is a newest row of the channel. -/
theorem newest_of_retrieveFlowRate (h : retrieveFlowRate col rows flowChannel = some r) :
    r ∈ rows ∧ r.channel col = col.weight flowChannel ∧ Newest col rows r := by
  obtain ⟨hr, hchannel⟩ := mem_channelRows.mp (List.argmax_mem h)
  refine ⟨hr, hchannel, fun s hs hsame => ?_⟩
  exact List.le_of_mem_argmax (mem_channelRows.mpr ⟨hs, hsame.trans hchannel⟩) h

theorem retrieveFlowRate_congr {other : String} (h : col.weight flowChannel = col.weight other) :
    retrieveFlowRate col rows flowChannel = retrieveFlowRate col rows other := by
  simp [retrieveFlowRate, channelRows, Collation.same, h]

theorem exists_retrieveFlowRate (hr : r ∈ rows)
    (hchannel : r.channel col = col.weight flowChannel) :
    ∃ s, retrieveFlowRate col rows flowChannel = some s := by
  refine Option.ne_none_iff_exists'.mp fun hnone => ?_
  have hnil := retrieveFlowRate_eq_none.mp hnone
  have hmem := mem_channelRows.mpr ⟨hr, hchannel⟩
  rw [hnil] at hmem
  cases hmem

/-- A newest row that comes first in the table is the one that is found. -/
theorem retrieveFlowRate_cons (h : Newest col (r :: rows) r) :
    retrieveFlowRate col (r :: rows) r.flowChannel = some r := by
  have hrows :
      channelRows col (r :: rows) r.flowChannel = r :: channelRows col rows r.flowChannel := by
    simp [channelRows]
  unfold retrieveFlowRate latest
  rw [hrows, List.argmax_cons]
  cases hrest : List.argmax FlowRate.timestamp (channelRows col rows r.flowChannel) with
  | none => rfl
  | some s =>
    obtain ⟨hs, hchannel⟩ := mem_channelRows.mp (List.argmax_mem hrest)
    exact if_neg (not_lt.mpr (h s (List.mem_cons_of_mem _ hs) hchannel))

theorem exists_outflowChannel (hr : r ∈ outflowRows col rows) :
    ∃ flowChannel ∈ outflowChannels col rows, col.weight flowChannel = r.channel col := by
  by_contra hnone
  have htrans : ∀ {x y z : String}, col.weight x ≠ col.weight z →
      col.weight x ≠ col.weight y ∨ col.weight y ≠ col.weight z := by
    intro x y z hne
    by_contra hboth
    obtain ⟨hxy, hyz⟩ := not_or.mp hboth
    exact hne ((not_not.mp hxy).trans (not_not.mp hyz))
  have hall : ∀ b ∈ outflowChannels col rows, col.weight r.flowChannel ≠ col.weight b :=
    fun b hb heq => hnone ⟨b, hb, heq.symm⟩
  have hself := (List.forall_mem_pwFilter (R := fun a b => col.weight a ≠ col.weight b) htrans
    r.flowChannel ((outflowRows col rows).map FlowRate.flowChannel)).mp hall
  exact hself r.flowChannel (List.mem_map_of_mem hr) (Eq.refl (col.weight r.flowChannel))

theorem exists_row_of_outflowChannel (h : flowChannel ∈ outflowChannels col rows) :
    ∃ r ∈ outflowRows col rows, r.flowChannel = flowChannel :=
  List.mem_map.mp (List.pwFilter_subset _ h)

theorem mem_latestRows : r ∈ latestRows col rows ↔
    r ∈ outflowRows col rows ∧ retrieveFlowRate col rows r.flowChannel = some r := by
  unfold latestRows
  rw [List.mem_filterMap]
  constructor
  · intro h
    obtain ⟨flowChannel, hmem, hfound⟩ := h
    obtain ⟨s, hs, rfl⟩ := exists_row_of_outflowChannel hmem
    obtain ⟨hr, hchannel, -⟩ := newest_of_retrieveFlowRate hfound
    refine ⟨mem_outflowRows.mpr ⟨hr, ?_⟩, ?_⟩
    · rw [hchannel]
      exact (mem_outflowRows.mp hs).2
    · rw [← hfound]
      exact retrieveFlowRate_congr hchannel
  · intro h
    obtain ⟨hr, hfound⟩ := h
    obtain ⟨flowChannel, hmem, hchannel⟩ := exists_outflowChannel hr
    exact ⟨flowChannel, hmem, (retrieveFlowRate_congr hchannel).trans hfound⟩

theorem onePer_latest (col : Collation) (rows : List (FlowRate F)) :
    OnePer (FlowRate.channel col) (outflowRows col rows) (latestRows col rows) := by
  refine ⟨fun r hr => (mem_latestRows.mp hr).1, ?_, fun r hr => ?_⟩
  · have hdistinct : (outflowChannels col rows).Pairwise fun a b => col.weight a ≠ col.weight b :=
      List.pairwise_pwFilter _
    refine List.pairwise_map.mpr (List.pairwise_filterMap.mpr (hdistinct.imp ?_))
    intro a b hne r hr s hs heq
    rw [(newest_of_retrieveFlowRate hr).2.1, (newest_of_retrieveFlowRate hs).2.1] at heq
    exact hne heq
  · obtain ⟨flowChannel, hmem, hchannel⟩ := exists_outflowChannel hr
    obtain ⟨s, hs⟩ := exists_retrieveFlowRate (mem_outflowRows.mp hr).1 hchannel.symm
    refine List.mem_map.mpr ⟨s, List.mem_filterMap.mpr ⟨flowChannel, hmem, hs⟩, ?_⟩
    rw [(newest_of_retrieveFlowRate hs).2.1, hchannel]

theorem mem_lastOutflowIds (h : InOrder rows) (hr : r ∈ rows) :
    r.recordId ∈ lastOutflowIds col rows ↔ r ∈ outflowRows col rows ∧ Last col rows r := by
  simp only [lastOutflowIds, List.mem_map, List.mem_filter, List.all_eq_true, Bool.or_eq_true,
    Bool.not_eq_true', decide_eq_true_eq]
  constructor
  · intro h'
    obtain ⟨s, ⟨hs, hlast⟩, hid⟩ := h'
    obtain rfl := h.eq_of_recordId (mem_outflowRows.mp hs).1 hr hid
    refine ⟨hs, fun t ht hchannel => ?_⟩
    have hout : t ∈ outflowRows col rows :=
      mem_outflowRows.mpr ⟨ht, hchannel ▸ (mem_outflowRows.mp hs).2⟩
    rcases hlast t hout with hother | hle
    · rw [Collation.same_iff.mpr hchannel] at hother
      cases hother
    · exact hle
  · intro h'
    obtain ⟨hout, hlast⟩ := h'
    refine ⟨r, ⟨hout, fun t ht => ?_⟩, rfl⟩
    by_cases hchannel : col.same t.flowChannel r.flowChannel = true
    · exact Or.inr (hlast t (mem_outflowRows.mp ht).1 (Collation.same_iff.mp hchannel))
    · exact Or.inl (eq_false_of_ne_true hchannel)

/-- The rows that `retrieveOutFlowRate` adds up. -/
def lastRows (col : Collation) (rows : List (FlowRate F)) : List (FlowRate F) :=
  rows.filter fun r => r.recordId ∈ lastOutflowIds col rows

theorem mem_lastRows (h : InOrder rows) :
    r ∈ lastRows col rows ↔ r ∈ outflowRows col rows ∧ Last col rows r := by
  unfold lastRows
  rw [List.mem_filter, decide_eq_true_eq]
  constructor
  · intro h'
    obtain ⟨hr, hid⟩ := h'
    exact (mem_lastOutflowIds h hr).mp hid
  · intro hlast
    have hr := (mem_outflowRows.mp hlast.1).1
    exact ⟨hr, (mem_lastOutflowIds h hr).mpr hlast⟩

theorem Last.eq (h : InOrder rows) (hr : r ∈ rows) (hs : s ∈ rows) (hlast : Last col rows r)
    (hlast' : Last col rows s) (hchannel : r.channel col = s.channel col) : r = s :=
  h.eq_of_recordId hr hs (le_antisymm (hlast' r hr hchannel) (hlast s hs hchannel.symm))

theorem onePer_last (h : InOrder rows) :
    OnePer (FlowRate.channel col) (outflowRows col rows) (lastRows col rows) := by
  refine ⟨fun r hr => ((mem_lastRows h).mp hr).1, ?_, fun r hr => ?_⟩
  · have hnodup : (lastRows col rows).Nodup := (List.Nodup.of_map _ h.ids_nodup).filter _
    refine List.Nodup.map_on (fun r hr s hs hchannel => ?_) hnodup
    obtain ⟨hr, hlast⟩ := (mem_lastRows h).mp hr
    obtain ⟨hs, hlast'⟩ := (mem_lastRows h).mp hs
    exact hlast.eq h (mem_outflowRows.mp hr).1 (mem_outflowRows.mp hs).1 hlast' hchannel
  · obtain ⟨hmem, hne⟩ := mem_outflowRows.mp hr
    have hrows : channelRows col rows r.flowChannel ≠ [] :=
      List.ne_nil_of_mem (mem_channelRows.mpr ⟨hmem, rfl⟩)
    obtain ⟨s, hs, hmax⟩ := exists_last_of_channel hrows
    obtain ⟨hs, hchannel⟩ := mem_channelRows.mp hs
    have hsame : s.channel col = r.channel col := hchannel
    have hlast : Last col rows s :=
      fun t ht htchannel => hmax t (mem_channelRows.mpr ⟨ht, htchannel.trans hchannel⟩)
    have hout : s ∈ outflowRows col rows := mem_outflowRows.mpr ⟨hs, hsame ▸ hne⟩
    exact List.mem_map.mpr ⟨s, (mem_lastRows h).mpr ⟨hout, hlast⟩, hsame⟩

theorem retrieveOutFlowRate_eq {rows : List (FlowRate ℚ)} (hne : outflowRows col rows ≠ []) :
    retrieveOutFlowRate col rows = some ((lastRows col rows).map FlowRate.value).sum := by
  cases hlast : lastRows col rows with
  | nil =>
    have hnone : retrieveOutFlowRate col rows = none := by
      unfold retrieveOutFlowRate
      rw [← lastRows, hlast]
    exact absurd (retrieveOutFlowRate_eq_none.mp hnone) hne
  | cons r rest =>
    unfold retrieveOutFlowRate
    rw [← lastRows, hlast]

/-- The answer does not depend on the order of the rows. -/
theorem retrieveOutFlowRate_of_perm {rows rows' : List (FlowRate ℚ)} (h : InOrder rows)
    (hne : outflowRows col rows ≠ []) (hperm : rows'.Perm rows) :
    retrieveOutFlowRate col rows' = retrieveOutFlowRate col rows := by
  have hmem : ∀ r, r ∈ outflowRows col rows' ↔ r ∈ outflowRows col rows :=
    fun r => mem_outflowRows_of_perm hperm
  have hne' : outflowRows col rows' ≠ [] := outflowRows_ne_nil_of_perm hperm hne
  rw [retrieveOutFlowRate_eq hne', retrieveOutFlowRate_eq hne]
  refine congrArg some (((onePer_last (h.of_perm hperm)).congr hmem).sum_eq (onePer_last h) _ ?_)
  intro r hr s hs hchannel
  obtain ⟨hr, hlast⟩ := (mem_lastRows (h.of_perm hperm)).mp hr
  obtain ⟨hs, hlast'⟩ := (mem_lastRows h).mp hs
  have hlast : Last col rows r := fun t ht => hlast t (hperm.mem_iff.mpr ht)
  have hr := (mem_outflowRows.mp ((hmem r).mp hr)).1
  rw [hlast.eq h hr (mem_outflowRows.mp hs).1 hlast' hchannel]

/-! ## §3 When they agree -/

/-- The database may return `r` for its channel, and do for the other
channels what it did. -/
theorem exists_front (hr : r ∈ rows) (hnewest : Newest col rows r) :
    ∃ rows', rows'.Perm rows ∧ retrieveFlowRate col rows' r.flowChannel = some r ∧
      ∀ flowChannel, r.channel col ≠ col.weight flowChannel →
        retrieveFlowRate col rows' flowChannel = retrieveFlowRate col rows flowChannel := by
  obtain ⟨before, after, rfl⟩ := List.append_of_mem hr
  have hperm : (r :: (before ++ after)).Perm (before ++ r :: after) := List.perm_middle.symm
  refine ⟨_, hperm, retrieveFlowRate_cons (hnewest.of_perm hperm), fun flowChannel hne => ?_⟩
  have hnot : col.same r.flowChannel flowChannel = false := by
    simpa [Collation.same, FlowRate.channel] using hne
  have hrows : channelRows col (r :: (before ++ after)) flowChannel =
      channelRows col (before ++ r :: after) flowChannel := by
    simp [channelRows, hnot]
  rw [retrieveFlowRate, hrows, retrieveFlowRate]

/-- Two orders of the rows that differ in the answer for one channel
give sums that differ. -/
theorem value_eq_of_sumOfLatest {rows₁ rows₂ : List (FlowRate ℚ)} {r s : FlowRate ℚ}
    (hperm : rows₂.Perm rows₁) (hr : r ∈ latestRows col rows₁) (hs : s ∈ latestRows col rows₂)
    (hchannel : r.channel col = s.channel col)
    (hothers : ∀ flowChannel, s.channel col ≠ col.weight flowChannel →
      retrieveFlowRate col rows₂ flowChannel = retrieveFlowRate col rows₁ flowChannel)
    (hsum : sumOfLatest col rows₁ = sumOfLatest col rows₂) : r.value = s.value := by
  have hsecond := (onePer_latest col rows₂).congr fun t => mem_outflowRows_of_perm hperm
  refine (onePer_latest col rows₁).eq_of_sum_eq hsecond _ hr hs hchannel ?_ hsum
  intro a ha b hb hab hne
  have hfound := (mem_latestRows.mp ha).2
  have hother : s.channel col ≠ col.weight b.flowChannel :=
    fun heq => hne (hab.trans (heq.symm.trans hchannel.symm))
  have hsame : retrieveFlowRate col rows₁ b.flowChannel = some b :=
    (hothers _ hother).symm.trans (mem_latestRows.mp hb).2
  rw [← retrieveFlowRate_congr hab, hfound] at hsame
  rw [Option.some.inj hsame]

/-- **The two notions of the latest flow** agree, in whatever order rows
are returned, exactly if no outflow channel has rows of its latest second
that differ in value. -/
theorem sumOfLatest_iff {rows : List (FlowRate ℚ)} (h : InOrder rows)
    (hne : outflowRows col rows ≠ []) :
    (∀ rows', rows'.Perm rows → retrieveOutFlowRate col rows' = some (sumOfLatest col rows')) ↔
      Settled col rows := by
  constructor
  · intro hagree r hr s hs hchannel hnewest hnewest'
    obtain ⟨rows₁, hperm₁, hfirst₁, -⟩ := exists_front (mem_outflowRows.mp hr).1 hnewest
    have hsmem := hperm₁.mem_iff.mpr (mem_outflowRows.mp hs).1
    obtain ⟨rows₂, hperm₂, hfirst₂, hothers⟩ := exists_front hsmem (hnewest'.of_perm hperm₁)
    have hperm := hperm₂.trans hperm₁
    have hsum : some (sumOfLatest col rows₁) = some (sumOfLatest col rows₂) := by
      rw [← hagree rows₁ hperm₁, ← hagree rows₂ hperm, retrieveOutFlowRate_of_perm h hne hperm₁,
        retrieveOutFlowRate_of_perm h hne hperm]
    have hr₁ := mem_latestRows.mpr ⟨(mem_outflowRows_of_perm hperm₁).mpr hr, hfirst₁⟩
    have hs₂ := mem_latestRows.mpr ⟨(mem_outflowRows_of_perm hperm).mpr hs, hfirst₂⟩
    exact value_eq_of_sumOfLatest hperm₂ hr₁ hs₂ hchannel hothers (Option.some.inj hsum)
  · intro hsettled rows' hperm
    have h' := h.of_perm hperm
    rw [retrieveOutFlowRate_eq (outflowRows_ne_nil_of_perm hperm hne), sumOfLatest]
    refine congrArg some ((onePer_last h').sum_eq (onePer_latest col rows') _ ?_)
    intro r hr s hs hchannel
    obtain ⟨hr, hlast⟩ := (mem_lastRows h').mp hr
    obtain ⟨hs, hfound⟩ := mem_latestRows.mp hs
    have hnewest := hlast.newest h' (mem_outflowRows.mp hr).1
    have hnewest' := (newest_of_retrieveFlowRate hfound).2.2
    exact hsettled r ((mem_outflowRows_of_perm hperm).mp hr) s
      ((mem_outflowRows_of_perm hperm).mp hs) hchannel (hnewest.of_perm hperm.symm)
      (hnewest'.of_perm hperm.symm)

end DamMonitoring.Persistence
