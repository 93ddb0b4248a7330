/-
DamMonitoring.Persistence.Measurements — the measurement tables and the
three queries the control loop reads.

A table is the list of its rows in whatever order the database returns
rows of equal timestamp; a statement over every list therefore covers
every way of breaking such ties. Timestamps are milliseconds.

Which channels are one and the same is for the collation of the schema to
say, `utf8mb4_0900_ai_ci`, which ignores case and accents. The queries
take any collation (`Collation`).

  §1 rows
  §2 the collation
  §3 the queries
-/
import DamMonitoring.Java.Basics
import Mathlib.Data.List.MinMax

namespace DamMonitoring.Persistence

open Java

variable {F : Type}

/-! ## §1 Rows -/

/-- The entity `WaterLevel`. -/
structure WaterLevel (F : Type) where
  recordId : Int
  timestamp : Int
  value : F

/-- The entity `FlowRate`. -/
structure FlowRate (F : Type) where
  recordId : Int
  flowChannel : String
  timestamp : Int
  value : F

/-! ## §2 The collation -/

/-- A collation, by the weights it gives to texts: texts of one weight are
equal to the database. Of printable ASCII it ignores the case of the
letters and nothing else. -/
structure Collation where
  weight : String → List Nat
  plain : ∀ a b, Plain a → Plain b → (weight a = weight b ↔ fold a = fold b)

namespace Collation

/-- `a = b` in a query. -/
def same (col : Collation) (a b : String) : Bool := col.weight a == col.weight b

variable {col : Collation} {a b : String}

theorem same_iff : col.same a b = true ↔ col.weight a = col.weight b := by
  simp [same]

@[simp] theorem same_self : col.same a a = true := same_iff.mpr rfl

theorem same_plain (ha : Plain a) (hb : Plain b) : col.same a b = equalsIgnoreCase a b := by
  rw [Bool.eq_iff_iff, same_iff, equalsIgnoreCase_iff, col.plain a b ha hb]

def foldWeight (s : String) : List Nat := (fold s).map Char.toNat

theorem foldWeight_eq_iff (a b : String) : foldWeight a = foldWeight b ↔ fold a = fold b :=
  (List.map_injective_iff.mpr fun _ _ h => Char.toNat_inj.mp h).eq_iff

/-- Ignores case as `equalsIgnoreCase` does, and no accents. -/
def ascii : Collation where
  weight := foldWeight
  plain a b _ _ := foldWeight_eq_iff a b

end Collation

/-! ## §3 The queries -/

/-- `order by key desc`, first row. The order of `Int` is given by name:
with all of Mathlib in scope, instance search finds a noncomputable one. -/
def latest {α : Type} (key : α → Int) (rows : List α) : Option α :=
  @List.argmax α Int Int.instLinearOrder.toPreorder Int.instLinearOrder.toDecidableLT key rows

@[simp] theorem latest_singleton {α : Type} (key : α → Int) (r : α) : latest key [r] = some r := rfl

/-- `from WaterLevel order by timestamp desc`, first row. -/
def retrieveWaterLevel (rows : List (WaterLevel F)) : Option (WaterLevel F) :=
  latest WaterLevel.timestamp rows

def channelRows (col : Collation) (rows : List (FlowRate F)) (flowChannel : String) :
    List (FlowRate F) :=
  rows.filter fun r => col.same r.flowChannel flowChannel

/-- `from FlowRate where flowChannel = … order by timestamp desc`, first row. -/
def retrieveFlowRate (col : Collation) (rows : List (FlowRate F)) (flowChannel : String) :
    Option (FlowRate F) :=
  latest FlowRate.timestamp (channelRows col rows flowChannel)

/-- The rows of the channels other than `inflow`. -/
def outflowRows (col : Collation) (rows : List (FlowRate F)) : List (FlowRate F) :=
  rows.filter fun r => !col.same r.flowChannel "inflow"

/-- `select max(recordId) … where flowChannel != 'inflow' group by flowChannel`. -/
def lastOutflowIds (col : Collation) (rows : List (FlowRate F)) : List Int :=
  ((outflowRows col rows).filter fun r =>
    (outflowRows col rows).all fun s =>
      !col.same s.flowChannel r.flowChannel || s.recordId ≤ r.recordId).map
    FlowRate.recordId

/-- `select sum(value) … where recordId in (…)`; the sum of no row is null. -/
def retrieveOutFlowRate [JavaFloat F] (col : Collation) (rows : List (FlowRate F)) : Option F :=
  match rows.filter fun r => r.recordId ∈ lastOutflowIds col rows with
  | [] => none
  | last => some (last.map FlowRate.value).sum

/-- An inflow is found exactly when the channel has a row. -/
theorem retrieveFlowRate_eq_none {col : Collation} {rows : List (FlowRate F)}
    {flowChannel : String} :
    retrieveFlowRate col rows flowChannel = none ↔ channelRows col rows flowChannel = [] :=
  List.argmax_eq_none

/-- Some row has the largest id of its channel, if there is a row. -/
theorem exists_last_of_channel {rows : List (FlowRate F)} (h : rows ≠ []) :
    ∃ r ∈ rows, ∀ s ∈ rows, s.recordId ≤ r.recordId := by
  obtain ⟨r, hr⟩ : ∃ r, latest FlowRate.recordId rows = some r := by
    cases hm : latest FlowRate.recordId rows with
    | none => exact absurd (List.argmax_eq_none.mp hm) h
    | some r => exact ⟨r, rfl⟩
  exact ⟨r, List.argmax_mem hr, fun s hs => List.le_of_mem_argmax hs hr⟩

/-- The outflow sum is null exactly when no outflow channel has a row. -/
theorem retrieveOutFlowRate_eq_none [JavaFloat F] {col : Collation} {rows : List (FlowRate F)} :
    retrieveOutFlowRate col rows = none ↔ outflowRows col rows = [] := by
  constructor
  · intro h
    by_contra hne
    obtain ⟨r, hr, hmax⟩ := exists_last_of_channel hne
    have hid : r.recordId ∈ lastOutflowIds col rows := by
      refine List.mem_map.mpr ⟨r, List.mem_filter.mpr ⟨hr, ?_⟩, rfl⟩
      simp only [List.all_eq_true, Bool.or_eq_true, decide_eq_true_eq]
      exact fun s hs => Or.inr (hmax s hs)
    have hmem : r ∈ rows.filter fun r => r.recordId ∈ lastOutflowIds col rows :=
      List.mem_filter.mpr ⟨(List.mem_filter.mp hr).1, by simpa using hid⟩
    unfold retrieveOutFlowRate at h
    split at h
    · rename_i hnil
      rw [hnil] at hmem
      cases hmem
    · cases h
  · intro h
    have hids : lastOutflowIds col rows = [] := by simp [lastOutflowIds, h]
    simp [retrieveOutFlowRate, hids]

end DamMonitoring.Persistence
