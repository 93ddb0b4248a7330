/-
DamMonitoring.Control.Limiter — letting at most one event per key and
period through.

A limiter remembers for each key when an event was last let through, and
holds an event back if that was after a cutoff. `Tracks` ties it to the
record of everything let through. As long as events come in the order of
their times, the limiter decides what the whole record would decide
(`Tracks.holds_iff`): remembering the last time is enough.
-/
import Mathlib.Order.Defs.PartialOrder
import Mathlib.Logic.Function.Basic

namespace DamMonitoring.Control

/-- For each key, the time of the last event let through. -/
abbrev Limiter (κ τ : Type) : Type := κ → Option τ

namespace Limiter

variable {κ τ : Type}

def empty : Limiter κ τ := fun _ => none

/-- An event under `k` was let through after `cutoff`. -/
def holds [LT τ] [DecidableLT τ] (L : Limiter κ τ) (cutoff : τ) (k : κ) : Bool :=
  match L k with
  | none => false
  | some t => decide (cutoff < t)

/-- An event under `k` is let through at `t`. -/
def pass [DecidableEq κ] (L : Limiter κ τ) (k : κ) (t : τ) : Limiter κ τ :=
  Function.update L k (some t)

theorem holds_eq_true [LT τ] [DecidableLT τ] {L : Limiter κ τ} {cutoff : τ} {k : κ} :
    L.holds cutoff k = true ↔ ∃ t, L k = some t ∧ cutoff < t := by
  unfold holds
  cases L k <;> simp

/-- Events under other keys do not matter. -/
theorem holds_pass_of_ne [DecidableEq κ] [LT τ] [DecidableLT τ] (L : Limiter κ τ) {k k' : κ}
    (t cutoff : τ) (h : k' ≠ k) : (L.pass k t).holds cutoff k' = L.holds cutoff k' := by
  simp [holds, pass, Function.update_of_ne h]

/-- The limiter knows, of each key, one of the recorded times and none
later than it. -/
structure Tracks [LE τ] (L : Limiter κ τ) (record : List (κ × τ)) : Prop where
  recorded : ∀ {k t}, L k = some t → (k, t) ∈ record
  last : ∀ {k t}, (k, t) ∈ record → ∃ t', L k = some t' ∧ t ≤ t'

variable [Preorder τ] {L : Limiter κ τ} {record : List (κ × τ)} {k : κ} {t cutoff : τ}

theorem tracks_empty : (empty : Limiter κ τ).Tracks [] where
  recorded h := by cases h
  last h := by cases h

/-- Events are let through in the order of their times. -/
theorem Tracks.pass [DecidableEq κ] (h : L.Tracks record)
    (hlate : ∀ e ∈ record, e.2 ≤ t) : (L.pass k t).Tracks ((k, t) :: record) where
  recorded {k' t'} hk' := by
    by_cases heq : k' = k
    · subst heq
      obtain rfl : t = t' := by simpa [Limiter.pass] using hk'
      exact List.mem_cons_self
    · have hold : L k' = some t' := by simpa [Limiter.pass, heq] using hk'
      exact List.mem_cons_of_mem _ (h.recorded hold)
  last {k' t'} hmem := by
    by_cases heq : k' = k
    · refine ⟨t, by simp [Limiter.pass, heq], ?_⟩
      rcases List.mem_cons.mp hmem with hnew | hold
      · exact le_of_eq (congrArg Prod.snd hnew)
      · exact hlate _ hold
    · have hold : (k', t') ∈ record := by
        rcases List.mem_cons.mp hmem with hnew | hold
        · exact absurd (congrArg Prod.fst hnew) heq
        · exact hold
      obtain ⟨t'', hlast, hle⟩ := h.last hold
      exact ⟨t'', by simpa [Limiter.pass, heq] using hlast, hle⟩

/-- **The last time is enough**: an event is held back exactly if some
event under its key was let through after the cutoff. -/
theorem Tracks.holds_iff [DecidableLT τ] (h : L.Tracks record) :
    L.holds cutoff k = true ↔ ∃ t, (k, t) ∈ record ∧ cutoff < t := by
  rw [holds_eq_true]
  constructor
  · intro hholds
    obtain ⟨t, hk, hlt⟩ := hholds
    exact ⟨t, h.recorded hk, hlt⟩
  · intro hrecent
    obtain ⟨t, hmem, hlt⟩ := hrecent
    obtain ⟨t', hk, hle⟩ := h.last hmem
    exact ⟨t', hk, lt_of_lt_of_le hlt hle⟩

end Limiter

end DamMonitoring.Control
