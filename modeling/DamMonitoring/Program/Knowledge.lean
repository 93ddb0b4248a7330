/-
DamMonitoring.Program.Knowledge — what a caller can know of a state it
only sees through reports.

An event shows itself as a report, and which state it leads to is more
than the report says. `possible` collects the states that the reports so
far leave open. `known_iff` is the rule for it: if an abstraction of a
system takes the steps of the system, and the system those of the
abstraction, report for report, then the states left open are exactly
those of the runs with these reports.

  §1 runs seen from outside
  §2 the states left open
-/
import Mathlib.Logic.Basic

namespace DamMonitoring.Program.Knowledge

variable {σ τ ρ : Type} {r : ρ} {rs : List ρ}

/-! ## §1 Runs -/

/-- A run from one state to another that shows the given reports. -/
inductive Seen (Step : σ → ρ → σ → Prop) : σ → List ρ → σ → Prop where
  | nil (s : σ) : Seen Step s [] s
  | cons {s t u : σ} {r : ρ} {rs : List ρ} (first : Step s r t) (rest : Seen Step t rs u) :
      Seen Step s (r :: rs) u

variable {Step : σ → ρ → σ → Prop} {Step' : τ → ρ → τ → Prop} {R : σ → τ → Prop} {s s' : σ} {x y : τ}

/-- Steps followed one by one are runs followed. -/
theorem Seen.follow (h : Seen Step s rs s')
    (hstep : ∀ s r s' x, R s x → Step s r s' → ∃ y, Step' x r y ∧ R s' y) (hR : R s x) :
    ∃ y, Seen Step' x rs y ∧ R s' y := by
  induction h generalizing x with
  | nil s => exact ⟨x, .nil x, hR⟩
  | cons first _ ih =>
    obtain ⟨y, hy, hR'⟩ := hstep _ _ _ _ hR first
    obtain ⟨z, hz, hR''⟩ := ih hR'
    exact ⟨z, .cons hy hz, hR''⟩

/-- What every step of a run keeps, the run keeps. -/
theorem Seen.keeps {P : σ → Prop} (h : Seen Step s rs s')
    (hstep : ∀ r ∈ rs, ∀ s s', P s → Step s r s' → P s') (hP : P s) : P s' := by
  induction h with
  | nil s => exact hP
  | cons first _ ih =>
    exact ih (fun r hr => hstep r (List.mem_cons_of_mem _ hr))
      (hstep _ List.mem_cons_self _ _ hP first)

/-- A run in two parts. -/
theorem Seen.split {rs' : List ρ} (h : Seen Step s (rs ++ rs') s') :
    ∃ t, Seen Step s rs t ∧ Seen Step t rs' s' := by
  induction rs generalizing s with
  | nil => exact ⟨s, .nil s, h⟩
  | cons r rs ih =>
    cases h with
    | cons first rest =>
      obtain ⟨t, hrs, hrs'⟩ := ih rest
      exact ⟨t, .cons first hrs, hrs'⟩

/-! ## §2 Knowledge -/

variable (after : ρ → τ → List τ)

/-- The states that the reports leave open. -/
def possible (rs : List ρ) (xs : List τ) : List τ :=
  rs.foldl (fun xs r => xs.flatMap (after r)) xs

variable {after} {xs : List τ}

@[simp] theorem possible_nil : possible after [] xs = xs := rfl

theorem possible_cons : possible after (r :: rs) xs = possible after rs (xs.flatMap (after r)) := rfl

theorem mem_possible_iff :
    y ∈ possible after rs xs ↔ ∃ x ∈ xs, Seen (fun x r y => y ∈ after r x) x rs y := by
  induction rs generalizing xs with
  | nil =>
    constructor
    · exact fun hy => ⟨y, hy, .nil y⟩
    · rintro ⟨x, hx, hseen⟩
      cases hseen
      exact hx
  | cons r rs ih =>
    rw [possible_cons, ih]
    constructor
    · rintro ⟨x', hx', hseen⟩
      obtain ⟨x, hx, hfirst⟩ := List.mem_flatMap.mp hx'
      exact ⟨x, hx, .cons hfirst hseen⟩
    · rintro ⟨x, hx, hseen⟩
      cases hseen with
      | cons first rest => exact ⟨_, List.mem_flatMap.mpr ⟨x, hx, first⟩, rest⟩

/-- **Knowledge is sound and complete**: the states left open are those of
the runs with these reports. -/
theorem known_iff (hfun : ∀ s x y, R s x → R s y → x = y)
    (hsound : ∀ s r s' x, R s x → Step s r s' → ∃ y ∈ after r x, R s' y)
    (hcomplete : ∀ s r x y, R s x → y ∈ after r x → ∃ s', Step s r s' ∧ R s' y) (hR : R s x) :
    y ∈ possible after rs [x] ↔ ∃ s', Seen Step s rs s' ∧ R s' y := by
  simp only [mem_possible_iff, List.mem_singleton, exists_eq_left]
  constructor
  · intro hseen
    exact hseen.follow (R := fun x s => R s x) (fun x r y s h hy => hcomplete s r x y h hy) hR
  · rintro ⟨s', hseen, hy⟩
    obtain ⟨y', hseen', hy'⟩ : ∃ y', Seen (fun x r y => y ∈ after r x) x rs y' ∧ R s' y' :=
      hseen.follow hsound hR
    rwa [hfun s' y y' hy hy']

end DamMonitoring.Program.Knowledge
