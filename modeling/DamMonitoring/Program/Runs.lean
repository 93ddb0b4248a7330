/-
DamMonitoring.Program.Runs — machines that take one event at a time.

`step s e` is the state after the event `e`, or `none` if `e` cannot
happen in `s`. `Always` says a property of every state a run passes
through and `Each` a property of every event with the state it meets;
past an event that cannot happen neither says anything.

`always_iff_each` is the rule for exact conditions: if each step keeps a
property exactly if it meets a condition, and then keeps an invariant as
well, the property always holds exactly in the runs whose steps all meet
the condition.
`always_iff_always` compares two machines that take the same events,
`run_parts` compares a machine with several that each see some of its
events, and `run_approaches` and `run_countdown` bound the steps to a goal.

  §1 runs
  §2 invariants
  §3 exact conditions
  §4 records
  §5 a machine and its parts
-/
import Mathlib.Logic.Basic

namespace DamMonitoring.Program.Machine

variable {σ τ ε : Type} {step : σ → ε → Option σ} {s s' : σ} {e : ε} {es : List ε}

/-! ## §1 Runs -/

/-- The state after a run. -/
def run (step : σ → ε → Option σ) : σ → List ε → Option σ
  | s, [] => some s
  | s, e :: es => (step s e).bind fun s' => run step s' es

/-- `P` holds in every state of a run, the first and the last included. -/
def Always (step : σ → ε → Option σ) (P : σ → Prop) : σ → List ε → Prop
  | s, [] => P s
  | s, e :: es => P s ∧ ∀ s', step s e = some s' → Always step P s' es

/-- `C` holds of every event of a run and the state it meets. -/
def Each (step : σ → ε → Option σ) (C : σ → ε → Prop) : σ → List ε → Prop
  | _, [] => True
  | s, e :: es => C s e ∧ ∀ s', step s e = some s' → Each step C s' es

@[simp] theorem run_nil (s : σ) : run step s [] = some s := rfl

theorem run_cons (s : σ) (e : ε) (es : List ε) :
    run step s (e :: es) = (step s e).bind fun s' => run step s' es := rfl

/-- A run takes its first step, and then the others. -/
theorem run_cons_eq_some : run step s (e :: es) = some s' ↔
    ∃ t, step s e = some t ∧ run step t es = some s' := by
  simp [run_cons, Option.bind_eq_some_iff]

/-- A run in two parts. -/
theorem run_append (s : σ) (es es' : List ε) :
    run step s (es ++ es') = (run step s es).bind fun s' => run step s' es' := by
  induction es generalizing s with
  | nil => rfl
  | cons e es ih =>
    rw [List.cons_append, run_cons, run_cons]
    cases step s e with
    | none => rfl
    | some s' => exact ih s'

theorem Always.here {P : σ → Prop} (h : Always step P s es) : P s := by
  cases es with
  | nil => exact h
  | cons e es => exact h.1

/-- The states of a run are those its beginnings lead to. -/
theorem always_iff {P : σ → Prop} :
    Always step P s es ↔ ∀ pre, pre <+: es → ∀ s', run step s pre = some s' → P s' := by
  induction es generalizing s with
  | nil =>
    simp only [List.prefix_nil, Always]
    constructor
    · intro hP pre hpre s' hrun
      simpa [hpre, ← Option.some.inj (hpre ▸ hrun)] using hP
    · intro h
      exact h [] rfl s rfl
  | cons e es ih =>
    constructor
    · intro h pre hpre s' hrun
      cases pre with
      | nil => simpa [← Option.some.inj hrun] using h.1
      | cons d pre =>
        obtain ⟨rfl, htail⟩ := List.cons_prefix_cons.mp hpre
        obtain ⟨t, hstep, hrun⟩ := run_cons_eq_some.mp hrun
        exact ih.mp (h.2 t hstep) pre htail s' hrun
    · intro h
      have hP : P s := h [] List.nil_prefix s rfl
      have hrest : ∀ s', step s e = some s' → Always step P s' es := by
        intro t hstep
        apply ih.mpr
        intro pre hpre s' hrun
        exact h (e :: pre) (List.cons_prefix_cons.mpr ⟨rfl, hpre⟩) s'
          (run_cons_eq_some.mpr ⟨t, hstep, hrun⟩)
      exact ⟨hP, hrest⟩

theorem Always.mono {P Q : σ → Prop} (h : Always step P s es) (hPQ : ∀ s, P s → Q s) :
    Always step Q s es := by
  induction es generalizing s with
  | nil => exact hPQ s h
  | cons e es ih => exact ⟨hPQ s h.1, fun s' hs => ih (h.2 s' hs)⟩

/-- A machine that can always go on. -/
theorem run_total (f : σ → ε → σ) (s : σ) (es : List ε) :
    run (fun s e => some (f s e)) s es = some (es.foldl f s) := by
  induction es generalizing s with
  | nil => rfl
  | cons e es ih => simp [run_cons, ih]

/-- A condition that can be tested can be tested along a run. -/
def Each.decidable {C : σ → ε → Prop} [∀ s e, Decidable (C s e)] :
    ∀ s es, Decidable (Each step C s es)
  | _, [] => isTrue trivial
  | s, e :: es =>
    match h : step s e with
    | none => decidable_of_iff (C s e) (by simp [Each, h])
    | some t =>
      have : Decidable (Each step C t es) := Each.decidable t es
      decidable_of_iff (C s e ∧ Each step C t es) (by simp [Each, h])

instance {C : σ → ε → Prop} [∀ s e, Decidable (C s e)] (s : σ) (es : List ε) :
    Decidable (Each step C s es) := Each.decidable s es

def Always.decidable {P : σ → Prop} [DecidablePred P] : ∀ s es, Decidable (Always step P s es)
  | s, [] => inferInstanceAs (Decidable (P s))
  | s, e :: es =>
    match h : step s e with
    | none => decidable_of_iff (P s) (by simp [Always, h])
    | some t =>
      have : Decidable (Always step P t es) := Always.decidable t es
      decidable_of_iff (P s ∧ Always step P t es) (by simp [Always, h])

instance {P : σ → Prop} [DecidablePred P] (s : σ) (es : List ε) :
    Decidable (Always step P s es) := Always.decidable s es

/-! ## §2 Invariants -/

variable {I P : σ → Prop}

/-- What every step keeps, a run keeps. -/
theorem run_invariant (hstep : ∀ s e s', I s → step s e = some s' → I s') (hs : I s)
    (hrun : run step s es = some s') : I s' := by
  induction es generalizing s with
  | nil => simpa [← Option.some.inj hrun] using hs
  | cons e es ih =>
    obtain ⟨t, ht, hrun⟩ := run_cons_eq_some.mp hrun
    exact ih (hstep s e t hs ht) hrun

/-- So it always holds. -/
theorem always_invariant (hstep : ∀ s e s', I s → step s e = some s' → I s') (hs : I s) :
    Always step I s es :=
  always_iff.mpr fun _ _ _ hrun => run_invariant hstep hs hrun

/-- What steps keep under a condition, as long as `P` holds, holds in a run
in which `P` always holds and every event meets the condition. -/
theorem always_guarded {C : σ → ε → Prop}
    (hstep : ∀ s e s', I s → P s → C s e → step s e = some s' → I s') (hI : I s)
    (hP : Always step P s es) (hC : Each step C s es) : Always step (fun s => I s ∧ P s) s es := by
  induction es generalizing s with
  | nil => exact ⟨hI, hP⟩
  | cons e es ih =>
    refine ⟨⟨hI, hP.1⟩, fun s' hs => ?_⟩
    exact ih (hstep s e s' hI hP.1 hC.1 hs) (hP.2 s' hs) (hC.2 s' hs)

/-- What steps keep under a condition, a run that meets it keeps. -/
theorem run_guarded {C : σ → ε → Prop}
    (hstep : ∀ s e s', I s → C s e → step s e = some s' → I s') (hI : I s)
    (hC : Each step C s es) (hrun : run step s es = some s') : I s' := by
  induction es generalizing s with
  | nil => simpa [← Option.some.inj hrun] using hI
  | cons e es ih =>
    obtain ⟨t, ht, hrun⟩ := run_cons_eq_some.mp hrun
    exact ih (hstep s e t hI hC.1 ht) (hC.2 t ht) hrun

/-- What follows from a condition and an invariant that steps keep under it
holds of every event of a run that meets the condition. -/
theorem each_guarded {C C' : σ → ε → Prop}
    (hstep : ∀ s e s', I s → C s e → step s e = some s' → I s') (h : ∀ s e, I s → C s e → C' s e)
    (hI : I s) (hC : Each step C s es) : Each step C' s es := by
  induction es generalizing s with
  | nil => trivial
  | cons e es ih =>
    exact ⟨h s e hI hC.1, fun s' hs => ih (hstep s e s' hI hC.1 hs) (hC.2 s' hs)⟩

/-- What holds of every event in every state holds of those of a run. -/
theorem each_of_forall {C : σ → ε → Prop} (h : ∀ s e, C s e) (s : σ) (es : List ε) :
    Each step C s es := by
  induction es generalizing s with
  | nil => trivial
  | cons e es ih => exact ⟨h s e, fun s' _ => ih s'⟩

/-- What every step keeps between the state and a record of the events
holds of the state after a run and the record of the run. -/
theorem run_record {ρ : Type} {R : ρ → σ → Prop} {f : ρ → ε → ρ} {r : ρ}
    (hstep : ∀ r s e s', R r s → step s e = some s' → R (f r e) s') (hR : R r s)
    (hrun : run step s es = some s') : R (es.foldl f r) s' := by
  induction es generalizing r s with
  | nil => simpa [← Option.some.inj hrun] using hR
  | cons e es ih =>
    obtain ⟨t, ht, hrun⟩ := run_cons_eq_some.mp hrun
    exact ih (hstep r s e t hR ht) hrun

/-- A part of the state on which each event has a fixed effect is what
these effects make of it. -/
theorem run_foldl {ρ : Type} {part : σ → ρ} {f : ρ → ε → ρ}
    (hstep : ∀ s e s', step s e = some s' → part s' = f (part s) e)
    (hrun : run step s es = some s') : part s' = es.foldl f (part s) := by
  refine run_record (R := fun r s => part s = r) ?_ rfl hrun
  intro r s e s' hr hs
  rw [hstep s e s' hs, hr]

/-- A measure that every step takes at least `gain` off, down to 0, is
down by `gain` for each event after a run. -/
theorem run_approaches {m : σ → Int} {gain : Int}
    (hstep : ∀ s e s', I s → step s e = some s' → I s' ∧ m s' ≤ max (m s - gain) 0)
    (hgain : 0 ≤ gain) (hs : I s) (hrun : run step s es = some s') :
    I s' ∧ m s' ≤ max (m s - gain * es.length) 0 := by
  induction es generalizing s with
  | nil =>
    obtain rfl := Option.some.inj hrun
    have hnone : gain * (([] : List ε).length : Int) = 0 := Int.mul_zero gain
    exact ⟨hs, by omega⟩
  | cons e es ih =>
    obtain ⟨t, ht, hrun⟩ := run_cons_eq_some.mp hrun
    obtain ⟨hI, hm⟩ := hstep s e t hs ht
    obtain ⟨hI', hm'⟩ := ih hI hrun
    have hrest : 0 ≤ gain * (es.length : Int) := Int.mul_nonneg hgain (Int.natCast_nonneg _)
    have hall : gain * ((e :: es).length : Int) = gain * es.length + gain := by
      rw [List.length_cons, Int.natCast_add, Int.mul_add]
      exact congrArg (gain * es.length + ·) (Int.mul_one gain)
    exact ⟨hI', by omega⟩

/-- What steps keep under a condition with a count that events of a kind
take one off, a run keeps with what these events leave of the count. -/
theorem run_countdown {C : σ → ε → Prop} {R : Nat → σ → Prop} {kind : ε → Bool} {n : Nat}
    (hstep : ∀ n s e s', R n s → C s e → step s e = some s' →
      R (if kind e then n - 1 else n) s')
    (hR : R n s) (hC : Each step C s es) (hrun : run step s es = some s') :
    R (n - es.countP kind) s' := by
  induction es generalizing n s with
  | nil => simpa [← Option.some.inj hrun] using hR
  | cons e es ih =>
    obtain ⟨t, ht, hrun⟩ := run_cons_eq_some.mp hrun
    have hrest := ih (hstep n s e t hR hC.1 ht) (hC.2 t ht) hrun
    have hcount : n - (e :: es).countP kind =
        (if kind e then n - 1 else n) - es.countP kind := by
      rw [List.countP_cons]
      split <;> omega
    rwa [hcount]

/-! ## §3 Exact conditions -/

/-- **The rule for exact conditions.** -/
theorem always_iff_each {C : σ → ε → Prop}
    (hstep : ∀ s e s', I s → P s → step s e = some s' → (P s' → I s') ∧ (P s' ↔ C s e))
    (hpossible : ∀ s e, I s → P s → step s e = none → C s e) (hI : I s) (hP : P s) :
    Always step P s es ↔ Each step C s es := by
  induction es generalizing s with
  | nil => simp [Always, Each, hP]
  | cons e es ih =>
    simp only [Always, Each, hP, true_and]
    cases h : step s e with
    | none => simp [hpossible s e hI hP h]
    | some t =>
      obtain ⟨hI', hiff⟩ := hstep s e t hI hP h
      simp only [Option.some.injEq, forall_eq']
      by_cases hP' : P t
      · simp [ih (hI' hP') hP', hiff.mp hP']
      · have hnot : ¬Always step P t es := fun halways => hP' halways.here
        simp [hnot, mt hiff.mpr hP']

/-- **Two machines compared**: if their states stay related as long as `P`
holds of the first, and `P` is `Q` on related states, then `P` always
holds of the one exactly if `Q` always holds of the other. -/
theorem always_iff_always {step' : τ → ε → Option τ} {Q : τ → Prop} {R : σ → τ → Prop} {t : τ}
    (hiff : ∀ s t, R s t → (P s ↔ Q t))
    (hstep : ∀ s t e, R s t → P s →
      ∃ s' t', step s e = some s' ∧ step' t e = some t' ∧ R s' t') (hR : R s t) :
    Always step P s es ↔ Always step' Q t es := by
  induction es generalizing s t with
  | nil => exact hiff s t hR
  | cons e es ih =>
    simp only [Always, hiff s t hR]
    by_cases hP : P s
    · obtain ⟨s', t', hs, ht, hR'⟩ := hstep s t e hR hP
      simp [hs, ht, ih hR']
    · simp [mt (hiff s t hR).mpr hP]

/-! ## §4 Records -/

section Records

variable {ρ : Type} {Q : ρ → List ρ → Prop} {x : ρ} {log : List ρ}

/-- `Q` holds of every entry of a record, newest first, and of what was
recorded before it. -/
def Recorded (Q : ρ → List ρ → Prop) (log : List ρ) : Prop :=
  ∀ later x earlier, log = later ++ x :: earlier → Q x earlier

theorem recorded_nil : Recorded Q [] := by
  intro later x earlier hsplit
  simp at hsplit

theorem Recorded.cons (hx : Q x log) (h : Recorded Q log) : Recorded Q (x :: log) := by
  intro later y earlier hsplit
  cases later with
  | nil =>
    obtain ⟨rfl, rfl⟩ := List.cons.inj hsplit
    exact hx
  | cons z later => exact h later y earlier (List.cons.inj hsplit).2

end Records

/-! ## §5 Parts -/

section Parts

/-- A step of a machine that sees some of the events only. -/
def seen {δ : Type} (step' : τ → δ → Option τ) (view : ε → Option δ) (t : τ) (e : ε) : Option τ :=
  match view e with
  | some d => step' t d
  | none => some t

/-- It runs as it does on what it sees. -/
theorem run_seen {δ : Type} (step' : τ → δ → Option τ) (view : ε → Option δ) (t : τ)
    (es : List ε) : run (seen step' view) t es = run step' t (es.filterMap view) := by
  induction es generalizing t with
  | nil => rfl
  | cons e es ih =>
    cases hview : view e with
    | none => simp [run_cons, seen, hview, ih]
    | some d =>
      rw [List.filterMap_cons_some hview, run_cons, run_cons, seen, hview]
      exact congrArg _ (funext ih)

variable {ι : Type} {part : ι → Type} {R : ∀ i, σ → part i → Prop}

/-- The whole is where all its parts are, and stuck if one of them is. -/
def Together (R : ∀ i, σ → part i → Prop) : Option σ → (∀ i, Option (part i)) → Prop
  | some s, parts => ∀ i, ∃ t, parts i = some t ∧ R i s t
  | none, parts => ∃ i, parts i = none

/-- **A machine and its parts**: what each step keeps between the whole
and all its parts, every run keeps. -/
theorem run_parts {δ : ι → Type} {step' : ∀ i, part i → δ i → Option (part i)}
    {view : ∀ i, ε → Option (δ i)}
    (hstep : ∀ s (t : ∀ i, part i) e, (∀ i, R i s (t i)) →
      Together R (step s e) fun i => seen (step' i) (view i) (t i) e)
    {t : ∀ i, part i} (hR : ∀ i, R i s (t i)) (es : List ε) :
    Together R (run step s es) fun i => run (step' i) (t i) (es.filterMap (view i)) := by
  simp only [← run_seen]
  induction es generalizing s t with
  | nil => exact fun i => ⟨t i, rfl, hR i⟩
  | cons e es ih =>
    have hfirst := hstep s t e hR
    cases h : step s e with
    | none =>
      rw [h] at hfirst
      obtain ⟨i, hi⟩ := hfirst
      simp only [run_cons, h, Option.bind_none]
      exact ⟨i, by simp [hi]⟩
    | some s' =>
      rw [h] at hfirst
      obtain ⟨t', ht'⟩ := Classical.axiomOfChoice hfirst
      simpa [run_cons, h, fun i => (ht' i).1] using ih fun i => (ht' i).2

end Parts

end DamMonitoring.Program.Machine
