/-
DamMonitoring.Program.Looking — threads that only look.

A pool may run programs whose actions leave the shared state as it is, up
to a relation that no action can tell apart. Such a program can be taken
out of a run at whatever point it has got to: `Unseen.reachable` turns a
run of the larger system into one of the system without these programs,
with the same shared state up to the relation and every other thread where
it was.

  §1 what a program may do if it only looks
  §2 taking lookers out of a run
-/
import DamMonitoring.Program.Pool

namespace DamMonitoring.Program

variable {T Act : Type} [DecidableEq T] {Res : Act → Type} {ι σ ε α : Type}

namespace System

/-! ## §1 Looking -/

/-- The terms on which a thread only looks: whatever the others do, its
actions are among `look`. -/
def looking (M : System T Act Res ι σ ε α) (t : T) (look : Act → Prop) :
    Contract Act Res ι σ where
  handler := M.handler t
  allowed := M.allowed
  rely := fun _ _ => True
  guar := fun _ a _ => look a

/-- The program only looks. -/
def Looks (M : System T Act Res ι σ ε α) (t : T) (look : Act → Prop)
    (p : Prog Act Res ε α) : Prop :=
  (M.looking t look).Keeps (fun _ => True) p

/-- `M'` has more programs than `M`, for the threads `onlookers`: they only
look, and states related by `R` are alike to every action. -/
structure Unseen (M' M : System T Act Res ι σ ε α) (onlookers : T → Prop) (look : Act → Prop)
    (R : σ → σ → Prop) : Prop where
  handler : ∀ t i a s s', R s s' →
    (M'.handler t i a s).1 = (M.handler t i a s').1 ∧
      R (M'.handler t i a s).2 (M.handler t i a s').2
  allowed : ∀ i a s s', R s s' → M'.allowed i a s → M.allowed i a s'
  starts : ∀ t p, M'.starts t p → M.starts t p ∨ onlookers t ∧ M'.Looks t look p
  onStart : ∀ t s s', R s s' → R (M'.onStart t s) (M.onStart t s')
  env : ∀ s s' s₁, R s s' → M'.env s s₁ → ∃ s₁', M.env s' s₁' ∧ R s₁ s₁'
  looks : ∀ t i a s s', onlookers t → look a → R s s' → R (M'.handler t i a s).2 s'
  looksOnStart : ∀ t s s', onlookers t → R s s' → R (M'.onStart t s) s'

/-! ## §2 Taking lookers out -/

variable {M' M : System T Act Res ι σ ε α} {onlookers : T → Prop} {look : Act → Prop}
  {R : σ → σ → Prop} {P P' : Pool T Act Res σ ε α} {Q : Pool T Act Res σ ε α}

/-- A thread is where it is in the other pool, or it only looks and is idle
there. -/
def Beside (M' : System T Act Res ι σ ε α) (onlookers : T → Prop) (look : Act → Prop) (t : T)
    (p q : Option (Prog Act Res ε α)) : Prop :=
  q = p ∨ q = none ∧ onlookers t ∧ ∃ r, p = some r ∧ M'.Looks t look r

/-- The pool without the lookers. -/
structure Without (M' : System T Act Res ι σ ε α) (onlookers : T → Prop) (look : Act → Prop)
    (R : σ → σ → Prop) (P Q : Pool T Act Res σ ε α) : Prop where
  shared : R P.shared Q.shared
  threads : ∀ t, Beside M' onlookers look t (P.threads t) (Q.threads t)

theorem Without.update (h : Without M' onlookers look R P Q) {s s' : σ} (hs : R s s') {t : T}
    {p q : Option (Prog Act Res ε α)} (ht : Beside M' onlookers look t p q) :
    Without M' onlookers look R ⟨s, Function.update P.threads t p⟩
      ⟨s', Function.update Q.threads t q⟩ := by
  refine ⟨hs, fun u => ?_⟩
  by_cases hu : u = t
  · subst hu
    simpa using ht
  · simpa [Function.update_of_ne hu] using h.threads u

/-- Only the larger pool moves. -/
theorem Without.alone (h : Without M' onlookers look R P Q) {s : σ} (hs : R s Q.shared) {t : T}
    {p : Option (Prog Act Res ε α)} (ht : Beside M' onlookers look t p (Q.threads t)) :
    Without M' onlookers look R ⟨s, Function.update P.threads t p⟩ Q := by
  have h' := h.update hs ht
  rwa [Function.update_eq_self] at h'

/-- A step of the larger pool is one of the smaller, or nothing there. -/
theorem Unseen.step (h : Unseen M' M onlookers look R) (hstep : M'.Step P P')
    (hQ : Without M' onlookers look R P Q) :
    ∃ Q', Relation.ReflTransGen M.Step Q Q' ∧ Without M' onlookers look R P' Q' := by
  cases hstep with
  | start t p hidle hp =>
    have hidle' : Q.threads t = none := by
      rcases hQ.threads t with hsame | ⟨hnone, -⟩
      · rw [hsame, hidle]
      · exact hnone
    rcases h.starts t p hp with hp | ⟨ht, hlooks⟩
    · exact ⟨_, .single (.start t p hidle' hp),
        hQ.update (h.onStart t _ _ hQ.shared) (Or.inl rfl)⟩
    · exact ⟨Q, .refl, hQ.alone (h.looksOnStart t _ _ ht hQ.shared)
        (Or.inr ⟨hidle', ht, p, rfl, hlooks⟩)⟩
  | @act t i a k hnext hi =>
    rcases hQ.threads t with hsame | ⟨hnone, ht, r, hr, hlooks⟩
    · obtain ⟨hanswer, hshared⟩ := h.handler t i a _ _ hQ.shared
      refine ⟨_, .single (.act t i (hsame.trans hnext) (h.allowed i a _ _ hQ.shared hi)), ?_⟩
      exact hQ.update hshared (Or.inl (by rw [hanswer]))
    · obtain rfl : r = .act a k := Option.some.inj (hr.symm.trans hnext)
      obtain ⟨hlook, -⟩ := hlooks P.shared trivial P.shared trivial i hi
      refine ⟨Q, .refl, hQ.alone (h.looks t i a _ _ ht hlook hQ.shared) (Or.inr ?_)⟩
      refine ⟨hnone, ht, _, rfl, fun s _ => ?_⟩
      have hrest := (hlooks P.shared trivial P.shared trivial i hi).2
      exact hrest.stable (fun _ _ => trivial) (fun _ _ => trivial) trivial
  | @finish t p hlast hend =>
    rcases hQ.threads t with hsame | ⟨hnone, -⟩
    · exact ⟨_, .single (.finish t (hsame.trans hlast) hend), hQ.update hQ.shared (Or.inl rfl)⟩
    · exact ⟨Q, .refl, hQ.alone hQ.shared (Or.inl hnone)⟩
  | @env s hmove =>
    obtain ⟨s', hmove', hs'⟩ := h.env _ _ _ hQ.shared hmove
    exact ⟨_, .single (.env hmove'), hs', hQ.threads⟩

/-- **Lookers can be taken out of every run.** -/
theorem Unseen.reachable (h : Unseen M' M onlookers look R) {s s' : σ} (hs : R s s')
    (hP : M'.Reachable s P) : ∃ Q, M.Reachable s' Q ∧ Without M' onlookers look R P Q := by
  induction hP with
  | refl => exact ⟨⟨s', fun _ => none⟩, .refl, hs, fun _ => Or.inl rfl⟩
  | tail _ hstep ih =>
    obtain ⟨Q, hQ, hwithout⟩ := ih
    obtain ⟨Q', hsteps, hwithout'⟩ := h.step hstep hwithout
    exact ⟨Q', hQ.trans hsteps, hwithout'⟩

end System

end DamMonitoring.Program
