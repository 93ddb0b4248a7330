/-
DamMonitoring.Program.Safe — running a program, and a rely/guarantee
logic for it.

A handler says what an action answers and does to the state; its extra
argument is a choice the environment makes (deliver the message, lose
it, …). `exec` runs a program ALONE under a given sequence of choices.
`Contract.Safe` is the weakest precondition of a program whose actions
may be separated by steps of others:

* `allowed` restricts the choices the environment makes,
* `rely` bounds what the others do between two actions,
* `guar` is what every action promises in the state it starts from.

`Contract.alone` is the contract of a program nobody interrupts, and
`safe_exec` transfers what is proved under it to `exec`.

  §1 handlers and `exec`
  §2 contracts and `Safe`: consequence, sequencing, exceptions, loops
  §3 `Keeps`, one assertion for a whole program
  §4 running alone
  §5 one call after the other
-/
import DamMonitoring.Program.Prog

namespace DamMonitoring.Program

variable {Act : Type} {Res : Act → Type} {ε ι σ α β : Type}

/-! ## §1 Handlers -/

/-- The answer of an action and the state after it, for each choice of
the environment. -/
abbrev Handler (Act : Type) (Res : Act → Type) (ι σ : Type) : Type :=
  ι → (a : Act) → σ → Res a × σ

/-- Run a program alone; the `n`-th action `a` meets the choice `o n a`. -/
def exec (H : Handler Act Res ι σ) :
    (Nat → Act → ι) → Prog Act Res ε α → σ → Except ε α × σ
  | _, .pure a, s => (.ok a, s)
  | _, .throw e, s => (.error e, s)
  | o, .act a k, s =>
      exec H (fun n => o (n + 1)) (k (H (o 0 a) a s).1) (H (o 0 a) a s).2

/-! ## §2 Contracts -/

/-- The terms on which a program runs: what its actions do, which
choices the environment may make, what the others may do between two
actions, and what each action promises in the state it starts from. -/
structure Contract (Act : Type) (Res : Act → Type) (ι σ : Type) where
  handler : Handler Act Res ι σ
  allowed : ι → Act → σ → Prop
  rely : σ → σ → Prop
  guar : ι → Act → σ → Prop

namespace Contract

variable (C : Contract Act Res ι σ)

/-- From `s`, every action of the program meets `guar`, and if the
program ends then `Q` holds of its outcome — whatever the environment
chooses and the others do. -/
def Safe : Prog Act Res ε α → (Except ε α → σ → Prop) → σ → Prop
  | .pure a, Q, s => Q (.ok a) s
  | .throw e, Q, s => Q (.error e) s
  | .act a k, Q, s =>
      ∀ s', C.rely s s' → ∀ i, C.allowed i a s' →
        C.guar i a s' ∧ Safe (k (C.handler i a s').1) Q (C.handler i a s').2

variable {C} {Q Q' : Except ε α → σ → Prop} {s : σ}

@[simp] theorem safe_pure (a : α) :
    C.Safe (.pure a : Prog Act Res ε α) Q s ↔ Q (.ok a) s := Iff.rfl

@[simp] theorem safe_throw (e : ε) :
    C.Safe (.throw e : Prog Act Res ε α) Q s ↔ Q (.error e) s := Iff.rfl

theorem safe_act (a : Act) (k : Res a → Prog Act Res ε α) :
    C.Safe (.act a k) Q s ↔
      ∀ s', C.rely s s' → ∀ i, C.allowed i a s' →
        C.guar i a s' ∧ C.Safe (k (C.handler i a s').1) Q (C.handler i a s').2 :=
  Iff.rfl

/-- Consequence. -/
theorem Safe.mono {p : Prog Act Res ε α} (h : C.Safe p Q s)
    (hQ : ∀ r s', Q r s' → Q' r s') : C.Safe p Q' s := by
  induction p generalizing s with
  | pure a => exact hQ _ _ h
  | throw e => exact hQ _ _ h
  | act a k ih =>
    intro s' hs i hi
    exact ⟨(h s' hs i hi).1, ih _ (h s' hs i hi).2⟩

/-- Two postconditions hold together. -/
theorem Safe.and {p : Prog Act Res ε α} (h : C.Safe p Q s) (h' : C.Safe p Q' s) :
    C.Safe p (fun r s' => Q r s' ∧ Q' r s') s := by
  induction p generalizing s with
  | pure a => exact ⟨h, h'⟩
  | throw e => exact ⟨h, h'⟩
  | act a k ih =>
    intro s' hs i hi
    exact ⟨(h s' hs i hi).1, ih _ (h s' hs i hi).2 (h' s' hs i hi).2⟩

/-- Sequencing: the rest of the program starts where the first part
returns; an exception of the first part is an exception of the whole. -/
theorem safe_bind {p : Prog Act Res ε α} {f : α → Prog Act Res ε β}
    {Q : Except ε β → σ → Prop} :
    C.Safe (p >>= f) Q s ↔
      C.Safe p (fun out s' => match out with
        | .ok a => C.Safe (f a) Q s'
        | .error e => Q (.error e) s') s := by
  induction p generalizing s with
  | pure a => exact Iff.rfl
  | throw e => exact Iff.rfl
  | act a k ih => simp only [Prog.act_bind, safe_act, ih]

/-- `tryCatch`: the handler starts where the exception was thrown. -/
theorem safe_tryCatch {p : Prog Act Res ε α} {h : ε → Prog Act Res ε α} :
    C.Safe (p.tryCatch h) Q s ↔
      C.Safe p (fun out s' => match out with
        | .ok a => Q (.ok a) s'
        | .error e => C.Safe (h e) Q s') s := by
  induction p generalizing s with
  | pure a => exact Iff.rfl
  | throw e => exact Iff.rfl
  | act a k ih => simp only [Prog.tryCatch_act, safe_act, ih]

/-- A program that is safe now is safe after any step of the others, if
its postcondition is. -/
theorem Safe.stable {p : Prog Act Res ε α} {s' : σ} (h : C.Safe p Q s)
    (trans : ∀ {a b c}, C.rely a b → C.rely b c → C.rely a c)
    (hQ : ∀ r, Q r s → Q r s') (hs : C.rely s s') : C.Safe p Q s' := by
  cases p with
  | pure a => exact hQ _ h
  | throw e => exact hQ _ h
  | act a k => exact fun s'' hs' i hi => h s'' (trans hs hs') i hi

/-- What the next action of a safe program promises, here and now. -/
theorem Safe.guar_next {a : Act} {k : Res a → Prog Act Res ε α}
    (h : C.Safe (.act a k) Q s) (refl : C.rely s s) {i : ι} (hi : C.allowed i a s) :
    C.guar i a s :=
  (h s refl i hi).1

/-! ## §3 One assertion for a whole program -/

variable (C)

/-- The triple `{P} p {P}`: from any state in which `P` holds the program
is safe, and `P` holds where it ends. -/
def Keeps (P : σ → Prop) (p : Prog Act Res ε α) : Prop :=
  ∀ s, P s → C.Safe p (fun _ => P) s

variable {C} {P : σ → Prop}

theorem keeps_pure (a : α) : C.Keeps P (.pure a : Prog Act Res ε α) := fun _ hs => hs

theorem keeps_throw (e : ε) : C.Keeps P (.throw e : Prog Act Res ε α) := fun _ hs => hs

theorem Keeps.bind {p : Prog Act Res ε α} {f : α → Prog Act Res ε β} (hp : C.Keeps P p)
    (hf : ∀ a, C.Keeps P (f a)) : C.Keeps P (p >>= f) := by
  intro s hs
  rw [safe_bind]
  refine (hp s hs).mono fun out s' hs' => ?_
  cases out with
  | ok a => exact hf a s' hs'
  | error e => exact hs'

theorem Keeps.tryCatch {p : Prog Act Res ε α} {h : ε → Prog Act Res ε α} (hp : C.Keeps P p)
    (hh : ∀ e, C.Keeps P (h e)) : C.Keeps P (p.tryCatch h) := by
  intro s hs
  rw [safe_tryCatch]
  refine (hp s hs).mono fun out s' hs' => ?_
  cases out with
  | ok a => exact hs'
  | error e => exact hh e s' hs'

theorem Keeps.attempt {p : Prog Act Res ε α} (hp : C.Keeps P p) : C.Keeps P p.attempt :=
  (hp.bind fun a => keeps_pure (some a)).tryCatch fun _ => keeps_pure none

theorem Keeps.forEach {f : β → Prog Act Res ε Unit} {xs : List β}
    (hf : ∀ x ∈ xs, C.Keeps P (f x)) : C.Keeps P (Prog.forEach xs f) := by
  induction xs with
  | nil => exact keeps_pure ()
  | cons x xs ih =>
    exact (hf x List.mem_cons_self).bind
      fun _ => ih fun y hy => hf y (List.mem_cons_of_mem x hy)

/-! ## §4 Running alone -/

/-- The contract of a program that runs alone, under the choices
allowed by `A`. -/
def alone (H : Handler Act Res ι σ) (A : ι → Act → σ → Prop) : Contract Act Res ι σ where
  handler := H
  allowed := A
  rely := Eq
  guar := fun _ _ _ => True

theorem alone_act {H : Handler Act Res ι σ} {A : ι → Act → σ → Prop}
    (a : Act) (k : Res a → Prog Act Res ε α) :
    (alone H A).Safe (.act a k) Q s ↔
      ∀ i, A i a s → (alone H A).Safe (k (H i a s).1) Q (H i a s).2 := by
  simp [safe_act, alone]

/-- What is safe alone holds of every run. -/
theorem safe_exec {H : Handler Act Res ι σ} {A : ι → Act → σ → Prop}
    {p : Prog Act Res ε α} {o : Nat → Act → ι} (ho : ∀ n a s, A (o n a) a s)
    (h : (alone H A).Safe p Q s) : Q (exec H o p s).1 (exec H o p s).2 := by
  induction p generalizing s o with
  | pure a => exact h
  | throw e => exact h
  | act a k ih =>
    rw [alone_act] at h
    exact ih _ (fun n a s => ho (n + 1) a s) (h (o 0 a) (ho 0 a s))

/-- States that no action tells apart are told apart by no run. -/
theorem exec_related {H : Handler Act Res ι σ} {R : σ → σ → Prop}
    (hR : ∀ i a s s', R s s' → (H i a s).1 = (H i a s').1 ∧ R (H i a s).2 (H i a s').2)
    (p : Prog Act Res ε α) (o : Nat → Act → ι) {s s' : σ} (h : R s s') :
    (exec H o p s).1 = (exec H o p s').1 ∧ R (exec H o p s).2 (exec H o p s').2 := by
  induction p generalizing s s' o with
  | pure a => exact ⟨rfl, h⟩
  | throw e => exact ⟨rfl, h⟩
  | act a k ih =>
    obtain ⟨hanswer, hstate⟩ := hR (o 0 a) a s s' h
    simp only [exec, hanswer]
    exact ih _ _ hstate

end Contract

/-! ## §5 Sequences -/

section Along

variable {C : Type} {step : C → σ → σ} {P P' : C → σ → Prop} {I : σ → Prop}

/-- `P` holds of every call of a sequence and the state the call starts
from. -/
def Along (step : C → σ → σ) (P : C → σ → Prop) : List C → σ → Prop
  | [], _ => True
  | c :: cs, s => P c s ∧ Along step P cs (step c s)

theorem along_const (step : C → σ → σ) {ok : C → Prop} {cs : List C} :
    ∀ s : σ, Along step (fun c _ => ok c) cs s ↔ ∀ c ∈ cs, ok c := by
  induction cs with
  | nil => simp [Along]
  | cons c cs ih => simp [Along, ih]

/-- What holds under an invariant that every call keeps holds along every
sequence. -/
theorem along_of_invariant {cs : List C} (keep : ∀ c ∈ cs, ∀ s, I s → I (step c s))
    (h : ∀ c ∈ cs, ∀ s, I s → P c s) : ∀ {s : σ}, I s → Along step P cs s := by
  induction cs with
  | nil => exact fun _ => trivial
  | cons c cs ih =>
    intro s hs
    exact ⟨h c List.mem_cons_self s hs,
      ih (fun d hd => keep d (List.mem_cons_of_mem c hd))
        (fun d hd => h d (List.mem_cons_of_mem c hd)) (keep c List.mem_cons_self s hs)⟩

/-- Two properties that agree under an invariant agree along every
sequence, if the invariant survives the calls that have them. -/
theorem along_congr {cs : List C} (keep : ∀ c ∈ cs, ∀ s, I s → P c s → I (step c s))
    (h : ∀ c ∈ cs, ∀ s, I s → (P c s ↔ P' c s)) :
    ∀ {s : σ}, I s → (Along step P cs s ↔ Along step P' cs s) := by
  induction cs with
  | nil => exact fun _ => Iff.rfl
  | cons c cs ih =>
    intro s hs
    have hc := h c List.mem_cons_self s hs
    have hrest : P c s → (Along step P cs (step c s) ↔ Along step P' cs (step c s)) := fun hP =>
      ih (fun d hd => keep d (List.mem_cons_of_mem c hd))
        (fun d hd => h d (List.mem_cons_of_mem c hd)) (keep c List.mem_cons_self s hs hP)
    constructor
    · exact fun ⟨hP, hcs⟩ => ⟨hc.mp hP, (hrest hP).mp hcs⟩
    · exact fun ⟨hP', hcs⟩ => ⟨hc.mpr hP', (hrest (hc.mpr hP')).mpr hcs⟩

end Along

end DamMonitoring.Program
