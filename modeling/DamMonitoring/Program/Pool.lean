/-
DamMonitoring.Program.Pool — several programs over one shared state.

Each thread is idle or runs a program. A step lets one thread perform
its next action, starts a program on an idle thread, retires a program
that has ended, or lets the environment change the shared state; which
of them happens next is left open, so a reachable pool is one that SOME
schedule reaches.

  §1 pools, steps and reachability
  §2 `Sound`: when the contracts of the threads fit together, every
     reachable pool has each thread safe under its own contract
  §3 `runSchedule`: executing one schedule, for concrete runs
  §4 logs: what one thread has done, and the last entry of a kind
-/
import DamMonitoring.Program.Safe
import Mathlib.Logic.Function.Basic
import Mathlib.Logic.Relation

namespace DamMonitoring.Program

/-! ## §1 Pools -/

/-- A system of threads: what their actions do, which programs a thread
may start (and how a start shows in the shared state), and how the
environment moves on its own. -/
structure System (T Act : Type) (Res : Act → Type) (ι σ ε α : Type) where
  handler : T → Handler Act Res ι σ
  allowed : ι → Act → σ → Prop
  starts : T → Prog Act Res ε α → Prop
  onStart : T → σ → σ
  env : σ → σ → Prop

/-- The shared state and what each thread still has to do. -/
structure Pool (T Act : Type) (Res : Act → Type) (σ ε α : Type) where
  shared : σ
  threads : T → Option (Prog Act Res ε α)

variable {T Act : Type} [DecidableEq T] {Res : Act → Type} {ι σ ε α : Type}

/-- A program with no action left. -/
def Prog.Ended : Prog Act Res ε α → Prop
  | .act _ _ => False
  | _ => True

namespace System

variable (M : System T Act Res ι σ ε α)

/-- One step of the pool. -/
inductive Step : Pool T Act Res σ ε α → Pool T Act Res σ ε α → Prop where
  | start {P} (t : T) (p : Prog Act Res ε α) (idle : P.threads t = none)
      (ok : M.starts t p) :
      Step P ⟨M.onStart t P.shared, Function.update P.threads t (some p)⟩
  | act {P} (t : T) (i : ι) {a : Act} {k : Res a → Prog Act Res ε α}
      (next : P.threads t = some (.act a k)) (ok : M.allowed i a P.shared) :
      Step P ⟨(M.handler t i a P.shared).2,
        Function.update P.threads t (some (k (M.handler t i a P.shared).1))⟩
  | finish {P} (t : T) {p : Prog Act Res ε α} (last : P.threads t = some p)
      (ended : p.Ended) : Step P ⟨P.shared, Function.update P.threads t none⟩
  | env {P} {s : σ} (move : M.env P.shared s) : Step P ⟨s, P.threads⟩

/-- The pools some schedule reaches from `s` with every thread idle. -/
def Reachable (s : σ) (P : Pool T Act Res σ ε α) : Prop :=
  Relation.ReflTransGen M.Step ⟨s, fun _ => none⟩ P

/-- `M'` runs the programs of `M` with results that `f` forgets. -/
structure Tells {β : Type} (M : System T Act Res ι σ ε α) (M' : System T Act Res ι σ ε β)
    (f : β → α) : Prop where
  handler : M'.handler = M.handler
  allowed : M'.allowed = M.allowed
  onStart : M'.onStart = M.onStart
  env : M'.env = M.env
  starts : ∀ t p, M.starts t p → ∃ q, M'.starts t q ∧ p = q >>= fun b => .pure (f b)

/-- The pool with the results forgotten. -/
def Forgets {β : Type} (f : β → α) (P : Pool T Act Res σ ε α) (Q : Pool T Act Res σ ε β) : Prop :=
  Q.shared = P.shared ∧ ∀ t, P.threads t = (Q.threads t).map fun q => q >>= fun b => .pure (f b)

theorem Forgets.update {β : Type} {f : β → α} {P : Pool T Act Res σ ε α}
    {Q : Pool T Act Res σ ε β} (h : Forgets f P Q) (s : σ) (t : T)
    (q : Option (Prog Act Res ε β)) :
    Forgets f ⟨s, Function.update P.threads t (q.map fun q => q >>= fun b => .pure (f b))⟩
      ⟨s, Function.update Q.threads t q⟩ := by
  refine ⟨rfl, fun u => ?_⟩
  by_cases hu : u = t
  · subst hu
    simp
  · simpa [Function.update_of_ne hu] using h.2 u

/-- Every step of `M` is one of `M'`. -/
theorem Tells.step {β : Type} {M : System T Act Res ι σ ε α} {M' : System T Act Res ι σ ε β}
    {f : β → α} (h : Tells M M' f) {P P' : Pool T Act Res σ ε α} {Q : Pool T Act Res σ ε β}
    (hstep : M.Step P P') (hQ : Forgets f P Q) : ∃ Q', M'.Step Q Q' ∧ Forgets f P' Q' := by
  cases hstep with
  | start t p hidle hp =>
    obtain ⟨q, hq, rfl⟩ := h.starts t p hp
    have hidle' : Q.threads t = none := by
      rw [← Option.map_eq_none_iff, ← hQ.2 t]
      exact hidle
    refine ⟨_, .start t q hidle' hq, ?_⟩
    rw [h.onStart, hQ.1]
    exact hQ.update _ t (some q)
  | @act t i a k hnext hi =>
    have ht := hQ.2 t
    rw [hnext] at ht
    cases hq : Q.threads t with
    | none => rw [hq] at ht; cases ht
    | some q =>
      rw [hq] at ht
      cases q with
      | pure b => cases ht
      | throw e => cases ht
      | act a' k' =>
        cases ht
        refine ⟨_, .act t i hq (by rw [h.allowed, hQ.1]; exact hi), ?_⟩
        rw [h.handler, hQ.1]
        exact hQ.update _ t (some (k' _))
  | @finish t p hlast hend =>
    have ht := hQ.2 t
    rw [hlast] at ht
    cases hq : Q.threads t with
    | none => rw [hq] at ht; cases ht
    | some q =>
      rw [hq] at ht
      have hend' : q.Ended := by
        cases q with
        | pure b => trivial
        | throw e => trivial
        | act a k =>
          cases ht
          exact hend
      refine ⟨_, .finish t hq hend', ?_⟩
      rw [hQ.1]
      exact hQ.update _ t none
  | @env s hmove =>
    exact ⟨⟨s, Q.threads⟩, .env (by rw [h.env, hQ.1]; exact hmove), rfl, hQ.2⟩

/-- **Every run of `M` is a run of `M'`** with the results forgotten. -/
theorem Tells.reachable {β : Type} {M : System T Act Res ι σ ε α} {M' : System T Act Res ι σ ε β}
    {f : β → α} (h : Tells M M' f) {s : σ} {P : Pool T Act Res σ ε α} (hP : M.Reachable s P) :
    ∃ Q, M'.Reachable s Q ∧ Forgets f P Q := by
  induction hP with
  | refl => exact ⟨⟨s, fun _ => none⟩, .refl, rfl, fun _ => rfl⟩
  | tail _ hstep ih =>
    obtain ⟨Q, hQ, hforgets⟩ := ih
    obtain ⟨Q', hstep', hforgets'⟩ := h.step hstep hforgets
    exact ⟨Q', hQ.tail hstep', hforgets'⟩

/-! ## §2 Contracts that fit together -/

/-- One contract for each thread, an invariant of the shared state, an
assertion for each idle thread and one for the end of each of its
programs, such that no thread breaks what another relies on. -/
structure SoundWith (inv : σ → Prop) (idle : T → σ → Prop)
    (post : T → Except ε α → σ → Prop) (C : T → Contract Act Res ι σ) : Prop where
  handler : ∀ t, (C t).handler = M.handler t
  allowed : ∀ t, (C t).allowed = M.allowed
  refl : ∀ t s, inv s → (C t).rely s s
  trans : ∀ t {a b c}, (C t).rely a b → (C t).rely b c → (C t).rely a c
  idle_stable : ∀ t s s', (C t).rely s s' → idle t s → idle t s'
  post_stable : ∀ t out s s', (C t).rely s s' → post t out s → post t out s'
  post_idle : ∀ t out s, post t out s → idle t s
  act_inv : ∀ t i a s, M.allowed i a s → inv s → (C t).guar i a s →
    inv (M.handler t i a s).2
  act_rely : ∀ t u i a s, u ≠ t → M.allowed i a s → inv s → (C t).guar i a s →
    (C u).rely s (M.handler t i a s).2
  start_inv : ∀ t s, inv s → inv (M.onStart t s)
  start_rely : ∀ t u s, u ≠ t → inv s → (C u).rely s (M.onStart t s)
  start_safe : ∀ t p s, M.starts t p → inv s → idle t s →
    (C t).Safe p (post t) (M.onStart t s)
  env_inv : ∀ s s', M.env s s' → inv s → inv s'
  env_rely : ∀ u s s', M.env s s' → inv s → (C u).rely s s'

/-- The same where the end of a program is as good as being idle. -/
structure Sound (inv : σ → Prop) (idle : T → σ → Prop) (C : T → Contract Act Res ι σ) : Prop
    extends SoundWith M inv idle (fun t _ => idle t) C where
  post_stable := fun t _ => idle_stable t
  post_idle := fun _ _ _ hs => hs

variable {M} {inv : σ → Prop} {idle : T → σ → Prop} {post : T → Except ε α → σ → Prop}
  {C : T → Contract Act Res ι σ}

/-- What is maintained of one thread. -/
def ThreadOk (idle : T → σ → Prop) (post : T → Except ε α → σ → Prop)
    (C : T → Contract Act Res ι σ) (s : σ) (t : T) : Option (Prog Act Res ε α) → Prop
  | none => idle t s
  | some p => (C t).Safe p (post t) s

omit [DecidableEq T] in
theorem SoundWith.threadOk_stable (h : M.SoundWith inv idle post C) {s s' : σ} {t : T}
    (hs : (C t).rely s s') : ∀ o : Option (Prog Act Res ε α),
      ThreadOk idle post C s t o → ThreadOk idle post C s' t o
  | none, ho => h.idle_stable t s s' hs ho
  | some _, ho => ho.stable (h.trans t) (fun out => h.post_stable t out s s' hs) hs

/-- One step keeps the invariant and every thread's safety. -/
theorem SoundWith.step (h : M.SoundWith inv idle post C) {P P' : Pool T Act Res σ ε α}
    (hstep : M.Step P P') (hinv : inv P.shared)
    (hok : ∀ t, ThreadOk idle post C P.shared t (P.threads t)) :
    inv P'.shared ∧ ∀ t, ThreadOk idle post C P'.shared t (P'.threads t) := by
  cases hstep with
  | start t p hidle hstart =>
    refine ⟨h.start_inv t _ hinv, fun u => ?_⟩
    by_cases hu : u = t
    · subst hu
      have hu := hok u
      rw [hidle] at hu
      simpa [ThreadOk] using h.start_safe u p _ hstart hinv hu
    · simpa [Function.update_of_ne hu] using
        h.threadOk_stable (h.start_rely t u _ hu hinv) _ (hok u)
  | act t i hnext hi =>
    have ht := hok t
    rw [hnext] at ht
    have hsafe := ht _ (h.refl t _ hinv) i (by rw [h.allowed]; exact hi)
    refine ⟨h.act_inv t i _ _ hi hinv hsafe.1, fun u => ?_⟩
    by_cases hu : u = t
    · subst hu
      simpa [ThreadOk, h.handler] using hsafe.2
    · simpa [Function.update_of_ne hu] using
        h.threadOk_stable (h.act_rely t u i _ _ hu hi hinv hsafe.1) _ (hok u)
  | finish t hlast hend =>
    refine ⟨hinv, fun u => ?_⟩
    by_cases hu : u = t
    · subst hu
      have hu := hok u
      rw [hlast] at hu
      rename_i p
      cases p with
      | pure a => simpa [ThreadOk] using h.post_idle u _ _ hu
      | throw e => simpa [ThreadOk] using h.post_idle u _ _ hu
      | act a k => exact hend.elim
    · simpa [Function.update_of_ne hu] using hok u
  | env hmove =>
    exact ⟨h.env_inv _ _ hmove hinv,
      fun u => h.threadOk_stable (h.env_rely u _ _ hmove hinv) _ (hok u)⟩

/-- **Soundness of the rely/guarantee rule**: in every reachable pool
the invariant holds and every thread is safe under its contract. -/
theorem SoundWith.reachable (h : M.SoundWith inv idle post C) {s : σ} (hinv : inv s)
    (hidle : ∀ t, idle t s) {P : Pool T Act Res σ ε α} (hP : M.Reachable s P) :
    inv P.shared ∧ ∀ t, ThreadOk idle post C P.shared t (P.threads t) := by
  induction hP with
  | refl => exact ⟨hinv, hidle⟩
  | tail _ hstep ih => exact h.step hstep ih.1 ih.2

/-- In a reachable pool, a program that has come to its end meets its
postcondition. -/
theorem SoundWith.ended (h : M.SoundWith inv idle post C) {s : σ} (hinv : inv s)
    (hidle : ∀ t, idle t s) {P : Pool T Act Res σ ε α} (hP : M.Reachable s P) {t : T} {a : α}
    (hend : P.threads t = some (.pure a)) : post t (.ok a) P.shared := by
  have ht := (h.reachable hinv hidle hP).2 t
  rw [hend] at ht
  exact ht

theorem Sound.reachable (h : M.Sound inv idle C) {s : σ} (hinv : inv s)
    (hidle : ∀ t, idle t s) {P : Pool T Act Res σ ε α} (hP : M.Reachable s P) :
    inv P.shared ∧ ∀ t, ThreadOk idle (fun t _ => idle t) C P.shared t (P.threads t) :=
  h.toSoundWith.reachable hinv hidle hP

/-- In a reachable pool, the action a thread is about to perform meets
its guarantee. -/
theorem Sound.guar_next (h : M.Sound inv idle C) {s : σ} (hinv : inv s)
    (hidle : ∀ t, idle t s) {P : Pool T Act Res σ ε α} (hP : M.Reachable s P)
    {t : T} {a : Act} {k : Res a → Prog Act Res ε α}
    (hnext : P.threads t = some (.act a k)) {i : ι} (hi : M.allowed i a P.shared) :
    (C t).guar i a P.shared := by
  obtain ⟨hinv', hok⟩ := h.reachable hinv hidle hP
  have ht := hok t
  rw [hnext] at ht
  exact ht.guar_next (h.refl t _ hinv') (by rw [h.allowed]; exact hi)

/-! ## §3 Executing a schedule -/

/-- A scheduling decision. -/
inductive Choice (T Act : Type) (Res : Act → Type) (ι ε α : Type) where
  | start (t : T) (p : Prog Act Res ε α)
  | act (t : T) (i : ι)
  | finish (t : T)

/-- Carry out one decision; `none` if the pool does not admit it. -/
def choose (M : System T Act Res ι σ ε α) (P : Pool T Act Res σ ε α) :
    Choice T Act Res ι ε α → Option (Pool T Act Res σ ε α)
  | .start t p =>
      match P.threads t with
      | none => some ⟨M.onStart t P.shared, Function.update P.threads t (some p)⟩
      | some _ => none
  | .act t i =>
      match P.threads t with
      | some (.act a k) =>
          some ⟨(M.handler t i a P.shared).2,
            Function.update P.threads t (some (k (M.handler t i a P.shared).1))⟩
      | _ => none
  | .finish t =>
      match P.threads t with
      | none => none
      | some (.act _ _) => none
      | some _ => some ⟨P.shared, Function.update P.threads t none⟩

/-- Carry out a schedule. -/
def runSchedule (M : System T Act Res ι σ ε α) :
    List (Choice T Act Res ι ε α) → Pool T Act Res σ ε α → Option (Pool T Act Res σ ε α)
  | [], P => some P
  | c :: cs, P => (M.choose P c).bind (M.runSchedule cs)

/-- The decisions a schedule may contain. -/
def ChoiceOk (M : System T Act Res ι σ ε α) : Choice T Act Res ι ε α → Prop
  | .start t p => M.starts t p
  | .act _ i => ∀ a s, M.allowed i a s
  | .finish _ => True

theorem choose_step {P P' : Pool T Act Res σ ε α} {c : Choice T Act Res ι ε α}
    (hc : M.ChoiceOk c) (h : M.choose P c = some P') : M.Step P P' := by
  cases c with
  | start t p =>
    simp only [choose] at h
    split at h
    · cases h
      exact .start t p ‹_› hc
    · cases h
  | act t i =>
    simp only [choose] at h
    split at h
    · cases h
      exact .act t i ‹_› (hc _ _)
    · cases h
  | finish t =>
    simp only [choose] at h
    split at h
    · cases h
    · cases h
    · next p hne hp =>
      cases h
      refine .finish t hp ?_
      cases p with
      | pure a => trivial
      | throw e => trivial
      | act a k => exact absurd rfl (hne a k)

/-- What a schedule produces is reachable. -/
theorem reachable_runSchedule {s : σ} {P P' : Pool T Act Res σ ε α}
    (hP : M.Reachable s P) {cs : List (Choice T Act Res ι ε α)}
    (hcs : ∀ c ∈ cs, M.ChoiceOk c) (h : M.runSchedule cs P = some P') :
    M.Reachable s P' := by
  induction cs generalizing P with
  | nil => cases h; exact hP
  | cons c cs ih =>
    obtain ⟨P₁, h₁, h₂⟩ := Option.bind_eq_some_iff.mp h
    have hstep := choose_step (hcs c List.mem_cons_self) h₁
    exact ih (hP.tail hstep) (fun d hd => hcs d (List.mem_cons_of_mem c hd)) h₂

end System

/-! ## §4 Logs -/

section Logs

variable {E V : Type} {author : E → T} {f g : E → Option (T × V)} {t : T} {e : E} {log : List E}

/-- What thread `t` has done, out of the log of all threads. -/
def own (author : E → T) (t : T) (log : List E) : List E := log.filter fun e => author e = t

theorem own_cons_self (h : author e = t) : own author t (e :: log) = e :: own author t log := by
  simp [own, h]

theorem own_cons_of_ne (h : author e ≠ t) : own author t (e :: log) = own author t log := by
  simp [own, h]

omit [DecidableEq T] in
/-- The reading `f` of an entry names the author of the entry. -/
def Signed (author : E → T) (f : E → Option (T × V)) : Prop :=
  ∀ e t v, f e = some (t, v) → author e = t

/-- The last entry of a kind is the last one of its author. -/
theorem Signed.last_own (hf : Signed author f) {v : V} (h : log.findSome? f = some (t, v)) :
    (own author t log).findSome? f = some (t, v) := by
  induction log with
  | nil => cases h
  | cons e log ih =>
    cases he : f e with
    | some hit =>
      have hhit : hit = (t, v) := by simpa [List.findSome?_cons, he] using h
      subst hhit
      rw [own_cons_self (hf e t v he), List.findSome?_cons, he]
    | none =>
      have hlog : log.findSome? f = some (t, v) := by simpa [List.findSome?_cons, he] using h
      by_cases hauthor : author e = t
      · rw [own_cons_self hauthor, List.findSome?_cons, he]
        exact ih hlog
      · rw [own_cons_of_ne hauthor]
        exact ih hlog

theorem last_own_of_none (h : log.findSome? f = none) (t : T) :
    (own author t log).findSome? f = none := by
  rw [List.findSome?_eq_none_iff] at h ⊢
  intro e he
  exact h e (List.mem_filter.mp he).1

/-- Two readings that agree on what each thread has done last agree on
what has been done last, unless different threads have done it. -/
theorem Signed.agree_or_crossed (hf : Signed author f) (hg : Signed author g)
    (h : ∀ t, ((own author t log).findSome? f).map Prod.snd =
      ((own author t log).findSome? g).map Prod.snd) :
    (log.findSome? f).map Prod.snd = (log.findSome? g).map Prod.snd ∨
      ∃ t t' v v', t ≠ t' ∧ log.findSome? f = some (t, v) ∧ log.findSome? g = some (t', v') := by
  cases hlast : log.findSome? f with
  | none =>
    refine Or.inl ?_
    cases hlast' : log.findSome? g with
    | none => rfl
    | some hit =>
      obtain ⟨t', v'⟩ := hit
      have ht := h t'
      rw [last_own_of_none hlast, hg.last_own hlast'] at ht
      cases ht
  | some hit =>
    obtain ⟨t, v⟩ := hit
    have ht := h t
    rw [hf.last_own hlast] at ht
    cases hlast' : log.findSome? g with
    | none =>
      rw [last_own_of_none hlast'] at ht
      cases ht
    | some hit' =>
      obtain ⟨t', v'⟩ := hit'
      by_cases heq : t = t'
      · subst heq
        rw [hg.last_own hlast'] at ht
        exact Or.inl ht
      · exact Or.inr ⟨t, t', v, v', heq, rfl, rfl⟩

end Logs

end DamMonitoring.Program
