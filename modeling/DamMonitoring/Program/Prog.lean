/-
DamMonitoring.Program.Prog — programs over atomic actions, as trees.

A program returns a value, throws an exception, or performs one atomic
action and goes on with the answer. Nothing is said here about what an
action does: `Program.Safe` runs a program against a handler, and
`Program.Pool` interleaves several. Keeping the code as a tree is what
lets ONE definition of a routine serve both readings — a call that runs
alone, and a thread that other threads may interrupt between any two of
its actions.

  §1 the tree, its monad and `tryCatch`
  §2 `forEach`, the loop over a list
  §3 `attempt`, which turns an exception into an outcome
-/
import Mathlib.Logic.Basic

namespace DamMonitoring.Program

/-! ## §1 Programs -/

/-- A program over the actions `Act`, where `Res a` is the type of the
answer to `a`, with exceptions in `ε` and results in `α`. -/
inductive Prog (Act : Type) (Res : Act → Type) (ε : Type) (α : Type) where
  | pure (a : α)
  | throw (e : ε)
  | act (a : Act) (k : Res a → Prog Act Res ε α)

namespace Prog

variable {Act : Type} {Res : Act → Type} {ε α β : Type}

/-- Run `p`, then `f` on its result; an exception of `p` skips `f`. -/
def bind : Prog Act Res ε α → (α → Prog Act Res ε β) → Prog Act Res ε β
  | .pure a, f => f a
  | .throw e, _ => .throw e
  | .act a k, f => .act a fun r => (k r).bind f

/-- Run `p`; an exception of `p` continues with the handler `h`. -/
def tryCatch : Prog Act Res ε α → (ε → Prog Act Res ε α) → Prog Act Res ε α
  | .pure a, _ => .pure a
  | .throw e, h => h e
  | .act a k, h => .act a fun r => (k r).tryCatch h

instance : Monad (Prog Act Res ε) where
  pure := .pure
  bind := bind

instance : MonadExceptOf ε (Prog Act Res ε) where
  throw := .throw
  tryCatch := tryCatch

/-- The program that performs one action and returns its answer. -/
def perform (a : Act) : Prog Act Res ε (Res a) := .act a .pure

@[simp] theorem pure_eq (a : α) : (Pure.pure a : Prog Act Res ε α) = .pure a := rfl

@[simp] theorem throw_eq (e : ε) :
    (MonadExcept.throw e : Prog Act Res ε α) = .throw e := rfl

@[simp] theorem pure_bind (a : α) (f : α → Prog Act Res ε β) :
    (Prog.pure a >>= f) = f a := rfl

@[simp] theorem throw_bind (e : ε) (f : α → Prog Act Res ε β) :
    ((.throw e : Prog Act Res ε α) >>= f) = .throw e := rfl

@[simp] theorem act_bind (a : Act) (k : Res a → Prog Act Res ε α)
    (f : α → Prog Act Res ε β) :
    (Prog.act a k >>= f) = .act a fun r => k r >>= f := rfl

@[simp] theorem perform_bind (a : Act) (f : Res a → Prog Act Res ε β) :
    (perform a >>= f) = .act a f := rfl

@[simp] theorem tryCatch_pure (a : α) (h : ε → Prog Act Res ε α) :
    (Prog.pure a).tryCatch h = .pure a := rfl

@[simp] theorem tryCatch_throw (e : ε) (h : ε → Prog Act Res ε α) :
    (Prog.throw e : Prog Act Res ε α).tryCatch h = h e := rfl

@[simp] theorem tryCatch_act (a : Act) (k : Res a → Prog Act Res ε α)
    (h : ε → Prog Act Res ε α) :
    (Prog.act a k).tryCatch h = .act a fun r => (k r).tryCatch h := rfl

theorem ite_bind (c : Prop) [Decidable c] (p q : Prog Act Res ε α) (f : α → Prog Act Res ε β) :
    ((if c then p else q) >>= f) = if c then p >>= f else q >>= f := by
  split <;> rfl

theorem ite_tryCatch (c : Prop) [Decidable c] (p q : Prog Act Res ε α)
    (h : ε → Prog Act Res ε α) :
    (if c then p else q).tryCatch h = if c then p.tryCatch h else q.tryCatch h := by
  split <;> rfl

/-! ## §2 Loops -/

/-- `for (x : xs) f(x)`: an exception in one round ends the loop. -/
def forEach : List β → (β → Prog Act Res ε Unit) → Prog Act Res ε Unit
  | [], _ => .pure ()
  | x :: xs, f => f x >>= fun _ => forEach xs f

@[simp] theorem forEach_nil (f : β → Prog Act Res ε Unit) : forEach [] f = .pure () := rfl

@[simp] theorem forEach_cons (x : β) (xs : List β) (f : β → Prog Act Res ε Unit) :
    forEach (x :: xs) f = f x >>= fun _ => forEach xs f := rfl

/-! ## §3 Attempts -/

/-- Run `p`; `none` if it throws. -/
def attempt (p : Prog Act Res ε α) : Prog Act Res ε (Option α) :=
  (p >>= fun a => .pure (some a)).tryCatch fun _ => .pure none

@[simp] theorem attempt_pure (a : α) :
    (Prog.pure a : Prog Act Res ε α).attempt = .pure (some a) := rfl

@[simp] theorem attempt_throw (e : ε) :
    (Prog.throw e : Prog Act Res ε α).attempt = .pure none := rfl

@[simp] theorem attempt_act (a : Act) (k : Res a → Prog Act Res ε α) :
    (Prog.act a k).attempt = .act a fun r => (k r).attempt := rfl

/-- A handler around a whole block is one around each of its parts, where
all exceptions are treated alike. -/
theorem tryCatch_bind (p : Prog Act Res ε α) (k : α → Prog Act Res ε β) (q : Prog Act Res ε β) :
    (p >>= k).tryCatch (fun _ => q) =
      p.attempt >>= fun out => match out with
        | some a => (k a).tryCatch fun _ => q
        | none => q := by
  induction p with
  | pure a => rfl
  | throw e => rfl
  | act a r ih => simp only [act_bind, tryCatch_act, attempt_act, ih]

/-- An attempt whose outcome is not looked at. -/
theorem attempt_erased (p : Prog Act Res ε Unit) :
    (p.attempt >>= fun _ => .pure ()) = p.tryCatch fun _ => .pure () := by
  induction p with
  | pure a => rfl
  | throw e => rfl
  | act a r ih => simp only [attempt_act, act_bind, tryCatch_act, ih]

theorem bind_pure (p : Prog Act Res ε α) : (p >>= fun a => .pure a) = p := by
  induction p with
  | pure a => rfl
  | throw e => rfl
  | act a r ih => simp only [act_bind, ih]

theorem bind_assoc {γ : Type} (p : Prog Act Res ε α) (f : α → Prog Act Res ε β)
    (g : β → Prog Act Res ε γ) : ((p >>= f) >>= g) = p >>= fun a => f a >>= g := by
  induction p with
  | pure a => rfl
  | throw e => rfl
  | act a r ih => simp only [act_bind, ih]

end Prog

end DamMonitoring.Program
