/-
DamMonitoring.Program.Queue — a queue worked through from its head, pass
after pass, in which nobody is passed over.

A pass asks one after the other and stops at the first who does not
answer; who has answered is done and leaves. So an element is asked in a
pass only if everybody before it has answered by then. `called_iff` turns
this into passes that can be pointed at: one for each element ahead, in
which it answers, none earlier than that of the element before it.

  §1 what is left of a queue
  §2 who is asked
  §3 deadlines
-/
import Mathlib.Data.List.TakeWhile
import Mathlib.Order.Monotone.Basic

namespace DamMonitoring.Program.Queue

variable {α γ : Type} {answers : γ → α → Bool} {c : γ} {passes : List γ} {a : α}
  {queue queue' : List α}

/-! ## §1 What is left -/

/-- What is left of a queue after some passes. -/
def remaining (answers : γ → α → Bool) (queue : List α) (passes : List γ) : List α :=
  passes.foldl (fun left c => left.dropWhile (answers c)) queue

@[simp] theorem remaining_nil (queue : List α) : remaining answers queue [] = queue := rfl

@[simp] theorem remaining_cons (queue : List α) (c : γ) (passes : List γ) :
    remaining answers queue (c :: passes) =
      remaining answers (queue.dropWhile (answers c)) passes := rfl

theorem remaining_append (queue : List α) (passes passes' : List γ) :
    remaining answers queue (passes ++ passes') =
      remaining answers (remaining answers queue passes) passes' :=
  List.foldl_append

/-- Nobody leaves but at the head. -/
theorem remaining_suffix (queue : List α) (passes : List γ) :
    remaining answers queue passes <:+ queue := by
  induction passes generalizing queue with
  | nil => exact List.suffix_refl queue
  | cons c passes ih => exact (ih _).trans (List.dropWhile_suffix _)

theorem dropWhile_suffix_of_suffix (p : α → Bool) (h : queue <:+ queue') :
    queue.dropWhile p <:+ queue'.dropWhile p := by
  obtain ⟨front, rfl⟩ := h
  induction front with
  | nil => exact List.suffix_refl _
  | cons a front ih =>
    rw [List.cons_append, List.dropWhile_cons]
    split
    · exact ih
    · exact (List.dropWhile_suffix p).trans ((List.suffix_append front queue).trans
        (List.suffix_cons a _))

/-- Of the shorter queue no more is left. -/
theorem remaining_suffix_of_suffix (h : queue <:+ queue') (passes : List γ) :
    remaining answers queue passes <:+ remaining answers queue' passes := by
  induction passes generalizing queue queue' with
  | nil => exact h
  | cons c passes ih => exact ih (dropWhile_suffix_of_suffix _ h)

/-- A list of things to do, of which a pass gets done those that answer if
everything to do before them answers: what is to do afterwards is left of
what was. -/
theorem filter_eq_dropWhile {rs : List α} {todo todo' answer : α → Bool}
    (h : ∀ pre r post, rs = pre ++ r :: post →
      (todo' r = true ↔ todo r = true ∧
        ¬(answer r = true ∧ ∀ q ∈ pre.filter todo, answer q = true))) :
    rs.filter todo' = (rs.filter todo).dropWhile answer := by
  induction rs with
  | nil => rfl
  | cons r rs ih =>
    have hr := h [] r rs rfl
    simp only [List.filter_nil, List.not_mem_nil, false_implies, implies_true, and_true] at hr
    cases htodo : todo r with
    | false =>
      have htodo' : ¬todo' r = true := fun hnow => by simp [htodo, hnow] at hr
      rw [List.filter_cons_of_neg htodo', List.filter_cons_of_neg (by simp [htodo])]
      refine ih fun pre q post heq => ?_
      simpa [htodo] using h (r :: pre) q post (congrArg (r :: ·) heq)
    | true =>
      cases hanswer : answer r with
      | true =>
        have htodo' : ¬todo' r = true := fun hnow => by simp [hanswer, hnow] at hr
        rw [List.filter_cons_of_neg htodo', List.filter_cons_of_pos htodo,
          List.dropWhile_cons_of_pos hanswer]
        refine ih fun pre q post heq => ?_
        simpa [htodo, hanswer] using h (r :: pre) q post (congrArg (r :: ·) heq)
      | false =>
        -- `r` does not answer: nothing behind it is asked
        have htodo' : todo' r = true := hr.mpr ⟨htodo, by simp [hanswer]⟩
        rw [List.filter_cons_of_pos htodo', List.filter_cons_of_pos htodo,
          List.dropWhile_cons_of_neg (by simp [hanswer])]
        refine congrArg (r :: ·) (List.filter_congr fun q hq => ?_)
        obtain ⟨pre, post, heq⟩ := List.append_of_mem hq
        have hq := h (r :: pre) q post (congrArg (r :: ·) heq)
        simp only [List.filter_cons_of_pos htodo, List.forall_mem_cons, hanswer,
          Bool.false_eq_true, false_and, and_false, not_false_eq_true, and_true] at hq
        exact Bool.eq_iff_iff.mpr hq

/-! ## §2 Who is asked -/

/-- In some pass with `P` the queue is through. -/
def Called (answers : γ → α → Bool) (P : γ → Prop) : List α → List γ → Prop
  | _, [] => False
  | queue, c :: passes =>
      ((∀ a ∈ queue, answers c a = true) ∧ P c) ∨
        Called answers P (queue.dropWhile (answers c)) passes

/-- `k` gives everybody in the queue a pass up to number `i` in which it
answers, none earlier than that of the one before it. -/
structure Schedule (answers : γ → α → Bool) (queue : List α) (passes : List γ) (i : ℕ)
    (k : ℕ → ℕ) : Prop where
  ordered : Monotone k
  answered : ∀ j a, queue[j]? = some a → k j ≤ i ∧ ∃ c, passes[k j]? = some c ∧ answers c a = true

variable {P : γ → Prop} {i : ℕ} {k : ℕ → ℕ}

/-- Everybody answers in the same pass. -/
theorem Schedule.at_once (hc : passes[i]? = some c) (hall : ∀ a ∈ queue, answers c a = true) :
    Schedule answers queue passes i fun _ => i where
  ordered _ _ _ := le_rfl
  answered _ a ha := ⟨le_rfl, c, hc, hall a (List.mem_of_getElem? ha)⟩

/-- A pass ahead: those it serves are served in it. -/
theorem Schedule.cons (h : Schedule answers (queue.dropWhile (answers c)) passes i k) :
    Schedule answers queue (c :: passes) (i + 1) fun j =>
      if j < (queue.takeWhile (answers c)).length then 0
      else k (j - (queue.takeWhile (answers c)).length) + 1 where
  ordered j j' hle := by
    dsimp only
    split
    · exact Nat.zero_le _
    · rw [if_neg (by omega)]
      exact Nat.succ_le_succ (h.ordered (by omega))
  answered j a ha := by
    rw [← List.takeWhile_append_dropWhile (p := answers c) (l := queue)] at ha
    split
    · next hlt =>
      rw [List.getElem?_append_left hlt] at ha
      have hmem := List.mem_of_getElem? ha
      exact ⟨Nat.zero_le _, c, rfl, List.mem_takeWhile_imp hmem⟩
    · next hge =>
      rw [List.getElem?_append_right (Nat.not_lt.mp hge)] at ha
      obtain ⟨hle, d, hd, hans⟩ := h.answered _ a ha
      exact ⟨Nat.succ_le_succ hle, d, by simpa using hd, hans⟩

/-- The pass ahead taken off: the head that it did not serve comes later,
and so does everybody behind it. -/
theorem Schedule.tail (h : Schedule answers queue (c :: passes) (i + 1) k) :
    Schedule answers (queue.dropWhile (answers c)) passes i fun j =>
      k (j + (queue.takeWhile (answers c)).length) - 1 where
  ordered j j' hle := Nat.sub_le_sub_right (h.ordered (by omega)) 1
  answered j a ha := by
    have hget : ∀ j, queue[j + (queue.takeWhile (answers c)).length]? =
        (queue.dropWhile (answers c))[j]? := by
      intro j
      conv_lhs => rw [← List.takeWhile_append_dropWhile (p := answers c) (l := queue)]
      rw [List.getElem?_append_right (by simp), List.takeWhile_append_dropWhile]
      congr 1
      omega
    obtain ⟨hle, d, hd, hans⟩ := h.answered _ a ((hget j).trans ha)
    -- the first that is left has not answered in the pass ahead
    have hlater : k (queue.takeWhile (answers c)).length ≠ 0 := by
      intro hzero
      cases hdrop : queue.dropWhile (answers c) with
      | nil => simp [hdrop] at ha
      | cons b left =>
        have hb := hget 0
        rw [Nat.zero_add, hdrop] at hb
        obtain ⟨-, d', hd', hans'⟩ := h.answered _ b hb
        rw [hzero] at hd'
        obtain rfl := Option.some.inj hd'
        have hnot := List.head_dropWhile_not (answers c) (l := queue) (by simp [hdrop])
        simp only [hdrop, List.head_cons] at hnot
        exact absurd hans' (by simpa using hnot)
    have hmono := h.ordered (Nat.le_add_left (queue.takeWhile (answers c)).length j)
    obtain ⟨n, hn⟩ : ∃ n, k (j + (queue.takeWhile (answers c)).length) = n + 1 :=
      Nat.exists_eq_add_one.mpr (by omega)
    rw [hn] at hle hd
    refine ⟨by rw [hn]; omega, d, ?_, hans⟩
    rw [hn]
    simpa using hd

/-- **Who is asked.** A pass with `P` finds the queue through exactly if
everybody in the queue has answered in an earlier pass or in this one, each
in a pass no earlier than that of the one before it. -/
theorem called_iff : Called answers P queue passes ↔
    ∃ i c, passes[i]? = some c ∧ P c ∧ ∃ k, Schedule answers queue passes i k := by
  induction passes generalizing queue with
  | nil => simp [Called]
  | cons c passes ih =>
    rw [Called, ih]
    constructor
    · rintro (⟨hall, hP⟩ | ⟨i, d, hd, hP, k, hk⟩)
      · exact ⟨0, c, rfl, hP, _, .at_once rfl hall⟩
      · exact ⟨i + 1, d, by simpa using hd, hP, _, hk.cons⟩
    · rintro ⟨i, d, hd, hP, k, hk⟩
      cases i with
      | zero =>
        obtain rfl : c = d := by simpa using hd
        refine Or.inl ⟨fun a ha => ?_, hP⟩
        obtain ⟨j, hj⟩ := List.mem_iff_getElem?.mp ha
        obtain ⟨hle, d, hd, hans⟩ := hk.answered j a hj
        rw [Nat.le_zero.mp hle] at hd
        rwa [← Option.some.inj hd] at hans
      | succ i => exact Or.inr ⟨i, d, by simpa using hd, hP, _, hk.tail⟩

/-! ## §3 Deadlines -/

/-- **A deadline.** If everybody answers at least once in every `p` passes
in a row, a queue of `n` is empty after `n * (p - 1) + 1` of them. -/
theorem remaining_eq_nil {p : ℕ} (hp : 0 < p)
    (hfair : ∀ a ∈ queue, ∀ i, i + p ≤ passes.length →
      ∃ j c, i ≤ j ∧ j < i + p ∧ passes[j]? = some c ∧ answers c a = true)
    (hlong : queue.length * (p - 1) < passes.length) : remaining answers queue passes = [] := by
  induction queue generalizing passes with
  | nil => exact List.suffix_nil.mp (remaining_suffix [] passes)
  | cons a queue ih =>
    rw [List.length_cons, Nat.succ_mul] at hlong
    obtain ⟨j, c, -, hj, hget, hans⟩ := hfair a List.mem_cons_self 0 (by omega)
    obtain ⟨hlt, hget⟩ := List.getElem?_eq_some_iff.mp hget
    have hdrop : passes.drop j = c :: passes.drop (j + 1) := by
      rw [← hget]
      exact List.drop_eq_getElem_cons hlt
    -- pass `j` takes `a` off if it is still there
    have hshort : remaining answers queue (passes.drop j) = [] := by
      refine ih (fun b hb i hi => ?_) (by rw [List.length_drop]; omega)
      rw [List.length_drop] at hi
      obtain ⟨m, d, him, hmi, hm, hd⟩ := hfair b (List.mem_cons_of_mem a hb) (j + i) (by omega)
      refine ⟨m - j, d, by omega, by omega, ?_, hd⟩
      rw [List.getElem?_drop, Nat.add_sub_cancel' (by omega)]
      exact hm
    have hsame : remaining answers (a :: queue) (passes.drop j) =
        remaining answers queue (passes.drop j) := by
      rw [hdrop, remaining_cons, List.dropWhile_cons_of_pos hans, remaining_cons]
    have hsplit : remaining answers (a :: queue) passes =
        remaining answers (remaining answers (a :: queue) (passes.take j)) (passes.drop j) := by
      rw [← remaining_append, List.take_append_drop]
    have hleft : remaining answers (a :: queue) (passes.take j) <:+ a :: queue :=
      remaining_suffix _ _
    have hsuffix : remaining answers (a :: queue) passes <:+ [] := by
      rw [hsplit, ← hshort, ← hsame]
      exact remaining_suffix_of_suffix hleft _
    exact List.suffix_nil.mp hsuffix

end DamMonitoring.Program.Queue
