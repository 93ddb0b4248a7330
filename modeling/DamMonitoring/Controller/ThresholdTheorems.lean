/-
DamMonitoring.Controller.ThresholdTheorems — the order of the thresholds
under `Threshold` commands.

The setters reject a value that IS on the wrong side of a neighbour; a
NaN is on no side of anything and passes every test. So the order
`min ≤ max ≤ safe` survives a sequence of commands exactly when none of
them sets a NaN (`thresholds_ordered_iff`), and `nan_is_admitted` is the
command that breaks it.

  §1 what a command does
  §2 which values keep the order
  §3 sequences of commands
-/
import DamMonitoring.Controller.Commands
import DamMonitoring.Controller.Cycle

namespace DamMonitoring.Controller

open Program Java Persistence

/-! ## §1 Commands -/

section Commands

variable {F : Type} [JavaFloat F]

/-- The tests of the setters: the value is not on the wrong side of
another threshold. -/
def Thresholds.Admits (θ : Thresholds F) : ThresholdName → F → Prop
  | .max, v => ¬θ.safe < v ∧ ¬v < θ.min
  | .min, v => ¬θ.max < v ∧ ¬θ.safe < v
  | .safe, v => ¬v < θ.min ∧ ¬v < θ.max

omit [JavaFloat F] in
/-- The threshold a name stands for. -/
def Threshold.named (threshold : String) : Option ThresholdName :=
  if toLowerCaseIs threshold "max" then some .max
  else if toLowerCaseIs threshold "min" then some .min
  else if toLowerCaseIs threshold "safe" then some .safe
  else none

omit [JavaFloat F] in
/-- The parameters of a `Threshold` command. -/
structure ThresholdCommand (F : Type) where
  threshold : Option String
  value : Option F

omit [JavaFloat F] in
/-- The threshold a command is to set, and to what. -/
def ThresholdCommand.target (c : ThresholdCommand F) : Option (ThresholdName × F) :=
  match c.threshold.bind Threshold.named, c.value with
  | some name, some value => some (name, value)
  | _, _ => none

/-- A command, run by the shell. No action of it can fail. -/
def thresholdCommand (c : ThresholdCommand F) (s : State F) : Except JException Unit × State F :=
  run .shell (fun _ => .none) (Threshold.call c.threshold c.value) s

variable {t : Thread} {f : Action F → Fault} {s : State F}

omit [JavaFloat F] in
@[simp] theorem Thresholds.get_set (θ : Thresholds F) (name : ThresholdName) (v : F) :
    (θ.set name v).get name = v := by
  cases name <;> rfl

/-- How a setter ends. -/
inductive ThresholdSet (θ : Thresholds F) (name : ThresholdName) (v : F) :
    Except JException Unit → Thresholds F → Prop where
  | rejected {ex : JException} (wrong : ¬θ.Admits name v) : ThresholdSet θ name v (.error ex) θ
  | accepted (admits : θ.Admits name v) : ThresholdSet θ name v (.ok ()) (θ.set name v)

theorem safe_setThreshold (name : ThresholdName) (v : F)
    {Q : Except JException Unit → State F → Prop}
    (h : ∀ s', s'.world.thresholds = s.world.thresholds.set name v → Q (.ok ()) s') :
    (under t f).Safe (perform (.setThreshold name v)) Q s := by
  simp only [perform, Prog.perform, under_act, handler, World.perform, Contract.safe_pure]
  exact h _ rfl

/-- The shape of all three setters: two tests, then the write. -/
theorem safe_guardedSet (name first second : ThresholdName) (v : F) (wrong₁ wrong₂ : F → Prop)
    [DecidablePred wrong₁] [DecidablePred wrong₂]
    (hadmits : s.world.thresholds.Admits name v ↔
      ¬wrong₁ (s.world.thresholds.get first) ∧ ¬wrong₂ (s.world.thresholds.get second)) :
    (under t f).Safe (do
        if wrong₁ (← perform (.getThreshold first)) then throw ControlLogic.inconsistent
        else
          if wrong₂ (← perform (.getThreshold second)) then throw ControlLogic.inconsistent
          else perform (.setThreshold name v))
      (fun out s' => ThresholdSet s.world.thresholds name v out s'.world.thresholds) s := by
  rw [Contract.safe_bind]
  refine safe_getThreshold first fun s₁ h₁ => ?_
  dsimp only
  by_cases hw₁ : wrong₁ (s.world.thresholds.get first)
  · rw [if_pos hw₁]
    change ThresholdSet _ _ _ _ s₁.world.thresholds
    rw [h₁.world]
    exact .rejected fun h => (hadmits.mp h).1 hw₁
  rw [if_neg hw₁, Contract.safe_bind]
  refine safe_getThreshold second fun s₂ h₂ => ?_
  have hworld := (h₁.trans h₂).world
  dsimp only
  rw [h₁.world]
  by_cases hw₂ : wrong₂ (s.world.thresholds.get second)
  · rw [if_pos hw₂]
    change ThresholdSet _ _ _ _ s₂.world.thresholds
    rw [hworld]
    exact .rejected fun h => (hadmits.mp h).2 hw₂
  · rw [if_neg hw₂]
    refine safe_setThreshold name v fun s' h' => ?_
    rw [h', hworld]
    exact .accepted (hadmits.mpr ⟨hw₁, hw₂⟩)

theorem safe_set (name : ThresholdName) (v : F) : (under t f).Safe (Threshold.set name v)
    (fun out s' => ThresholdSet s.world.thresholds name v out s'.world.thresholds) s := by
  cases name with
  | max => exact safe_guardedSet .max .safe .min v (· < v) (v < ·) Iff.rfl
  | min => exact safe_guardedSet .min .max .safe v (· < v) (· < v) Iff.rfl
  | safe => exact safe_guardedSet .safe .min .max v (v < ·) (v < ·) Iff.rfl

omit [JavaFloat F] in
theorem name_eq (threshold : String) : (Threshold.name threshold : Java F ThresholdName) =
    match Threshold.named threshold with
    | some name => .pure name
    | none => .throw (.commandException "Threshold not available") := by
  unfold Threshold.name Threshold.named
  split
  · rfl
  · split
    · rfl
    · split <;> rfl

omit [JavaFloat F] in
theorem get_eq (name : ThresholdName) :
    (Threshold.get name : Java F F) = perform (.getThreshold name) := by
  cases name <;> rfl

/-- How a command ends: it changes nothing, or sets its target as the
setter does. -/
def CommandEnds (c : ThresholdCommand F) (θ : Thresholds F) (out : Except JException Unit)
    (θ' : Thresholds F) : Prop :=
  match c.target with
  | none => θ' = θ
  | some (name, v) => ThresholdSet θ name v out θ'

/-- **One command** ends as `CommandEnds` says. -/
theorem safe_thresholdCall (c : ThresholdCommand F) :
    (under t f).Safe (Threshold.call c.threshold c.value)
      (fun out s' => CommandEnds c s.world.thresholds out s'.world.thresholds) s := by
  obtain ⟨threshold, value⟩ := c
  cases threshold with
  | none =>
    unfold Threshold.call
    dsimp only
    rw [Contract.safe_bind]
    refine safe_getThreshold .max fun s₁ h₁ => ?_
    dsimp only
    rw [Contract.safe_bind]
    refine safe_getThreshold .min fun s₂ h₂ => ?_
    dsimp only
    rw [Contract.safe_bind]
    refine safe_getThreshold .safe fun s₃ h₃ => ?_
    exact congrArg _ ((h₁.trans h₂).trans h₃).world
  | some threshold =>
    cases hname : Threshold.named threshold with
    | none =>
      cases value with
      | none =>
        simp only [Threshold.call, name_eq, hname, Prog.throw_bind, Contract.safe_throw,
          CommandEnds, ThresholdCommand.target, Option.bind_some]
      | some v =>
        simp only [Threshold.call, name_eq, hname, Prog.throw_bind, Contract.safe_throw,
          CommandEnds, ThresholdCommand.target, Option.bind_some]
    | some name =>
      cases value with
      | none =>
        simp only [Threshold.call, name_eq, hname, Prog.pure_bind, CommandEnds,
          ThresholdCommand.target, Option.bind_some, get_eq]
        rw [Contract.safe_bind]
        refine safe_getThreshold name fun s₁ h₁ => ?_
        exact congrArg _ h₁.world
      | some v =>
        simp only [Threshold.call, name_eq, hname, Prog.pure_bind, CommandEnds,
          ThresholdCommand.target, Option.bind_some]
        exact safe_set name v

theorem thresholdCommand_ends (c : ThresholdCommand F) (s : State F) :
    CommandEnds c s.world.thresholds (thresholdCommand c s).1
      (thresholdCommand c s).2.world.thresholds :=
  run_of_safe (safe_thresholdCall c)

end Commands

/-! ## §2 Values -/

section Values

variable {α : Type} [LinearOrder α] [Zero α] [Add α] [Sub α] [NatCast α]
  {θ : Thresholds (Ieee α)} {name : ThresholdName}

/-- Every setter admits a NaN. -/
theorem admits_nan (θ : Thresholds (Ieee α)) (name : ThresholdName) : θ.Admits name .nan := by
  cases name <;> simp [Thresholds.Admits]

omit [Zero α] [Add α] [Sub α] [NatCast α] in
/-- Ordered thresholds are numbers. -/
theorem Thresholds.Ordered.get_ne_nan (h : θ.Ordered) (name : ThresholdName) :
    θ.get name ≠ .nan := by
  obtain ⟨hmin, hmax⟩ := h
  intro hnan
  cases name with
  | max =>
    rw [show θ.max = .nan from hnan] at hmax
    exact Ieee.nan_le _ hmax
  | min =>
    rw [show θ.min = .nan from hnan] at hmin
    exact Ieee.nan_le _ hmin
  | safe =>
    rw [show θ.safe = .nan from hnan] at hmax
    exact Ieee.le_nan _ hmax

/-- An admitted number keeps the order. -/
theorem Thresholds.Ordered.set_num (h : θ.Ordered) {a : α} (hadm : θ.Admits name (.num a)) :
    (θ.set name (.num a)).Ordered := by
  obtain ⟨max, min, safe⟩ := θ
  obtain ⟨hmin, hmax⟩ := h
  cases max with
  | nan => exact absurd hmax (Ieee.nan_le safe)
  | num max =>
    cases min with
    | nan => exact absurd hmin (Ieee.nan_le _)
    | num min =>
      cases safe with
      | nan => exact absurd hmax (Ieee.le_nan _)
      | num safe =>
        simp only [Ieee.num_le_num] at hmin hmax
        cases name with
        | max =>
          simp only [Thresholds.Admits, Ieee.num_lt_num, not_lt] at hadm
          exact ⟨hadm.2, hadm.1⟩
        | min =>
          simp only [Thresholds.Admits, Ieee.num_lt_num, not_lt] at hadm
          exact ⟨hadm.1, hmax⟩
        | safe =>
          simp only [Thresholds.Admits, Ieee.num_lt_num, not_lt] at hadm
          exact ⟨hmin, hadm.2⟩

/-! ## §3 Sequences -/

/-- The thresholds are ordered after the command, and as they were if it
is rejected. -/
def KeepsOrder (c : ThresholdCommand (Ieee α)) (s : State (Ieee α)) : Prop :=
  (thresholdCommand c s).2.world.thresholds.Ordered ∧
    ∀ ex, (thresholdCommand c s).1 = .error ex →
      (thresholdCommand c s).2.world.thresholds = s.world.thresholds

/-- The command sets no threshold to NaN. -/
def SetsNumber (c : ThresholdCommand (Ieee α)) : Prop :=
  ∀ name v, c.target = some (name, v) → v ≠ .nan

/-- A command that starts from ordered thresholds keeps the order exactly
if it sets no NaN. -/
theorem keepsOrder_iff (c : ThresholdCommand (Ieee α)) {s : State (Ieee α)}
    (h : s.world.thresholds.Ordered) : KeepsOrder c s ↔ SetsNumber c := by
  have hends := thresholdCommand_ends c s
  unfold KeepsOrder SetsNumber
  generalize thresholdCommand c s = r at hends ⊢
  obtain ⟨out, s'⟩ := r
  dsimp only at hends ⊢
  unfold CommandEnds at hends
  cases htarget : c.target with
  | none =>
    rw [htarget] at hends
    rw [show s'.world.thresholds = s.world.thresholds from hends]
    constructor
    · intro _ name v heq
      cases heq
    · exact fun _ => ⟨h, fun _ _ => rfl⟩
  | some target =>
    obtain ⟨name, v⟩ := target
    rw [htarget] at hends
    dsimp only at hends
    generalize s'.world.thresholds = θ' at hends ⊢
    constructor
    · rintro ⟨hordered, -⟩ name' v' heq rfl
      cases heq
      cases hends with
      | rejected wrong => exact wrong (admits_nan _ _)
      | accepted => exact hordered.get_ne_nan name (by simp)
    · intro hnum
      cases v with
      | nan => exact absurd rfl (hnum name .nan rfl)
      | num a =>
        cases hends with
        | rejected => exact ⟨h, fun _ _ => rfl⟩
        | accepted admits => exact ⟨h.set_num admits, fun _ heq => by cases heq⟩

/-- **When the thresholds stay ordered.** From `min ≤ max ≤ safe`, every
command of a sequence leaves the thresholds ordered, and untouched if it
is rejected, if and only if no command sets a NaN. -/
theorem thresholds_ordered_iff (cs : List (ThresholdCommand (Ieee α))) {s : State (Ieee α)}
    (h : s.world.thresholds.Ordered) :
    Along (fun c s => (thresholdCommand c s).2) KeepsOrder cs s ↔ ∀ c ∈ cs, SetsNumber c := by
  refine Iff.trans ?_ (along_const (fun c s => (thresholdCommand c s).2) s)
  exact along_congr (I := fun s => s.world.thresholds.Ordered) (fun _ _ _ _ hkeep => hkeep.1)
    (fun c _ _ hs => keepsOrder_iff c hs) h

end Values

/-- The thresholds of `controller.properties`, nothing registered. -/
def fresh : State (Ieee ℚ) :=
  ⟨⟨.ascii, .empty, [], [], fun _ => none, ⟨.num 52, .num 48, .num 60⟩, .MANUAL, 0⟩, []⟩

theorem fresh_ordered : fresh.world.thresholds.Ordered :=
  ⟨show (48 : ℚ) ≤ 52 by decide, show (52 : ℚ) ≤ 60 by decide⟩

/-- `threshold max NaN`. -/
def maxNaN : ThresholdCommand (Ieee ℚ) := ⟨some "max", some .nan⟩

/-- Two commands that set numbers, the second rejected. -/
theorem thresholds_ordered_iff_fresh :
    Along (fun c s => (thresholdCommand c s).2) KeepsOrder
      [⟨some "max", some (.num 55)⟩, ⟨some "min", some (.num 70)⟩] fresh := by
  refine (thresholds_ordered_iff _ fresh_ordered).mpr fun c hc name v htarget => ?_
  simp only [List.mem_cons, List.not_mem_nil, or_false] at hc
  rcases hc with rfl | rfl <;> cases htarget <;> simp

/-- `threshold max NaN` is accepted and breaks the order. -/
theorem nan_breaks_order :
    fresh.world.thresholds.Ordered ∧ (thresholdCommand maxNaN fresh).1 = .ok () ∧
      ¬(thresholdCommand maxNaN fresh).2.world.thresholds.Ordered := by
  refine ⟨fresh_ordered, rfl, fun h => ?_⟩
  exact h.get_ne_nan .max rfl

end DamMonitoring.Controller
