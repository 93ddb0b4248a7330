/-
DamMonitoring.Controller.ThresholdRaces — a cycle that reads thresholds
while the operator changes them.

A cycle reads the safe threshold twice, once for the alarms and once for
the gates, and the other two after that, with the network in between;
nothing holds the thresholds still meanwhile. Each decision alone is one
that the thresholds of SOME moment of the cycle call for
(`decisions_explained`): the tests of a branch are read at up to three
moments, but the setters let the thresholds come from one to the other
only through a moment that calls for the branch. Both decisions together
need not come from one moment: `torn_decision` opens every gate with the
alarms off.

  §1 the thresholds at each moment, read off the log
  §2 what the thresholds pass through between two readings
  §3 contracts
  §4 what a cycle decides
  §5 every interleaving
  §6 a cycle whose decisions come from two moments
-/
import DamMonitoring.Controller.Authority
import DamMonitoring.Controller.ThresholdTheorems

namespace DamMonitoring.Controller

open Program Java Motes Persistence
open ControlLogic AutomaticControlUnit

/-! ## §1 Moments -/

section Moments

variable {F : Type}

/-- The thresholds once the log has happened, from `θ₀`. -/
def thresholdsAfter (θ₀ : Thresholds F) : List (Entry F) → Thresholds F
  | [] => θ₀
  | .did _ (.setThreshold name v) _ :: log => (thresholdsAfter θ₀ log).set name v
  | _ :: log => thresholdsAfter θ₀ log

/-- From the one log to the other no cycle has started. -/
def Since (log log' : List (Entry F)) : Prop :=
  ∃ new, log' = new ++ log ∧ .started .scheduler ∉ new

theorem Since.refl (log : List (Entry F)) : Since log log := ⟨[], rfl, List.not_mem_nil⟩

theorem Since.trans {log log' log'' : List (Entry F)} (h : Since log log')
    (h' : Since log' log'') : Since log log'' := by
  obtain ⟨new, rfl, hnew⟩ := h
  obtain ⟨new', rfl, hnew'⟩ := h'
  refine ⟨new' ++ new, (List.append_assoc _ _ _).symm, ?_⟩
  rw [List.mem_append, not_or]
  exact ⟨hnew', hnew⟩

theorem Since.cons {log log' : List (Entry F)} (h : Since log log') {e : Entry F}
    (he : e ≠ .started .scheduler) : Since log (e :: log') := by
  refine h.trans ⟨[e], rfl, ?_⟩
  rw [List.mem_singleton]
  exact he.symm

theorem Since.mem {log log' : List (Entry F)} (h : Since log log') {e : Entry F} (he : e ∈ log) :
    e ∈ log' := by
  obtain ⟨new, rfl, -⟩ := h
  exact List.mem_append_right new he

/-- `θ` are the thresholds at some moment of the cycle that started last. -/
def Moment (θ₀ : Thresholds F) (log : List (Entry F)) (θ : Thresholds F) : Prop :=
  ∃ log₁, Since log₁ log ∧ .started .scheduler ∈ log₁ ∧ θ = thresholdsAfter θ₀ log₁

theorem Moment.since {θ₀ θ : Thresholds F} {log log' : List (Entry F)} (h : Moment θ₀ log θ)
    (hs : Since log log') : Moment θ₀ log' θ := by
  obtain ⟨log₁, hlog₁, hstart, rfl⟩ := h
  exact ⟨log₁, hlog₁.trans hs, hstart, rfl⟩

end Moments

section Lawful

variable {α : Type} [LinearOrder α] [Zero α] [Add α] [Sub α] [NatCast α]

/-- The setter admits the value, and it is a number. -/
def Thresholds.Takes (θ : Thresholds (Ieee α)) (name : ThresholdName) (v : Ieee α) : Prop :=
  θ.Admits name v ∧ v ≠ .nan

/-- Every value set was taken by the thresholds of its moment. -/
def Lawful (θ₀ : Thresholds (Ieee α)) : List (Entry (Ieee α)) → Prop
  | [] => True
  | .did _ (.setThreshold name v) _ :: log => (thresholdsAfter θ₀ log).Takes name v ∧ Lawful θ₀ log
  | _ :: log => Lawful θ₀ log

omit [LinearOrder α] [Zero α] [Add α] [Sub α] [NatCast α] in
def Thresholds.Numeric (θ : Thresholds (Ieee α)) : Prop := ∀ name, θ.get name ≠ .nan

variable {θ₀ : Thresholds (Ieee α)} {log : List (Entry (Ieee α))} {e : Entry (Ieee α)}

/-- What one more entry means for the thresholds. -/
theorem lawful_cons (h : Lawful θ₀ (e :: log)) : Lawful θ₀ log ∧
    (thresholdsAfter θ₀ (e :: log) = thresholdsAfter θ₀ log ∨
      ∃ name v, (thresholdsAfter θ₀ log).Takes name v ∧
        thresholdsAfter θ₀ (e :: log) = (thresholdsAfter θ₀ log).set name v) := by
  cases e with
  | started t => exact ⟨h, Or.inl rfl⟩
  | did t a answer =>
    cases a with
    | setThreshold name v => exact ⟨h.2, Or.inr ⟨name, v, h.1, rfl⟩⟩
    | _ => exact ⟨h, Or.inl rfl⟩

omit [LinearOrder α] [Zero α] [Add α] [Sub α] [NatCast α] in
theorem Thresholds.Numeric.set {θ : Thresholds (Ieee α)} (h : θ.Numeric) {name : ThresholdName}
    {v : Ieee α} (hv : v ≠ .nan) : (θ.set name v).Numeric := by
  intro name'
  have hname' := h name'
  cases name <;> cases name' <;> first | exact hv | exact hname'

theorem Lawful.numeric (hθ₀ : θ₀.Numeric) (h : Lawful θ₀ log) :
    (thresholdsAfter θ₀ log).Numeric := by
  induction log with
  | nil => exact hθ₀
  | cons e log ih =>
    obtain ⟨hlog, hsame | ⟨name, v, htakes, hset⟩⟩ := lawful_cons h
    · rw [hsame]
      exact ih hlog
    · rw [hset]
      exact (ih hlog).set htakes.2

end Lawful

/-! ## §2 Between two readings -/

section Passing

variable {α : Type} [LinearOrder α] [Zero α] [Add α] [Sub α] [NatCast α]
  {θ₀ θ : Thresholds (Ieee α)} {w : Ieee α} {log log' : List (Entry (Ieee α))}

/-- The rule for all that happens between two readings: if every setter
that finds `R` leaves `R` or establishes `Q`, then `R` lasts, or there is
a moment of `Q`. -/
theorem Since.passes {R Q : Thresholds (Ieee α) → Prop} (h : Since log log') (hθ₀ : θ₀.Numeric)
    (hlaw : Lawful θ₀ log') (hR : R (thresholdsAfter θ₀ log))
    (hset : ∀ θ name v, θ.Numeric → θ.Takes name v → R θ → R (θ.set name v) ∨ Q (θ.set name v)) :
    R (thresholdsAfter θ₀ log') ∨
      ∃ log₁, Since log log₁ ∧ Since log₁ log' ∧ Q (thresholdsAfter θ₀ log₁) := by
  obtain ⟨new, rfl, hstart⟩ := h
  induction new with
  | nil => exact Or.inl hR
  | cons e new ih =>
    rw [List.cons_append] at hlaw ⊢
    obtain ⟨hlaw', hstep⟩ := lawful_cons hlaw
    rw [List.mem_cons, not_or] at hstart
    have hlast : Since (new ++ log) (e :: (new ++ log)) := (Since.refl _).cons (Ne.symm hstart.1)
    have hnew : Since log (new ++ log) := ⟨new, rfl, hstart.2⟩
    rcases ih hstart.2 hlaw' with hR' | ⟨log₁, hlog₁, hlater, hQ⟩
    · rcases hstep with hsame | ⟨name, v, htakes, heq⟩
      · refine Or.inl ?_
        rw [hsame]
        exact hR'
      · rw [heq]
        rcases hset _ name v (hlaw'.numeric hθ₀) htakes hR' with hR' | hQ
        · exact Or.inl hR'
        · exact Or.inr ⟨e :: (new ++ log), hnew.trans hlast, .refl _, heq ▸ hQ⟩
    · exact Or.inr ⟨log₁, hlog₁, hlater.trans hlast, hQ⟩

/-- The level is in reach of the gates' branches below the safe threshold. -/
def Thresholds.Under (θ : Thresholds (Ieee α)) (w : Ieee α) : Prop := ¬θ.safe < w ∧ ¬θ.max < w

theorem branchOf_aboveSafe (hsafe : θ.safe < w) : branchOf θ w = .aboveSafe := if_pos hsafe

theorem branchOf_aboveMax (hsafe : ¬θ.safe < w) (hmax : θ.max < w) :
    branchOf θ w = .aboveMax := by
  simp [branchOf, hsafe, hmax]

theorem Thresholds.Under.branchOf_belowMin (h : θ.Under w) (hmin : w < θ.min) :
    branchOf θ w = .belowMin := by
  simp [branchOf, h.1, h.2, hmin]

theorem Thresholds.Under.branchOf_normal (h : θ.Under w) (hmin : ¬w < θ.min) :
    branchOf θ w = .normal := by
  simp [branchOf, h.1, h.2, hmin]

/-- The safe threshold comes below a level only after the maximum. -/
theorem Since.under (h : Since log log') (hθ₀ : θ₀.Numeric) (hlaw : Lawful θ₀ log')
    (hsafe : ¬(thresholdsAfter θ₀ log).safe < w) (hmax : ¬(thresholdsAfter θ₀ log').max < w) :
    (thresholdsAfter θ₀ log').Under w := by
  have hset : ∀ (θ : Thresholds (Ieee α)) name v, θ.Numeric → θ.Takes name v →
      (θ.safe < w → θ.max < w) → (θ.set name v).safe < w → (θ.set name v).max < w := by
    intro θ name v hnum htakes hR hlt
    cases name with
    | max => exact Ieee.lt_of_le_of_lt (Ieee.le_of_not_lt (hnum .safe) htakes.2 htakes.1.1) hlt
    | min => exact hR hlt
    | safe => exact Ieee.lt_of_le_of_lt (Ieee.le_of_not_lt htakes.2 (hnum .max) htakes.1.2) hlt
  rcases h.passes (R := fun θ => θ.safe < w → θ.max < w) (Q := fun _ => False) hθ₀ hlaw
    (fun hlt => absurd hlt hsafe) (fun θ name v hnum htakes hR => Or.inl (hset θ name v hnum
      htakes hR)) with hlast | ⟨_, _, _, hfalse⟩
  · exact ⟨fun hlt => hmax (hlast hlt), hmax⟩
  · exact hfalse.elim

/-- From "not above the safe threshold" to "above the maximum" the
thresholds pass through some that call for the branch between the two. -/
theorem Since.aboveMax (h : Since log log') (hθ₀ : θ₀.Numeric) (hlaw : Lawful θ₀ log')
    (hsafe : ¬(thresholdsAfter θ₀ log).safe < w) (hmax : (thresholdsAfter θ₀ log').max < w) :
    ∃ log₁, Since log log₁ ∧ Since log₁ log' ∧
      branchOf (thresholdsAfter θ₀ log₁) w = .aboveMax := by
  by_cases hfirst : (thresholdsAfter θ₀ log).max < w
  · exact ⟨log, .refl log, h, branchOf_aboveMax hsafe hfirst⟩
  refine (h.passes (R := fun θ => θ.Under w) (Q := fun θ => branchOf θ w = .aboveMax)
    hθ₀ hlaw ⟨hsafe, hfirst⟩ ?_).resolve_left fun hunder => hunder.2 hmax
  intro θ name v hnum htakes ⟨hsafe, hmax⟩
  cases name with
  | max =>
    by_cases hv : v < w
    · exact Or.inr (branchOf_aboveMax hsafe hv)
    · exact Or.inl ⟨hsafe, hv⟩
  | min => exact Or.inl ⟨hsafe, hmax⟩
  | safe =>
    have hle : θ.max ≤ v := Ieee.le_of_not_lt htakes.2 (hnum .max) htakes.1.2
    exact Or.inl ⟨fun hlt => hmax (Ieee.lt_of_le_of_lt hle hlt), hmax⟩

/-- While the level is below the minimum it stays below the others. -/
theorem Since.belowMin (h : Since log log') (hθ₀ : θ₀.Numeric) (hlaw : Lawful θ₀ log')
    (hunder : (thresholdsAfter θ₀ log).Under w) (hmin : w < (thresholdsAfter θ₀ log').min) :
    ∃ log₁, Since log log₁ ∧ Since log₁ log' ∧
      branchOf (thresholdsAfter θ₀ log₁) w = .belowMin := by
  by_cases hfirst : w < (thresholdsAfter θ₀ log).min
  · exact ⟨log, .refl log, h, hunder.branchOf_belowMin hfirst⟩
  refine (h.passes (R := fun θ => ¬w < θ.min) (Q := fun θ => branchOf θ w = .belowMin)
    hθ₀ hlaw hfirst ?_).resolve_left (not_not.mpr hmin)
  intro θ name v hnum htakes hR
  cases name with
  | max => exact Or.inl hR
  | min =>
    by_cases hv : w < v
    · have hmax : v ≤ θ.max := Ieee.le_of_not_lt (hnum .max) htakes.2 htakes.1.1
      have hsafe : v ≤ θ.safe := Ieee.le_of_not_lt (hnum .safe) htakes.2 htakes.1.2
      have hunder : (θ.set .min v).Under w :=
        ⟨Ieee.lt_asymm (Ieee.lt_of_lt_of_le hv hsafe),
          Ieee.lt_asymm (Ieee.lt_of_lt_of_le hv hmax)⟩
      exact Or.inr (hunder.branchOf_belowMin hv)
    · exact Or.inl hv
  | safe => exact Or.inl hR

/-- On the way up to the minimum the level is below the others. -/
theorem Since.normal (h : Since log log') (hθ₀ : θ₀.Numeric) (hlaw : Lawful θ₀ log')
    (hunder : (thresholdsAfter θ₀ log).Under w) (hmin : ¬w < (thresholdsAfter θ₀ log').min) :
    ∃ log₁, Since log log₁ ∧ Since log₁ log' ∧
      branchOf (thresholdsAfter θ₀ log₁) w = .normal := by
  by_cases hfirst : w < (thresholdsAfter θ₀ log).min
  · refine (h.passes (R := fun θ => θ.Under w ∧ w < θ.min)
      (Q := fun θ => branchOf θ w = .normal) hθ₀ hlaw ⟨hunder, hfirst⟩ ?_).resolve_left
      fun hbelow => hmin hbelow.2
    intro θ name v hnum htakes ⟨hunder, hbelow⟩
    have habove : θ.min ≤ v → ¬v < w := fun hle => Ieee.lt_asymm (Ieee.lt_of_lt_of_le hbelow hle)
    cases name with
    | max =>
      have hle : θ.min ≤ v := Ieee.le_of_not_lt htakes.2 (hnum .min) htakes.1.2
      exact Or.inl ⟨⟨hunder.1, habove hle⟩, hbelow⟩
    | min =>
      by_cases hv : w < v
      · exact Or.inl ⟨hunder, hv⟩
      · exact Or.inr (Thresholds.Under.branchOf_normal hunder hv)
    | safe =>
      have hle : θ.min ≤ v := Ieee.le_of_not_lt htakes.2 (hnum .min) htakes.1.1
      exact Or.inl ⟨⟨habove hle, hunder.2⟩, hbelow⟩
  · exact ⟨log, .refl log, h, hunder.branchOf_normal hfirst⟩

end Passing

/-! ## §3 Contracts -/

section Contracts

variable {α : Type} [LinearOrder α] [Zero α] [Add α] [Sub α] [NatCast α]
  {θ₀ : Thresholds (Ieee α)} {s s' : State (Ieee α)} {log : List (Entry (Ieee α))}

/-- The log accounts for the thresholds. -/
structure Replayed (θ₀ : Thresholds (Ieee α)) (s : State (Ieee α)) : Prop where
  now : s.world.thresholds = thresholdsAfter θ₀ s.log
  lawful : Lawful θ₀ s.log

/-- The same, and no cycle has started since `log`. -/
structure Held (θ₀ : Thresholds (Ieee α)) (log : List (Entry (Ieee α))) (s : State (Ieee α)) :
    Prop extends Replayed θ₀ s where
  since : Since log s.log

/-- Only `setThreshold` changes a threshold. -/
theorem perform_thresholds {F : Type} [JavaFloat F] {a : Action F}
    (ha : ∀ name v, a ≠ .setThreshold name v) (fault : Fault) (w : World F) :
    (w.perform fault a).2.thresholds = w.thresholds := by
  cases a with
  | setThreshold name v => exact absurd rfl (ha name v)
  | clientPut uri payload =>
    have hframe : ∃ devices, (w.clientPut uri payload fault).2 = { w with devices } :=
      w.clientPut_frame fault
    obtain ⟨devices, h⟩ := hframe
    change (w.clientPut uri payload fault).2.thresholds = w.thresholds
    rw [h]
  | updateValue name v => cases fault <;> rfl
  | _ => rfl

omit [LinearOrder α] [Zero α] [Add α] [Sub α] [NatCast α] in
theorem Moves.thresholds {F : Type} {w w' : World F} (h : Moves w w') :
    w'.thresholds = w.thresholds := by
  cases h with
  | measures hm =>
    obtain ⟨waterLevels, flowRates, clock, rfl⟩ := hm
    rfl
  | registers => rfl
  | reboots => rfl

/-- The log keeps account if a value that is set is taken. -/
theorem Replayed.act (h : Replayed θ₀ s) {t : Thread} {a : Action (Ieee α)}
    (ha : ∀ name v, a = .setThreshold name v → s.world.thresholds.Takes name v)
    (fault : Fault) : Replayed θ₀ (handler t fault a s).2 := by
  by_cases hset : ∃ name v, a = .setThreshold name v
  · obtain ⟨name, v, rfl⟩ := hset
    have htakes := ha name v rfl
    rw [h.now] at htakes
    exact ⟨congrArg (fun θ => θ.set name v) h.now, htakes, h.lawful⟩
  · have hne : ∀ name v, a ≠ .setThreshold name v := fun name v heq => hset ⟨name, v, heq⟩
    have hthresholds := perform_thresholds hne fault s.world
    cases a with
    | setThreshold name v => exact absurd rfl (hne name v)
    | _ => exact ⟨hthresholds.trans h.now, h.lawful⟩

theorem Replayed.start (h : Replayed θ₀ s) (t : Thread) :
    Replayed θ₀ ⟨s.world, .started t :: s.log⟩ := ⟨h.now, h.lawful⟩

/-- The scheduler sets no threshold and relies on the others to start no
cycle and to set what is taken; the shell sets what is taken, and relies
on nobody else to set anything. -/
def thresholdContract (θ₀ : Thresholds (Ieee α)) :
    Thread → Contract (Action (Ieee α)) Action.Answer Fault (State (Ieee α))
  | .scheduler =>
    { handler := handler .scheduler
      allowed := fun _ _ _ => True
      rely := fun s s' => Since s.log s'.log ∧ Replayed θ₀ s'
      guar := fun _ a _ => ∀ name v, a ≠ .setThreshold name v }
  | .shell =>
    { handler := handler .shell
      allowed := fun _ _ _ => True
      rely := fun s s' => s'.world.thresholds = s.world.thresholds
      guar := fun _ a s => ∀ name v, a = .setThreshold name v → s.world.thresholds.Takes name v }

open Contract

/-- An action of a cycle keeps what is held. -/
theorem Held.act (h : Held θ₀ log s) {a : Action (Ieee α)}
    (ha : ∀ name v, a ≠ .setThreshold name v) (fault : Fault) :
    Held θ₀ log (handler .scheduler fault a s).2 where
  toReplayed := h.toReplayed.act (fun name v heq => absurd heq (ha name v)) fault
  since := h.since.cons (by simp)

theorem Held.rely (h : Held θ₀ log s) (hrely : (thresholdContract θ₀ .scheduler).rely s s') :
    Held θ₀ log s' := ⟨hrely.2, h.since.trans hrely.1⟩

theorem held_act {a : Action (Ieee α)} (ha : ∀ name v, a ≠ .setThreshold name v) :
    (thresholdContract θ₀ .scheduler).Keeps (ε := JException) (Held θ₀ log) (perform a) := by
  intro s hs s' hrely fault _
  exact ⟨ha, (hs.rely hrely).act ha fault⟩

omit [LinearOrder α] [Zero α] [Add α] [Sub α] [NatCast α] in
theorem silent_ne_setThreshold {a : Action (Ieee α)} (ha : a.isSilent = true)
    (name : ThresholdName) (v : Ieee α) : a ≠ .setThreshold name v := by
  rintro rfl
  cases ha

theorem held_silent : Silent (thresholdContract θ₀ .scheduler) (Held θ₀ log) := by
  intro _ ha
  exact held_act (silent_ne_setThreshold ha)

theorem held_updateGate (name : String) (next : Int → Option Int) :
    (thresholdContract θ₀ .scheduler).Keeps (Held θ₀ log)
      (ControlLogic.updateGate name next : Java (Ieee α) Unit) :=
  keeps_updateGate held_silent name next (fun _ _ => held_act (by simp)) fun _ => held_act (by simp)

theorem held_setAlarmStatus (status : Bool) :
    (thresholdContract θ₀ .scheduler).Keeps (Held θ₀ log)
      (ControlLogic.setAlarmStatus status : Java (Ieee α) Unit) :=
  keeps_setAlarmStatus held_silent status fun alarm =>
    keeps_updateAlarm held_silent status alarm (fun _ => held_act (by simp)) (held_act (by simp))

/-- A reading is of the thresholds of its moment. -/
theorem safe_reading {β : Type} (name : ThresholdName) {k : Ieee α → Java (Ieee α) β}
    {Q : Except JException β → State (Ieee α) → Prop}
    (h : ∀ s', Held θ₀ s.log s' →
      (thresholdContract θ₀ .scheduler).Safe (k ((thresholdsAfter θ₀ s'.log).get name)) Q s') :
    (thresholdContract θ₀ .scheduler).Safe (perform (.getThreshold name) >>= k) Q s := by
  intro s' hrely fault _
  have hheld : Held θ₀ s.log s' := ⟨hrely.2, hrely.1⟩
  refine ⟨by simp [thresholdContract], ?_⟩
  have hnext := h _ (hheld.act (a := .getThreshold name) (by simp) fault)
  have hvalue : (thresholdsAfter θ₀ s'.log).get name = s'.world.thresholds.get name := by
    rw [hrely.2.now]
  change (thresholdContract θ₀ .scheduler).Safe (k (s'.world.thresholds.get name)) Q _
  rw [← hvalue]
  exact hnext

/-! ## §4 What a cycle decides -/

/-- The branch that is read is one that some moment calls for. -/
theorem held_readBranch (hθ₀ : θ₀.Numeric) (w : Ieee α) (h : Held θ₀ log s) :
    (thresholdContract θ₀ .scheduler).Safe (readBranch w : Java (Ieee α) Branch)
      (fun out s' => ∃ b, out = .ok b ∧ Held θ₀ log s' ∧
        ∃ log₁, Since s.log log₁ ∧ Since log₁ s'.log ∧
          branchOf (thresholdsAfter θ₀ log₁) w = b) s := by
  unfold readBranch
  refine safe_reading .safe fun s₁ h₁ => ?_
  split
  · next hsafe =>
    exact ⟨_, rfl, ⟨h₁.toReplayed, h.since.trans h₁.since⟩, s₁.log, h₁.since, .refl _,
      branchOf_aboveSafe hsafe⟩
  next hsafe =>
  refine safe_reading .max fun s₂ h₂ => ?_
  have hfrom₂ : Held θ₀ log s₂ := ⟨h₂.toReplayed, h.since.trans (h₁.since.trans h₂.since)⟩
  split
  · next hmax =>
    obtain ⟨log₁, hfrom, hto, hbranch⟩ := h₂.since.aboveMax hθ₀ h₂.lawful hsafe hmax
    exact ⟨_, rfl, hfrom₂, log₁, h₁.since.trans hfrom, hto, hbranch⟩
  next hmax =>
  have hunder := h₂.since.under hθ₀ h₂.lawful hsafe hmax
  refine safe_reading .min fun s₃ h₃ => ?_
  have hfrom₃ : Held θ₀ log s₃ := ⟨h₃.toReplayed, hfrom₂.since.trans h₃.since⟩
  have hbefore : Since s.log s₂.log := h₁.since.trans h₂.since
  split
  · next hmin =>
    obtain ⟨log₁, hfrom, hto, hbranch⟩ := h₃.since.belowMin hθ₀ h₃.lawful hunder hmin
    exact ⟨_, rfl, hfrom₃, log₁, hbefore.trans hfrom, hto, hbranch⟩
  · next hmin =>
    obtain ⟨log₁, hfrom, hto, hbranch⟩ := h₃.since.normal hθ₀ h₃.lawful hunder hmin
    exact ⟨_, rfl, hfrom₃, log₁, hbefore.trans hfrom, hto, hbranch⟩

/-- Each decision is one that the thresholds of some moment of the cycle
call for. -/
structure Explained (θ₀ : Thresholds (Ieee α)) (log : List (Entry (Ieee α)))
    (d : Decision (Ieee α)) : Prop where
  alarms : ∃ θ, Moment θ₀ log θ ∧ d.status = decide (θ.safe < d.level)
  gates : ∀ b, d.branch = some b → ∃ θ, Moment θ₀ log θ ∧ branchOf θ d.level = b

theorem Explained.since {d : Decision (Ieee α)} {log' : List (Entry (Ieee α))}
    (h : Explained θ₀ log d) (hs : Since log log') : Explained θ₀ log' d where
  alarms := by
    obtain ⟨θ, hθ, hstatus⟩ := h.alarms
    exact ⟨θ, hθ.since hs, hstatus⟩
  gates b hb := by
    obtain ⟨θ, hθ, hbranch⟩ := h.gates b hb
    exact ⟨θ, hθ.since hs, hbranch⟩

/-- The gates' part adds a branch of its own. -/
theorem held_decidingGates (hθ₀ : θ₀.Numeric) (w i o : Ieee α) {status : Bool}
    (hstart : .started .scheduler ∈ s.log) (hrep : Replayed θ₀ s)
    (hstatus : Explained θ₀ s.log ⟨w, status, none⟩) :
    (thresholdContract θ₀ .scheduler).Safe (decidingGates w i o ⟨w, status, none⟩)
      (fun out s' => ∀ d, out = .ok d → Explained θ₀ s'.log d) s := by
  unfold decidingGates
  rw [safe_bind]
  have hgates : (thresholdContract θ₀ .scheduler).Keeps (Held θ₀ s.log)
      (DataManager.gateResources : Java (Ieee α) (List Resource)) :=
    keeps_query held_silent rfl _ fun answer => keeps_session answer
  refine (hgates.attempt s ⟨hrep, .refl _⟩).mono fun out s₁ h₁ => ?_
  match out with
  | .error ex => simp
  | .ok none =>
    rintro d ⟨⟩
    exact hstatus.since h₁.since
  | .ok (some onlineGates) =>
    change (thresholdContract θ₀ .scheduler).Safe (readBranch w >>= _) _ s₁
    rw [safe_bind]
    refine (held_readBranch hθ₀ w h₁).mono fun out s₂ h₂ => ?_
    obtain ⟨b, rfl, hs₂, log₁, hfrom, hto, hbranch⟩ := h₂
    change (thresholdContract θ₀ .scheduler).Safe
      ((branchLoop i o onlineGates b).attempt >>= _) _ s₂
    rw [safe_bind]
    refine ((keeps_branchLoop i o onlineGates b fun name next _ =>
      held_updateGate name next).attempt s₂ ⟨hs₂.toReplayed, .refl _⟩).mono fun out s₃ h₃ => ?_
    match out with
    | .error ex => simp
    | .ok _ =>
      rintro d ⟨⟩
      have hmoment : Moment θ₀ s₃.log (thresholdsAfter θ₀ log₁) :=
        ⟨log₁, hto.trans h₃.since, (h₁.since.trans hfrom).mem hstart, rfl⟩
      refine ⟨((hstatus.since hs₂.since).since h₃.since).alarms, ?_⟩
      rintro b' ⟨⟩
      exact ⟨_, hmoment, hbranch⟩

/-- All that a cycle decides is explained. -/
theorem held_decidingActuate (hθ₀ : θ₀.Numeric) (w i o : Ieee α)
    (hstart : .started .scheduler ∈ s.log) :
    (thresholdContract θ₀ .scheduler).Safe (decidingActuate w i o)
      (fun out s' => ∀ d, out = .ok d → Explained θ₀ s'.log d) s := by
  unfold decidingActuate
  refine safe_reading .safe fun s₁ h₁ => ?_
  dsimp only
  generalize hstatus : decide ((thresholdsAfter θ₀ s₁.log).get .safe < w) = status
  have hexplained : Explained θ₀ s₁.log ⟨w, status, none⟩ :=
    ⟨⟨_, ⟨s₁.log, .refl _, h₁.since.mem hstart, rfl⟩, hstatus.symm⟩, by simp⟩
  change (thresholdContract θ₀ .scheduler).Safe
    ((ControlLogic.setAlarmStatus status).attempt >>= _) _ s₁
  rw [safe_bind]
  refine ((held_setAlarmStatus status).attempt s₁ ⟨h₁.toReplayed, .refl _⟩).mono
    fun out s₂ h₂ => ?_
  match out with
  | .error ex => simp
  | .ok none =>
    rintro d ⟨⟩
    exact hexplained.since h₂.since
  | .ok (some ()) =>
    intro s' hrely fault _
    refine ⟨by simp [thresholdContract], ?_⟩
    have h₃ := (h₂.rely hrely).act (a := .getMode) (by simp) fault
    have hexplained₃ := hexplained.since h₃.since
    change (thresholdContract θ₀ .scheduler).Safe
      (if s'.world.mode = .MANUAL then Prog.pure ⟨w, status, none⟩
        else decidingGates w i o ⟨w, status, none⟩) _ _
    split
    · rintro d ⟨⟩
      exact hexplained₃
    · exact held_decidingGates hθ₀ w i o ((h₁.since.trans h₃.since).mem hstart) h₃.toReplayed
        hexplained₃

/-- Where a cycle ends its decisions are explained. -/
def ExplainedEnd (θ₀ : Thresholds (Ieee α)) :
    Thread → Except JException (Option (Decision (Ieee α))) → State (Ieee α) → Prop
  | .scheduler, out, s => ∀ d, out = .ok (some d) → Explained θ₀ s.log d
  | .shell, _, _ => True

theorem held_decidingRun (hθ₀ : θ₀.Numeric) (maxStale : Int)
    (hstart : .started .scheduler ∈ s.log) (h : Replayed θ₀ s) :
    (thresholdContract θ₀ .scheduler).Safe (decidingRun maxStale)
      (ExplainedEnd θ₀ .scheduler) s := by
  unfold decidingRun
  rw [safe_bind]
  refine ((keeps_inputs held_silent maxStale).attempt s ⟨h, .refl _⟩).mono fun out s₁ h₁ => ?_
  match out with
  | .error ex => simp [ExplainedEnd]
  | .ok none => simp [ExplainedEnd]
  | .ok (some none) => simp [ExplainedEnd]
  | .ok (some (some (w, i, o))) =>
    change (thresholdContract θ₀ .scheduler).Safe (decidingActuate w i o >>= _) _ s₁
    rw [safe_bind]
    refine (held_decidingActuate hθ₀ w i o (h₁.since.mem hstart)).mono fun out s₂ h₂ => ?_
    cases out with
    | error ex => simp [ExplainedEnd]
    | ok d =>
      rintro d' ⟨⟩
      exact h₂ d rfl

/-! ## §5 Every interleaving -/

/-- The commands of an operator who sets no threshold to NaN. -/
inductive NumericCommand : Java (Ieee α) Unit → Prop where
  | gate (list : Bool) (gateName : Option String) (openingLevel : Option Int) :
      NumericCommand (Gate.call list gateName openingLevel)
  | mode (mode : Option String) : NumericCommand (Mode.call mode)
  | threshold (threshold : Option String) (value : Option α) :
      NumericCommand (Threshold.call threshold (value.map .num))

/-- The Controller, its cycles telling what they decide; every fault and
every move of the environment is admitted. -/
def decidingSystem (maxStale : Int) : System Thread (Action (Ieee α)) Action.Answer Fault
    (State (Ieee α)) JException (Option (Decision (Ieee α))) where
  handler := handler
  allowed _ _ _ := True
  starts
    | .scheduler, p => p = decidingRun maxStale
    | .shell, p => ∃ c, NumericCommand c ∧ p = c >>= fun _ => .pure none
  onStart t s := { s with log := .started t :: s.log }
  env s s' := Moves s.world s'.world ∧ s'.log = s.log

/-- Every run of the Controller under such commands is a run of
`decidingSystem`. -/
theorem decidingSystem_tells (maxStale : Int) :
    System.Tells
      { system (F := Ieee α) maxStale (fun _ _ => True) Moves with
        starts := fun
          | .scheduler, p => p = AutomaticControlUnit.run maxStale
          | .shell, p => NumericCommand p }
      (decidingSystem maxStale) fun _ => () where
  handler := rfl
  allowed := rfl
  onStart := rfl
  env := rfl
  starts t p hp := by
    cases t with
    | scheduler =>
      obtain rfl := hp
      exact ⟨_, rfl, (decidingRun_erased maxStale).symm⟩
    | shell =>
      refine ⟨_, ⟨p, hp, rfl⟩, ?_⟩
      rw [Prog.bind_assoc]
      exact (Prog.bind_pure p).symm

theorem takes_silent : Silent (thresholdContract θ₀ .shell) fun _ => True := by
  intro a ha _ _ _ _ _ _
  exact ⟨fun name v heq => absurd heq (silent_ne_setThreshold ha name v), trivial⟩

theorem takes_act {a : Action (Ieee α)} (ha : ∀ name v, a ≠ .setThreshold name v) :
    (thresholdContract θ₀ .shell).Keeps (ε := JException) (fun _ => True) (perform a) := by
  intro _ _ _ _ _ _
  exact ⟨fun name v heq => absurd heq (ha name v), trivial⟩

/-- What two tests have admitted is still admitted at the write: nobody
else sets a threshold. -/
theorem takes_guardedSet (name first second : ThresholdName) {v : Ieee α} (hv : v ≠ .nan)
    (wrong₁ wrong₂ : Ieee α → Prop) [DecidablePred wrong₁] [DecidablePred wrong₂]
    (hadmits : ∀ θ : Thresholds (Ieee α), θ.Admits name v ↔
      ¬wrong₁ (θ.get first) ∧ ¬wrong₂ (θ.get second)) :
    (thresholdContract θ₀ .shell).Keeps (fun _ => True) (do
        if wrong₁ (← perform (.getThreshold first)) then throw ControlLogic.inconsistent
        else
          if wrong₂ (← perform (.getThreshold second)) then throw ControlLogic.inconsistent
          else perform (.setThreshold name v) : Java (Ieee α) Unit) := by
  intro s _ s₁ _ fault _
  refine ⟨by rintro _ _ ⟨⟩, ?_⟩
  change (thresholdContract θ₀ .shell).Safe (if wrong₁ (s₁.world.thresholds.get first) then _
    else _) _ ⟨s₁.world, _⟩
  split
  · trivial
  next hw₁ =>
  intro s₂ h₂ fault _
  refine ⟨by rintro _ _ ⟨⟩, ?_⟩
  change (thresholdContract θ₀ .shell).Safe (if wrong₂ (s₂.world.thresholds.get second) then _
    else _) _ ⟨s₂.world, _⟩
  split
  · trivial
  next hw₂ =>
  intro s₃ h₃ fault _
  refine ⟨?_, trivial⟩
  rintro name' v' ⟨⟩
  have hsame₂ : s₂.world.thresholds = s₁.world.thresholds := h₂
  have hsame₃ : s₃.world.thresholds = s₂.world.thresholds := h₃
  rw [← hsame₂] at hw₁
  rw [hsame₃]
  exact ⟨(hadmits _).mpr ⟨hw₁, hw₂⟩, hv⟩

theorem takes_set (name : ThresholdName) {v : Ieee α} (hv : v ≠ .nan) :
    (thresholdContract θ₀ .shell).Keeps (fun _ => True)
      (Threshold.set name v : Java (Ieee α) Unit) := by
  cases name with
  | max => exact takes_guardedSet .max .safe .min hv (· < v) (v < ·) fun _ => Iff.rfl
  | min => exact takes_guardedSet .min .max .safe hv (· < v) (· < v) fun _ => Iff.rfl
  | safe => exact takes_guardedSet .safe .min .max hv (v < ·) (v < ·) fun _ => Iff.rfl

theorem takes_command {c : Java (Ieee α) Unit} (hc : NumericCommand c) :
    (thresholdContract θ₀ .shell).Keeps (fun _ => True) c := by
  cases hc with
  | gate list gateName openingLevel =>
    refine keeps_gateCall takes_silent list gateName openingLevel fun name L => ?_
    refine keeps_query takes_silent rfl _ fun mode => ?_
    split
    · exact keeps_throw _
    · exact keeps_updateGate takes_silent name _ (fun _ _ => takes_act (by simp))
        fun _ => takes_act (by simp)
  | mode mode => exact keeps_modeCall takes_silent mode fun _ => takes_act (by simp)
  | threshold threshold value =>
    have hread : ∀ name, (thresholdContract θ₀ .shell).Keeps (ε := JException) (fun _ => True)
        (perform (.getThreshold name)) := fun name => takes_silent _ rfl
    cases threshold with
    | none =>
      exact (hread .max).bind fun _ => (hread .min).bind fun _ => (hread .safe).bind fun _ =>
        keeps_pure ()
    | some threshold =>
      cases hname : Threshold.named threshold with
      | none =>
        cases value with
        | none =>
          simp only [Threshold.call, name_eq, hname, Option.map_none, Prog.throw_bind]
          exact keeps_throw _
        | some v =>
          simp only [Threshold.call, name_eq, hname, Option.map_some, Prog.throw_bind]
          exact keeps_throw _
      | some name =>
        cases value with
        | none =>
          simp only [Threshold.call, name_eq, hname, get_eq, Option.map_none, Prog.pure_bind]
          exact (hread name).bind fun _ => keeps_pure ()
        | some v =>
          simp only [Threshold.call, name_eq, hname, Option.map_some, Prog.pure_bind]
          exact takes_set name (by simp)

/-- The two contracts fit together. -/
theorem threshold_sound (hθ₀ : θ₀.Numeric) (maxStale : Int) :
    (decidingSystem maxStale).SoundWith (Replayed θ₀) (fun _ _ => True) (ExplainedEnd θ₀)
      (thresholdContract θ₀) where
  handler t := by cases t <;> rfl
  allowed t := by cases t <;> rfl
  refl t s hs := by
    cases t with
    | scheduler => exact ⟨.refl _, hs⟩
    | shell => exact rfl
  trans t a b c hab hbc := by
    cases t with
    | scheduler => exact ⟨hab.1.trans hbc.1, hbc.2⟩
    | shell => exact Eq.trans hbc hab
  idle_stable _ _ _ _ h := h
  post_stable t out s s' hrely h := by
    cases t with
    | scheduler => exact fun d hd => (h d hd).since hrely.1
    | shell => trivial
  post_idle _ _ _ _ := trivial
  act_inv t fault a s _ hs hguar := by
    cases t with
    | scheduler => exact hs.act (fun name v heq => absurd heq (hguar name v)) fault
    | shell => exact hs.act hguar fault
  act_rely t u fault a s hne _ hs hguar := by
    rcases Thread.cases_of_ne hne with ⟨rfl, rfl⟩ | ⟨rfl, rfl⟩
    · exact perform_thresholds hguar fault s.world
    · exact ⟨(Since.refl _).cons (by simp), hs.act hguar fault⟩
  start_inv t s hs := hs.start t
  start_rely t u s hne hs := by
    rcases Thread.cases_of_ne hne with ⟨rfl, rfl⟩ | ⟨rfl, rfl⟩
    · exact rfl
    · exact ⟨(Since.refl _).cons (by simp), hs.start .shell⟩
  start_safe t p s hp hs _ := by
    cases t with
    | scheduler =>
      obtain rfl := hp
      exact held_decidingRun hθ₀ maxStale List.mem_cons_self (hs.start .scheduler)
    | shell =>
      obtain ⟨c, hc, rfl⟩ := hp
      exact ((takes_command hc).bind fun _ => keeps_pure none) _ trivial
  env_inv s s' hmove hs := by
    obtain ⟨hworld, hlog⟩ := hmove
    refine ⟨?_, hlog ▸ hs.lawful⟩
    rw [hworld.thresholds, hs.now, hlog]
  env_rely u s s' hmove hs := by
    obtain ⟨hworld, hlog⟩ := hmove
    cases u with
    | scheduler =>
      refine ⟨hlog ▸ .refl _, ?_, hlog ▸ hs.lawful⟩
      rw [hworld.thresholds, hs.now, hlog]
    | shell => exact hworld.thresholds

/-- One moment explains both decisions if and only if they agree on
whether the level is above the safe threshold. -/
theorem Explained.together_iff {d : Decision (Ieee α)} {b : Branch} (h : Explained θ₀ log d)
    (hb : d.branch = some b) :
    (∃ θ, Moment θ₀ log θ ∧ d.status = decide (θ.safe < d.level) ∧ branchOf θ d.level = b) ↔
      (d.status = true ↔ b = .aboveSafe) := by
  have hbranch : ∀ θ : Thresholds (Ieee α), branchOf θ d.level = b →
      (b = .aboveSafe ↔ θ.safe < d.level) := by
    rintro θ rfl
    unfold branchOf
    split
    · next hsafe => simp [hsafe]
    · next hsafe => split <;> [skip; split] <;> simp [hsafe]
  constructor
  · intro h'
    obtain ⟨θ, -, hstatus, hθ⟩ := h'
    rw [hstatus, decide_eq_true_iff, hbranch θ hθ]
  · intro hiff
    obtain ⟨θ, hmoment, hθ⟩ := h.gates b hb
    refine ⟨θ, hmoment, ?_, hθ⟩
    rw [Bool.eq_iff_iff, hiff, hbranch θ hθ, decide_eq_true_iff]

/-- **Every decision is explained.** Whatever the operator, the faults and
the environment do between the actions of a cycle: when it has ended, the
state it wanted of the alarms is the one that the thresholds of some moment
of the cycle call for, and so is the branch; one moment calls for both
exactly if the cycle opens every gate just when it turns the alarms on,
and this it does if the safe threshold does not change during the cycle. -/
theorem decisions_explained (maxStale : Int) {w₀ : World (Ieee α)} (hθ₀ : w₀.thresholds.Numeric)
    {P : Pool Thread (Action (Ieee α)) Action.Answer (State (Ieee α)) JException
      (Option (Decision (Ieee α)))}
    (hP : (decidingSystem maxStale).Reachable ⟨w₀, []⟩ P) {d : Decision (Ieee α)}
    (hend : P.threads .scheduler = some (.pure (some d))) :
    (∃ θ, Moment w₀.thresholds P.shared.log θ ∧ d.status = decide (θ.safe < d.level)) ∧
      ∀ b, d.branch = some b →
        (∃ θ, Moment w₀.thresholds P.shared.log θ ∧ branchOf θ d.level = b) ∧
        ((∃ θ, Moment w₀.thresholds P.shared.log θ ∧ d.status = decide (θ.safe < d.level) ∧
          branchOf θ d.level = b) ↔ (d.status = true ↔ b = .aboveSafe)) ∧
        ((∀ θ θ', Moment w₀.thresholds P.shared.log θ → Moment w₀.thresholds P.shared.log θ' →
          θ.safe = θ'.safe) → (d.status = true ↔ b = .aboveSafe)) := by
  have hrep : Replayed w₀.thresholds ⟨w₀, []⟩ := ⟨rfl, trivial⟩
  have hexplained : Explained w₀.thresholds P.shared.log d :=
    (threshold_sound hθ₀ maxStale).ended hrep (fun _ => trivial) hP hend d rfl
  refine ⟨hexplained.alarms, fun b hb => ⟨hexplained.gates b hb, hexplained.together_iff hb, ?_⟩⟩
  intro hconst
  obtain ⟨θ, hmoment, hstatus⟩ := hexplained.alarms
  obtain ⟨θ', hmoment', hbranch⟩ := hexplained.gates b hb
  refine (hexplained.together_iff hb).mp ⟨θ', hmoment', ?_, hbranch⟩
  rw [hstatus, hconst θ θ' hmoment hmoment']

end Contracts

/-! ## §6 A torn decision -/

/-- High water on a dam with one gate, closed. -/
def tornWorld : World (Ieee ℚ) where
  collation := .ascii
  resources := oneGate 0
  waterLevels := [⟨1, 0, .num 70⟩]
  flowRates := [⟨1, "inflow", 0, .num 30⟩, ⟨2, "outflow-1", 0, .num 20⟩]
  devices := demoDevices 0 0 false
  thresholds := ⟨.num 52, .num 48, .num 80⟩
  mode := .AUTO
  clock := 0

theorem tornWorld_numeric : tornWorld.thresholds.Numeric := by
  intro name
  cases name <;> simp [tornWorld, Thresholds.get]

abbrev DecidingSchedule : Type :=
  List (System.Choice Thread (Action (Ieee ℚ)) Action.Answer Fault JException
    (Option (Decision (Ieee ℚ))))

/-- A cycle; after its first reading the operator gives `threshold safe
60`. -/
def tornSchedule : DecidingSchedule :=
  .start .scheduler (decidingRun 5) :: (List.replicate 5 (.act .scheduler .none) ++
    .start .shell (Threshold.call (some "safe") (some (.num 60)) >>= fun _ => .pure none) ::
      (List.replicate 3 (.act .shell .none) ++ List.replicate 9 (.act .scheduler .none)))

/-- The alarms are to be off, and every gate is opened. -/
def tornDecision : Decision (Ieee ℚ) := ⟨.num 70, false, some .aboveSafe⟩

theorem admits_torn : ∀ c ∈ tornSchedule, (decidingSystem 5).ChoiceOk c := by
  have hact : ∀ t n c, c ∈ (List.replicate n (.act t .none) : DecidingSchedule) →
      (decidingSystem 5).ChoiceOk c := by
    intro t n c hc
    rw [(List.mem_replicate.mp hc).2]
    exact fun _ _ => trivial
  intro c hc
  simp only [tornSchedule, List.mem_cons, List.mem_append] at hc
  rcases hc with rfl | hc | rfl | hc | hc
  · exact rfl
  · exact hact _ _ c hc
  · exact ⟨_, .threshold (some "safe") (some 60), rfl⟩
  · exact hact _ _ c hc
  · exact hact _ _ c hc

theorem torn_run : ∃ P, (decidingSystem 5).Reachable ⟨tornWorld, []⟩ P ∧
    P.threads .scheduler = some (.pure (some tornDecision)) := by
  obtain ⟨P, hrun, hend⟩ : ∃ P, (decidingSystem 5).runSchedule tornSchedule
      ⟨⟨tornWorld, []⟩, fun _ => none⟩ = some P ∧
      P.threads .scheduler = some (.pure (some tornDecision)) := ⟨_, rfl, rfl⟩
  exact ⟨P, System.reachable_runSchedule .refl admits_torn hrun, hend⟩

/-- Each of the two decisions has its moment. -/
theorem decisions_explained_torn : ∃ P, (decidingSystem 5).Reachable ⟨tornWorld, []⟩ P ∧
    (∃ θ, Moment tornWorld.thresholds P.shared.log θ ∧ ¬θ.safe < .num 70) ∧
    ∃ θ, Moment tornWorld.thresholds P.shared.log θ ∧ branchOf θ (.num 70) = .aboveSafe := by
  obtain ⟨P, hP, hend⟩ := torn_run
  obtain ⟨⟨θ, hmoment, hstatus⟩, hgates⟩ := decisions_explained 5 tornWorld_numeric hP hend
  refine ⟨P, hP, ⟨θ, hmoment, ?_⟩, (hgates .aboveSafe rfl).1⟩
  exact of_decide_eq_false hstatus.symm

/-- Between the cycle's two readings of the safe threshold the operator
lowers it from 80 to 60, with the level at 70: every gate is opened and
the alarms are off, and no moment calls for both. The schedule is one
without faults: every query, exchange and publication succeeds. -/
theorem torn_decision : ∃ P d, (decidingSystem 5).Reachable ⟨tornWorld, []⟩ P ∧
    P.threads .scheduler = some (.pure (some d)) ∧ d.status = false ∧
    d.branch = some .aboveSafe ∧
    ¬∃ θ, Moment tornWorld.thresholds P.shared.log θ ∧ d.status = decide (θ.safe < d.level) ∧
      branchOf θ d.level = .aboveSafe := by
  obtain ⟨P, hP, hend⟩ := torn_run
  refine ⟨P, tornDecision, hP, hend, rfl, rfl, ?_⟩
  have hexplained : Explained tornWorld.thresholds P.shared.log tornDecision :=
    (threshold_sound tornWorld_numeric 5).ended (s := ⟨tornWorld, []⟩) ⟨rfl, trivial⟩
      (fun _ => trivial) hP hend _ rfl
  rw [hexplained.together_iff rfl]
  simp [tornDecision]

end DamMonitoring.Controller
