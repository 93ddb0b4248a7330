/-
DamMonitoring.Control.BandLaw — a stepwise control law over four bands.

A reservoir has a level and a net inflow; a valve has an opening between
`bottom` and `top`. Above `alarm` the valve is opened fully. Below, the
opening moves by a step that depends on the band of the level and, in the
middle band, on how far the net inflow is from zero. A reserve valve is
closed as soon as the alarm is over.

The law is stated over any linearly ordered commutative group, and the
well-formedness of its parameters is part of the structure. The main
result is `opening_mono`: MORE LEVEL OR MORE NET INFLOW NEVER CLOSES A
VALVE FURTHER, across all bands. `climb` and `descend` are about a level
that stays in an outer band: however large the single steps are, the
valve goes all the way.

  §1 the law
  §2 bounds
  §3 monotonicity
  §4 the outer bands
-/
import Mathlib.Algebra.Order.Group.Abs
import Mathlib.Algebra.Order.Group.Int
import Mathlib.Tactic.Linarith

namespace DamMonitoring.Control

/-- The parameters of the law. -/
structure BandLaw (K : Type) [AddCommGroup K] [LinearOrder K] where
  low : K
  high : K
  alarm : K
  low_le_high : low ≤ high
  high_le_alarm : high ≤ alarm
  dead : K
  mid : K
  far : K
  dead_nonneg : 0 ≤ dead
  mid_le_far : mid ≤ far
  short : Int
  normal : Int
  long : Int
  short_pos : 0 < short
  short_le_normal : short ≤ normal
  normal_le_long : normal ≤ long
  bottom : Int
  top : Int
  bottom_le_top : bottom ≤ top

namespace BandLaw

variable {K : Type} [AddCommGroup K] [LinearOrder K] (L : BandLaw K)

/-! ## §1 The law -/

/-- The size of a step in the middle band. -/
def size (x : K) : Int := if L.far < |x| then L.long else if L.mid < |x| then L.normal else L.short

/-- The step in the middle band: with the net inflow, and none at all
while that is small. -/
def trim (n : K) : Int :=
  if L.dead < n then L.size n else if n < -L.dead then -L.size n else 0

/-- The step at level `w` and net inflow `n`. -/
def move (w n : K) : Int :=
  if L.high < w then if 0 < n then L.long else L.normal
  else if w < L.low then -(if n < 0 then L.long else L.normal)
  else L.trim n

/-- Keep a value between `bottom` and `top`. -/
def clamp (x : Int) : Int := max L.bottom (min L.top x)

/-- The opening that follows `c`. -/
def opening (w n : K) (reserve : Bool) (c : Int) : Int :=
  if L.alarm < w then L.top else if reserve then L.bottom else L.clamp (c + L.move w n)

/-! ## §2 Bounds -/

theorem clamp_mono {x y : Int} (h : x ≤ y) : L.clamp x ≤ L.clamp y :=
  max_le_max le_rfl (min_le_min le_rfl h)

theorem clamp_le_top (x : Int) : L.clamp x ≤ L.top :=
  max_le L.bottom_le_top (min_le_left _ _)

/-- A value within the bounds is kept. -/
theorem clamp_of_mem {x : Int} (hb : L.bottom ≤ x) (ht : x ≤ L.top) : L.clamp x = x := by
  unfold clamp
  rw [min_eq_right ht, max_eq_right hb]

theorem size_pos (x : K) : 0 < L.size x := by
  have h₁ := L.short_pos
  have h₂ := L.short_le_normal
  have h₃ := L.normal_le_long
  unfold size
  split
  · omega
  · split <;> omega

theorem size_le_long (x : K) : L.size x ≤ L.long := by
  have h₂ := L.short_le_normal
  have h₃ := L.normal_le_long
  unfold size
  split
  · exact le_rfl
  · split <;> omega

/-! ## §3 Monotonicity -/

/-- The farther from zero, the larger the step. -/
theorem size_mono {x y : K} (h : |x| ≤ |y|) : L.size x ≤ L.size y := by
  have h₂ := L.short_le_normal
  have h₃ := L.normal_le_long
  unfold size
  by_cases hfar : L.far < |x|
  · rw [if_pos hfar, if_pos (hfar.trans_le h)]
  rw [if_neg hfar]
  by_cases hmid : L.mid < |x|
  · have hy : L.mid < |y| := hmid.trans_le h
    rw [if_pos hmid, if_pos hy]
    split <;> omega
  · rw [if_neg hmid]
    split
    · omega
    · split <;> omega

variable [IsOrderedAddMonoid K]

theorem trim_mono {n n' : K} (h : n ≤ n') : L.trim n ≤ L.trim n' := by
  have hdead := L.dead_nonneg
  have hn := L.size_pos n
  have hn' := L.size_pos n'
  unfold trim
  by_cases hpos : L.dead < n
  · -- both are inflows, and the second is the larger
    have hpos' : L.dead < n' := hpos.trans_le h
    rw [if_pos hpos, if_pos hpos']
    refine L.size_mono ?_
    rw [abs_of_nonneg (hdead.trans hpos.le), abs_of_nonneg (hdead.trans hpos'.le)]
    exact h
  rw [if_neg hpos]
  by_cases hlow : n < -L.dead
  · rw [if_pos hlow]
    by_cases hpos' : L.dead < n'
    · rw [if_pos hpos']
      omega
    rw [if_neg hpos']
    by_cases hlow' : n' < -L.dead
    · -- both are outflows, and the second is the smaller
      rw [if_pos hlow']
      have hle : n ≤ 0 := hlow.le.trans (neg_nonpos.mpr hdead)
      have hle' : n' ≤ 0 := hlow'.le.trans (neg_nonpos.mpr hdead)
      have habs : |n'| ≤ |n| := by
        rw [abs_of_nonpos hle, abs_of_nonpos hle']
        exact neg_le_neg h
      have hsize := L.size_mono habs
      omega
    · rw [if_neg hlow']
      omega
  · rw [if_neg hlow]
    by_cases hpos' : L.dead < n'
    · rw [if_pos hpos']
      exact hn'.le
    · have hlow' : ¬ n' < -L.dead := fun hlt => hlow (h.trans_lt hlt)
      rw [if_neg hpos', if_neg hlow']

/-- A step in the middle band is no longer than `long`, and never goes
against the net inflow. -/
theorem trim_bounds (n : K) :
    -L.long ≤ L.trim n ∧ L.trim n ≤ L.long ∧ (n ≤ 0 → L.trim n ≤ 0) ∧ (0 ≤ n → 0 ≤ L.trim n) := by
  have hpos := L.size_pos n
  have hlong := L.size_le_long n
  have hdead := L.dead_nonneg
  unfold trim
  by_cases h : L.dead < n
  · rw [if_pos h]
    refine ⟨by omega, hlong, fun hn => ?_, fun _ => hpos.le⟩
    exact absurd (hn.trans hdead) (not_le.mpr h)
  rw [if_neg h]
  by_cases h' : n < -L.dead
  · rw [if_pos h']
    refine ⟨by omega, by omega, fun _ => by omega, fun hn => ?_⟩
    exact absurd (h'.trans_le (neg_nonpos.mpr hdead)) (not_lt.mpr hn)
  · rw [if_neg h']
    exact ⟨by omega, by omega, fun _ => le_rfl, fun _ => le_rfl⟩

/-- **The step is monotone** in the level and the net inflow together. -/
theorem move_mono {w w' n n' : K} (hw : w ≤ w') (hn : n ≤ n') : L.move w n ≤ L.move w' n' := by
  have h₁ := L.short_pos
  have h₂ := L.short_le_normal
  have h₃ := L.normal_le_long
  have hlow := L.low_le_high
  obtain ⟨hlo, hhi, hneg, hpos⟩ := L.trim_bounds n
  obtain ⟨hlo', hhi', hneg', hpos'⟩ := L.trim_bounds n'
  unfold move
  by_cases hhigh : L.high < w
  · -- above `high` on both sides
    rw [if_pos hhigh, if_pos (hhigh.trans_le hw)]
    by_cases h0 : 0 < n
    · rw [if_pos h0, if_pos (h0.trans_le hn)]
    · rw [if_neg h0]
      split <;> omega
  rw [if_neg hhigh]
  by_cases hhigh' : L.high < w'
  · -- from a lower band into the upper one
    rw [if_pos hhigh']
    by_cases hl : w < L.low
    · rw [if_pos hl]
      split <;> split <;> omega
    · rw [if_neg hl]
      by_cases h0 : 0 < n'
      · rw [if_pos h0]
        exact hhi
      · rw [if_neg h0]
        have hle := hneg (hn.trans (not_lt.mp h0))
        omega
  rw [if_neg hhigh']
  by_cases hl : w < L.low
  · rw [if_pos hl]
    by_cases hl' : w' < L.low
    · -- below `low` on both sides
      rw [if_pos hl']
      by_cases h0 : n < 0
      · rw [if_pos h0]
        split <;> omega
      · have h0' : ¬ n' < 0 := fun hlt => h0 (hn.trans_lt hlt)
        rw [if_neg h0, if_neg h0']
    · rw [if_neg hl']
      by_cases h0 : n < 0
      · rw [if_pos h0]
        exact hlo'
      · rw [if_neg h0]
        have hge := hpos' ((not_lt.mp h0).trans hn)
        omega
  · have hl' : ¬ w' < L.low := fun hlt => hl (hw.trans_lt hlt)
    rw [if_neg hl, if_neg hl']
    exact L.trim_mono hn

/-- **The law is monotone**: a higher level and a larger net inflow give
a wider opening, from the same opening and for both kinds of valves. -/
theorem opening_mono {w w' n n' : K} (hw : w ≤ w') (hn : n ≤ n') (reserve : Bool) (c : Int) :
    L.opening w n reserve c ≤ L.opening w' n' reserve c := by
  unfold opening
  by_cases ha : L.alarm < w
  · rw [if_pos ha, if_pos (ha.trans_le hw)]
  rw [if_neg ha]
  by_cases ha' : L.alarm < w'
  · rw [if_pos ha']
    split
    · exact L.bottom_le_top
    · exact L.clamp_le_top _
  · rw [if_neg ha']
    split
    · exact le_rfl
    · have hmove := L.move_mono hw hn
      exact L.clamp_mono (by omega)

/-! ## §4 The outer bands -/

omit [IsOrderedAddMonoid K]

variable {L} {w : K} {c : Int}

/-- A reserve valve is closed while there is no alarm. -/
theorem opening_reserve (h : w ≤ L.alarm) (n : K) (c : Int) : L.opening w n true c = L.bottom := by
  rw [opening, if_neg (not_lt.mpr h), if_pos rfl]

/-- Above `high` a valve is opened by a normal step at least and a long one
at most, as far as it goes. -/
theorem opening_above (hhigh : L.high < w) (halarm : w ≤ L.alarm) (n : K) (hc : L.bottom ≤ c) :
    min L.top (c + L.normal) ≤ L.opening w n false c ∧
      L.opening w n false c ≤ min L.top (c + L.long) := by
  have h₁ := L.short_pos
  have h₂ := L.short_le_normal
  have h₃ := L.normal_le_long
  have htop := L.bottom_le_top
  have hmove : L.normal ≤ L.move w n ∧ L.move w n ≤ L.long := by
    rw [move, if_pos hhigh]
    split <;> omega
  simp only [opening, if_neg (not_lt.mpr halarm), clamp, Bool.false_eq_true, if_false]
  omega

/-- Below `low` it is closed likewise. -/
theorem opening_below (hlow : w < L.low) (n : K) (hc : c ≤ L.top) :
    max L.bottom (c - L.long) ≤ L.opening w n false c ∧
      L.opening w n false c ≤ max L.bottom (c - L.normal) := by
  have h₁ := L.short_pos
  have h₂ := L.short_le_normal
  have h₃ := L.normal_le_long
  have htop := L.bottom_le_top
  have hhigh : ¬L.high < w := not_lt.mpr (hlow.le.trans L.low_le_high)
  have halarm : ¬L.alarm < w :=
    not_lt.mpr (hlow.le.trans (L.low_le_high.trans L.high_le_alarm))
  have hmove : -L.long ≤ L.move w n ∧ L.move w n ≤ -L.normal := by
    rw [move, if_neg hhigh, if_pos hlow]
    split <;> omega
  simp only [opening, if_neg halarm, clamp, Bool.false_eq_true, if_false]
  omega

/-- **All the way up**: steps between `a` and `b` that stop at `t` only. -/
theorem climb {x : ℕ → Int} {t a b : Int} (ha : 0 ≤ a) (h0 : x 0 ≤ t) {N : ℕ}
    (h : ∀ k < N, min t (x k + a) ≤ x (k + 1) ∧ x (k + 1) ≤ min t (x k + b)) :
    (∀ k < N, x k ≤ x (k + 1)) ∧ x N ≤ t ∧ min t (x 0 + N * a) ≤ x N ∧ x N ≤ x 0 + N * b := by
  induction N with
  | zero => simp [h0]
  | succ N ih =>
    obtain ⟨hmono, htop, hlo, hhi⟩ := ih fun k hk => h k (by omega)
    obtain ⟨hstep, hstep'⟩ := h N (by omega)
    have ha' : ((N + 1 : ℕ) : Int) * a = N * a + a := by
      rw [Nat.cast_succ, add_mul, one_mul]
    have hb' : ((N + 1 : ℕ) : Int) * b = N * b + b := by
      rw [Nat.cast_succ, add_mul, one_mul]
    rw [ha', hb']
    refine ⟨fun k hk => ?_, by omega, by omega, by omega⟩
    rcases Nat.lt_succ_iff_lt_or_eq.mp hk with hk | rfl
    · exact hmono k hk
    · omega

/-- The same downwards. -/
theorem descend {x : ℕ → Int} {t a b : Int} (ha : 0 ≤ a) (h0 : t ≤ x 0) {N : ℕ}
    (h : ∀ k < N, max t (x k - b) ≤ x (k + 1) ∧ x (k + 1) ≤ max t (x k - a)) :
    (∀ k < N, x (k + 1) ≤ x k) ∧ t ≤ x N ∧ x 0 - N * b ≤ x N ∧ x N ≤ max t (x 0 - N * a) := by
  have hmirror := climb (x := fun k => -x k) (t := -t) (b := b) ha (by omega) (N := N) fun k hk => by
    obtain ⟨hlo, hhi⟩ := h k hk
    omega
  obtain ⟨hmono, htop, hlo, hhi⟩ := hmirror
  refine ⟨fun k hk => ?_, by omega, by omega, by omega⟩
  have hk' := hmono k hk
  omega

end BandLaw

end DamMonitoring.Control
