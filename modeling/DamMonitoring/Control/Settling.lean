/-
DamMonitoring.Control.Settling — the middle band of the law, in a loop
with a measurement that is never exact.

The valve is to pass as much as flows in. `e` is what is missing to that
(negative: what is too much), `n` is the net inflow as measured, at most
`noise` away from it. Each round moves the valve by `trim n`, or not at
all. `Fits` says when the steps and the dead band fit together; then
every move takes at least `gain` off `|e|` (`trim_closer`), a valve that
has too little open is never closed (`never_closes`), and so there are at
most `|e 0| / gain` moves (`moves_bound`).

  §1 one step
  §2 runs
-/
import DamMonitoring.Control.BandLaw
import Mathlib.Algebra.Order.Field.Basic
import Mathlib.Data.Finset.Card
import Mathlib.Data.Finset.Range
import Mathlib.Data.Int.Cast.Lemmas
import Mathlib.Algebra.Order.Ring.Cast
import Mathlib.Tactic.Positivity

namespace DamMonitoring.Control.BandLaw

variable {K : Type} [Field K] [LinearOrder K] [IsStrictOrderedRing K] (L : BandLaw K)

/-! ## §1 One step -/

/-- The steps do not overshoot by more than the dead band forgives: the
longer ones stay within what calls for them, and the shortest one within
twice the dead band, noise deducted. -/
structure Fits (noise : K) : Prop where
  short_fits : (L.short : K) < 2 * (L.dead - noise)
  normal_fits : (L.normal : K) ≤ L.mid - noise
  long_fits : (L.long : K) ≤ L.far - noise

/-- What a move takes off the distance, at least. -/
def gain (noise : K) : K := min (L.short : K) (2 * (L.dead - noise) - L.short)

variable {L} {noise e n : K}

theorem Fits.gain_pos (h : L.Fits noise) : 0 < L.gain noise := by
  have hshort : (0 : K) < L.short := by exact_mod_cast L.short_pos
  exact lt_min hshort (sub_pos.mpr h.short_fits)

omit [IsStrictOrderedRing K] in
theorem size_neg (n : K) : L.size (-n) = L.size n := by simp [size]

theorem trim_neg (n : K) : L.trim (-n) = -L.trim n := by
  have hdead := L.dead_nonneg
  unfold trim
  rw [size_neg]
  by_cases hpos : L.dead < n
  · have hlow : ¬L.dead < -n := by linarith
    have hneg : -n < -L.dead := by linarith
    rw [if_pos hpos, if_neg hlow, if_pos hneg]
  by_cases hneg : n < -L.dead
  · have hpos' : L.dead < -n := by linarith
    rw [if_neg hpos, if_pos hneg, if_pos hpos', neg_neg]
  · have hpos' : ¬L.dead < -n := by linarith
    have hneg' : ¬-n < -L.dead := by linarith
    rw [if_neg hpos, if_neg hneg, if_neg hpos', if_neg hneg', neg_zero]

omit [IsStrictOrderedRing K] in
/-- A step upwards is called for by a measured shortage. -/
theorem trim_pos_iff : 0 < L.trim n ↔ L.dead < n := by
  have hpos := L.size_pos n
  unfold trim
  by_cases h : L.dead < n
  · rw [if_pos h]
    exact iff_of_true hpos h
  · rw [if_neg h]
    refine iff_of_false ?_ h
    split
    · omega
    · exact lt_irrefl 0

/-- A step that is longer than the short one stays within the shortage. -/
theorem Fits.size_le (h : L.Fits noise) (hnear : |n - e| ≤ noise) (hn : L.dead < n) :
    L.size n = L.short ∨ (L.size n : K) ≤ e := by
  have hle := (abs_le.mp hnear).2
  have habs : |n| = n := abs_of_nonneg (L.dead_nonneg.trans hn.le)
  have hnormal := h.normal_fits
  have hlong := h.long_fits
  unfold size
  rw [habs]
  by_cases hfar : L.far < n
  · rw [if_pos hfar]
    exact Or.inr (by linarith)
  rw [if_neg hfar]
  by_cases hmid : L.mid < n
  · rw [if_pos hmid]
    exact Or.inr (by linarith)
  · rw [if_neg hmid]
    exact Or.inl rfl

/-- A step upwards brings the valve closer, and not far beyond. -/
theorem Fits.up (h : L.Fits noise) (hnear : |n - e| ≤ noise) (hmove : 0 < L.trim n) :
    |e - L.trim n| + L.gain noise ≤ |e| ∧ -(L.dead - noise) < e - L.trim n := by
  have hn := trim_pos_iff.mp hmove
  have htrim : L.trim n = L.size n := if_pos hn
  have hshort := h.short_fits
  have hgain₁ : L.gain noise ≤ L.short := min_le_left _ _
  have hgain₂ : L.gain noise ≤ 2 * (L.dead - noise) - L.short := min_le_right _ _
  have hreal : L.dead - noise < e := by linarith [(abs_le.mp hnear).2]
  have hsize : (L.short : K) ≤ L.size n := by
    have h₂ := L.short_le_normal
    have h₃ := L.normal_le_long
    have hle : L.short ≤ L.size n := by
      unfold size
      split
      · omega
      · split <;> omega
    exact_mod_cast hle
  have hpos : (0 : K) < L.short := by exact_mod_cast L.short_pos
  rw [htrim]
  by_cases hover : (L.size n : K) ≤ e
  · -- the shortage is not used up
    rw [abs_of_nonneg (sub_nonneg.mpr hover), abs_of_nonneg (by linarith)]
    constructor <;> linarith
  · -- only the short step can use it up
    have hs : (L.size n : K) = L.short := by
      rcases h.size_le hnear hn with hs | hs
      · rw [hs]
      · exact absurd hs hover
    rw [hs] at hover ⊢
    rw [abs_of_nonpos (by linarith), abs_of_nonneg (show (0 : K) ≤ e by linarith)]
    constructor <;> linarith

/-- The same downwards. -/
theorem Fits.down (h : L.Fits noise) (hnear : |n - e| ≤ noise) (hmove : L.trim n < 0) :
    |e - L.trim n| + L.gain noise ≤ |e| ∧ e - L.trim n < L.dead - noise := by
  have hmirror : 0 < L.trim (-n) := by
    rw [trim_neg]
    omega
  have hnear' : |-n - -e| ≤ noise := by
    rw [← neg_sub', abs_neg]
    exact hnear
  obtain ⟨hcloser, hbeyond⟩ := h.up hnear' hmirror
  rw [trim_neg, Int.cast_neg, ← neg_sub'] at hcloser hbeyond
  rw [abs_neg, abs_neg] at hcloser
  exact ⟨hcloser, by linarith⟩

/-- **Every move brings the valve closer** to what flows in. -/
theorem Fits.trim_closer (h : L.Fits noise) (hnear : |n - e| ≤ noise) (hmove : L.trim n ≠ 0) :
    |e - L.trim n| + L.gain noise ≤ |e| := by
  rcases lt_or_gt_of_ne hmove with hneg | hpos
  · exact (h.down hnear hneg).1
  · exact (h.up hnear hpos).1

/-! ## §2 Runs -/

/-- The rounds of a valve in the loop. -/
structure Loop (L : BandLaw K) (noise : K) (e n : ℕ → K) : Prop where
  near : ∀ k, |n k - e k| ≤ noise
  next : ∀ k, e (k + 1) = e k ∨ e (k + 1) = e k - L.trim (n k)

/-- The rounds that move the valve, among the first `N`. -/
def moves (e : ℕ → K) (N : ℕ) : Finset ℕ := (Finset.range N).filter fun k => e (k + 1) ≠ e k

namespace Loop

variable {e n : ℕ → K} (h : L.Loop noise e n) (hfits : L.Fits noise)
include h

/-- The loop seen from the other side. -/
theorem mirror : L.Loop noise (fun k => -e k) fun k => -n k where
  near k := by
    rw [← neg_sub', abs_neg]
    exact h.near k
  next k := by
    rcases h.next k with hk | hk
    · exact Or.inl (by rw [hk])
    · exact Or.inr (by rw [hk, trim_neg, Int.cast_neg, neg_sub'])

omit [IsStrictOrderedRing K] in
/-- A round that moves the valve moves it by its step. -/
theorem moved {k : ℕ} (hk : e (k + 1) ≠ e k) :
    e (k + 1) = e k - L.trim (n k) ∧ L.trim (n k) ≠ 0 := by
  rcases h.next k with hstay | hmove
  · exact absurd hstay hk
  · refine ⟨hmove, fun hzero => hk ?_⟩
    rw [hmove, hzero, Int.cast_zero, sub_zero]

include hfits

theorem closer {k : ℕ} (hk : e (k + 1) ≠ e k) : |e (k + 1)| + L.gain noise ≤ |e k| := by
  obtain ⟨hmove, htrim⟩ := h.moved hk
  rw [hmove]
  exact hfits.trim_closer (h.near k) htrim

/-- **A valve that has too little open is never closed.** The invariant is
that at most the overshoot of one short step is too much. -/
theorem never_closes (h0 : 0 ≤ e 0) :
    ∀ k, -(L.dead - noise) < e k ∧ e (k + 1) ≤ e k := by
  have hslack : 0 < L.dead - noise := by
    have hshort : (0 : K) < L.short := by exact_mod_cast L.short_pos
    linarith [hfits.short_fits]
  -- within the invariant no step downwards is called for
  have hup : ∀ k, -(L.dead - noise) < e k → 0 ≤ L.trim (n k) := by
    intro k hk
    by_contra hneg
    have hmirror : 0 < L.trim (-n k) := by
      rw [trim_neg]
      omega
    have hdead := trim_pos_iff.mp hmirror
    linarith [(abs_le.mp (h.near k)).1]
  have hstep : ∀ k, -(L.dead - noise) < e k → e (k + 1) ≤ e k := by
    intro k hk
    have htrim : (0 : K) ≤ L.trim (n k) := by exact_mod_cast hup k hk
    rcases h.next k with hstay | hmove
    · exact hstay.le
    · linarith
  have hinv : ∀ k, -(L.dead - noise) < e k := by
    intro k
    induction k with
    | zero => linarith
    | succ k ih =>
      by_cases hk : e (k + 1) = e k
      · rw [hk]
        exact ih
      · obtain ⟨hmove, htrim⟩ := h.moved hk
        have hpos : 0 < L.trim (n k) := lt_of_le_of_ne (hup k ih) (Ne.symm htrim)
        rw [hmove]
        exact (hfits.up (h.near k) hpos).2
  exact fun k => ⟨hinv k, hstep k (hinv k)⟩

/-- All moves go the same way. -/
theorem one_way : (∀ k, e (k + 1) ≤ e k) ∨ ∀ k, e k ≤ e (k + 1) := by
  rcases le_total 0 (e 0) with h0 | h0
  · exact Or.inl fun k => (h.never_closes hfits h0 k).2
  · refine Or.inr fun k => ?_
    have hmirror := (h.mirror.never_closes hfits (neg_nonneg.mpr h0) k).2
    exact neg_le_neg_iff.mp hmirror

/-- **The moves are paid for by the distance they cover.** -/
theorem moves_bound (N : ℕ) : ((moves e N).card : K) * L.gain noise + |e N| ≤ |e 0| := by
  induction N with
  | zero => simp [moves]
  | succ N ih =>
    unfold moves at ih ⊢
    rw [Finset.range_add_one, Finset.filter_insert]
    by_cases hN : e (N + 1) = e N
    · rw [if_neg (not_not.mpr hN), hN]
      exact ih
    · have hcard : N ∉ (Finset.range N).filter fun k => e (k + 1) ≠ e k := by simp
      rw [if_pos hN, Finset.card_insert_of_notMem hcard]
      have hcloser := h.closer hfits hN
      push_cast
      linarith

end Loop

end DamMonitoring.Control.BandLaw
