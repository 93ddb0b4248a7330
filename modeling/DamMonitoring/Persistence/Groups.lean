/-
DamMonitoring.Persistence.Groups — one row of each group.

A query such as "the newest row of each channel" answers with one row for
each value of a key. Which row stands for a group may be left open;
`OnePer` says what is not. Two such answers have the same sum if the rows
that stand for one group agree (`OnePer.sum_eq`). If all groups but one
agree and the sums are equal, so does that one (`OnePer.eq_of_sum_eq`).
-/
import Mathlib.Algebra.BigOperators.Group.List.Basic
import Mathlib.Data.List.Nodup
import Mathlib.Data.List.Perm.Basic

namespace DamMonitoring.Persistence

variable {α κ M : Type} {g : α → κ} {l l' T U T' : List α}

/-- `T` has one element of `l` for each key of `l`. -/
structure OnePer (g : α → κ) (l T : List α) : Prop where
  subset : ∀ a ∈ T, a ∈ l
  nodup : (T.map g).Nodup
  covers : ∀ a ∈ l, g a ∈ T.map g

namespace OnePer

theorem of_perm (h : OnePer g l T) (hT : T.Perm U) : OnePer g l U where
  subset a ha := h.subset a (hT.mem_iff.mpr ha)
  nodup := (hT.map g).nodup_iff.mp h.nodup
  covers a ha := (hT.map g).mem_iff.mp (h.covers a ha)

/-- Only what occurs in the list matters, not where. -/
theorem congr (h : OnePer g l T) (hl : ∀ a, a ∈ l ↔ a ∈ l') : OnePer g l' T where
  subset a ha := (hl a).mp (h.subset a ha)
  nodup := h.nodup
  covers a ha := h.covers a ((hl a).mpr ha)

theorem eq_of_key (h : OnePer g l T) {a b : α} (ha : a ∈ T) (hb : b ∈ T) (hkey : g a = g b) :
    a = b :=
  List.inj_on_of_nodup_map h.nodup ha hb hkey

/-- The same without one group. -/
theorem tail [DecidableEq κ] {x : α} (h : OnePer g l (x :: U)) :
    OnePer g (l.filter fun a => g a ≠ g x) U := by
  obtain ⟨hnot, hnodup⟩ := List.nodup_cons.mp h.nodup
  refine ⟨fun a ha => ?_, hnodup, fun a ha => ?_⟩
  · have hne : g a ≠ g x := fun hkey => hnot (hkey ▸ List.mem_map_of_mem ha)
    exact List.mem_filter.mpr ⟨h.subset a (List.mem_cons_of_mem _ ha), by simpa using hne⟩
  · obtain ⟨hal, hne⟩ := List.mem_filter.mp ha
    rcases List.mem_cons.mp (h.covers a hal) with hkey | hrest
    · exact absurd hkey (by simpa using hne)
    · exact hrest

/-- The value that stands for each key. -/
theorem exists_value [Zero M] (h : OnePer g l T) (v : α → M) :
    ∃ f : κ → M, ∀ a ∈ T, v a = f (g a) := by
  classical
  refine ⟨fun k => ((T.find? fun a => g a = k).map v).getD 0, fun a ha => ?_⟩
  dsimp only
  cases hfind : T.find? fun b => g b = g a with
  | none =>
    have := List.find?_eq_none.mp hfind a ha
    simp at this
  | some b =>
    have hkey : g b = g a := by simpa using List.find?_some hfind
    rw [h.eq_of_key (List.mem_of_find?_eq_some hfind) ha hkey]
    rfl

/-- **Equal representatives, equal sums.** -/
theorem sum_eq [AddCommMonoid M] (h : OnePer g l T) (h' : OnePer g l T') (v : α → M)
    (hv : ∀ a ∈ T, ∀ b ∈ T', g a = g b → v a = v b) : (T.map v).sum = (T'.map v).sum := by
  obtain ⟨f, hf⟩ := h.exists_value v
  have hf' : ∀ b ∈ T', v b = f (g b) := by
    intro b hb
    obtain ⟨a, ha, hkey⟩ := List.mem_map.mp (h.covers b (h'.subset b hb))
    rw [← hv a ha b hb hkey, hf a ha, hkey]
  have hkeys : (T.map g).Perm (T'.map g) := by
    refine (List.perm_ext_iff_of_nodup h.nodup h'.nodup).mpr fun k => ⟨fun hk => ?_, fun hk => ?_⟩
    · obtain ⟨a, ha, rfl⟩ := List.mem_map.mp hk
      exact h'.covers a (h.subset a ha)
    · obtain ⟨b, hb, rfl⟩ := List.mem_map.mp hk
      exact h.covers b (h'.subset b hb)
  calc (T.map v).sum = ((T.map g).map f).sum := by
        rw [List.map_map, List.map_congr_left hf]
        rfl
    _ = ((T'.map g).map f).sum := (hkeys.map f).sum_eq
    _ = (T'.map v).sum := by
        rw [List.map_map, List.map_congr_left hf']
        rfl

/-- **Equal sums, equal representatives** of the one group in doubt. -/
theorem eq_of_sum_eq [DecidableEq κ] [AddCommGroup M] (h : OnePer g l T) (h' : OnePer g l T')
    (v : α → M) {x y : α} (hx : x ∈ T) (hy : y ∈ T') (hkey : g x = g y)
    (hv : ∀ a ∈ T, ∀ b ∈ T', g a = g b → g a ≠ g x → v a = v b)
    (hsum : (T.map v).sum = (T'.map v).sum) : v x = v y := by
  obtain ⟨T₁, T₂, rfl⟩ := List.append_of_mem hx
  obtain ⟨T'₁, T'₂, rfl⟩ := List.append_of_mem hy
  have hfront : (T₁ ++ x :: T₂).Perm (x :: (T₁ ++ T₂)) := List.perm_middle
  have hfront' : (T'₁ ++ y :: T'₂).Perm (y :: (T'₁ ++ T'₂)) := List.perm_middle
  have hrest := (h.of_perm hfront).tail
  have hrest' := (h'.of_perm hfront').tail
  rw [← hkey] at hrest'
  have hrests : ((T₁ ++ T₂).map v).sum = ((T'₁ ++ T'₂).map v).sum := by
    refine hrest.sum_eq hrest' v fun a ha b hb hab => ?_
    have hne : g a ≠ g x := by simpa using (List.mem_filter.mp (hrest.subset a ha)).2
    exact hv a (hfront.mem_iff.mpr (List.mem_cons_of_mem _ ha)) b
      (hfront'.mem_iff.mpr (List.mem_cons_of_mem _ hb)) hab hne
  rw [(hfront.map v).sum_eq, (hfront'.map v).sum_eq, List.map_cons, List.map_cons,
    List.sum_cons, List.sum_cons, hrests] at hsum
  exact add_right_cancel hsum

end OnePer

end DamMonitoring.Persistence
