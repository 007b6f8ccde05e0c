import SolidDrawing.Proofs.Rays
import SolidDrawing.Solid.Volume

/-!
# Volumes as sums

The volume of a solid is a double sum over the cells of a grid (`Solid.integrate_eq_sum`). The edges of a grid are
sorted, so that no cell has a negative width, and the spans of a solid are not empty: every term of the sum is at least
zero, and so is the volume.
-/

namespace SolidDrawing

/-! ### Sums -/

private theorem foldl_add_eq_sum {α : Type} (f : α → ℝ) (as : List α) (a : ℝ) :
    as.foldl (fun total x => total + f x) a = a + (as.map f).sum := by
  induction as generalizing a with
  | nil => simp
  | cons x as ih => rw [List.foldl_cons, ih, List.map_cons, List.sum_cons, add_assoc]

namespace Spans

theorem length_eq_sum (spans : Spans ℝ) : length spans = (spans.map fun s => s.hi - s.lo).sum := by
  rw [length, foldl_add_eq_sum, Scalar.zero_real, zero_add]

theorem IsNormal.length_nonneg {spans : Spans ℝ} (h : IsNormal spans) : 0 ≤ length spans := by
  rw [length_eq_sum]
  refine List.sum_nonneg fun d hd => ?_
  obtain ⟨s, hs, rfl⟩ := List.mem_map.1 hd
  exact sub_nonneg.2 (h.1 s hs).le

end Spans

theorem Solid.integrate_eq_sum (s : Solid ℝ) (xs ys : List (Cell ℝ)) : s.integrate xs ys =
    (xs.map fun x => (ys.map fun y => Spans.length (s.spansAt x.middle y.middle) * x.width * y.width).sum).sum := by
  simp only [integrate, foldl_add_eq_sum, Scalar.zero_real, zero_add]

/-! ### Grids -/

namespace Cell

section

variable {K : Type} [Scalar K]

private theorem distinctFrom_sublist (x : K) (xs : List K) : (distinctFrom x xs).Sublist (x :: xs) := by
  induction xs generalizing x with
  | nil => exact List.Sublist.refl _
  | cons y rest ih =>
    rw [distinctFrom]
    split
    · exact (ih x).trans ((List.sublist_cons_self y rest).cons_cons x)
    · exact (ih y).cons_cons x

theorem distinct_sublist (xs : List K) : (distinct xs).Sublist xs := by
  cases xs with
  | nil => exact List.Sublist.refl _
  | cons x rest => exact distinctFrom_sublist x rest

end

theorem mergeSort_sorted (xs : List ℝ) : (xs.mergeSort Scalar.orderLe).Pairwise (· ≤ ·) := by
  have h := @List.pairwise_mergeSort ℝ Scalar.orderLe
    (fun a b c hab hbc => Scalar.orderLe_real.2 ((Scalar.orderLe_real.1 hab).trans (Scalar.orderLe_real.1 hbc)))
    (fun a b => by simpa using le_total a b) xs
  exact h.imp Scalar.orderLe_real.1

theorem edges_sorted (breaks : List ℝ) (lo hi : ℝ) (samples : Nat) :
    (edges breaks lo hi samples).Pairwise (· ≤ ·) :=
  (mergeSort_sorted _).sublist (distinct_sublist _)

theorem width_nonneg_of_mem_between {xs : List ℝ} (h : xs.Pairwise (· ≤ ·)) {c : Cell ℝ} (hc : c ∈ between xs) :
    0 ≤ c.width := by
  induction xs with
  | nil => simp [between] at hc
  | cons a rest ih =>
    cases rest with
    | nil => simp [between] at hc
    | cons b rest =>
      rw [between, List.mem_cons] at hc
      rcases hc with rfl | hc
      · exact sub_nonneg.2 (List.rel_of_pairwise_cons h List.mem_cons_self)
      · exact ih h.of_cons hc

end Cell

/-! ### Volumes -/

namespace Solid

theorem volume_nonneg (samples : Nat) (s : Solid ℝ) : 0 ≤ s.volume samples := by
  rw [volume]
  split
  · exact Scalar.zero_real.ge
  · rw [integrate_eq_sum]
    refine List.sum_nonneg fun row hrow => ?_
    obtain ⟨x, hx, rfl⟩ := List.mem_map.1 hrow
    refine List.sum_nonneg fun term hterm => ?_
    obtain ⟨y, hy, rfl⟩ := List.mem_map.1 hterm
    have hlength := (spansAt_isNormal s x.middle y.middle).length_nonneg
    have hwidth := Cell.width_nonneg_of_mem_between (Cell.edges_sorted _ _ _ _) hx
    have hdepth := Cell.width_nonneg_of_mem_between (Cell.edges_sorted _ _ _ _) hy
    positivity

end Solid

end SolidDrawing
