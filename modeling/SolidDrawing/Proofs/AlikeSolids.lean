import SolidDrawing.Proofs.BoxVolumes
import SolidDrawing.Proofs.Regions

/-!
# Solids that read alike

Two solids are alike if they have the same points, the same box around them, and the same boxes and cylinders in some
order. Then they have the same volume on every grid (`Solid.Alike.volume_congr`): the grid depends on the breakpoints
only as a set, and the length of a vertical line in a solid only on the points. What is left of a solid does not depend
on the order in which tools are taken away (`Solid.Alike.foldl_difference`), nor a sweep on the order of its circles
(`Store.alike_swept`).
-/

namespace SolidDrawing

/-! ### Boxes around boxes -/

namespace Box

theorem union_comm (a b : Box ℝ) : a.union b = b.union a := by
  simp [union, Vec3.lower, Vec3.upper, min_comm, max_comm]

theorem union_assoc (a b c : Box ℝ) : (a.union b).union c = a.union (b.union c) := by
  simp [union, Vec3.lower, Vec3.upper, min_assoc, max_assoc]

theorem union_right_comm (a b c : Box ℝ) : (a.union b).union c = (a.union c).union b := by
  rw [union_assoc, union_comm b c, ← union_assoc]

end Box

namespace Solid

/-- Both have the same points, the same bounds, and the same boxes and cylinders. -/
structure Alike (s t : Solid ℝ) : Prop where
  contains_eq : ∀ p, s.contains p = t.contains p
  bounds_eq : s.bounds = t.bounds
  primitives_perm : s.primitives.Perm t.primitives

namespace Alike

variable {s t : Solid ℝ}

theorem refl (s : Solid ℝ) : s.Alike s := ⟨fun _ => rfl, rfl, .refl _⟩

theorem symm (h : s.Alike t) : t.Alike s :=
  ⟨fun p => (h.contains_eq p).symm, h.bounds_eq.symm, h.primitives_perm.symm⟩

theorem trans {u : Solid ℝ} (h : s.Alike t) (h' : t.Alike u) : s.Alike u :=
  ⟨fun p => (h.contains_eq p).trans (h'.contains_eq p), h.bounds_eq.trans h'.bounds_eq,
    h.primitives_perm.trans h'.primitives_perm⟩

/-! ### Volumes of alike solids -/

theorem mem_breaksX_iff (h : s.Alike t) (b : ℝ) : b ∈ s.breaksX ↔ b ∈ t.breaksX := by
  rw [mem_breaksX, mem_breaksX]
  simp only [h.primitives_perm.mem_iff]

theorem mem_breaksY_iff (h : s.Alike t) (b : ℝ) : b ∈ s.breaksY ↔ b ∈ t.breaksY := by
  rw [mem_breaksY, mem_breaksY]
  simp only [h.primitives_perm.mem_iff]

/-- The spans may differ, but not how long they are together. -/
theorem length_spansAt_eq (h : s.Alike t) (x y : ℝ) :
    Spans.length (s.spansAt x y) = Spans.length (t.spansAt x y) := by
  have hline : s.line x y = t.line x y := by
    ext z
    rw [mem_line, mem_line, h.contains_eq]
  have hlength : ENNReal.ofReal (Spans.length (s.spansAt x y)) = ENNReal.ofReal (Spans.length (t.spansAt x y)) := by
    rw [← volume_line, ← volume_line, hline]
  exact (ENNReal.ofReal_eq_ofReal_iff (spansAt_isNormal s x y).length_nonneg
    (spansAt_isNormal t x y).length_nonneg).1 hlength

theorem volume_congr (h : s.Alike t) (samples : Nat) : s.volume samples = t.volume samples := by
  have hintegrate (xs ys : List (Cell ℝ)) : s.integrate xs ys = t.integrate xs ys := by
    simp only [integrate_eq_sum, h.length_spansAt_eq]
  rw [volume, volume, h.bounds_eq, Cell.edges_congr h.mem_breaksX_iff, Cell.edges_congr h.mem_breaksY_iff,
    hintegrate]

end Alike

/-! ### Tools in another order -/

theorem primitives_foldl_difference (tools : List (Solid ℝ)) (s : Solid ℝ) :
    (tools.foldl difference s).primitives = s.primitives ++ tools.flatMap primitives := by
  induction tools generalizing s with
  | nil => simp
  | cons tool tools ih => rw [List.foldl_cons, ih, primitives_difference, List.flatMap_cons, List.append_assoc]

theorem bounds_foldl_difference (tools : List (Solid ℝ)) (s : Solid ℝ) :
    (tools.foldl difference s).bounds = s.bounds := by
  induction tools generalizing s with
  | nil => rfl
  | cons tool tools ih => rw [List.foldl_cons, ih, bounds_difference]

theorem Alike.foldl_difference {s t : Solid ℝ} (h : s.Alike t) {tools tools' : List (Solid ℝ)}
    (ht : tools.Perm tools') : (tools.foldl difference s).Alike (tools'.foldl difference t) where
  contains_eq p := by
    rw [Bool.eq_iff_iff, contains_foldl_difference, contains_foldl_difference, h.contains_eq]
    simp only [ht.mem_iff]
  bounds_eq := by rw [bounds_foldl_difference, bounds_foldl_difference, h.bounds_eq]
  primitives_perm := by
    rw [primitives_foldl_difference, primitives_foldl_difference]
    exact h.primitives_perm.append (ht.flatMap_right _)

/-! ### Parts in another order -/

private theorem bounds_union_perm {parts parts' : List (Solid ℝ)} (h : parts.Perm parts') :
    (union parts).bounds = (union parts').bounds := by
  have : RightCommutative fun (box : Box ℝ) (other : Solid ℝ) => box.union other.bounds :=
    ⟨fun box a b => box.union_right_comm a.bounds b.bounds⟩
  induction h with
  | nil => rfl
  | cons part h _ => rw [bounds_union_cons, bounds_union_cons, h.foldl_eq]
  | swap a b rest =>
    rw [bounds_union_cons, bounds_union_cons, List.foldl_cons, List.foldl_cons, Box.union_comm]
  | trans _ _ ih ih' => exact ih.trans ih'

theorem alike_union {parts parts' : List (Solid ℝ)} (h : parts.Perm parts') : (union parts).Alike (union parts') where
  contains_eq p := by
    rw [Bool.eq_iff_iff, contains_union, contains_union, List.any_eq_true, List.any_eq_true]
    simp only [h.mem_iff]
  bounds_eq := bounds_union_perm h
  primitives_perm := by
    rw [primitives_union, primitives_union]
    exact h.flatMap_right _

theorem alike_union_singleton (s : Solid ℝ) : s.Alike (union [s]) :=
  ⟨fun p => by simp, by simp, by simp⟩

end Solid

namespace Store

/-- A sweep can be taken for a union of cylinders, also if it has only one circle. -/
private theorem exists_alike_union (plane : Plane) (offset distance : ℝ) (direction : Direction) :
    ∃ cylinder : Circle ℝ → Solid ℝ, ∀ circles,
      (swept ⟨plane, offset, circles⟩ distance direction).Alike (.union (circles.map cylinder)) := by
  refine ⟨fun c => .cylinder plane
    (plane.toWorld c.center (offset + ((direction.span distance).1 + (direction.span distance).2) / 2)) c.radius
    (((direction.span distance).2 - (direction.span distance).1) / 2), fun circles => ?_⟩
  rw [swept]
  simp only
  split
  · exact Solid.alike_union_singleton _
  · exact .refl _

theorem alike_swept {circles circles' : List (Circle ℝ)} (h : circles.Perm circles') (plane : Plane)
    (offset distance : ℝ) (direction : Direction) : (swept ⟨plane, offset, circles⟩ distance direction).Alike
      (swept ⟨plane, offset, circles'⟩ distance direction) := by
  obtain ⟨cylinder, hc⟩ := exists_alike_union plane offset distance direction
  exact (hc circles).trans ((Solid.alike_union (h.map cylinder)).trans (hc circles').symm)

end Store

end SolidDrawing
