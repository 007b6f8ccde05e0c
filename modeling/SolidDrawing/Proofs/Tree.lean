import Mathlib.Data.List.Basic
import SolidDrawing.Solid

/-!
# Solids as trees

Induction over a solid has one case for each kind of node, and a union has the hypothesis for each of its parts. The
readings of a union are stated over its list of parts, and `Solid.primitives` lists the boxes and cylinders that a
solid is put together from.
-/

namespace SolidDrawing

namespace Solid

variable {K : Type}

/-- Induction over a solid. -/
@[elab_as_elim, induction_eliminator]
theorem induction {motive : Solid K → Prop} (cuboid : ∀ box, motive (.cuboid box))
    (cylinder : ∀ plane center radius halfLength, motive (.cylinder plane center radius halfLength))
    (union : ∀ parts, (∀ part ∈ parts, motive part) → motive (.union parts))
    (difference : ∀ target tool, motive target → motive tool → motive (.difference target tool)) :
    ∀ s, motive s
  | .cuboid box => cuboid box
  | .cylinder plane center radius halfLength => cylinder plane center radius halfLength
  | .union parts => union parts fun part _ => induction cuboid cylinder union difference part
  | .difference target tool => difference target tool (induction cuboid cylinder union difference target)
      (induction cuboid cylinder union difference tool)

mutual

/-- The boxes and cylinders that a solid is put together from. -/
def primitives : Solid K → List (Solid K)
  | cuboid box => [cuboid box]
  | cylinder plane center radius halfLength => [cylinder plane center radius halfLength]
  | union parts => primitivesAll parts
  | difference target tool => target.primitives ++ tool.primitives

/-- The boxes and cylinders of several solids. -/
def primitivesAll : List (Solid K) → List (Solid K)
  | [] => []
  | part :: rest => part.primitives ++ primitivesAll rest

end

@[simp] theorem primitives_cuboid (box : Box K) : (cuboid box).primitives = [cuboid box] := by
  simp [primitives]

@[simp] theorem primitives_cylinder (plane : Plane) (center : Vec3 K) (radius halfLength : K) :
    (cylinder plane center radius halfLength).primitives = [cylinder plane center radius halfLength] := by
  simp [primitives]

@[simp] theorem primitives_difference (target tool : Solid K) :
    (difference target tool).primitives = target.primitives ++ tool.primitives := by
  simp [primitives]

@[simp] theorem primitives_union (parts : List (Solid K)) : (union parts).primitives = parts.flatMap primitives := by
  rw [primitives]
  induction parts with
  | nil => simp [primitivesAll]
  | cons part rest ih => simp [primitivesAll, ih]

theorem eq_of_mem_primitives {s part : Solid K} (h : part ∈ s.primitives) :
    (∃ box, part = cuboid box) ∨ ∃ plane center radius halfLength, part = cylinder plane center radius halfLength := by
  induction s with
  | cuboid box => exact .inl ⟨box, by simpa using h⟩
  | cylinder plane center radius halfLength => exact .inr ⟨plane, center, radius, halfLength, by simpa using h⟩
  | union parts ih =>
    rw [primitives_union, List.mem_flatMap] at h
    obtain ⟨other, hother, h⟩ := h
    exact ih other hother h
  | difference target tool iht ihu =>
    rw [primitives_difference, List.mem_append] at h
    exact h.elim iht ihu

variable [Scalar K]

@[simp] theorem contains_cuboid (p : Vec3 K) (box : Box K) : contains p (cuboid box) = box.contains p := by
  simp [contains]

@[simp] theorem contains_cylinder (p : Vec3 K) (plane : Plane) (center : Vec3 K) (radius halfLength : K) :
    contains p (cylinder plane center radius halfLength) = cylinderContains plane center radius halfLength p := by
  simp [contains]

@[simp] theorem contains_difference (p : Vec3 K) (target tool : Solid K) :
    contains p (difference target tool) = (target.contains p && !tool.contains p) := by
  simp [contains]

@[simp] theorem contains_union (p : Vec3 K) (parts : List (Solid K)) :
    contains p (union parts) = parts.any (contains p) := by
  rw [contains]
  induction parts with
  | nil => simp [containsAny]
  | cons part rest ih => simp [containsAny, ih]

@[simp] theorem translated_cuboid (offset : Vec3 K) (box : Box K) :
    translated offset (cuboid box) = cuboid (box.translated offset) := by
  simp [translated]

@[simp] theorem translated_cylinder (offset : Vec3 K) (plane : Plane) (center : Vec3 K) (radius halfLength : K) :
    translated offset (cylinder plane center radius halfLength) =
      cylinder plane (center + offset) radius halfLength := by
  simp [translated]

@[simp] theorem translated_difference (offset : Vec3 K) (target tool : Solid K) :
    translated offset (difference target tool) = difference (target.translated offset) (tool.translated offset) := by
  simp [translated]

@[simp] theorem translated_union (offset : Vec3 K) (parts : List (Solid K)) :
    translated offset (union parts) = union (parts.map (translated offset)) := by
  rw [translated]
  induction parts with
  | nil => simp [translatedAll]
  | cons part rest ih => simpa [translatedAll] using ih

theorem primitives_translated (offset : Vec3 K) (s : Solid K) :
    (s.translated offset).primitives = s.primitives.map (translated offset) := by
  induction s with
  | cuboid box => simp
  | cylinder plane center radius halfLength => simp
  | union parts ih =>
    rw [translated_union, primitives_union, primitives_union, List.flatMap_map, List.map_flatMap]
    exact List.flatMap_congr ih
  | difference target tool iht ihu => simp [iht, ihu]

@[simp] theorem spansAt_cuboid (x y : K) (box : Box K) : spansAt x y (cuboid box) = cuboidSpans box x y := by
  simp [spansAt]

@[simp] theorem spansAt_cylinder (x y : K) (plane : Plane) (center : Vec3 K) (radius halfLength : K) :
    spansAt x y (cylinder plane center radius halfLength) = cylinderSpans plane center radius halfLength x y := by
  simp [spansAt]

@[simp] theorem spansAt_difference (x y : K) (target tool : Solid K) :
    spansAt x y (difference target tool) = Spans.difference (target.spansAt x y) (tool.spansAt x y) := by
  rw [spansAt]
  split
  · rename_i h
    simp [h, Spans.difference]
  · rfl

@[simp] theorem spansAt_union (x y : K) (parts : List (Solid K)) :
    spansAt x y (union parts) = spansFrom x y [] parts := by
  simp [spansAt]

theorem spansFrom_cons (x y : K) (spans : Spans K) (part : Solid K) (rest : List (Solid K)) :
    spansFrom x y spans (part :: rest) = spansFrom x y (Spans.union spans (part.spansAt x y)) rest := by
  rw [spansFrom]

@[simp] theorem spansFrom_nil (x y : K) (spans : Spans K) : spansFrom x y spans [] = spans := by
  rw [spansFrom]

end Solid

end SolidDrawing
