import Mathlib.Data.Nat.Find
import SolidDrawing.Proofs.Roles

/-!
# Which descriptions have a plan

`Plan.Verdict` lists the rules by which a description is judged: no operations, the first operation that is refused,
and then the table of base styles. Every description has exactly one verdict and `Plan.ofSpec` finds it; the operations
of a plan are those of its description, each once (`Plan.ofSpec_eq_iff_verdict`).
-/

namespace SolidDrawing

open Operation

variable {K : Type}

/-! ### The rules -/

/-- There are operations, and none of them is refused. -/
def SolidSpec.IsSound [Scalar K] (spec : SolidSpec K) : Prop :=
  spec.operations ≠ [] ∧ ∀ i, ¬ Refused spec.operations i

namespace Plan

/-- How a description is judged. -/
inductive Verdict [Scalar K] (spec : SolidSpec K) : Except (PlanError K) (Plan K) → Prop
  | empty (h : spec.operations = []) : Verdict spec (.error (.invalidSpec spec.id .emptyOperations))
  | secondExtrude {i : Nat} (first : IsLeast {j | Refused spec.operations j} i)
      (h : Repeats spec.operations i .extrude) : Verdict spec (.error (.invalidSpec spec.id .duplicateExtrude))
  | secondBaseBox {i : Nat} (first : IsLeast {j | Refused spec.operations j} i)
      (h : Repeats spec.operations i .baseBox) : Verdict spec (.error (.invalidSpec spec.id .duplicateBaseBox))
  | outOfRange {i : Nat} {op : Operation K} {fault : ParameterFault K}
      (first : IsLeast {j | Refused spec.operations j} i) (once : ∀ kind, ¬ Repeats spec.operations i kind)
      (here : spec.operations[i]? = some op) (h : op.fault? = some fault) :
      Verdict spec (.error (.invalidParameter spec.id i op.kind fault))
  | mixed {b : BaseBox K} (sound : spec.IsSound) (box : baseBox b ∈ spec.operations)
      (sketch : (∃ e, extrude e ∈ spec.operations) ∨ ∃ c, sketchCircle c ∈ spec.operations) :
      Verdict spec (.error (.invalidSpec spec.id .mixedBaseStyle))
  | noBase (sound : spec.IsSound) (noBox : ∀ b, baseBox b ∉ spec.operations)
      (noExtrude : ∀ e, extrude e ∉ spec.operations) : Verdict spec (.error (.invalidSpec spec.id .noBaseStyle))
  | noFilled {e : Extrude K} (sound : spec.IsSound) (noBox : ∀ b, baseBox b ∉ spec.operations)
      (swept : extrude e ∈ spec.operations) (holes : ∀ c, sketchCircle c ∈ spec.operations → c.isHole = true) :
      Verdict spec (.error (.noPositiveGeometry spec.id))
  | box {b : BaseBox K} (sound : spec.IsSound) (box : baseBox b ∈ spec.operations)
      (noExtrude : ∀ e, extrude e ∉ spec.operations) (noCircle : ∀ c, sketchCircle c ∉ spec.operations) :
      Verdict spec (.ok ⟨spec.id, .box b, spec.operations.filterMap cutBox?, spec.operations.filterMap throughHole?⟩)
  | sketch {e : Extrude K} (sound : spec.IsSound) (noBox : ∀ b, baseBox b ∉ spec.operations)
      (swept : extrude e ∈ spec.operations) (filled : ∃ c, sketchCircle c ∈ spec.operations ∧ c.isHole = false) :
      Verdict spec (.ok ⟨spec.id,
        .sketch ((spec.operations.filterMap circle?).filter fun c => !c.isHole)
          ((spec.operations.filterMap circle?).filter fun c => c.isHole) e.length,
        spec.operations.filterMap cutBox?, spec.operations.filterMap throughHole?⟩)

end Plan

/-- The operations that a base was made from. -/
def Base.operations : Base K → List (Operation K)
  | .box b => [.baseBox b]
  | .sketch profile holes length => (profile ++ holes).map .sketchCircle ++ [.extrude ⟨length⟩]

/-- The operations that a plan was made from, by role. -/
def Plan.operations (p : Plan K) : List (Operation K) :=
  p.base.operations ++ p.cutBoxes.map .cutBox ++ p.throughHoles.map .throughHole

/-! ### The verdict that is found -/

variable [Scalar K] {spec : SolidSpec K}

theorem SolidSpec.IsSound.not_repeats (h : spec.IsSound) (i : Nat) (kind : OperationKind) :
    ¬ Repeats spec.operations i kind := fun hr => h.2 i (.inl ⟨kind, hr⟩)

theorem SolidSpec.IsSound.fault?_eq_none (h : spec.IsSound) {op : Operation K} (hop : op ∈ spec.operations) :
    op.fault? = none := by
  obtain ⟨i, hi⟩ := List.mem_iff_getElem?.1 hop
  exact Option.eq_none_iff_forall_ne_some.2 fun fault hf => h.2 i (.inr ⟨op, fault, hi, hf⟩)

namespace Plan

namespace Verdict

variable {plan : Plan K}

theorem isSound (h : Verdict spec (.ok plan)) : spec.IsSound := by
  cases h <;> assumption

theorem cutBoxes_eq (h : Verdict spec (.ok plan)) : plan.cutBoxes = spec.operations.filterMap cutBox? := by
  cases h <;> rfl

theorem throughHoles_eq (h : Verdict spec (.ok plan)) :
    plan.throughHoles = spec.operations.filterMap throughHole? := by
  cases h <;> rfl

end Verdict

private theorem ofSpec_eq_error {e : PlanError K} (h : Buckets.ofSpec spec = .error e) :
    ofSpec spec = .error e := by
  rw [ofSpec, h]
  rfl

private theorem ofSpec_eq_base (h : spec.IsSound) : ofSpec spec =
    (Base.ofBuckets spec.id (Buckets.ofList spec.operations)).map fun base =>
      ⟨spec.id, base, spec.operations.filterMap cutBox?, spec.operations.filterMap throughHole?⟩ := by
  rw [ofSpec, Buckets.ofSpec_eq_ok h.1 h.2]
  change Except.bind (Base.ofBuckets spec.id (Buckets.ofList spec.operations)) _ = _
  cases Base.ofBuckets spec.id (Buckets.ofList spec.operations) <;> rfl

/-- The base of a list with a base box. -/
private theorem ofBuckets_of_baseBox (h : spec.IsSound) {b : BaseBox K} (hb : baseBox b ∈ spec.operations) :
    Base.ofBuckets spec.id (Buckets.ofList spec.operations) =
      if spec.operations.filterMap extrude? = [] ∧ spec.operations.filterMap circle? = [] then .ok (.box b)
      else .error (.invalidSpec spec.id .mixedBaseStyle) := by
  have hbox := filterMap_baseBox?_eq_singleton h.not_repeats hb
  simp only [Base.ofBuckets, Buckets.ofList, hbox, List.getLast?_singleton]
  cases he : spec.operations.filterMap extrude? with
  | nil => simp
  | cons e es => simp [List.getLast?_cons]

/-- The base of a list with an extrusion and no base box. -/
private theorem ofBuckets_of_extrude (h : spec.IsSound) (hb : ∀ b, baseBox b ∉ spec.operations) {e : Extrude K}
    (he : extrude e ∈ spec.operations) :
    Base.ofBuckets spec.id (Buckets.ofList spec.operations) =
      if (spec.operations.filterMap circle?).filter (fun c => !c.isHole) = [] then
        .error (.noPositiveGeometry spec.id)
      else .ok (.sketch ((spec.operations.filterMap circle?).filter fun c => !c.isHole)
        ((spec.operations.filterMap circle?).filter fun c => c.isHole) e.length) := by
  have hext := filterMap_extrude?_eq_singleton h.not_repeats he
  have hbox := filterMap_baseBox?_eq_nil.2 hb
  simp only [Base.ofBuckets, Buckets.ofList, hext, hbox, List.getLast?_singleton, List.getLast?_nil,
    List.isEmpty_iff]

theorem ofSpec_of_verdict {r : Except (PlanError K) (Plan K)} (h : Verdict spec r) : ofSpec spec = r := by
  cases h with
  | empty h => exact ofSpec_eq_error (by rw [Buckets.ofSpec, if_pos (by simpa using h)])
  | secondExtrude first h => exact ofSpec_eq_error (Buckets.ofSpec_eq_error_of_repeats first (.inl ⟨rfl, h⟩))
  | secondBaseBox first h => exact ofSpec_eq_error (Buckets.ofSpec_eq_error_of_repeats first (.inr ⟨rfl, h⟩))
  | outOfRange first once here h => exact ofSpec_eq_error (Buckets.ofSpec_eq_error_of_fault first once here h)
  | mixed sound box sketch =>
    rw [ofSpec_eq_base sound, ofBuckets_of_baseBox sound box, if_neg]
    · rfl
    · rw [filterMap_extrude?_eq_nil, filterMap_circle?_eq_nil]
      rintro ⟨he, hc⟩
      rcases sketch with ⟨e, h⟩ | ⟨c, h⟩
      · exact he e h
      · exact hc c h
  | noBase sound noBox noExtrude =>
    rw [ofSpec_eq_base sound]
    simp only [Base.ofBuckets, Buckets.ofList, filterMap_baseBox?_eq_nil.2 noBox,
      filterMap_extrude?_eq_nil.2 noExtrude, List.getLast?_nil]
    rfl
  | noFilled sound noBox swept holes =>
    rw [ofSpec_eq_base sound, ofBuckets_of_extrude sound noBox swept, if_pos (filter_circles_eq_nil.2 holes)]
    rfl
  | box sound box noExtrude noCircle =>
    rw [ofSpec_eq_base sound, ofBuckets_of_baseBox sound box,
      if_pos ⟨filterMap_extrude?_eq_nil.2 noExtrude, filterMap_circle?_eq_nil.2 noCircle⟩]
    rfl
  | sketch sound noBox swept filled =>
    obtain ⟨c, hc, hfilled⟩ := filled
    rw [ofSpec_eq_base sound, ofBuckets_of_extrude sound noBox swept, if_neg]
    · rfl
    · rw [filter_circles_eq_nil]
      exact fun h => by simp [h c hc] at hfilled

private theorem exists_verdict (spec : SolidSpec K) : ∃ r, Verdict spec r := by
  by_cases hne : spec.operations = []
  · exact ⟨_, .empty hne⟩
  by_cases hsound : ∀ i, ¬ Refused spec.operations i
  -- the table of base styles decides
  · have sound : spec.IsSound := ⟨hne, hsound⟩
    by_cases hb : ∃ b, baseBox b ∈ spec.operations
    · obtain ⟨b, hb⟩ := hb
      by_cases hs : (∃ e, extrude e ∈ spec.operations) ∨ ∃ c, sketchCircle c ∈ spec.operations
      · exact ⟨_, .mixed sound hb hs⟩
      · rw [not_or, not_exists, not_exists] at hs
        exact ⟨_, .box sound hb hs.1 hs.2⟩
    · rw [not_exists] at hb
      by_cases he : ∃ e, extrude e ∈ spec.operations
      · obtain ⟨e, he⟩ := he
        by_cases hf : ∃ c, sketchCircle c ∈ spec.operations ∧ c.isHole = false
        · exact ⟨_, .sketch sound hb he hf⟩
        · refine ⟨_, .noFilled sound hb he fun c hc => ?_⟩
          by_contra hh
          exact hf ⟨c, hc, by simpa using hh⟩
      · exact ⟨_, .noBase sound hb (not_exists.1 he)⟩
  -- the first operation that is refused decides
  · simp only [not_forall, not_not] at hsound
    classical
    have first : IsLeast {j | Refused spec.operations j} (Nat.find hsound) :=
      ⟨Nat.find_spec hsound, fun j hj => Nat.find_min' hsound hj⟩
    by_cases hr : ∃ kind, Repeats spec.operations (Nat.find hsound) kind
    · obtain ⟨kind, hr⟩ := hr
      rcases hr.1 with rfl | rfl
      · exact ⟨_, .secondExtrude first hr⟩
      · exact ⟨_, .secondBaseBox first hr⟩
    · obtain ⟨op, fault, hop, hf⟩ := first.1.resolve_left hr
      exact ⟨_, .outOfRange first (not_exists.1 hr) hop hf⟩

/-- The plan of a description, or the error, is its verdict. -/
theorem verdict_ofSpec (spec : SolidSpec K) : Verdict spec (ofSpec spec) := by
  obtain ⟨r, h⟩ := exists_verdict spec
  rwa [ofSpec_of_verdict h]

theorem Verdict.of_ofSpec {r : Except (PlanError K) (Plan K)} (h : ofSpec spec = r) : Verdict spec r :=
  h ▸ verdict_ofSpec spec

private theorem perm_operations {plan : Plan K} (h : Verdict spec (.ok plan)) :
    plan.operations.Perm spec.operations := by
  refine List.Perm.trans ?_ (perm_roles spec.operations)
  cases h with
  | box sound box noExtrude noCircle =>
    rw [filterMap_circle?_eq_nil.2 noCircle, filterMap_extrude?_eq_nil.2 noExtrude,
      filterMap_baseBox?_eq_singleton sound.not_repeats box]
    exact List.Perm.refl _
  | sketch sound noBox swept filled =>
    rw [filterMap_extrude?_eq_singleton sound.not_repeats swept, filterMap_baseBox?_eq_nil.2 noBox, List.map_nil,
      List.append_nil]
    refine List.Perm.append_right _ (List.Perm.append_right _ (List.Perm.append_right _ (List.Perm.map _ ?_)))
    simpa using List.filter_append_perm (fun c : SketchCircle K => !c.isHole) _

/-- A description has exactly one verdict, the planner finds it, and a plan leaves no operation out. -/
theorem ofSpec_eq_iff_verdict (spec : SolidSpec K) :
    (∀ r, ofSpec spec = r ↔ Verdict spec r) ∧
      ∀ plan, ofSpec spec = .ok plan → plan.operations.Perm spec.operations := by
  refine ⟨fun r => ⟨?_, ofSpec_of_verdict⟩, fun plan h => ?_⟩
  · rintro rfl
    exact verdict_ofSpec spec
  · exact perm_operations (h ▸ verdict_ofSpec spec)

end Plan

end SolidDrawing
