import Mathlib.Order.Bounds.Basic
import SolidDrawing.Plan

/-!
# Operations by role

What `Buckets.ofSpec` does with a list of operations: as long as no operation is refused it ends with the operations of
each role in the order of the list (`Buckets.ofSpec_eq_ok`), and otherwise with the fault of the first operation that is
refused. An operation is refused as a second extrusion or a second base box, and else for its parameters. A list
without refusals has therefore at most one extrusion and at most one base box, and no operation gets lost between the
roles (`perm_roles`).
-/

namespace SolidDrawing

namespace Operation

variable {K : Type}

/-! ### Roles -/

/-- The operation as a sketch circle. -/
def circle? : Operation K → Option (SketchCircle K)
  | sketchCircle c => some c
  | _ => none

/-- The operation as an extrusion. -/
def extrude? : Operation K → Option (Extrude K)
  | extrude e => some e
  | _ => none

/-- The operation as a base box. -/
def baseBox? : Operation K → Option (BaseBox K)
  | baseBox b => some b
  | _ => none

/-- The operation as a box that is taken away. -/
def cutBox? : Operation K → Option (CutBox K)
  | cutBox c => some c
  | _ => none

/-- The operation as a through-hole. -/
def throughHole? : Operation K → Option (ThroughHole K)
  | throughHole h => some h
  | _ => none

theorem kind_extrude (e : Extrude K) : (extrude e).kind = .extrude := rfl

theorem kind_baseBox (b : BaseBox K) : (baseBox b).kind = .baseBox := rfl

@[simp] theorem circle?_eq_some {op : Operation K} {c : SketchCircle K} :
    op.circle? = some c ↔ op = sketchCircle c := by
  cases op <;> simp [circle?]

@[simp] theorem extrude?_eq_some {op : Operation K} {e : Extrude K} : op.extrude? = some e ↔ op = extrude e := by
  cases op <;> simp [extrude?]

@[simp] theorem baseBox?_eq_some {op : Operation K} {b : BaseBox K} : op.baseBox? = some b ↔ op = baseBox b := by
  cases op <;> simp [baseBox?]

@[simp] theorem cutBox?_eq_some {op : Operation K} {c : CutBox K} : op.cutBox? = some c ↔ op = cutBox c := by
  cases op <;> simp [cutBox?]

@[simp] theorem throughHole?_eq_some {op : Operation K} {h : ThroughHole K} :
    op.throughHole? = some h ↔ op = throughHole h := by
  cases op <;> simp [throughHole?]

theorem mem_filterMap_circle? {ops : List (Operation K)} {c : SketchCircle K} :
    c ∈ ops.filterMap circle? ↔ sketchCircle c ∈ ops := by
  simp [List.mem_filterMap]

theorem mem_filterMap_cutBox? {ops : List (Operation K)} {c : CutBox K} :
    c ∈ ops.filterMap cutBox? ↔ cutBox c ∈ ops := by
  simp [List.mem_filterMap]

theorem mem_filterMap_throughHole? {ops : List (Operation K)} {h : ThroughHole K} :
    h ∈ ops.filterMap throughHole? ↔ throughHole h ∈ ops := by
  simp [List.mem_filterMap]

theorem filterMap_circle?_eq_nil {ops : List (Operation K)} :
    ops.filterMap circle? = [] ↔ ∀ c, sketchCircle c ∉ ops := by
  simp only [List.eq_nil_iff_forall_not_mem, mem_filterMap_circle?]

/-- Without a circle that is no hole nothing is filled. -/
theorem filter_circles_eq_nil {ops : List (Operation K)} :
    (ops.filterMap circle?).filter (fun c => !c.isHole) = [] ↔ ∀ c, sketchCircle c ∈ ops → c.isHole = true := by
  simp [List.filter_eq_nil_iff]

theorem filterMap_extrude?_eq_nil {ops : List (Operation K)} :
    ops.filterMap extrude? = [] ↔ ∀ e, extrude e ∉ ops := by
  simp only [List.eq_nil_iff_forall_not_mem, List.mem_filterMap, extrude?_eq_some, exists_eq_right]

theorem filterMap_baseBox?_eq_nil {ops : List (Operation K)} :
    ops.filterMap baseBox? = [] ↔ ∀ b, baseBox b ∉ ops := by
  simp only [List.eq_nil_iff_forall_not_mem, List.mem_filterMap, baseBox?_eq_some, exists_eq_right]

/-- Every operation has a role, and no operation has two. -/
theorem perm_roles (ops : List (Operation K)) :
    ((ops.filterMap circle?).map sketchCircle ++ (ops.filterMap extrude?).map extrude ++
      (ops.filterMap baseBox?).map baseBox ++ (ops.filterMap cutBox?).map cutBox ++
      (ops.filterMap throughHole?).map throughHole).Perm ops := by
  induction ops with
  | nil => simp
  | cons op ops ih =>
    refine List.Perm.trans ?_ (ih.cons op)
    cases op with
    | sketchCircle c => exact List.Perm.refl _
    | extrude e => exact ((List.perm_middle.append_right _).append_right _).append_right _
    | baseBox b => exact (List.perm_middle.append_right _).append_right _
    | cutBox c => exact List.perm_middle.append_right _
    | throughHole h => exact List.perm_middle

/-! ### Refusals -/

/-- The operation at `i` and an earlier one are of the same kind, of which a solid has at most one. -/
def Repeats (ops : List (Operation K)) (i : Nat) (kind : OperationKind) : Prop :=
  (kind = .extrude ∨ kind = .baseBox) ∧ (ops.map Operation.kind)[i]? = some kind ∧
    ∃ j < i, (ops.map Operation.kind)[j]? = some kind

/-- The operation at `i` cannot be used: it repeats an earlier one, or a parameter of it is out of range. -/
def Refused [Scalar K] (ops : List (Operation K)) (i : Nat) : Prop :=
  (∃ kind, Repeats ops i kind) ∨ ∃ op fault, ops[i]? = some op ∧ op.fault? = some fault

theorem repeats_iff {pre post : List (Operation K)} {op : Operation K} {kind : OperationKind} :
    Repeats (pre ++ op :: post) pre.length kind ↔
      (kind = .extrude ∨ kind = .baseBox) ∧ op.kind = kind ∧ ∃ o ∈ pre, o.kind = kind := by
  have hop : ((pre ++ op :: post).map Operation.kind)[pre.length]? = some op.kind := by simp
  have hpre : (∃ j < pre.length, ((pre ++ op :: post).map Operation.kind)[j]? = some kind) ↔
      ∃ o ∈ pre, o.kind = kind := by
    constructor
    · rintro ⟨j, hj, h⟩
      rw [List.getElem?_map, List.getElem?_append_left hj, List.getElem?_eq_getElem hj, Option.map_some,
        Option.some.injEq] at h
      exact ⟨pre[j], List.getElem_mem hj, h⟩
    · rintro ⟨o, ho, h⟩
      obtain ⟨j, hj, rfl⟩ := List.mem_iff_getElem.1 ho
      refine ⟨j, hj, ?_⟩
      rw [List.getElem?_map, List.getElem?_append_left hj, List.getElem?_eq_getElem hj, Option.map_some, h]
  rw [Repeats, hop, hpre, Option.some.injEq]

theorem refused_iff [Scalar K] {pre post : List (Operation K)} {op : Operation K} :
    Refused (pre ++ op :: post) pre.length ↔
      (∃ kind, Repeats (pre ++ op :: post) pre.length kind) ∨ ∃ fault, op.fault? = some fault := by
  simp [Refused]

theorem Refused.lt_length [Scalar K] {ops : List (Operation K)} {i : Nat} (h : Refused ops i) : i < ops.length := by
  rcases h with ⟨kind, -, h, -⟩ | ⟨op, -, h, -⟩
  · simpa using (List.getElem?_eq_some_iff.1 h).1
  · exact (List.getElem?_eq_some_iff.1 h).1

/-- Of a kind that is not repeated, a list that has one operation has no other. -/
theorem filterMap_eq_singleton {α : Type} {f : Operation K → Option α} {kind : OperationKind}
    (hf : ∀ op, (f op).isSome ↔ op.kind = kind) (hk : kind = .extrude ∨ kind = .baseBox)
    {ops : List (Operation K)} (h : ∀ i, ¬ Repeats ops i kind) {op : Operation K} (hop : op ∈ ops) {a : α}
    (ha : f op = some a) : ops.filterMap f = [a] := by
  obtain ⟨pre, post, rfl⟩ := List.append_of_mem hop
  have hkind : op.kind = kind := (hf op).1 (by simp [ha])
  -- `op` would repeat an earlier one
  have hpre : pre.filterMap f = [] := by
    refine List.filterMap_eq_nil_iff.2 fun o ho => Option.not_isSome_iff_eq_none.1 fun hs => ?_
    exact h pre.length (repeats_iff.2 ⟨hk, hkind, o, ho, (hf o).1 hs⟩)
  -- a later one would repeat `op`
  have hpost : post.filterMap f = [] := by
    refine List.filterMap_eq_nil_iff.2 fun o ho => Option.not_isSome_iff_eq_none.1 fun hs => ?_
    obtain ⟨mid, post', rfl⟩ := List.append_of_mem ho
    refine h (pre ++ op :: mid).length ?_
    rw [← List.cons_append, ← List.append_assoc]
    exact repeats_iff.2 ⟨hk, (hf o).1 hs, op, by simp, hkind⟩
  rw [List.filterMap_append, List.filterMap_cons_some ha, hpre, hpost, List.nil_append]

theorem filterMap_extrude?_eq_singleton {ops : List (Operation K)} (h : ∀ i kind, ¬ Repeats ops i kind)
    {e : Extrude K} (he : extrude e ∈ ops) : ops.filterMap extrude? = [e] :=
  filterMap_eq_singleton (fun op => by cases op <;> simp [extrude?, kind]) (.inl rfl) (fun i => h i _) he rfl

theorem filterMap_baseBox?_eq_singleton {ops : List (Operation K)} (h : ∀ i kind, ¬ Repeats ops i kind)
    {b : BaseBox K} (hb : baseBox b ∈ ops) : ops.filterMap baseBox? = [b] :=
  filterMap_eq_singleton (fun op => by cases op <;> simp [baseBox?, kind]) (.inr rfl) (fun i => h i _) hb rfl

theorem extrude_unique {ops : List (Operation K)} (h : ∀ i kind, ¬ Repeats ops i kind) {e e' : Extrude K}
    (he : extrude e ∈ ops) (he' : extrude e' ∈ ops) : e = e' := by
  simpa using (filterMap_extrude?_eq_singleton h he).symm.trans (filterMap_extrude?_eq_singleton h he')

theorem baseBox_unique {ops : List (Operation K)} (h : ∀ i kind, ¬ Repeats ops i kind) {b b' : BaseBox K}
    (hb : baseBox b ∈ ops) (hb' : baseBox b' ∈ ops) : b = b' := by
  simpa using (filterMap_baseBox?_eq_singleton h hb).symm.trans (filterMap_baseBox?_eq_singleton h hb')

end Operation

namespace Buckets

variable {K : Type}

open Operation

/-- The operations of a list by role; of extrusions and base boxes the last one counts. -/
def ofList (ops : List (Operation K)) : Buckets K :=
  ⟨ops.filterMap circle?, (ops.filterMap extrude?).getLast?, (ops.filterMap baseBox?).getLast?,
    ops.filterMap cutBox?, ops.filterMap throughHole?⟩

private theorem add_ofList (ops : List (Operation K)) (op : Operation K) :
    (ofList ops).add op = ofList (ops ++ [op]) := by
  cases op <;>
    simp [ofList, add, List.filterMap_append, circle?, extrude?, baseBox?, cutBox?, throughHole?]

private theorem isSome_getLast?_filterMap {α : Type} {f : Operation K → Option α} {kind : OperationKind}
    (hf : ∀ op, (f op).isSome ↔ op.kind = kind) (ops : List (Operation K)) :
    (ops.filterMap f).getLast?.isSome ↔ ∃ o ∈ ops, o.kind = kind := by
  rw [Option.isSome_iff_ne_none, ne_eq, List.getLast?_eq_none_iff, List.filterMap_eq_nil_iff]
  simp only [← hf, Option.isSome_iff_ne_none, not_forall, ne_eq, exists_prop]

/-- What is wrong with a further operation as such is that it repeats an earlier one. -/
private theorem violation?_ofList (pre post : List (Operation K)) (op : Operation K) (v : Violation) :
    (ofList pre).violation? op = some v ↔
      v = .duplicateExtrude ∧ Repeats (pre ++ op :: post) pre.length .extrude ∨
      v = .duplicateBaseBox ∧ Repeats (pre ++ op :: post) pre.length .baseBox := by
  simp only [repeats_iff]
  cases op with
  | extrude e =>
    have he : (ofList pre).extrude.isSome ↔ ∃ o ∈ pre, o.kind = .extrude :=
      isSome_getLast?_filterMap (fun op => by cases op <;> simp [extrude?, kind]) pre
    simp only [violation?, he, Option.ite_none_right_eq_some, Option.some.injEq]
    simp [kind_extrude, and_comm, eq_comm (a := v)]
  | baseBox b =>
    have hb : (ofList pre).baseBox.isSome ↔ ∃ o ∈ pre, o.kind = .baseBox :=
      isSome_getLast?_filterMap (fun op => by cases op <;> simp [baseBox?, kind]) pre
    simp only [violation?, hb, Option.ite_none_right_eq_some, Option.some.injEq]
    simp [kind_baseBox, and_comm, eq_comm (a := v)]
  | sketchCircle c => simp [violation?, kind]
  | cutBox c => simp [violation?, kind]
  | throughHole h => simp [violation?, kind]

private theorem violation?_eq_none {pre post : List (Operation K)} {op : Operation K}
    (h : ∀ kind, ¬ Repeats (pre ++ op :: post) pre.length kind) : (ofList pre).violation? op = none := by
  refine Option.eq_none_iff_forall_ne_some.2 fun v hv => ?_
  rcases (violation?_ofList pre post op v).1 hv with ⟨-, hr⟩ | ⟨-, hr⟩
  · exact h _ hr
  · exact h _ hr

variable [Scalar K]

/-- An operation that is not refused is put last in its role. -/
private theorem addAll_step {solid : String} {pre post : List (Operation K)} {op : Operation K}
    (h : ¬ Refused (pre ++ op :: post) pre.length) :
    addAll solid pre.length (ofList pre) (op :: post) =
      addAll solid (pre ++ [op]).length (ofList (pre ++ [op])) post := by
  rw [refused_iff, not_or] at h
  have hv : (ofList pre).violation? op = none := violation?_eq_none fun kind hr => h.1 ⟨kind, hr⟩
  have hf : op.fault? = none := Option.eq_none_iff_forall_ne_some.2 fun fault hf => h.2 ⟨fault, hf⟩
  simp only [addAll, hv, hf, add_ofList, List.length_append, List.length_singleton]

private theorem addAll_append (solid : String) (pre mid post : List (Operation K))
    (h : ∀ j, pre.length ≤ j → j < (pre ++ mid).length → ¬ Refused (pre ++ mid ++ post) j) :
    addAll solid pre.length (ofList pre) (mid ++ post) =
      addAll solid (pre ++ mid).length (ofList (pre ++ mid)) post := by
  induction mid generalizing pre with
  | nil => simp
  | cons op mid ih =>
    have hstep : ¬ Refused (pre ++ op :: (mid ++ post)) pre.length := by
      simpa using h pre.length le_rfl (by simp)
    rw [List.cons_append, addAll_step hstep, ih, List.append_assoc, List.singleton_append]
    intro j hj hlt
    have hassoc : pre ++ [op] ++ mid = pre ++ op :: mid := by simp
    rw [hassoc] at hlt ⊢
    exact h j (by simp at hj; omega) hlt

/-- The first `n` operations, none of which is refused, are put into their roles. -/
private theorem addAll_take (solid : String) {ops : List (Operation K)} {n : Nat} (hn : n ≤ ops.length)
    (h : ∀ j < n, ¬ Refused ops j) :
    addAll solid 0 empty ops = addAll solid n (ofList (ops.take n)) (ops.drop n) := by
  have hlen : (ops.take n).length = n := List.length_take_of_le hn
  have := addAll_append solid [] (ops.take n) (ops.drop n) fun j _ hj => by
    rw [List.nil_append, List.take_append_drop]
    exact h j (by simpa [hlen] using hj)
  simpa [hlen, ofList, empty] using this

theorem ofSpec_eq_ok {spec : SolidSpec K} (hne : spec.operations ≠ []) (h : ∀ i, ¬ Refused spec.operations i) :
    ofSpec spec = .ok (ofList spec.operations) := by
  have := addAll_take spec.id (le_refl spec.operations.length) fun j _ => h j
  rw [ofSpec, if_neg (by simpa using hne), this]
  simp [addAll]

/-- With the first operation that is refused, sorting comes to its end. -/
private theorem ofSpec_eq_addAll {spec : SolidSpec K} {i : Nat} (hi : IsLeast {j | Refused spec.operations j} i) :
    ∃ pre op post, spec.operations = pre ++ op :: post ∧ pre.length = i ∧
      ofSpec spec = addAll spec.id pre.length (ofList pre) (op :: post) := by
  have hlt : i < spec.operations.length := Refused.lt_length hi.1
  have hfirst : ∀ j < i, ¬ Refused spec.operations j := fun j hj h => absurd (hi.2 h) (Nat.not_le.2 hj)
  have hne : spec.operations ≠ [] := fun h => by simp [h] at hlt
  have hdrop := List.drop_eq_getElem_cons hlt
  refine ⟨spec.operations.take i, spec.operations[i], spec.operations.drop (i + 1), ?_, ?_, ?_⟩
  · rw [← hdrop, List.take_append_drop]
  · exact List.length_take_of_le hlt.le
  · rw [ofSpec, if_neg (by simpa using hne), addAll_take spec.id hlt.le hfirst, hdrop, List.length_take_of_le hlt.le]

theorem ofSpec_eq_error_of_repeats {spec : SolidSpec K} {i : Nat} (hi : IsLeast {j | Refused spec.operations j} i)
    {v : Violation} (h : v = .duplicateExtrude ∧ Repeats spec.operations i .extrude ∨
      v = .duplicateBaseBox ∧ Repeats spec.operations i .baseBox) :
    ofSpec spec = .error (.invalidSpec spec.id v) := by
  obtain ⟨pre, op, post, hops, rfl, heq⟩ := ofSpec_eq_addAll hi
  rw [hops] at h
  simp only [heq, addAll, (violation?_ofList pre post op v).2 h]

theorem ofSpec_eq_error_of_fault {spec : SolidSpec K} {i : Nat} (hi : IsLeast {j | Refused spec.operations j} i)
    (hr : ∀ kind, ¬ Repeats spec.operations i kind) {op : Operation K} (hop : spec.operations[i]? = some op)
    {fault : ParameterFault K} (hf : op.fault? = some fault) :
    ofSpec spec = .error (.invalidParameter spec.id i op.kind fault) := by
  obtain ⟨pre, o, post, hops, rfl, heq⟩ := ofSpec_eq_addAll hi
  rw [hops] at hr hop
  obtain rfl : o = op := by simpa using hop
  simp only [heq, addAll, violation?_eq_none hr, hf]

end Buckets

end SolidDrawing
