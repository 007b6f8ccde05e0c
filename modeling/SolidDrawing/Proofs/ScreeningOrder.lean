import SolidDrawing.Proofs.Screening

/-!
# Which fault of a job is reported

Screening refuses an operation of an unknown kind, and a hole along an axis that is none of the three. The first
operation that it refuses decides: its fault is the one that is reported, whatever else is wrong with the job, with the
operations behind it or with those fields of the operations before it that screening does not read. If no operation is
refused then neither of these faults is reported (`Job.decode_of_first_refused`).
-/

namespace SolidDrawing

/-- The texts that stand for an axis: its letter in either case, with blanks around it or none. -/
def Axis.IsLiteral (s : String) : Prop := Text.lowerAscii (Text.trim s) ∈ ["x", "y", "z"]

instance (s : String) : Decidable (Axis.IsLiteral s) := inferInstanceAs (Decidable (_ ∈ ["x", "y", "z"]))

theorem Axis.isSome_parse?_iff (s : String) : (parse? s).isSome ↔ IsLiteral s := by
  unfold parse? IsLiteral
  generalize Text.lowerAscii (Text.trim s) = small
  constructor
  · intro h
    obtain ⟨axis, haxis⟩ := Option.isSome_iff_exists.1 h
    rw [← letter_of_ofLetter? haxis]
    cases axis <;> decide
  · intro h
    simp only [List.mem_cons, List.not_mem_nil, or_false] at h
    rcases h with rfl | rfl | rfl <;> rfl

namespace Json

/-- A hole with a text for its axis. -/
def IsHoleAlong (op : Json) (literal : String) : Prop :=
  op.get? "type" = some (.text OperationKind.throughHole.name) ∧ op.get? "axis" = some (.text literal)

/-- No object of a known kind, or a hole along an axis that is none of the three. -/
def IsRefused (op : Json) : Prop := ¬ op.IsKnown ∨ ∃ literal, op.IsHoleAlong literal ∧ ¬ Axis.IsLiteral literal

theorem isScreened_of_not_isRefused {op : Json} (h : ¬ op.IsRefused) : op.IsScreened where
  known := not_not.1 fun hunknown => h (.inl hunknown)
  axis := by
    intro htype literal haxis
    rw [Axis.isSome_parse?_iff]
    exact not_not.1 fun hliteral => h (.inr ⟨literal, ⟨htype, haxis⟩, hliteral⟩)

end Json

section

variable {solid : String} {index : Nat} {op : Json} {pre post : List Json}

theorem screenOperation_of_not_isLiteral {literal : String} (hop : op.IsHoleAlong literal)
    (h : ¬ Axis.IsLiteral literal) :
    screenOperation solid index op = .error (.invalidParameter solid index (.unknownAxis literal)) := by
  have hnone : Axis.parse? literal = none := by
    rwa [← Axis.isSome_parse?_iff, Bool.not_eq_true, Option.isSome_eq_false_iff, Option.isNone_iff_eq_none] at h
  have hparse : (Axis.parse literal : Except (ParameterFault Float) Axis) = .error (.unknownAxis literal) := by
    rw [Axis.parse, hnone]
  rw [screenOperation_throughHole hop.1, screenAxis, hop.2]
  simp only [hparse]

/-- The fault of an operation is that of all of them, if those before it pass. -/
theorem screenOperations_of_first {fault : JobFault} (hpre : ∀ earlier ∈ pre, earlier.IsScreened)
    (hop : screenOperation solid (index + pre.length) op = .error fault) :
    screenOperations solid index (pre ++ op :: post) = .error fault := by
  induction pre generalizing index with
  | nil =>
    rw [List.nil_append, screenOperations, show screenOperation solid index op = .error fault from hop]
    rfl
  | cons first pre ih =>
    obtain ⟨hfirst, hpre⟩ := List.forall_mem_cons.1 hpre
    obtain ⟨first', hfirst'⟩ : ∃ first', screenOperation solid index first = .ok first' :=
      screenOperation_of_isScreened hfirst
    have hrest : screenOperations solid (index + 1) (pre ++ op :: post) = .error fault := by
      refine ih hpre ?_
      rwa [Nat.add_right_comm]
    rw [List.cons_append, screenOperations, hfirst', hrest]
    rfl

theorem screenOperations_of_forall {ops : List Json} (h : ∀ op ∈ ops, op.IsScreened) :
    ∃ ops', screenOperations solid index ops = .ok ops' := by
  induction ops generalizing index with
  | nil => exact ⟨[], rfl⟩
  | cons op ops ih =>
    obtain ⟨hop, hops⟩ := List.forall_mem_cons.1 h
    obtain ⟨op', hop'⟩ : ∃ op', screenOperation solid index op = .ok op' := screenOperation_of_isScreened hop
    obtain ⟨ops', hops'⟩ := @ih (index + 1) hops
    exact ⟨op' :: ops', by rw [screenOperations, hop', hops']; rfl⟩

end

namespace Job

variable {v solid : Json} {ops : List Json}

theorem decode_of_screenOperations_error (hsolid : v.get? "solid" = some solid)
    (hops : solid.get? "operations" = some (.list ops)) {fault : JobFault}
    (h : screenOperations solid.idText 0 ops = .error fault) : decode v = .error fault := by
  rw [decode_eq hsolid, screenSolid_eq hops, h]
  rfl

theorem decode_ok_or_decode (hsolid : v.get? "solid" = some solid) {solid' : Json}
    (h : screenSolid solid = .ok solid') :
    (∃ job, decode v = .ok job) ∨ ∃ error, decode v = .error (.decode error) := by
  have hdecode : decode v = (Json.Decoder.record .array "Job" fields (v.replace "solid" solid')).mapError .decode := by
    rw [decode_eq hsolid, h]
    rfl
  rw [hdecode]
  cases Json.Decoder.record .array "Job" fields (v.replace "solid" solid') with
  | ok job => exact .inl ⟨job, rfl⟩
  | error error => exact .inr ⟨error, rfl⟩

/-- The first operation that screening refuses is the one that is reported, by its kind or by its position and its axis,
whatever else is wrong with the job. If there is none then the job is decoded, or it is the decoder that fails. -/
theorem decode_of_first_refused (hsolid : v.get? "solid" = some solid)
    (hops : solid.get? "operations" = some (.list ops)) :
    (∀ i op, ops[i]? = some op → (∀ j earlier, j < i → ops[j]? = some earlier → ¬ earlier.IsRefused) →
      (¬ op.IsKnown → decode v = .error (.unsupportedOperation op.shownKind)) ∧
      ∀ literal, op.IsHoleAlong literal → ¬ Axis.IsLiteral literal →
        decode v = .error (.invalidParameter solid.idText i (.unknownAxis literal))) ∧
    ((∀ op ∈ ops, ¬ op.IsRefused) →
      (∃ job, decode v = .ok job) ∨ ∃ error, decode v = .error (.decode error)) := by
  refine ⟨fun i op hop hearlier => ?_, fun hall => ?_⟩
  · obtain ⟨hi, rfl⟩ := List.getElem?_eq_some_iff.1 hop
    have hpre : ∀ earlier ∈ ops.take i, earlier.IsScreened := by
      intro earlier hmem
      obtain ⟨j, hj, rfl⟩ := List.mem_take_iff_getElem.1 hmem
      exact Json.isScreened_of_not_isRefused (hearlier j _ (by omega) (List.getElem?_eq_getElem (by omega)))
    have hdecode {fault : JobFault} (h : screenOperation solid.idText i ops[i] = .error fault) :
        decode v = .error fault := by
      have hsplit : ops.take i ++ ops[i] :: ops.drop (i + 1) = ops := by
        rw [← List.drop_eq_getElem_cons hi, List.take_append_drop]
      refine decode_of_screenOperations_error hsolid hops ?_
      rw [← hsplit]
      refine screenOperations_of_first hpre ?_
      rwa [List.length_take_of_le (Nat.le_of_lt hi), Nat.zero_add]
    exact ⟨fun hunknown => hdecode (screenOperation_of_not_isKnown hunknown),
      fun literal hhole hliteral => hdecode (screenOperation_of_not_isLiteral hhole hliteral)⟩
  · have hscreened : ∀ op ∈ ops, op.IsScreened := fun op hop => Json.isScreened_of_not_isRefused (hall op hop)
    obtain ⟨ops', hops'⟩ : ∃ ops', screenOperations solid.idText 0 ops = .ok ops' :=
      screenOperations_of_forall hscreened
    have hsolid' : screenSolid solid = .ok (solid.replace "operations" (.list ops')) := by
      rw [screenSolid_eq hops, hops']
      rfl
    exact decode_ok_or_decode hsolid hsolid'

open Json (plate alongAxis solidObject)

/-- A job with nothing but a solid: a plate with a hole along no axis, and then something that no operation does. -/
theorem decode_of_first_refused_plate :
    let ops := [plate, alongAxis "ThroughHole" " w", alongAxis "Fillet" "x"]
    let v := Json.object [("solid", solidObject ops)]
    v.get? "solid" = some (solidObject ops) ∧ (solidObject ops).get? "operations" = some (.list ops) ∧
      ¬ plate.IsRefused ∧ decode v = .error (.invalidParameter "plate" 1 (.unknownAxis " w")) := by
  intro ops v
  have hplate : ¬ plate.IsRefused := by
    rintro (hunknown | ⟨literal, ⟨htype, -⟩, -⟩)
    · exact hunknown ⟨.baseBox, rfl⟩
    · have hname : "BaseBox" = "ThroughHole" := Json.text.inj (Option.some.inj htype)
      exact absurd hname (by decide)
  refine ⟨rfl, rfl, hplate, ?_⟩
  refine ((decode_of_first_refused (v := v) rfl rfl).1 1 _ rfl ?_).2 " w" ⟨rfl, rfl⟩ (by decide)
  intro j earlier hj hearlier
  obtain rfl : j = 0 := by omega
  obtain rfl : plate = earlier := Option.some.inj hearlier
  exact hplate

end Job

end SolidDrawing
