import Mathlib.Data.List.Basic
import SolidDrawing.Job.Decoding

/-!
# What the screening of operations sees

The operations of a job are screened before they are decoded, but only those of a solid that is written as an object. In
such a solid no operation of an unknown kind gets as far as the decoder, and an axis may be written in either case. A
solid that is written as the list of its fields is decoded as it is. Both is said by `Job.decode_of_screened`, and
`Job.unscreened_listedSolid` shows the difference: an unknown kind, and a large letter, in a solid of the second form.
-/

namespace SolidDrawing

open Json (Decoder Fields)

/-! ### Results -/

section

variable {ε α β : Type}

theorem exists_of_bind_eq_ok {x : Except ε α} {f : α → Except ε β} {b : β} (h : x >>= f = .ok b) :
    ∃ a, x = .ok a ∧ f a = .ok b := by
  cases x with
  | error e => cases h
  | ok a => exact ⟨a, rfl, h⟩

theorem exists_of_map_eq_ok {x : Except ε α} {f : α → β} {b : β} (h : x.map f = .ok b) : ∃ a, x = .ok a ∧ f a = b := by
  cases x with
  | error e => cases h
  | ok a => exact ⟨a, rfl, Except.ok.inj h⟩

theorem eq_ok_of_mapError_eq_ok {ε' : Type} {x : Except ε α} {f : ε → ε'} {a : α} (h : x.mapError f = .ok a) :
    x = .ok a := by
  cases x with
  | error e => cases h
  | ok a' => exact congrArg Except.ok (Except.ok.inj h)

end

/-! ### Members -/

namespace Json

variable {v w : Json} {key other : String}

theorem get?_replace_self {old : Json} (h : v.get? key = some old) (w : Json) :
    (v.replace key w).get? key = some w := by
  cases v with
  | object ms =>
    have hkey : (fun m : String × Json => m.1 == key) ∘ (fun m => if m.1 == key then (key, w) else m) =
        fun m => m.1 == key := by
      funext m
      by_cases hm : m.1 = key <;> simp [hm]
    simp only [get?, replace, List.find?_map, hkey] at h ⊢
    obtain ⟨m, hfind, -⟩ := Option.map_eq_some_iff.1 h
    have hm : m.1 = key := by simpa using List.find?_some hfind
    simp [hfind, hm]
  | _ => simp [get?] at h

theorem get?_replace_of_ne (hne : key ≠ other) : (v.replace other w).get? key = v.get? key := by
  cases v with
  | object ms =>
    have hkey : (fun m : String × Json => m.1 == key) ∘ (fun m => if m.1 == other then (other, w) else m) =
        fun m => m.1 == key := by
      funext m
      by_cases hm : m.1 = other <;> simp [hm]
    simp only [get?, replace, List.find?_map, hkey, Option.map_map]
    refine Option.map_congr fun m hm => ?_
    have hm : m.1 = key := by simpa using List.find?_some hm
    simp [hm, hne]
  | _ => rfl

theorem replace_replace (w' : Json) : (v.replace key w).replace key w' = v.replace key w' := by
  cases v with
  | object ms =>
    simp only [replace, List.map_map]
    congr 1
    refine List.map_congr_left fun m _ => ?_
    by_cases hm : m.1 = key <;> simp [hm]
  | _ => rfl

theorem exists_object_of_get? (h : v.get? key = some w) : ∃ ms, v = .object ms := by
  cases v with
  | object ms => exact ⟨ms, rfl⟩
  | _ => cases h

/-- The id of a solid in messages. -/
def idText (solid : Json) : String := ((solid.get? "id").bind text?).getD ""

/-- An object of a known kind. -/
def IsKnown (op : Json) : Prop := ∃ kind : OperationKind, op.get? "type" = some (.text kind.name)

/-- What an operation of an unknown kind is called. A list has no member `type`. -/
def shownKind (op : Json) : String :=
  match op.get? "type" with
  | none => "<missing>"
  | some (.text name) => name
  | some other => other.compact

/-- An object of a known kind which, if it is a hole, has no axis that cannot be read. -/
structure IsScreened (op : Json) : Prop where
  known : op.IsKnown
  axis : op.get? "type" = some (.text OperationKind.throughHole.name) →
    ∀ literal, op.get? "axis" = some (.text literal) → (Axis.parse? literal).isSome

end Json

/-! ### Screening -/

/-- The fault is found before anything is decoded. -/
inductive JobFault.IsOfScreening : JobFault → Prop
  | unsupportedOperation (kind : String) : IsOfScreening (.unsupportedOperation kind)
  | invalidParameter (solid : String) (index : Nat) (fault : ParameterFault Float) :
    IsOfScreening (.invalidParameter solid index fault)

section

variable {solid : String} {index : Nat} {op : Json} {literal : String} {axis : Axis}

theorem Axis.parse_eq_ok (h : parse? literal = some axis) :
    (Axis.parse literal : Except (ParameterFault Float) Axis) = .ok axis := by
  rw [Axis.parse, h]

theorem Axis.parse?_letter (a : Axis) : parse? a.letter = some a := by
  cases a <;> rfl

theorem screenAxis_of_parse? (haxis : op.get? "axis" = some (.text literal)) (h : Axis.parse? literal = some axis) :
    screenAxis solid index op = .ok (op.replace "axis" (.text axis.letter)) := by
  rw [screenAxis, haxis]
  simp only [Axis.parse_eq_ok h]

theorem screenOperation_throughHole (htype : op.get? "type" = some (.text OperationKind.throughHole.name)) :
    screenOperation solid index op = screenAxis solid index op := by
  rw [screenOperation, htype]
  simp only [OperationKind.ofName?_name]

theorem screenOperation_of_isScreened (h : op.IsScreened) : ∃ op', screenOperation solid index op = .ok op' := by
  obtain ⟨⟨kind, htype⟩, haxis⟩ := h
  by_cases hhole : kind = .throughHole
  · subst hhole
    rw [screenOperation_throughHole htype]
    unfold screenAxis
    split
    · rename_i literal hliteral
      obtain ⟨axis, hparse⟩ := Option.isSome_iff_exists.1 (haxis htype literal hliteral)
      rw [Axis.parse_eq_ok hparse]
      exact ⟨_, rfl⟩
    · exact ⟨op, rfl⟩
  · refine ⟨op, ?_⟩
    rw [screenOperation, htype]
    simp only [OperationKind.ofName?_name]

theorem screenOperation_isOfScreening {fault : JobFault} (h : screenOperation solid index op = .error fault) :
    fault.IsOfScreening := by
  unfold screenOperation at h
  split at h
  · cases h
    exact .unsupportedOperation _
  · split at h
    · cases h
      exact .unsupportedOperation _
    · unfold screenAxis at h
      split at h
      · split at h
        · cases h
        · cases h
          exact .invalidParameter _ _ _
      · cases h
    · cases h
  · cases h
    exact .unsupportedOperation _

theorem screenOperation_of_not_isKnown (h : ¬ op.IsKnown) :
    screenOperation solid index op = .error (.unsupportedOperation op.shownKind) := by
  unfold screenOperation Json.shownKind
  cases htype : op.get? "type" with
  | none => rfl
  | some tag =>
    cases tag with
    | text name =>
      cases hkind : OperationKind.ofName? name with
      | none => simp only [hkind]
      | some kind =>
        have hname : kind.name = name := OperationKind.name_of_ofName? hkind
        exact absurd ⟨kind, hname ▸ htype⟩ h
    | _ => rfl

theorem screenOperation_replace_axis (htype : op.get? "type" = some (.text OperationKind.throughHole.name))
    (haxis : op.get? "axis" = some (.text literal)) (h : Axis.parse? literal = some axis) :
    screenOperation solid index (op.replace "axis" (.text axis.letter)) = screenOperation solid index op := by
  have htype' : (op.replace "axis" (.text axis.letter)).get? "type" = some (.text OperationKind.throughHole.name) :=
    (Json.get?_replace_of_ne (by decide)).trans htype
  have haxis' : (op.replace "axis" (.text axis.letter)).get? "axis" = some (.text axis.letter) :=
    Json.get?_replace_self haxis _
  rw [screenOperation_throughHole htype, screenOperation_throughHole htype', screenAxis_of_parse? haxis h,
    screenAxis_of_parse? haxis' (Axis.parse?_letter axis), Json.replace_replace]

end

section

variable {solid : String} {index : Nat} {pre post : List Json} {op : Json}

theorem screenOperations_isOfScreening {ops : List Json} {fault : JobFault}
    (h : screenOperations solid index ops = .error fault) : fault.IsOfScreening := by
  induction ops generalizing index with
  | nil => cases h
  | cons op ops ih =>
    rw [screenOperations] at h
    cases hop : screenOperation solid index op with
    | error fault' =>
      rw [hop] at h
      cases h
      exact screenOperation_isOfScreening hop
    | ok op' =>
      rw [hop] at h
      cases hops : screenOperations solid (index + 1) ops with
      | error fault' =>
        rw [hops] at h
        cases h
        exact ih hops
      | ok ops' =>
        rw [hops] at h
        cases h

/-- Operations among which one is refused are refused, and for its sake if all those before it pass. -/
theorem screenOperations_of_refused {refusal : JobFault}
    (hop : ∀ index, screenOperation solid index op = .error refusal) :
    (∃ fault, screenOperations solid index (pre ++ op :: post) = .error fault) ∧
      ((∀ earlier ∈ pre, earlier.IsScreened) →
        screenOperations solid index (pre ++ op :: post) = .error refusal) := by
  induction pre generalizing index with
  | nil =>
    have hrefused : screenOperations solid index (op :: post) = .error refusal := by
      rw [screenOperations, hop]
      rfl
    exact ⟨⟨refusal, hrefused⟩, fun _ => hrefused⟩
  | cons first pre ih =>
    obtain ⟨⟨fault, hfault⟩, hrefused⟩ := @ih (index + 1)
    rw [List.cons_append, screenOperations]
    constructor
    · rw [hfault]
      cases screenOperation solid index first with
      | error fault' => exact ⟨fault', rfl⟩
      | ok _ => exact ⟨fault, rfl⟩
    · intro hpre
      rw [List.forall_mem_cons] at hpre
      obtain ⟨first', hfirst⟩ : ∃ first', screenOperation solid index first = .ok first' :=
        screenOperation_of_isScreened hpre.1
      rw [hfirst, hrefused hpre.2]
      rfl

theorem screenOperations_congr {op' : Json}
    (hop : ∀ index, screenOperation solid index op' = screenOperation solid index op) :
    screenOperations solid index (pre ++ op' :: post) = screenOperations solid index (pre ++ op :: post) := by
  induction pre generalizing index with
  | nil => rw [List.nil_append, List.nil_append, screenOperations, screenOperations, hop]
  | cons first pre ih => rw [List.cons_append, List.cons_append, screenOperations, screenOperations, ih]

/-- What is under the position of an operation after screening. -/
theorem exists_screened_of_append {op' : Json} {ops : List Json}
    (hop : ∀ index, screenOperation solid index op = .ok op')
    (h : screenOperations solid index (pre ++ op :: post) = .ok ops) :
    ∃ pre' post', pre'.length = pre.length ∧ ops = pre' ++ op' :: post' := by
  induction pre generalizing index ops with
  | nil =>
    rw [List.nil_append, screenOperations, hop] at h
    obtain ⟨post', hpost, hops⟩ := exists_of_bind_eq_ok (show screenOperations solid (index + 1) post >>= _ = _ from h)
    cases hops
    exact ⟨[], post', rfl, rfl⟩
  | cons first pre ih =>
    rw [List.cons_append, screenOperations] at h
    obtain ⟨first', hfirst, h⟩ := exists_of_bind_eq_ok h
    obtain ⟨rest, hrest, hops⟩ := exists_of_bind_eq_ok h
    cases hops
    obtain ⟨pre', post', hlength, rfl⟩ := ih hrest
    exact ⟨first' :: pre', post', by simp [hlength], rfl⟩

end

/-! ### Decoded fields -/

namespace Json.Fields

variable {α β : Type} {ms : List (String × Json)}

theorem exists_of_seq {f : Fields (α → β)} {x : Fields α} {b : β} (h : (f <*> x).ofMembers ms = .ok b) :
    ∃ g a, f.ofMembers ms = .ok g ∧ x.ofMembers ms = .ok a ∧ b = g a := by
  change (andThen f x).ofMembers ms = .ok b at h
  simp only [andThen] at h
  cases hf : f.ofMembers ms with
  | error fault =>
    cases hx : x.ofMembers ms <;> simp [hf, hx] at h
  | ok g =>
    cases hx : x.ofMembers ms with
    | error fault => simp [hf, hx] at h
    | ok a =>
      simp only [hf, hx, Except.ok.injEq] at h
      exact ⟨g, a, rfl, rfl, h.symm⟩

theorem exists_of_map {f : α → β} {x : Fields α} {b : β} (h : (f <$> x).ofMembers ms = .ok b) :
    ∃ a, x.ofMembers ms = .ok a ∧ b = f a := by
  change (andThen (const f) x).ofMembers ms = .ok b at h
  simp only [andThen, const] at h
  cases hx : x.ofMembers ms with
  | error fault => simp [hx] at h
  | ok a =>
    simp only [hx, Except.ok.injEq] at h
    exact ⟨a, rfl, h.symm⟩

/-- A field that is there was decoded from its member. -/
theorem eq_ok_of_oneOf {name : String} {value : Decoder α} {absent : Option α} {a : α} {w : Json}
    (h : (oneOf name [] value absent).ofMembers ms = .ok a) (hget : (Json.object ms).get? name = some w) :
    value w = .ok a := by
  have hfilter : (fun m : String × Json => m.1 == name || ([] : List String).contains m.1) = fun m => m.1 == name := by
    funext m
    simp
  rw [get?, ← List.head?_filter] at hget
  simp only [oneOf, hfilter] at h
  cases hms : ms.filter fun m => m.1 == name with
  | nil =>
    rw [hms] at hget
    cases hget
  | cons m rest =>
    rw [hms] at hget h
    cases hget
    cases hvalue : value m.2 with
    | error e => simp [hvalue] at h
    | ok a' =>
      cases rest with
      | nil =>
        simp only [hvalue, Except.ok.injEq] at h
        rw [h]
      | cons _ _ => simp [hvalue] at h

theorem eq_ok_of_record {fields : Fields α} {excess : Excess} {name : String} {a : α}
    (h : Decoder.record excess name fields (.object ms) = .ok a) : fields.ofMembers ms = .ok a := by
  rw [Decoder.record] at h
  exact eq_ok_of_mapError_eq_ok h

end Json.Fields

theorem Json.getElem?_of_mapM {α : Type} {item : Decoder α} {pre post : List Json} {v : Json} {as : List α}
    (h : (pre ++ v :: post).mapM item = .ok as) : ∃ a, as[pre.length]? = some a ∧ item v = .ok a := by
  induction pre generalizing as with
  | nil =>
    rw [List.nil_append, List.mapM_cons] at h
    obtain ⟨a, hv, h⟩ := exists_of_bind_eq_ok h
    obtain ⟨rest, -, has⟩ := exists_of_bind_eq_ok h
    cases has
    exact ⟨a, rfl, hv⟩
  | cons first pre ih =>
    rw [List.cons_append, List.mapM_cons] at h
    obtain ⟨_, -, h⟩ := exists_of_bind_eq_ok h
    obtain ⟨rest, hrest, has⟩ := exists_of_bind_eq_ok h
    cases has
    exact ih hrest

section

variable {ms : List (String × Json)}

theorem Job.solid_of_record {job : Job} {solid : Json} (h : Decoder.record .array "Job" fields (.object ms) = .ok job)
    (hsolid : (Json.object ms).get? "solid" = some solid) : SolidSpec.decode solid = .ok job.solid := by
  obtain ⟨_, _, hthree, -, rfl⟩ := Fields.exists_of_seq (Fields.eq_ok_of_record h)
  obtain ⟨_, _, htwo, -, rfl⟩ := Fields.exists_of_seq hthree
  obtain ⟨_, _, hone, -, rfl⟩ := Fields.exists_of_seq htwo
  obtain ⟨_, hfield, rfl⟩ := Fields.exists_of_map hone
  exact Fields.eq_ok_of_oneOf hfield hsolid

theorem SolidSpec.operations_of_decode {spec : SolidSpec Float} {items : List Json}
    (h : SolidSpec.decode (.object ms) = .ok spec) (hops : (Json.object ms).get? "operations" = some (.list items)) :
    items.mapM Operation.decode = .ok spec.operations := by
  obtain ⟨_, operations, hid, hfield, rfl⟩ := Fields.exists_of_seq (Fields.eq_ok_of_record h)
  obtain ⟨id, -, rfl⟩ := Fields.exists_of_map hid
  exact Fields.eq_ok_of_oneOf hfield hops

theorem ThroughHole.axis_of_decode {op : Operation Float} {axis : Axis} (h : Operation.decode (.object ms) = .ok op)
    (htype : (Json.object ms).get? "type" = some (.text OperationKind.throughHole.name))
    (haxis : (Json.object ms).get? "axis" = some (.text axis.letter)) :
    ∃ hole, op = .throughHole hole ∧ hole.axis = axis := by
  obtain ⟨⟨key, tag⟩, hfind, htag⟩ := Option.map_eq_some_iff.1 htype
  obtain rfl : tag = .text OperationKind.throughHole.name := htag
  have hkind : OperationKind.decode (.text OperationKind.throughHole.name) = .ok .throughHole := by
    rw [OperationKind.decode, variant, OperationKind.ofName?_name]
  rw [Operation.decode, hfind] at h
  obtain ⟨kind, hdecode, h⟩ := exists_of_bind_eq_ok
    (show OperationKind.decode (.text OperationKind.throughHole.name) >>= _ = .ok op from h)
  obtain rfl : .throughHole = kind := Except.ok.inj (hkind.symm.trans hdecode)
  have hmap : (Decoder.record .sequence OperationKind.throughHole.name ThroughHole.fields (.object ms)).map _ =
      .ok op := h
  obtain ⟨hole, hhole, hop⟩ := exists_of_map_eq_ok hmap
  refine ⟨hole, hop.symm, ?_⟩
  obtain ⟨_, center, hthree, -, rfl⟩ := Fields.exists_of_seq (Fields.eq_ok_of_record hhole)
  obtain ⟨_, decoded, htwo, hfield, rfl⟩ := Fields.exists_of_seq hthree
  obtain ⟨_, depth, hone, -, rfl⟩ := Fields.exists_of_seq htwo
  obtain ⟨radius, -, rfl⟩ := Fields.exists_of_map hone
  have hletter : Axis.decode (.text axis.letter) = .ok axis := by
    cases axis <;> rfl
  have hdecoded : Axis.decode (.text axis.letter) = .ok decoded := Fields.eq_ok_of_oneOf hfield haxis
  exact Except.ok.inj (hdecoded.symm.trans hletter)

end

/-! ### Jobs -/

namespace Job

variable {v solid : Json} {pre post : List Json} {op : Json}

theorem decode_eq (hsolid : v.get? "solid" = some solid) : decode v = screenSolid solid >>= fun solid =>
    (Decoder.record .array "Job" fields (v.replace "solid" solid)).mapError .decode := by
  rw [decode, hsolid]

theorem screenSolid_eq {ops : List Json} (hops : solid.get? "operations" = some (.list ops)) : screenSolid solid =
    (screenOperations solid.idText 0 ops).map fun ops =>
      solid.replace "operations" (.list ops) := by
  rw [screenSolid, hops]
  rfl

/-- An operation of an unknown kind does not reach the decoder. -/
theorem decode_of_not_isKnown (hsolid : v.get? "solid" = some solid)
    (hops : solid.get? "operations" = some (.list (pre ++ op :: post))) (hop : ¬ op.IsKnown) :
    (∃ fault, decode v = .error fault ∧ fault.IsOfScreening) ∧
      ((∀ earlier ∈ pre, earlier.IsScreened) → decode v = .error (.unsupportedOperation op.shownKind)) := by
  have hrefused {fault : JobFault} (h : screenOperations solid.idText 0
      (pre ++ op :: post) = .error fault) : decode v = .error fault := by
    rw [decode_eq hsolid, screenSolid_eq hops, h]
    rfl
  have hrefusal (index : Nat) : screenOperation solid.idText index op = .error (.unsupportedOperation op.shownKind) :=
    screenOperation_of_not_isKnown hop
  obtain ⟨⟨fault, hfault⟩, hfirst⟩ := screenOperations_of_refused hrefusal
  exact ⟨⟨fault, hrefused hfault, screenOperations_isOfScreening hfault⟩, fun hpre => hrefused (hfirst hpre)⟩

/-- Without a list of operations in an object nothing is screened. -/
theorem screenSolid_of_unscreened (hops : ∀ ops, solid.get? "operations" ≠ some (.list ops)) :
    screenSolid solid = .ok solid := by
  unfold screenSolid
  split
  · rename_i ops h
    exact absurd h (hops ops)
  · rfl

theorem decode_of_unscreened (hsolid : v.get? "solid" = some solid)
    (hops : ∀ ops, solid.get? "operations" ≠ some (.list ops)) :
    decode v = (Decoder.record .array "Job" fields (v.replace "solid" solid)).mapError .decode := by
  rw [decode_eq hsolid, screenSolid_of_unscreened hops]
  rfl

/-- What the axis of a hole is written like makes no difference. -/
theorem decode_replace_axis (hsolid : v.get? "solid" = some solid)
    (hops : solid.get? "operations" = some (.list (pre ++ op :: post))) {literal : String} {axis : Axis}
    (htype : op.get? "type" = some (.text OperationKind.throughHole.name))
    (haxis : op.get? "axis" = some (.text literal)) (h : Axis.parse? literal = some axis) :
    decode (v.replace "solid" (solid.replace "operations"
      (.list (pre ++ op.replace "axis" (.text axis.letter) :: post)))) = decode v := by
  have hsolid' := Json.get?_replace_self hsolid (solid.replace "operations"
    (.list (pre ++ op.replace "axis" (.text axis.letter) :: post)))
  have hops' := Json.get?_replace_self hops (.list (pre ++ op.replace "axis" (.text axis.letter) :: post))
  have hid : (solid.replace "operations"
      (.list (pre ++ op.replace "axis" (.text axis.letter) :: post))).idText = solid.idText := by
    rw [Json.idText, Json.get?_replace_of_ne (by decide), ← Json.idText]
  have hop (index : Nat) : screenOperation solid.idText index (op.replace "axis" (.text axis.letter)) =
      screenOperation solid.idText index op := screenOperation_replace_axis htype haxis h
  rw [decode_eq hsolid, decode_eq hsolid', screenSolid_eq hops, screenSolid_eq hops', hid, screenOperations_congr hop]
  simp only [Json.replace_replace]

/-- A job is decoded with the axes that are written. -/
theorem axis_of_decode (hsolid : v.get? "solid" = some solid)
    (hops : solid.get? "operations" = some (.list (pre ++ op :: post))) {literal : String} {axis : Axis}
    (htype : op.get? "type" = some (.text OperationKind.throughHole.name))
    (haxis : op.get? "axis" = some (.text literal)) (h : Axis.parse? literal = some axis) {job : Job}
    (hjob : decode v = .ok job) : ∃ hole, job.solid.operations[pre.length]? = some (.throughHole hole) ∧
      hole.axis = axis := by
  rw [decode_eq hsolid, screenSolid_eq hops] at hjob
  obtain ⟨screened, hscreened, hjob⟩ := exists_of_bind_eq_ok hjob
  obtain ⟨ops, hscreen, rfl⟩ := exists_of_map_eq_ok hscreened
  have hrecord := eq_ok_of_mapError_eq_ok hjob
  have hop (index : Nat) : screenOperation solid.idText index op =
      .ok (op.replace "axis" (.text axis.letter)) := by
    rw [screenOperation_throughHole htype, screenAxis_of_parse? haxis h]
  obtain ⟨pre', post', hlength, rfl⟩ := exists_screened_of_append hop hscreen
  obtain ⟨ms, rfl⟩ := Json.exists_object_of_get? hsolid
  obtain ⟨ns, rfl⟩ := Json.exists_object_of_get? hops
  obtain ⟨fs, rfl⟩ := Json.exists_object_of_get? htype
  -- the members that were put in are the ones that are decoded
  have hops' := Json.get?_replace_self hops
    (.list (pre' ++ (Json.object fs).replace "axis" (.text axis.letter) :: post'))
  have hsolid' := Json.get?_replace_self hsolid ((Json.object ns).replace "operations"
    (.list (pre' ++ (Json.object fs).replace "axis" (.text axis.letter) :: post')))
  have haxis' := Json.get?_replace_self haxis (.text axis.letter)
  have htype' : ((Json.object fs).replace "axis" (.text axis.letter)).get? "type" =
      some (.text OperationKind.throughHole.name) := (Json.get?_replace_of_ne (by decide)).trans htype
  have hitems := SolidSpec.operations_of_decode (solid_of_record hrecord hsolid') hops'
  obtain ⟨decoded, hget, hdecoded⟩ := Json.getElem?_of_mapM hitems
  obtain ⟨hole, rfl, hhole⟩ := ThroughHole.axis_of_decode hdecoded htype' haxis'
  exact ⟨hole, hlength ▸ hget, hhole⟩

/-- No operation of an unknown kind gets through the screening, and the axis of a hole may be written in either case,
if the solid is an object with a list of operations. Of another solid the decoder sees what is written. -/
theorem decode_of_screened (hsolid : v.get? "solid" = some solid) :
    (∀ pre op post, solid.get? "operations" = some (.list (pre ++ op :: post)) →
      (¬ op.IsKnown → (∃ fault, decode v = .error fault ∧ fault.IsOfScreening) ∧
        ((∀ earlier ∈ pre, earlier.IsScreened) → decode v = .error (.unsupportedOperation op.shownKind))) ∧
      ∀ literal axis, op.get? "type" = some (.text OperationKind.throughHole.name) →
        op.get? "axis" = some (.text literal) → Axis.parse? literal = some axis →
        decode (v.replace "solid" (solid.replace "operations"
            (.list (pre ++ op.replace "axis" (.text axis.letter) :: post)))) = decode v ∧
          ∀ job, decode v = .ok job →
            ∃ hole, job.solid.operations[pre.length]? = some (.throughHole hole) ∧ hole.axis = axis) ∧
      ((∀ ops, solid.get? "operations" ≠ some (.list ops)) →
        ∀ fault, decode v = .error fault → ∃ error, fault = .decode error) := by
  refine ⟨fun pre op post hops => ⟨decode_of_not_isKnown hsolid hops, ?_⟩, ?_⟩
  · intro literal axis htype haxis hparse
    exact ⟨decode_replace_axis hsolid hops htype haxis hparse, fun job => axis_of_decode hsolid hops htype haxis hparse⟩
  · intro hops fault hfault
    rw [decode_of_unscreened hsolid hops] at hfault
    cases hrecord : Decoder.record .array "Job" fields (v.replace "solid" solid) with
    | error error =>
      rw [hrecord] at hfault
      cases hfault
      exact ⟨error, rfl⟩
    | ok job =>
      rw [hrecord] at hfault
      cases hfault

end Job

/-- A job with nothing on its page. -/
def Json.jobOf (solid : Json) : Json :=
  .object [("solid", solid),
    ("drawing", .object [("page_title", .text "Plate"), ("template_reference", .text "A4")]),
    ("output_pdf", .text "plate.pdf")]

/-- A plate. -/
def Json.plate : Json :=
  .object [("type", .text "BaseBox"), ("width", .whole 8), ("depth", .whole 8), ("height", .whole 2)]

/-- What is done to the plate, along an axis. -/
def Json.alongAxis (kind axis : String) : Json :=
  .object [("type", .text kind), ("radius", .whole 1), ("depth", .whole 8), ("axis", .text axis)]

/-- A solid in the form of an object. -/
def Json.solidObject (ops : List Json) : Json := .object [("id", .text "plate"), ("operations", .list ops)]

namespace Job

open Json (jobOf plate alongAxis solidObject)

theorem decode_of_screened_plate :
    decode (jobOf (solidObject [plate, alongAxis "Fillet" "x"])) = .error (.unsupportedOperation "Fillet") ∧
      decode (jobOf (solidObject [plate, alongAxis "ThroughHole" "X"])) =
        decode (jobOf (solidObject [plate, alongAxis "ThroughHole" "x"])) ∧
      ∃ job hole, decode (jobOf (solidObject [plate, alongAxis "ThroughHole" "X"])) = .ok job ∧
        job.solid.operations[1]? = some (.throughHole hole) ∧ hole.axis = .x := by
  have hplate : ∀ earlier ∈ [plate], earlier.IsScreened := by
    simp only [List.forall_mem_singleton]
    refine ⟨⟨.baseBox, rfl⟩, fun htype => ?_⟩
    have hname : Json.text "BaseBox" = .text "ThroughHole" := Option.some.inj htype
    simp at hname
  have hfillet : ¬ (alongAxis "Fillet" "x").IsKnown := by
    rintro ⟨kind, htype⟩
    have hname : "Fillet" = kind.name := Json.text.inj (Option.some.inj htype)
    cases kind <;> simp [OperationKind.name] at hname
  have hrefused := ((decode_of_screened (v := jobOf (solidObject [plate, alongAxis "Fillet" "x"])) rfl).1
    [plate] _ [] rfl).1 hfillet
  obtain ⟨hletter, hhole⟩ := ((decode_of_screened (v := jobOf (solidObject [plate, alongAxis "ThroughHole" "X"]))
    rfl).1 [plate] _ [] rfl).2 "X" .x rfl rfl (by decide)
  obtain ⟨job, hjob⟩ : ∃ job, decode (jobOf (solidObject [plate, alongAxis "ThroughHole" "X"])) = .ok job := ⟨_, rfl⟩
  obtain ⟨hole, hget, haxis⟩ := hhole job hjob
  exact ⟨hrefused.2 hplate, hletter.symm, job, hole, hjob, hget, haxis⟩

/-- In a solid that is written as a list neither an unknown kind nor a large letter is seen before the decoder sees
it. -/
theorem unscreened_listedSolid :
    decode (jobOf (.list [.text "plate", .list [plate, alongAxis "Fillet" "x"]])) =
        .error (.decode (.unknownVariant "Fillet" (OperationKind.all.map OperationKind.name))) ∧
      (decode (jobOf (.list [.text "plate", .list [plate, alongAxis "ThroughHole" "x"]]))).isOk = true ∧
      decode (jobOf (.list [.text "plate", .list [plate, alongAxis "ThroughHole" "X"]])) =
        .error (.decode (.unknownVariant "X" ["x", "y", "z"])) :=
  ⟨rfl, rfl, rfl⟩

end Job

end SolidDrawing
