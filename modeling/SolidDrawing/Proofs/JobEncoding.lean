import SolidDrawing.Job.Decoding
import SolidDrawing.Job.Encoding
import SolidDrawing.Proofs.JobEndings
import SolidDrawing.Proofs.OmittedMembers

/-!
# Encoded jobs

Every job whose numbers are finite is read back from its JSON form, and so is the job that a report repeats. The parts
of a job are also read where members that have their defaults are left out; only the centers of operations are looked at
on their own, since that of a cut has no default.
-/

namespace SolidDrawing

open Json (Decoder Fields Rearranged RearrangedMembers Abridged AbridgedMembers)

/-! ### Finite numbers -/

/-- The numbers of the operation are finite. -/
def Operation.IsFinite : Operation Float → Prop
  | sketchCircle c => c.radius.isFinite = true
  | extrude e => e.length.isFinite = true
  | baseBox b => b.size.isFinite = true
  | cutBox c => c.size.isFinite = true ∧ c.center.isFinite = true
  | throughHole h => h.radius.isFinite = true ∧ h.depth.isFinite = true ∧ h.center.isFinite = true

/-- The numbers of the view are finite. -/
structure ViewSpec.IsFinite (v : ViewSpec Float) : Prop where
  direction : v.direction.isFinite = true
  sectionNormal : ∀ normal ∈ v.sectionNormal, normal.isFinite = true
  scale : ∀ scale ∈ v.scale, scale.isFinite = true

/-- The numbers of the solid and of the drawing are finite. -/
structure Job.IsFinite (job : Job) : Prop where
  operations : ∀ op ∈ job.solid.operations, op.IsFinite
  views : ∀ v ∈ job.drawing.views, v.IsFinite

instance (op : Operation Float) : Decidable op.IsFinite :=
  match op with
  | .sketchCircle c => inferInstanceAs (Decidable (c.radius.isFinite = true))
  | .extrude e => inferInstanceAs (Decidable (e.length.isFinite = true))
  | .baseBox b => inferInstanceAs (Decidable (b.size.isFinite = true))
  | .cutBox c => inferInstanceAs (Decidable (c.size.isFinite = true ∧ c.center.isFinite = true))
  | .throughHole h =>
    inferInstanceAs (Decidable (h.radius.isFinite = true ∧ h.depth.isFinite = true ∧ h.center.isFinite = true))

instance (v : ViewSpec Float) : Decidable v.IsFinite :=
  decidable_of_iff (v.direction.isFinite = true ∧ (∀ normal ∈ v.sectionNormal, normal.isFinite = true) ∧
    ∀ scale ∈ v.scale, scale.isFinite = true) ⟨fun h => ⟨h.1, h.2.1, h.2.2⟩, fun h => ⟨h.1, h.2, h.3⟩⟩

instance (job : Job) : Decidable job.IsFinite :=
  decidable_of_iff ((∀ op ∈ job.solid.operations, op.IsFinite) ∧ ∀ v ∈ job.drawing.views, v.IsFinite)
    ⟨fun h => ⟨h.1, h.2⟩, fun h => ⟨h.1, h.2⟩⟩

theorem Vec3.isFinite_iff (v : Vec3 Float) :
    v.isFinite = true ↔ v.x.isFinite = true ∧ v.y.isFinite = true ∧ v.z.isFinite = true := by
  simp [isFinite, Scalar.isFinite, and_assoc]

/-! ### Parts of a job -/

private theorem eq_of_rearranged_real {xs : List Float} {ws : List Json}
    (h : List.Forall₂ Rearranged (xs.map .real) ws) : ws = xs.map .real := by
  induction xs generalizing ws with
  | nil => exact List.forall₂_nil_left_iff.1 h
  | cons x xs ih =>
    obtain ⟨w, rest, hw, hrest, rfl⟩ := List.forall₂_cons_left_iff.1 h
    cases hw
    rw [ih hrest, List.map_cons]

theorem Vec3.reads_toJson (excess : Json.Excess) {v : Vec3 Float} (h : v.isFinite = true) :
    (Vec3.decode excess).Reads v.toJson v := by
  obtain ⟨hx, hy, hz⟩ := v.isFinite_iff.1 h
  intro w hw
  have hjson : v.toJson = .list ([v.x, v.y, v.z].map .real) := by
    simp [toJson, Json.ofFloat, hx, hy, hz]
  rw [hjson] at hw
  obtain ⟨ws, rfl, hws⟩ := hw.exists_list
  obtain rfl := eq_of_rearranged_real hws
  rfl

theorem Vec3.isPlain_toJson (v : Vec3 Float) : v.toJson.IsPlain := by
  refine Json.isPlain_list ?_
  simp [Json.isPlain_ofFloat]

theorem Axis.reads_letter (a : Axis) : Axis.decode.Reads (.text a.letter) a := by
  rintro w ⟨⟩
  cases a <;> rfl

/-! ### Operations -/

namespace Operation

/-- The members of an operation in its written form. -/
def members (op : Operation Float) : List (String × Json) := ("type", .text op.kind.name) :: op.fields

/-- The center of a cut or of a hole. -/
def center? : Operation Float → Option (Vec3 Float)
  | cutBox c => some c.center
  | throughHole h => some h.center
  | _ => none

variable {op : Operation Float} {ns : List (String × Json)}

/-- The kind of an operation is never left out. -/
theorem filter_type (h : AbridgedMembers op.members ns) :
    ns.filter (fun m => m.1 == "type") = [("type", .text op.kind.name)] := by
  have honly : op.members.filter (fun m => m.1 == "type") = [("type", .text op.kind.name)] := by
    cases op <;> rfl
  obtain ⟨w, hw, hfilter⟩ := h.exists_filter_of_notMem (fun k => k == "type") honly (by decide)
  rwa [Json.isPlain_text _ w hw] at hfilter

theorem decode_eq {kind : OperationKind} (h : (Json.object ns).get? "type" = some (.text kind.name)) :
    Operation.decode (.object ns) = kind.decodeOperation (.object ns) := by
  have hkind : OperationKind.decode (.text kind.name) = .ok kind := by
    rw [OperationKind.decode, variant, OperationKind.ofName?_name]
  obtain ⟨⟨key, tag⟩, hfind, htag⟩ := Option.map_eq_some_iff.1 h
  obtain rfl : tag = .text kind.name := htag
  rw [Operation.decode, hfind]
  change (OperationKind.decode (.text kind.name) >>= fun kind => kind.decodeOperation (.object ns)) = _
  rw [hkind]
  rfl

theorem decode_of_rearranged {kind : OperationKind}
    (htype : ns.filter (fun m => m.1 == "type") = [("type", .text kind.name)]) {w : Json}
    (hw : Rearranged (.object ns) w) : Operation.decode w = kind.decodeOperation w := by
  obtain ⟨ms, rfl, hms⟩ := hw.exists_object
  obtain ⟨tag, htag, hget, -⟩ := hms.exists_get? "type" htype
  cases htag
  exact decode_eq hget

variable {α : Type} {fields : Fields α} {kind : OperationKind} {make : α → Operation Float}

/-- An operation is read by the fields of its kind. -/
theorem reads_of_fields (htype : ns.filter (fun m => m.1 == "type") = [("type", .text kind.name)])
    (hkind : ∀ v, kind.decodeOperation v = (Decoder.record .sequence kind.name fields v).map make) {a : α}
    (h : fields.Reads ns a) : Operation.decode.Reads (.object ns) (make a) := by
  intro w hw
  have hrecord : Decoder.record .sequence kind.name fields w = .ok a := h.record .sequence _ w hw
  rw [decode_of_rearranged htype hw, hkind, hrecord]
  rfl

/-- The center of an operation is as it was, or it is the origin and was left out. -/
theorem filter_center {c : Vec3 Float} (hc : c.isFinite = true) (hop : op.center? = some c)
    (h : AbridgedMembers op.members ns) : ns.filter (fun m => m.1 == "center") = [("center", c.toJson)] ∨
      (c == .zero) = true ∧ ns.filter (fun m => m.1 == "center") = [] := by
  have honly : op.members.filter (fun m => m.1 == "center") = [("center", c.toJson)] := by
    cases op <;> cases hop <;> rfl
  rcases h.exists_filter (fun k => k == "center") honly with ⟨w, hw, hfilter⟩ | ⟨hdefault, hnone⟩
  · rw [c.isPlain_toJson w hw] at hfilter
    exact .inl hfilter
  · refine .inr ⟨?_, hnone⟩
    obtain ⟨hx, hy, hz⟩ := c.isFinite_iff.1 hc
    have horigin : ∃ o : Vec3 Float, (o == .zero) = true ∧ c.x = o.x ∧ c.y = o.y ∧ c.z = o.z := by
      simpa [Json.IsDefault, Json.defaults, Vec3.toJson, Json.ofFloat, hx, hy, hz] using hdefault
    obtain ⟨⟨x, y, z⟩, ho, rfl, rfl, rfl⟩ := horigin
    exact ho

end Operation

section

variable {ns : List (String × Json)}

open Operation (members)

theorem SketchCircle.readsAbridged {c : SketchCircle Float} (h : c.radius.isFinite = true) :
    SketchCircle.fields.ReadsAbridged (members (.sketchCircle c)) c := by
  refine .seq (.map ?radius _) ?isHole
  case radius => exact .required (Decoder.readsAbridged_number h) rfl (by decide)
  case isHole => exact .optional (Decoder.readsAbridged_bool _) rfl (by simp [Json.IsDefault, Json.defaults])

theorem Extrude.readsAbridged {e : Extrude Float} (h : e.length.isFinite = true) :
    Extrude.fields.ReadsAbridged (members (.extrude e)) e := by
  refine .map ?length _
  case length => exact .required (Decoder.readsAbridged_number h) rfl (by decide)

theorem BaseBox.readsAbridged {b : BaseBox Float} (h : b.size.isFinite = true) :
    BaseBox.fields.ReadsAbridged (members (.baseBox b)) b := by
  obtain ⟨hwidth, hdepth, hheight⟩ := b.size.isFinite_iff.1 h
  refine .seq (.seq (.seq (.seq (.map ?width _) ?depth) ?height) ?centeredXy) ?centeredZ
  case width => exact .required (Decoder.readsAbridged_number hwidth) rfl (by decide)
  case depth => exact .required (Decoder.readsAbridged_number hdepth) rfl (by decide)
  case height => exact .required (Decoder.readsAbridged_number hheight) rfl (by decide)
  case centeredXy => exact .optional (Decoder.readsAbridged_bool _) rfl (by simp [Json.IsDefault, Json.defaults])
  case centeredZ => exact .optional (Decoder.readsAbridged_bool _) rfl (by simp [Json.IsDefault, Json.defaults])

/-- The fields of a cut in front of its center. -/
def CutBox.sizeFields : Fields (Vec3 Float → CutBox Float) :=
  CutBox.mk <$> .required "width" .number <*> .required "depth" .number <*> .required "height" .number

theorem CutBox.readsAbridged_size {c : CutBox Float} (h : c.size.isFinite = true) :
    CutBox.sizeFields.ReadsAbridged (members (.cutBox c)) (CutBox.mk c.width c.depth c.height) := by
  obtain ⟨hwidth, hdepth, hheight⟩ := c.size.isFinite_iff.1 h
  refine .seq (.seq (.map ?width _) ?depth) ?height
  case width => exact .required (Decoder.readsAbridged_number hwidth) rfl (by decide)
  case depth => exact .required (Decoder.readsAbridged_number hdepth) rfl (by decide)
  case height => exact .required (Decoder.readsAbridged_number hheight) rfl (by decide)

/-- The fields of a hole in front of its center. -/
def ThroughHole.shapeFields : Fields (Vec3 Float → ThroughHole Float) :=
  ThroughHole.mk <$> .required "radius" .number <*> .required "depth" .number <*> .optional "axis" Axis.decode .z

theorem ThroughHole.readsAbridged_shape {hole : ThroughHole Float} (hradius : hole.radius.isFinite = true)
    (hdepth : hole.depth.isFinite = true) : ThroughHole.shapeFields.ReadsAbridged (members (.throughHole hole))
      (ThroughHole.mk hole.radius hole.depth hole.axis) := by
  refine .seq (.seq (.map ?radius _) ?depth) ?axis
  case radius => exact .required (Decoder.readsAbridged_number hradius) rfl (by decide)
  case depth => exact .required (Decoder.readsAbridged_number hdepth) rfl (by decide)
  case axis =>
    refine .optional ((Axis.reads_letter _).abridged (Json.isPlain_text _)) rfl fun hdefault => ?_
    have hletter : hole.axis.letter = "z" := by
      simpa [Json.IsDefault, Json.defaults] using hdefault
    cases haxis : hole.axis <;> simp [haxis, Axis.letter] at hletter ⊢

end

namespace Operation

/-- An operation is read as it is from its members, unless its center is the origin and was left out. -/
theorem reads_or_center_omitted {op : Operation Float} (h : op.IsFinite) {ns : List (String × Json)}
    (hns : AbridgedMembers op.members ns) : Operation.decode.Reads (.object ns) op ∨
      ∃ c, op.center? = some c ∧ (c == .zero) = true ∧ ns.filter (fun m => m.1 == "center") = [] := by
  have htype := filter_type hns
  cases op with
  | sketchCircle c => exact .inl (reads_of_fields htype (fun _ => rfl) (SketchCircle.readsAbridged h ns hns))
  | extrude e => exact .inl (reads_of_fields htype (fun _ => rfl) (Extrude.readsAbridged h ns hns))
  | baseBox b => exact .inl (reads_of_fields htype (fun _ => rfl) (BaseBox.readsAbridged h ns hns))
  | cutBox c =>
    obtain ⟨hsize, hcenter⟩ := h
    rcases filter_center hcenter rfl hns with hfilter | ⟨horigin, hnone⟩
    · have hfields : CutBox.fields.Reads ns c :=
        (CutBox.readsAbridged_size hsize ns hns).seq (.required (Vec3.reads_toJson _ hcenter) hfilter)
      exact .inl (reads_of_fields htype (fun _ => rfl) hfields)
    · exact .inr ⟨c.center, rfl, horigin, hnone⟩
  | throughHole hole =>
    obtain ⟨hradius, hdepth, hcenter⟩ := h
    rcases filter_center hcenter rfl hns with hfilter | ⟨horigin, hnone⟩
    · have hfields : ThroughHole.fields.Reads ns hole :=
        (ThroughHole.readsAbridged_shape hradius hdepth ns hns).seq
          (.optional (Vec3.reads_toJson _ hcenter) hfilter _)
      exact .inl (reads_of_fields htype (fun _ => rfl) hfields)
    · exact .inr ⟨hole.center, rfl, horigin, hnone⟩

theorem reads_toJson {op : Operation Float} (h : op.IsFinite) : Operation.decode.Reads op.toJson op := by
  refine (reads_or_center_omitted h (.refl op.members)).resolve_right ?_
  rintro ⟨c, hc, -, hnone⟩
  cases op <;> cases hc <;> cases hnone

end Operation

theorem SolidSpec.reads_toJson {s : SolidSpec Float} (h : ∀ op ∈ s.operations, op.IsFinite) :
    SolidSpec.decode.Reads s.toJson s := by
  refine Fields.Reads.record (.seq (.map ?id _) ?operations) .array "SolidSpec"
  case id => exact .required (Decoder.reads_text _) rfl
  case operations =>
    refine .optional (Decoder.reads_items ?_) rfl _
    exact List.forall₂_map_left_iff.2 (List.forall₂_same.2 fun op hop => Operation.reads_toJson (h op hop))

/-! ### Drawings -/

private theorem ofFloat_ne_null {x : Float} (h : x.isFinite = true) : Json.ofFloat x ≠ .null := by
  rw [Json.ofFloat, if_pos h]
  intro hnull
  cases hnull

theorem ViewSpec.readsAbridged_toJson {v : ViewSpec Float} (h : v.IsFinite) :
    ViewSpec.decode.ReadsAbridged v.toJson v := by
  have hvector {u : Vec3 Float} (hu : u.isFinite = true) : (Vec3.decode .array).ReadsAbridged u.toJson u :=
    (Vec3.reads_toJson _ hu).abridged u.isPlain_toJson
  refine Fields.ReadsAbridged.record (.seq (.seq (.seq (.seq (.map ?id _) ?direction) ?isSection) ?normal) ?scale)
    .array "ViewSpec"
  case id => exact .required (Decoder.readsAbridged_text _) rfl (by decide)
  case direction => exact .required (hvector h.direction) rfl (by decide)
  case isSection => exact .optional (Decoder.readsAbridged_bool _) rfl (by simp [Json.IsDefault, Json.defaults])
  case normal =>
    exact .nullable (fun normal hn => hvector (h.sectionNormal normal hn)) (fun _ _ => nofun) rfl
      (by simp [Json.IsDefault, Json.defaults])
  case scale =>
    exact .nullable (fun scale hs => Decoder.readsAbridged_number (h.scale scale hs))
      (fun scale hs => ofFloat_ne_null (h.scale scale hs)) rfl (by simp [Json.IsDefault, Json.defaults])

theorem DimensionSpec.readsAbridged_toJson (d : DimensionSpec) : DimensionSpec.decode.ReadsAbridged d.toJson d := by
  refine Fields.ReadsAbridged.record (.seq (.seq (.seq (.map ?viewId _) ?kind) ?label) ?edges) .array "DimensionSpec"
  case viewId => exact .required (Decoder.readsAbridged_text _) rfl (by decide)
  case kind => exact .required (Decoder.readsAbridged_text _) rfl (by decide)
  case label => exact .required (Decoder.readsAbridged_text _) rfl (by decide)
  case edges =>
    exact .optional (Decoder.readsAbridged_list fun edge _ => Decoder.readsAbridged_text edge) rfl
      (by simp [Json.IsDefault, Json.defaults])

theorem DrawingSpec.readsAbridged_toJson {d : DrawingSpec Float} (h : ∀ v ∈ d.views, v.IsFinite) :
    DrawingSpec.decode.ReadsAbridged d.toJson d := by
  refine Fields.ReadsAbridged.record (.seq (.seq (.seq (.map ?pageTitle _) ?template) ?views) ?dimensions) .array
    "DrawingSpec"
  case pageTitle => exact .required (Decoder.readsAbridged_text _) rfl (by decide)
  case template =>
    exact .oneOf (Decoder.readsAbridged_text _) rfl (by simp [Json.IsDefault, Json.defaults])
  case views =>
    exact .optional (Decoder.readsAbridged_list fun v hv => ViewSpec.readsAbridged_toJson (h v hv)) rfl
      (by simp [Json.IsDefault, Json.defaults])
  case dimensions =>
    exact .optional (Decoder.readsAbridged_list fun d _ => DimensionSpec.readsAbridged_toJson d) rfl
      (by simp [Json.IsDefault, Json.defaults])

/-! ### Screening -/

/-- A value that is written under the key that it has changes nothing. -/
theorem Json.replace_self {ns : List (String × Json)} {key : String} {w : Json}
    (honly : ns.filter (fun m => m.1 == key) = [(key, w)]) : (Json.object ns).replace key w = .object ns := by
  have hmap : ns.map (fun m => if m.1 == key then (key, w) else m) = ns.map id := by
    refine List.map_congr_left fun m hm => ?_
    by_cases hkey : (m.1 == key) = true
    · have hmem : m ∈ ns.filter fun m => m.1 == key := List.mem_filter.2 ⟨hm, hkey⟩
      rw [honly, List.mem_singleton] at hmem
      rw [if_pos hkey, hmem]
      rfl
    · rw [if_neg hkey]
      rfl
  rw [Json.replace, hmap, List.map_id]

theorem Json.get?_eq_none_iff {ns : List (String × Json)} {key : String} :
    (Json.object ns).get? key = none ↔ ns.filter (fun m => m.1 == key) = [] := by
  simp [Json.get?, List.filter_eq_nil_iff]

private theorem parse_letter (a : Axis) : (Axis.parse a.letter : Except (ParameterFault Float) Axis) = .ok a := by
  cases a <;> rfl

/-- Without an axis there is nothing to be done about a hole, and its letter is in the written form. -/
private theorem screenAxis_eq_ok {hole : ThroughHole Float} {ms ns : List (String × Json)}
    (h : AbridgedMembers (Operation.members (.throughHole hole)) ms) (hns : RearrangedMembers ms ns) (solid : String)
    (index : Nat) : screenAxis solid index (.object ns) = .ok (.object ns) := by
  rcases h.exists_filter (fun k => k == "axis") rfl with ⟨v, hv, hfilter⟩ | ⟨-, hnone⟩
  · rw [Json.isPlain_text _ v hv] at hfilter
    obtain ⟨w, hw, hget, honly⟩ := hns.exists_get? "axis" hfilter
    cases hw
    rw [screenAxis, hget]
    simp only [parse_letter]
    rw [Json.replace_self honly]
  · have hget : (Json.object ns).get? "axis" = none :=
      Json.get?_eq_none_iff.2 (hns.filter_eq_nil (fun k => k == "axis") hnone)
    rw [screenAxis, hget]

theorem screenOperation_eq_ok (op : Operation Float) {v w : Json} (hv : Abridged op.toJson v) (hw : Rearranged v w)
    (solid : String) (index : Nat) : screenOperation solid index w = .ok w := by
  obtain ⟨ms, rfl, hms⟩ := Abridged.exists_object hv
  obtain ⟨ns, rfl, hns⟩ := hw.exists_object
  obtain ⟨tag, htag, hget, -⟩ := hns.exists_get? "type" (Operation.filter_type hms)
  cases htag
  rw [screenOperation, hget]
  simp only [OperationKind.ofName?_name]
  cases op with
  | throughHole hole => exact screenAxis_eq_ok hms hns solid index
  | _ => rfl

theorem screenOperations_eq_ok {ops : List (Operation Float)} {vs ws : List Json}
    (hvs : List.Forall₂ Abridged (ops.map Operation.toJson) vs) (hws : List.Forall₂ Rearranged vs ws) (solid : String)
    (index : Nat) : screenOperations solid index ws = .ok ws := by
  induction ops generalizing vs ws index with
  | nil =>
    obtain rfl := List.forall₂_nil_left_iff.1 hvs
    obtain rfl := List.forall₂_nil_left_iff.1 hws
    rfl
  | cons op ops ih =>
    obtain ⟨v, vs', hv, hvs', rfl⟩ := List.forall₂_cons_left_iff.1 hvs
    obtain ⟨w, ws', hw, hws', rfl⟩ := List.forall₂_cons_left_iff.1 hws
    rw [screenOperations, screenOperation_eq_ok op hv hw, ih hvs' hws']
    rfl

/-- Nothing is to be done about a solid in its written form, whichever defaults are left out. -/
theorem screenSolid_eq_ok {s : SolidSpec Float} {v w : Json} (hv : Abridged s.toJson v) (hw : Rearranged v w) :
    screenSolid w = .ok w := by
  obtain ⟨ms, rfl, hms⟩ := Abridged.exists_object hv
  obtain ⟨ns, rfl, hns⟩ := hw.exists_object
  rcases hms.exists_filter (fun k => k == "operations") rfl with ⟨ops, hops, hfilter⟩ | ⟨-, hnone⟩
  · obtain ⟨vs, rfl, hvs⟩ := hops.exists_list
    obtain ⟨ops', hops', hget, honly⟩ := hns.exists_get? "operations" hfilter
    obtain ⟨ws, rfl, hws⟩ := hops'.exists_list
    rw [screenSolid, hget]
    simp only [screenOperations_eq_ok hvs hws, Except.map, Json.replace_self honly]
  · have hget : (Json.object ns).get? "operations" = none :=
      Json.get?_eq_none_iff.2 (hns.filter_eq_nil (fun k => k == "operations") hnone)
    rw [screenSolid, hget]

/-! ### Jobs -/

/-- A job is decoded field by field if its solid is in its written form. -/
theorem Job.decode_eq_record {s : SolidSpec Float} {ms : List (String × Json)} {solid v : Json}
    (hsolid : ms.filter (fun m => m.1 == "solid") = [("solid", solid)]) (hs : Abridged s.toJson solid)
    (hv : Rearranged (.object ms) v) :
    Job.decode v = (Decoder.record .array "Job" Job.fields v).mapError JobFault.decode := by
  obtain ⟨ns, rfl, hns⟩ := hv.exists_object
  obtain ⟨solid', hrearranged, hget, honly⟩ := hns.exists_get? "solid" hsolid
  rw [Job.decode, hget]
  change (screenSolid solid' >>= fun solid => (Decoder.record .array "Job" Job.fields
    ((Json.object ns).replace "solid" solid)).mapError JobFault.decode) = _
  rw [screenSolid_eq_ok hs hrearranged]
  change (Decoder.record .array "Job" Job.fields ((Json.object ns).replace "solid" solid')).mapError JobFault.decode = _
  rw [Json.replace_self honly]

/-- The job is read from members that hold its parts, in whichever order they stand. -/
private theorem decode_eq_ok {job : Job} (h : job.IsFinite) {ms : List (String × Json)} {v : Json}
    (hv : Rearranged (.object ms) v)
    (hsolid : ms.filter (fun m => m.1 == "solid") = [("solid", job.solid.toJson)])
    (hdrawing : ms.filter (fun m => m.1 == "drawing") = [("drawing", job.drawing.toJson)])
    (hpdf : ms.filter (fun m => m.1 == "output_pdf") = [("output_pdf", .text job.pdf)])
    (hsvg : ms.filter (fun m => m.1 == "output_svg") = [("output_svg", .ofOption .text job.svg)]) :
    Job.decode v = .ok job := by
  have hrecord : (Decoder.record .array "Job" Job.fields).Reads (.object ms) job := by
    refine Fields.Reads.record (.seq (.seq (.seq (.map ?solid _) ?drawing) ?pdf) ?svg) .array "Job"
    case solid => exact .required (SolidSpec.reads_toJson h.operations) hsolid
    case drawing => exact .required (DrawingSpec.readsAbridged_toJson h.views).reads hdrawing
    case pdf => exact .required (Decoder.reads_path _) hpdf
    case svg =>
      have hpath : (Decoder.nullable .path).ReadsAbridged (.ofOption .text job.svg) job.svg :=
        Decoder.readsAbridged_ofOption (fun path _ => Decoder.readsAbridged_path path) (fun _ _ => nofun)
      exact .optional hpath.reads hsvg _
  have hjob : Decoder.record .array "Job" Job.fields v = .ok job := hrecord v hv
  rw [Job.decode_eq_record hsolid (.refl _) hv, hjob]
  rfl

theorem Job.decode_toJson {job : Job} (h : job.IsFinite) {v : Json} (hv : Rearranged job.toJson v) :
    Job.decode v = .ok job :=
  decode_eq_ok h hv rfl rfl rfl rfl

/-- A report is read as the job that it repeats, with the paths that were written. -/
theorem JobReport.decode_toJson {report : JobReport}
    (h : Job.IsFinite ⟨report.solid, report.drawing, report.pdf, report.svg⟩) {v : Json}
    (hv : Rearranged report.toJson v) :
    Job.decode v = .ok ⟨report.solid, report.drawing, report.pdf, report.svg⟩ :=
  decode_eq_ok h hv rfl rfl rfl rfl

/-- A job is read back from its JSON form, and from the report of its run, but for the paths, which start at the root
there. -/
theorem Job.decode_written (job : Job) (h : job.IsFinite) :
    (∀ v, Rearranged job.toJson v → Job.decode v = .ok job) ∧
      ∀ {W : Type} (s : Settings) (fs : FileSystem (StateM W)) (names : JobNames) (w : W) (report : JobReport),
        ((s.runJob fs names job).run.run w).1 = .ok report →
        ∃ pdf svg, absolutePath fs.directory job.pdf = .ok pdf ∧
          job.svg.mapM (absolutePath fs.directory) = .ok svg ∧
          ∀ v, Rearranged report.toJson v → Job.decode v = .ok { job with pdf, svg } := by
  refine ⟨fun v => decode_toJson h, ?_⟩
  intro W s fs names w report hrun
  obtain ⟨pdf, svg, hpdf, hsvg, rfl⟩ := s.report_eq fs hrun
  have hfinite : Job.IsFinite ⟨job.solid, job.drawing, pdf, svg⟩ := ⟨h.operations, h.views⟩
  exact ⟨pdf, svg, hpdf, hsvg, fun v => JobReport.decode_toJson hfinite⟩

/-- A disc from above. -/
def discJob : Job :=
  ⟨⟨"disc", [.sketchCircle ⟨20, false⟩, .extrude ⟨2⟩]⟩,
    ⟨"Disc", "A4", [⟨"top", ⟨0, 0, 1⟩, false, none, some 2⟩], [⟨"top", "diameter", "40", []⟩]⟩,
    "out/disc.pdf", some "disc.svg"⟩

theorem Job.decode_written_discJob :
    let fs : FileSystem (StateM Disk) := Disk.fileSystem "/home"
    let done := ((Settings.runJob {} fs .numbered discJob).run.run ⟨[(["home"], .directory)], ["home"]⟩)
    discJob.IsFinite ∧ Job.decode discJob.toJson = .ok discJob ∧
      ∃ report, done.1 = .ok report ∧
        Job.decode report.toJson = .ok { discJob with pdf := "/home/out/disc.pdf", svg := some "/home/disc.svg" } := by
  intro fs done
  have hfinite : discJob.IsFinite := by decide +kernel
  have hok : done.1.isOk = true := by decide +kernel
  obtain ⟨hecho, hreport⟩ := Job.decode_written discJob hfinite
  cases hdone : done.1 with
  | error e =>
    rw [hdone] at hok
    cases hok
  | ok report =>
    obtain ⟨pdf, svg, hpdf, hsvg, hdecode⟩ := hreport {} fs .numbered _ report hdone
    refine ⟨hfinite, hecho _ (.refl _), report, rfl, ?_⟩
    obtain rfl : "/home/out/disc.pdf" = pdf := Except.ok.inj ((by decide +kernel : _ = _).trans hpdf)
    obtain rfl : some "/home/disc.svg" = svg := Except.ok.inj ((by decide +kernel : _ = _).trans hsvg)
    exact hdecode _ (.refl _)

end SolidDrawing
