import SolidDrawing.Proofs.JobEncoding

/-!
# Defaults of jobs

A job is read back from its JSON form although members that have their defaults are left out of it, with one exception:
the center of a cut. It has no default for the decoder, unlike that of a hole, so that without it the job cannot be
decoded (`Job.decode_abridged`, `Job.decode_uncenteredPocket`).

The center of a hole that is left out is read as the origin with zeros above, whatever the signs of its zeros were.
-/

namespace SolidDrawing

open Json (Decoder Fields Rearranged Abridged AbridgedMembers)

namespace Json

/-- A cut that is written without its center. -/
def IsUncentered (op : Json) : Prop :=
  op.get? "type" = some (.text OperationKind.cutBox.name) ∧ op.get? "center" = none

/-- The items of the list under a key. -/
def itemsUnder (key : String) (v : Json) : List Json :=
  match v.get? key with
  | some (.list items) => items
  | _ => []

/-- Among the operations of the job is a cut without its center. -/
def HasUncenteredCut (job : Json) : Prop :=
  ∃ solid, job.get? "solid" = some solid ∧ ∃ op ∈ solid.itemsUnder "operations", op.IsUncentered

theorem get?_of_filter {ms : List (String × Json)} {key : String} {v : Json}
    (h : ms.filter (fun m => m.1 == key) = [(key, v)]) : (object ms).get? key = some v := by
  rw [get?, ← List.head?_filter, h]
  rfl

theorem itemsUnder_of_filter {ms : List (String × Json)} {key : String} {items : List Json}
    (h : ms.filter (fun m => m.1 == key) = [(key, .list items)]) : (object ms).itemsUnder key = items := by
  rw [itemsUnder, get?_of_filter h]

end Json

/-! ### Operations -/

namespace Operation

/-- The second operation is the first one, but a hole at the origin may have lost the signs of its zeros. -/
inductive SameUpToZeros : Operation Float → Operation Float → Prop
  | refl (op : Operation Float) : SameUpToZeros op op
  | hole {hole : ThroughHole Float} (origin : (hole.center == .zero) = true) :
    SameUpToZeros (.throughHole hole) (.throughHole { hole with center := .zero })

/-- Where the zeros of centers have no signs there are none to lose. -/
theorem eq_of_sameUpToZeros {ops ops' : List (Operation Float)} (h : List.Forall₂ SameUpToZeros ops ops')
    (hzero : ∀ hole, .throughHole hole ∈ ops → (hole.center == .zero) = true → hole.center = .zero) : ops' = ops := by
  induction h with
  | nil => rfl
  | @cons op op' ops ops' hop _ ih =>
    have hrest := ih fun hole hmem => hzero hole (List.mem_cons_of_mem op hmem)
    cases hop with
    | refl => rw [hrest]
    | @hole hole origin =>
      have hcenter := hzero hole List.mem_cons_self origin
      rw [hrest, ← hcenter]

variable {ns : List (String × Json)}

theorem refuses_of_fields {α : Type} {fields : Fields α} {kind : OperationKind} {make : α → Operation Float}
    (htype : ns.filter (fun m => m.1 == "type") = [("type", .text kind.name)])
    (hkind : ∀ v, kind.decodeOperation v = (Decoder.record .sequence kind.name fields v).map make) {e : DecodeError}
    (h : fields.Refuses ns e) : Operation.decode.Refuses (.object ns) e := by
  intro w hw
  have hrecord : Decoder.record .sequence kind.name fields w = .error e := h.record .sequence _ w hw
  rw [decode_of_rearranged htype hw, hkind, hrecord]
  rfl

/-- A cut needs its center. -/
theorem refuses_uncentered_cut {c : CutBox Float} (h : c.size.isFinite = true)
    (hns : AbridgedMembers (members (.cutBox c)) ns) (hnone : ns.filter (fun m => m.1 == "center") = []) :
    Operation.decode.Refuses (.object ns) (.missingField "center") := by
  have hfields : CutBox.fields.Refuses ns (.missingField "center") :=
    .seq_right (CutBox.readsAbridged_size h ns hns) (.missing hnone)
  exact refuses_of_fields (filter_type hns) (fun _ => rfl) hfields

/-- A hole without its center is one at the origin. -/
theorem reads_uncentered_hole {hole : ThroughHole Float} (hradius : hole.radius.isFinite = true)
    (hdepth : hole.depth.isFinite = true) (hns : AbridgedMembers (members (.throughHole hole)) ns)
    (hnone : ns.filter (fun m => m.1 == "center") = []) :
    Operation.decode.Reads (.object ns) (.throughHole { hole with center := .zero }) := by
  have hfields : ThroughHole.fields.Reads ns { hole with center := .zero } :=
    (ThroughHole.readsAbridged_shape hradius hdepth ns hns).seq (Fields.reads_absent (by simpa using hnone))
  exact reads_of_fields (filter_type hns) (fun _ => rfl) hfields

variable {op : Operation Float} {v : Json}

theorem refuses_of_isUncentered (h : op.IsFinite) (hv : Abridged op.toJson v) (hcut : v.IsUncentered) :
    Operation.decode.Refuses v (.missingField "center") := by
  obtain ⟨ns, rfl, hns⟩ := Abridged.exists_object hv
  obtain ⟨htype, hcenter⟩ := hcut
  have hname : Json.text op.kind.name = .text OperationKind.cutBox.name :=
    Option.some.inj ((Json.get?_of_filter (filter_type hns)).symm.trans htype)
  cases op with
  | cutBox c => exact refuses_uncentered_cut h.1 hns (Json.get?_eq_none_iff.1 hcenter)
  | _ => simp [kind, OperationKind.name] at hname

theorem exists_reads_of_not_isUncentered (h : op.IsFinite) (hv : Abridged op.toJson v) (hcut : ¬ v.IsUncentered) :
    ∃ op', op.SameUpToZeros op' ∧ Operation.decode.Reads v op' := by
  obtain ⟨ns, rfl, hns⟩ := Abridged.exists_object hv
  rcases reads_or_center_omitted h hns with hreads | ⟨c, hc, horigin, hnone⟩
  · exact ⟨op, .refl op, hreads⟩
  · cases op with
    | cutBox cut => exact absurd ⟨Json.get?_of_filter (filter_type hns), Json.get?_eq_none_iff.2 hnone⟩ hcut
    | throughHole hole =>
      obtain rfl := Option.some.inj hc
      exact ⟨_, .hole horigin, reads_uncentered_hole h.1 h.2.1 hns hnone⟩
    | _ => cases hc

/-! ### Lists of operations -/

variable {ops : List (Operation Float)} {vs : List Json}

theorem exists_forall₂_reads (h : ∀ op ∈ ops, op.IsFinite) (hvs : List.Forall₂ Abridged (ops.map toJson) vs)
    (hcuts : ∀ v ∈ vs, ¬ v.IsUncentered) :
    ∃ ops', List.Forall₂ SameUpToZeros ops ops' ∧ List.Forall₂ Operation.decode.Reads vs ops' := by
  induction ops generalizing vs with
  | nil =>
    obtain rfl := List.forall₂_nil_left_iff.1 hvs
    exact ⟨[], .nil, .nil⟩
  | cons op ops ih =>
    obtain ⟨v, vs', hv, hvs', rfl⟩ := List.forall₂_cons_left_iff.1 hvs
    rw [List.forall_mem_cons] at h hcuts
    obtain ⟨op', hsame, hreads⟩ := exists_reads_of_not_isUncentered h.1 hv hcuts.1
    obtain ⟨ops', hsames, hreads'⟩ := ih h.2 hvs' hcuts.2
    exact ⟨op' :: ops', .cons hsame hsames, .cons hreads hreads'⟩

private theorem exists_mem_of_abridged (hvs : List.Forall₂ Abridged (ops.map toJson) vs) :
    ∀ v ∈ vs, ∃ op ∈ ops, Abridged op.toJson v := by
  rw [List.forall₂_map_left_iff] at hvs
  induction hvs with
  | nil => exact nofun
  | @cons op v ops vs hv _ ih =>
    refine List.forall_mem_cons.2 ⟨⟨op, List.mem_cons_self, hv⟩, fun v' hv' => ?_⟩
    obtain ⟨op', hop', habridged⟩ := ih v' hv'
    exact ⟨op', List.mem_cons_of_mem op hop', habridged⟩

/-- A list of operations fails with the first of its cuts that has no center. -/
theorem refuses_list (h : ∀ op ∈ ops, op.IsFinite) (hvs : List.Forall₂ Abridged (ops.map toJson) vs)
    (hcut : ∃ v ∈ vs, v.IsUncentered) :
    (Decoder.list Operation.decode).Refuses (.list vs) (.missingField "center") := by
  have hrefused : ∀ v ∈ vs, v.IsUncentered → Operation.decode.Refuses v (.missingField "center") := by
    intro v hv huncentered
    obtain ⟨op, hop, habridged⟩ := exists_mem_of_abridged hvs v hv
    exact refuses_of_isUncentered (h op hop) habridged huncentered
  obtain ⟨cut, hmem, hcut⟩ := hcut
  refine Decoder.refuses_items (fun v hv => ?_) ⟨cut, hmem, hrefused cut hmem hcut⟩
  by_cases huncentered : v.IsUncentered
  · exact .inr (hrefused v hv huncentered)
  · obtain ⟨op, hop, habridged⟩ := exists_mem_of_abridged hvs v hv
    obtain ⟨op', -, hreads⟩ := exists_reads_of_not_isUncentered (h op hop) habridged huncentered
    exact .inl ⟨op', hreads⟩

end Operation

/-! ### Solids -/

namespace SolidSpec

variable {s : SolidSpec Float} {v : Json}

/-- The identifier of a solid is never left out, and its list of operations only if there are none. -/
theorem exists_members (hv : Abridged s.toJson v) :
    ∃ ns, v = .object ns ∧ (Fields.required "id" Decoder.text).Reads ns s.id ∧
      ((∃ vs, List.Forall₂ Abridged (s.operations.map Operation.toJson) vs ∧
          ns.filter (fun m => m.1 == "operations") = [("operations", .list vs)]) ∨
        s.operations = [] ∧ ns.filter (fun m => m.1 == "operations") = []) := by
  obtain ⟨ns, rfl, hns⟩ := Abridged.exists_object hv
  have hid : (Fields.required "id" Decoder.text).Reads ns s.id :=
    Fields.ReadsAbridged.required (Decoder.readsAbridged_text s.id) rfl (by decide) ns hns
  refine ⟨ns, rfl, hid, ?_⟩
  rcases hns.exists_filter (fun k => k == "operations") rfl with ⟨w, hw, hfilter⟩ | ⟨hdefault, hnone⟩
  · obtain ⟨vs, rfl, hvs⟩ := hw.exists_list
    exact .inl ⟨vs, hvs, hfilter⟩
  · refine .inr ⟨?_, hnone⟩
    simpa [Json.IsDefault, Json.defaults] using hdefault

theorem exists_reads (h : ∀ op ∈ s.operations, op.IsFinite) (hv : Abridged s.toJson v)
    (hcuts : ∀ op ∈ v.itemsUnder "operations", ¬ op.IsUncentered) :
    ∃ ops, List.Forall₂ Operation.SameUpToZeros s.operations ops ∧
      SolidSpec.decode.Reads v { s with operations := ops } := by
  obtain ⟨ns, rfl, hid, ⟨vs, hvs, hfilter⟩ | ⟨hempty, hnone⟩⟩ := exists_members hv
  · rw [Json.itemsUnder_of_filter hfilter] at hcuts
    obtain ⟨ops, hsame, hreads⟩ := Operation.exists_forall₂_reads h hvs hcuts
    have hfields : SolidSpec.fields.Reads ns { s with operations := ops } :=
      (hid.map _).seq (.optional (Decoder.reads_items hreads) hfilter _)
    exact ⟨ops, hsame, hfields.record .array _⟩
  · have hfields : SolidSpec.fields.Reads ns { s with operations := [] } :=
      (hid.map _).seq (Fields.reads_absent (by simpa using hnone))
    rw [hempty]
    exact ⟨[], .nil, hfields.record .array _⟩

theorem refuses_uncentered_cut (h : ∀ op ∈ s.operations, op.IsFinite) (hv : Abridged s.toJson v)
    (hcut : ∃ op ∈ v.itemsUnder "operations", op.IsUncentered) :
    SolidSpec.decode.Refuses v (.missingField "center") := by
  obtain ⟨ns, rfl, hid, ⟨vs, hvs, hfilter⟩ | ⟨-, hnone⟩⟩ := exists_members hv
  · rw [Json.itemsUnder_of_filter hfilter] at hcut
    have hfields : SolidSpec.fields.Refuses ns (.missingField "center") :=
      .seq_right (hid.map _) (.oneOf (Operation.refuses_list h hvs hcut) (by simpa using hfilter) _)
    exact hfields.record .array _
  · obtain ⟨op, hop, -⟩ := hcut
    rw [Json.itemsUnder, Json.get?_eq_none_iff.2 hnone] at hop
    cases hop

end SolidSpec

/-! ### Jobs -/

namespace Job

variable {job : Job} {v : Json}

/-- The solid of a job is never left out, and the parts next to it are read as they are. -/
theorem exists_members (h : job.IsFinite) (hv : Abridged job.toJson v) :
    ∃ ns solid, v = .object ns ∧ Abridged job.solid.toJson solid ∧
      ns.filter (fun m => m.1 == "solid") = [("solid", solid)] ∧
      (Fields.required "drawing" DrawingSpec.decode).Reads ns job.drawing ∧
      (Fields.required "output_pdf" Decoder.path).Reads ns job.pdf ∧
      (Fields.optional "output_svg" (Decoder.nullable .path) none).Reads ns job.svg := by
  obtain ⟨ns, rfl, hns⟩ := Abridged.exists_object hv
  obtain ⟨solid, hsolid, hfilter⟩ := hns.exists_filter_of_notMem (fun k => k == "solid") rfl (by decide)
  refine ⟨ns, solid, rfl, hsolid, hfilter, ?drawing, ?pdf, ?svg⟩
  case drawing => exact Fields.ReadsAbridged.required (DrawingSpec.readsAbridged_toJson h.views) rfl (by decide) ns hns
  case pdf => exact Fields.ReadsAbridged.required (Decoder.readsAbridged_path job.pdf) rfl (by decide) ns hns
  case svg =>
    exact Fields.ReadsAbridged.nullable (fun path _ => Decoder.readsAbridged_path path) (fun _ _ => nofun) rfl
      (by simp [Json.IsDefault, Json.defaults]) ns hns

theorem decode_eq_ok_of_centered (h : job.IsFinite) (hv : Abridged job.toJson v) (hcut : ¬ v.HasUncenteredCut) :
    ∃ ops, List.Forall₂ Operation.SameUpToZeros job.solid.operations ops ∧
      ∀ w, Rearranged v w → decode w = .ok { job with solid := { job.solid with operations := ops } } := by
  obtain ⟨ns, solid, rfl, hsolid, hfilter, hdrawing, hpdf, hsvg⟩ := exists_members h hv
  have hcuts : ∀ op ∈ solid.itemsUnder "operations", ¬ op.IsUncentered :=
    fun op hop huncentered => hcut ⟨solid, Json.get?_of_filter hfilter, op, hop, huncentered⟩
  obtain ⟨ops, hsame, hreads⟩ := SolidSpec.exists_reads h.operations hsolid hcuts
  have hfields : fields.Reads ns { job with solid := { job.solid with operations := ops } } :=
    ((((Fields.Reads.required hreads hfilter).map _).seq hdrawing).seq hpdf).seq hsvg
  refine ⟨ops, hsame, fun w hw => ?_⟩
  have hrecord : Decoder.record .array "Job" fields w = .ok _ := hfields.record .array _ w hw
  rw [decode_eq_record hfilter hsolid hw, hrecord]
  rfl

theorem decode_eq_error_of_uncentered (h : job.IsFinite) (hv : Abridged job.toJson v) (hcut : v.HasUncenteredCut)
    {w : Json} (hw : Rearranged v w) : decode w = .error (.decode (.missingField "center")) := by
  obtain ⟨ns, solid, rfl, hsolid, hfilter, hdrawing, hpdf, hsvg⟩ := exists_members h hv
  obtain ⟨solid', hget, huncentered⟩ := hcut
  obtain rfl : solid = solid' := Option.some.inj ((Json.get?_of_filter hfilter).symm.trans hget)
  have hrefused := SolidSpec.refuses_uncentered_cut h.operations hsolid huncentered
  have hfields : fields.Refuses ns (.missingField "center") :=
    ((((Fields.Refuses.oneOf hrefused (by simpa using hfilter) none).map _).seq_left hdrawing).seq_left hpdf).seq_left
      hsvg
  have hrecord : Decoder.record .array "Job" fields w = .error _ := hfields.record .array _ w hw
  rw [decode_eq_record hfilter hsolid hw, hrecord]
  rfl

/-- A job is read back although members that have their defaults are left out, except for the centers of cuts, which
must be there. If the zeros of the centers of its holes have no signs it is the same job. -/
theorem decode_abridged (job : Job) (h : job.IsFinite) {v : Json} (hv : Abridged job.toJson v) :
    (v.HasUncenteredCut → ∀ w, Rearranged v w → decode w = .error (.decode (.missingField "center"))) ∧
      (¬ v.HasUncenteredCut → ∃ ops, List.Forall₂ Operation.SameUpToZeros job.solid.operations ops ∧
        ((∀ hole, .throughHole hole ∈ job.solid.operations → (hole.center == .zero) = true → hole.center = .zero) →
          ops = job.solid.operations) ∧
        ∀ w, Rearranged v w → decode w = .ok { job with solid := { job.solid with operations := ops } }) := by
  refine ⟨fun hcut w hw => decode_eq_error_of_uncentered h hv hcut hw, fun hcut => ?_⟩
  obtain ⟨ops, hsame, hdecode⟩ := decode_eq_ok_of_centered h hv hcut
  exact ⟨ops, hsame, Operation.eq_of_sameUpToZeros hsame, hdecode⟩

end Job

/-- A block with a pocket and a hole. Everything in it that has a default has it. -/
def pocketJob : Job :=
  ⟨⟨"block", [.baseBox ⟨32, 32, 32, true, false⟩, .cutBox ⟨8, 8, 8, .zero⟩, .throughHole ⟨1, 32, .z, .zero⟩]⟩,
    ⟨"Block", "A4", [⟨"top", ⟨0, 0, 1⟩, false, none, none⟩], []⟩, "block.pdf", none⟩

/-- The same job without its defaults, but for the members of the pocket after its size. -/
def barePocketJob (pocket : List (String × Json)) : Json :=
  .object
    [("solid", .object
      [("id", .text "block"),
        ("operations", .list
          [.object [("type", .text "BaseBox"), ("width", .ofFloat 32), ("depth", .ofFloat 32), ("height", .ofFloat 32)],
            .object ([("type", .text "CutBox"), ("width", .ofFloat 8), ("depth", .ofFloat 8), ("height", .ofFloat 8)] ++
              pocket),
            .object [("type", .text "ThroughHole"), ("radius", .ofFloat 1), ("depth", .ofFloat 32)]])]),
      ("drawing", .object
        [("page_title", .text "Block"), ("template_reference", .text "A4"),
          ("views", .list [.object [("id", .text "top"), ("direction", (Vec3.mk 0 0 1).toJson)]])]),
      ("output_pdf", .text "block.pdf")]

theorem Json.isDefault_center_zero : IsDefault "center" Vec3.zero.toJson :=
  .inr ⟨rfl, .zero, by decide +kernel, rfl⟩

theorem abridged_barePocketJob {pocket : List (String × Json)}
    (h : AbridgedMembers [("center", Vec3.zero.toJson)] pocket) : Abridged pocketJob.toJson (barePocketJob pocket) := by
  -- of every object the first members are kept, and what stands behind them has its default
  have hbase : Abridged (Operation.toJson (.baseBox ⟨32, 32, 32, true, false⟩)) (.object _) :=
    .object (.keep (.omitAll (by simp [Json.IsDefault, Json.defaults])) [_, _, _, _])
  have hcut : Abridged (Operation.toJson (.cutBox ⟨8, 8, 8, .zero⟩)) (.object _) := .object (.keep h [_, _, _, _])
  have hhole : Abridged (Operation.toJson (.throughHole ⟨1, 32, .z, .zero⟩)) (.object _) :=
    .object (.keep (.omitted (.inl (by simp [Json.defaults, Axis.letter])) (.omitted Json.isDefault_center_zero .nil))
      [_, _, _])
  have hview : Abridged (ViewSpec.toJson ⟨"top", ⟨0, 0, 1⟩, false, none, none⟩) (.object _) :=
    .object (.keep (.omitAll (by simp [Json.IsDefault, Json.defaults, Json.ofOption])) [_, _])
  have hsolid : Abridged pocketJob.solid.toJson (.object _) :=
    .object (.keep (.kept "operations" (.list (.cons hbase (.cons hcut (.cons hhole .nil)))) .nil) [_])
  have hdimensions : AbridgedMembers [("dimensions", .list [])] [] :=
    .omitAll (by simp [Json.IsDefault, Json.defaults])
  have hdrawing : Abridged pocketJob.drawing.toJson (.object _) :=
    .object (.keep (.kept "views" (.list (.cons hview .nil)) hdimensions) [_, _])
  have hsvg : AbridgedMembers [("output_svg", .null)] [] := .omitAll (by simp [Json.IsDefault, Json.defaults])
  exact .object (.kept "solid" hsolid (.kept "drawing" hdrawing (.keep hsvg [_])))

namespace Job

theorem decode_abridged_pocketJob :
    let bare := barePocketJob [("center", Vec3.zero.toJson)]
    pocketJob.IsFinite ∧ Abridged pocketJob.toJson bare ∧ ¬ bare.HasUncenteredCut ∧ decode bare = .ok pocketJob := by
  intro bare
  have hfinite : pocketJob.IsFinite := by decide +kernel
  have hbare : Abridged pocketJob.toJson bare := abridged_barePocketJob (.refl _)
  have hcentered : ¬ bare.HasUncenteredCut := by
    simp [bare, Json.HasUncenteredCut, Json.IsUncentered, Json.itemsUnder, Json.get?, barePocketJob,
      OperationKind.name]
  obtain ⟨ops, -, hsame, hdecode⟩ := (decode_abridged pocketJob hfinite hbare).2 hcentered
  have hops : ops = pocketJob.solid.operations := by
    refine hsame fun hole hmem _ => ?_
    obtain rfl : hole = ⟨1, 32, .z, .zero⟩ := by simpa [pocketJob] using hmem
    rfl
  refine ⟨hfinite, hbare, hcentered, ?_⟩
  rw [hdecode bare (.refl bare), hops]

/-- The pocket is at the origin, and without its center the job cannot be decoded. -/
theorem decode_uncenteredPocket :
    pocketJob.IsFinite ∧ Abridged pocketJob.toJson (barePocketJob []) ∧
      decode (barePocketJob []) = .error (.decode (.missingField "center")) := by
  have hbare : Abridged pocketJob.toJson (barePocketJob []) :=
    abridged_barePocketJob (.omitted Json.isDefault_center_zero .nil)
  exact ⟨by decide +kernel, hbare, rfl⟩

end Job

end SolidDrawing
