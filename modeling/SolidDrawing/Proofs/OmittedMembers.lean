import SolidDrawing.Job.Encoding
import SolidDrawing.Proofs.MemberOrder

/-!
# Values without some of their members

A member that has its default (`Json.IsDefault`) may be left out of a value. `Json.Abridged` relates a value to those
that lack some of these members, at any depth. A decoder that takes all of them for `a` reads `a` from the abridged
forms of the value (`Json.Decoder.ReadsAbridged`); as for the order of members there is one rule for each way to put
decoders together, and here the rule for a field asks whether it has the default that the member has.

The last part is about fields that must be there. Where one is not, all that is put together around it fails with the
same error (`Json.Decoder.Refuses`).
-/

namespace SolidDrawing.Json

/-- The members that can be left out of a job, with the values that they have then, but for the centers. -/
def defaults : List (String × Json) :=
  [("is_hole", .bool false), ("centered_xy", .bool true), ("centered_z", .bool false), ("axis", .text "z"),
    ("operations", .list []), ("views", .list []), ("dimensions", .list []), ("edges", .list []),
    ("is_section", .bool false), ("section_normal", .null), ("scale", .null), ("output_svg", .null)]

/-- The member has its default. That of a center is the origin, with zeros of either sign. -/
def IsDefault (key : String) (v : Json) : Prop :=
  (key, v) ∈ defaults ∨
    key = "center" ∧ ∃ c : Vec3 Float, (c == .zero) = true ∧ v = .list [.real c.x, .real c.y, .real c.z]

/-- The keys under which a member can be left out. -/
def defaultKeys : List String := "center" :: defaults.map Prod.fst

theorem IsDefault.mem_defaultKeys {key : String} {v : Json} (h : IsDefault key v) : key ∈ defaultKeys := by
  rcases h with h | ⟨rfl, -⟩
  · exact List.mem_cons_of_mem _ (List.mem_map_of_mem h)
  · exact List.mem_cons_self

mutual

/-- The second value is the first one without some of the members that have their defaults, at any depth. -/
inductive Abridged : Json → Json → Prop
  | refl (v : Json) : Abridged v v
  | list {vs ws : List Json} (items : List.Forall₂ Abridged vs ws) : Abridged (.list vs) (.list ws)
  | object {ms ns : List (String × Json)} (members : AbridgedMembers ms ns) : Abridged (.object ms) (.object ns)

/-- The same for the members of an object. -/
inductive AbridgedMembers : List (String × Json) → List (String × Json) → Prop
  | nil : AbridgedMembers [] []
  | kept (key : String) {v w : Json} {ms ns : List (String × Json)} (value : Abridged v w)
    (rest : AbridgedMembers ms ns) : AbridgedMembers ((key, v) :: ms) ((key, w) :: ns)
  | omitted {key : String} {v : Json} {ms ns : List (String × Json)} (default : IsDefault key v)
    (rest : AbridgedMembers ms ns) : AbridgedMembers ((key, v) :: ms) ns

end

theorem AbridgedMembers.keep {ms ns : List (String × Json)} (h : AbridgedMembers ms ns) (kept : List (String × Json)) :
    AbridgedMembers (kept ++ ms) (kept ++ ns) := by
  induction kept with
  | nil => exact h
  | cons m kept ih => exact .kept m.1 (.refl m.2) ih

theorem AbridgedMembers.refl (ms : List (String × Json)) : AbridgedMembers ms ms := by
  simpa using AbridgedMembers.nil.keep ms

theorem AbridgedMembers.omitAll {ms : List (String × Json)} (h : ∀ m ∈ ms, IsDefault m.1 m.2) :
    AbridgedMembers ms [] := by
  induction ms with
  | nil => exact .nil
  | cons m ms ih =>
    obtain ⟨hm, hms⟩ := List.forall_mem_cons.1 h
    exact .omitted hm (ih hms)

theorem Abridged.exists_list {vs : List Json} {w : Json} (h : Abridged (.list vs) w) :
    ∃ ws, w = .list ws ∧ List.Forall₂ Abridged vs ws := by
  cases h with
  | refl => exact ⟨vs, rfl, List.forall₂_same.2 fun v _ => .refl v⟩
  | list items => exact ⟨_, rfl, items⟩

theorem Abridged.exists_object {ms : List (String × Json)} {w : Json} (h : Abridged (.object ms) w) :
    ∃ ns, w = .object ns ∧ AbridgedMembers ms ns := by
  cases h with
  | refl => exact ⟨ms, rfl, .refl ms⟩
  | object members => exact ⟨_, rfl, members⟩

theorem Abridged.eq_null {v : Json} (h : Abridged v .null) : v = .null := by
  cases h
  rfl

section

variable {ms ns : List (String × Json)} {key : String} {v : Json}

theorem AbridgedMembers.filter_eq_nil (h : AbridgedMembers ms ns) (p : String → Bool)
    (hnone : ms.filter (fun m => p m.1) = []) : ns.filter (fun m => p m.1) = [] := by
  induction ms generalizing ns with
  | nil =>
    cases h
    rfl
  | cons m ms ih =>
    rw [List.filter_eq_nil_iff, List.forall_mem_cons, ← List.filter_eq_nil_iff] at hnone
    cases h with
    | kept key value rest => rw [List.filter_cons_of_neg (by simpa using hnone.1), ih rest hnone.2]
    | omitted _ rest => exact ih rest hnone.2

/-- The only member under its keys stays the only one, or it had its default and there is none. -/
theorem AbridgedMembers.exists_filter (h : AbridgedMembers ms ns) (p : String → Bool)
    (honly : ms.filter (fun m => p m.1) = [(key, v)]) :
    (∃ w, Abridged v w ∧ ns.filter (fun m => p m.1) = [(key, w)]) ∨
      IsDefault key v ∧ ns.filter (fun m => p m.1) = [] := by
  induction ms generalizing ns with
  | nil => cases honly
  | cons m ms ih =>
    by_cases hp : p m.1 = true
    · rw [List.filter_cons_of_pos (by simpa using hp)] at honly
      obtain ⟨rfl, hnone⟩ := List.cons.inj honly
      cases h with
      | @kept _ _ w _ ns value rest =>
        refine .inl ⟨w, value, ?_⟩
        rw [List.filter_cons_of_pos (by simpa using hp), rest.filter_eq_nil p hnone]
      | omitted default rest => exact .inr ⟨default, rest.filter_eq_nil p hnone⟩
    · rw [List.filter_cons_of_neg (by simpa using hp)] at honly
      cases h with
      | kept key' value rest =>
        rw [List.filter_cons_of_neg (by simpa using hp)]
        exact ih rest honly
      | omitted _ rest => exact ih rest honly

/-- A member whose key is not one of those of the defaults is never left out. -/
theorem AbridgedMembers.exists_filter_of_notMem (h : AbridgedMembers ms ns) (p : String → Bool)
    (honly : ms.filter (fun m => p m.1) = [(key, v)]) (hkey : key ∉ defaultKeys) :
    ∃ w, Abridged v w ∧ ns.filter (fun m => p m.1) = [(key, w)] :=
  (h.exists_filter p honly).resolve_right fun hdefault => hkey hdefault.1.mem_defaultKeys

end

/-! ### Values without objects -/

/-- There is nothing to leave out of the value. -/
def IsPlain (v : Json) : Prop := ∀ w, Abridged v w → w = v

theorem isPlain_null : IsPlain .null := by
  rintro w ⟨⟩
  rfl

theorem isPlain_bool (b : Bool) : IsPlain (.bool b) := by
  rintro w ⟨⟩
  rfl

theorem isPlain_text (s : String) : IsPlain (.text s) := by
  rintro w ⟨⟩
  rfl

theorem isPlain_ofFloat (x : Float) : IsPlain (.ofFloat x) := by
  unfold ofFloat
  split
  · rintro w ⟨⟩
    rfl
  · exact isPlain_null

theorem isPlain_list {vs : List Json} (h : ∀ v ∈ vs, v.IsPlain) : IsPlain (.list vs) := by
  intro w hw
  obtain ⟨ws, rfl, hws⟩ := hw.exists_list
  clear hw
  congr 1
  induction hws with
  | nil => rfl
  | cons hv _ ih =>
    obtain ⟨hplain, hplains⟩ := List.forall_mem_cons.1 h
    rw [hplain _ hv, ih hplains]

/-! ### Decoders -/

/-- The decoder takes the value for `a`, whichever defaults are left out of it. -/
def Decoder.ReadsAbridged {α : Type} (decoder : Decoder α) (v : Json) (a : α) : Prop :=
  ∀ w, Abridged v w → decoder.Reads w a

/-- The fields make up `a` from the members, whichever defaults are left out. -/
def Fields.ReadsAbridged {α : Type} (fields : Fields α) (ms : List (String × Json)) (a : α) : Prop :=
  ∀ ns, AbridgedMembers ms ns → fields.Reads ns a

namespace Decoder

variable {α : Type} {decoder : Decoder α} {v : Json} {a : α}

theorem Reads.abridged (h : decoder.Reads v a) (hv : v.IsPlain) : decoder.ReadsAbridged v a := by
  intro w hw
  rwa [hv w hw]

theorem ReadsAbridged.reads (h : decoder.ReadsAbridged v a) : decoder.Reads v a := h v (.refl v)

theorem readsAbridged_number {x : Float} (h : x.isFinite = true) : number.ReadsAbridged (.ofFloat x) x :=
  (reads_number h).abridged (isPlain_ofFloat x)

theorem readsAbridged_bool (b : Bool) : bool.ReadsAbridged (.bool b) b := (reads_bool b).abridged (isPlain_bool b)

theorem readsAbridged_text (s : String) : text.ReadsAbridged (.text s) s := (reads_text s).abridged (isPlain_text s)

theorem readsAbridged_path (s : String) : path.ReadsAbridged (.text s) s := (reads_path s).abridged (isPlain_text s)

/-- A value that may be absent is `null` exactly where it is. -/
theorem readsAbridged_ofOption {encode : α → Json} {o : Option α}
    (h : ∀ a ∈ o, decoder.ReadsAbridged (encode a) a) (hnull : ∀ a ∈ o, encode a ≠ .null) :
    (nullable decoder).ReadsAbridged (.ofOption encode o) o := by
  cases o with
  | none => exact (reads_nullable_null decoder).abridged isPlain_null
  | some a =>
    intro w hw
    refine (h a rfl w hw).nullable ?_
    rintro rfl
    exact hnull a rfl (Abridged.eq_null hw)

theorem readsAbridged_list {item : Decoder α} {encode : α → Json} {as : List α}
    (h : ∀ a ∈ as, item.ReadsAbridged (encode a) a) : (list item).ReadsAbridged (.list (as.map encode)) as := by
  intro w hw
  obtain ⟨ws, rfl, hws⟩ := hw.exists_list
  refine reads_items ?_
  clear hw
  induction as generalizing ws with
  | nil =>
    obtain rfl := List.forall₂_nil_left_iff.1 hws
    exact .nil
  | cons a as ih =>
    obtain ⟨w, rest, hw, hrest, rfl⟩ := List.forall₂_cons_left_iff.1 hws
    obtain ⟨ha, has⟩ := List.forall_mem_cons.1 h
    exact .cons (ha w hw) (ih has rest hrest)

end Decoder

namespace Fields

variable {α β : Type} {ms : List (String × Json)} {name key : String} {others : List String} {value : Decoder α}
  {v : Json} {a : α}

/-- A field that is left out has its default. -/
theorem reads_absent (hnone : ms.filter (fun m => m.1 == name || others.contains m.1) = []) :
    (oneOf name others value (some a)).Reads ms a := by
  intro ns hns
  have hnone' := hns.filter_eq_nil (fun k => k == name || others.contains k) hnone
  simp only [oneOf, hnone']

namespace ReadsAbridged

theorem map {x : Fields α} (h : x.ReadsAbridged ms a) (f : α → β) : (f <$> x).ReadsAbridged ms (f a) :=
  fun ns hns => (h ns hns).map f

theorem seq {f : Fields (α → β)} {x : Fields α} {g : α → β} (hf : f.ReadsAbridged ms g) (hx : x.ReadsAbridged ms a) :
    (f <*> x).ReadsAbridged ms (g a) := fun ns hns => (hf ns hns).seq (hx ns hns)

/-- A member that is left out had the default of the field. -/
theorem oneOf {absent : Option α} (h : value.ReadsAbridged v a)
    (honly : ms.filter (fun m => m.1 == name || others.contains m.1) = [(key, v)])
    (habsent : IsDefault key v → absent = some a) : (Fields.oneOf name others value absent).ReadsAbridged ms a := by
  intro ns hns
  rcases hns.exists_filter (fun k => k == name || others.contains k) honly with ⟨w, hw, hfilter⟩ | ⟨hdefault, hnone⟩
  · exact .oneOf (h w hw) hfilter absent
  · rw [habsent hdefault]
    exact reads_absent hnone

theorem required (h : value.ReadsAbridged v a) (honly : ms.filter (fun m => m.1 == name) = [(name, v)])
    (hkey : name ∉ defaultKeys) : (Fields.required name value).ReadsAbridged ms a :=
  oneOf h (by simpa using honly) fun hdefault => absurd hdefault.mem_defaultKeys hkey

theorem optional {absent : α} (h : value.ReadsAbridged v a) (honly : ms.filter (fun m => m.1 == name) = [(name, v)])
    (habsent : IsDefault name v → absent = a) : (Fields.optional name value absent).ReadsAbridged ms a :=
  oneOf h (by simpa using honly) fun hdefault => congrArg some (habsent hdefault)

/-- A member that is left out was `null`, if there is no other default. -/
theorem nullable {encode : α → Json} {o : Option α} (h : ∀ a ∈ o, value.ReadsAbridged (encode a) a)
    (hnull : ∀ a ∈ o, encode a ≠ .null) (honly : ms.filter (fun m => m.1 == name) = [(name, .ofOption encode o)])
    (hdefault : ∀ v, IsDefault name v → v = .null) :
    (Fields.optional name (Decoder.nullable value) none).ReadsAbridged ms o := by
  refine optional (Decoder.readsAbridged_ofOption h hnull) honly fun habsent => ?_
  cases o with
  | none => rfl
  | some a => exact absurd (hdefault _ habsent) (hnull a rfl)

theorem record {fields : Fields α} (h : fields.ReadsAbridged ms a) (excess : Excess) (name : String) :
    (Decoder.record excess name fields).ReadsAbridged (.object ms) a := by
  intro w hw
  obtain ⟨ns, rfl, hns⟩ := hw.exists_object
  exact (h ns hns).record excess name

end ReadsAbridged

end Fields

/-! ### Fields that must be there -/

/-- The decoder fails with the error, in whichever order the members of the value stand. -/
def Decoder.Refuses {α : Type} (decoder : Decoder α) (v : Json) (e : DecodeError) : Prop :=
  ∀ w, Rearranged v w → decoder w = .error e

/-- The fields fail with the error, in whichever order the members stand. -/
def Fields.Refuses {α : Type} (fields : Fields α) (ms : List (String × Json)) (e : DecodeError) : Prop :=
  ∀ ns, RearrangedMembers ms ns → ∃ fault, fields.ofMembers ns = .error fault ∧ fault.error = e

namespace Decoder

variable {α : Type} {item : Decoder α} {vs : List Json} {e : DecodeError}

/-- A list fails if one of its items does and all that fail do so with the same error. -/
theorem refuses_items (h : ∀ v ∈ vs, (∃ a, item.Reads v a) ∨ item.Refuses v e) (hrefused : ∃ v ∈ vs, item.Refuses v e) :
    (list item).Refuses (.list vs) e := by
  intro w hw
  obtain ⟨ws, rfl, hws⟩ := hw.exists_list
  clear hw
  change ws.mapM item = .error e
  -- the first item is read, and then a later one fails, or it fails itself
  induction hws with
  | nil =>
    obtain ⟨v, hv, -⟩ := hrefused
    cases hv
  | @cons v w vs ws hvw _ ih =>
    obtain ⟨hv, hvs⟩ := List.forall_mem_cons.1 h
    rw [List.mapM_cons]
    rcases hv with ⟨a, hv⟩ | hv
    · have hok : item w = .ok a := hv w hvw
      have hlater : ∃ v ∈ vs, item.Refuses v e := by
        obtain ⟨v', hmem, hv'⟩ := hrefused
        refine ⟨v', (List.mem_cons.1 hmem).resolve_left ?_, hv'⟩
        rintro rfl
        cases hok.symm.trans (hv' w hvw)
      rw [hok, ih hvs hlater]
      rfl
    · have herror : item w = .error e := hv w hvw
      rw [herror]
      rfl

end Decoder

namespace Fields.Refuses

variable {α β : Type} {ms : List (String × Json)} {e : DecodeError}

theorem seq_left {f : Fields (α → β)} {x : Fields α} {a : α} (hf : f.Refuses ms e) (hx : x.Reads ms a) :
    (f <*> x).Refuses ms e := by
  intro ns hns
  obtain ⟨fault, hfault, herror⟩ := hf ns hns
  have hx' : x.ofMembers ns = .ok a := hx ns hns
  refine ⟨fault, ?_, herror⟩
  change (andThen f x).ofMembers ns = .error fault
  simp only [andThen, hfault, hx']

theorem seq_right {f : Fields (α → β)} {x : Fields α} {g : α → β} (hf : f.Reads ms g) (hx : x.Refuses ms e) :
    (f <*> x).Refuses ms e := by
  intro ns hns
  obtain ⟨fault, hfault, herror⟩ := hx ns hns
  have hf' : f.ofMembers ns = .ok g := hf ns hns
  refine ⟨fault, ?_, herror⟩
  change (andThen f x).ofMembers ns = .error fault
  simp only [andThen, hfault, hf']

theorem map {x : Fields α} (h : x.Refuses ms e) (f : α → β) : (f <$> x).Refuses ms e :=
  seq_right (fun _ _ => rfl) h

/-- A field fails with the error of its value. -/
theorem oneOf {name key : String} {others : List String} {value : Decoder α} {v : Json} (h : value.Refuses v e)
    (honly : ms.filter (fun m => m.1 == name || others.contains m.1) = [(key, v)]) (absent : Option α) :
    (Fields.oneOf name others value absent).Refuses ms e := by
  intro ns hns
  obtain ⟨w, hw, hfilter⟩ := hns.exists_filter (fun k => k == name || others.contains k) honly
  have hvalue : value w = .error e := h w hw
  refine ⟨.bad key e, ?_, rfl⟩
  simp only [Fields.oneOf, hfilter, hvalue]

/-- A field that must be there is not. -/
theorem missing {name : String} {value : Decoder α} (hnone : ms.filter (fun m => m.1 == name) = []) :
    (Fields.required name value).Refuses ms (.missingField name) := by
  intro ns hns
  have hnone' := hns.filter_eq_nil (fun k => k == name || ([] : List String).contains k) (by simpa using hnone)
  refine ⟨.missing name, ?_, rfl⟩
  simp only [Fields.required, Fields.oneOf, hnone']

theorem record {fields : Fields α} (h : fields.Refuses ms e) (excess : Excess) (name : String) :
    (Decoder.record excess name fields).Refuses (.object ms) e := by
  intro w hw
  obtain ⟨ns, rfl, hns⟩ := hw.exists_object
  obtain ⟨fault, hfault, rfl⟩ := h ns hns
  rw [Decoder.record, hfault]
  rfl

end Fields.Refuses

end SolidDrawing.Json
