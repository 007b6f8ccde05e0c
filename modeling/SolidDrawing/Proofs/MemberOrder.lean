import Mathlib.Data.List.Forall2
import SolidDrawing.Json.Decode

/-!
# Values up to the order of members

The order in which the members of an object stand means nothing. `Json.Rearranged` relates a value to those that differ
from it by that order only, at any depth. A decoder reads `a` from a value if it takes all rearrangements of the value
for `a` (`Json.Decoder.Reads`); there is one rule for each way to put decoders together, and the rule for a record asks
its fields one by one (`Json.Fields.Reads`).
-/

namespace SolidDrawing.Json

/-- The second value is the first one but for the order in which objects have their members. -/
inductive Rearranged : Json → Json → Prop
  | refl (v : Json) : Rearranged v v
  | list {vs ws : List Json} (items : List.Forall₂ Rearranged vs ws) : Rearranged (.list vs) (.list ws)
  | object {ms ns ns' : List (String × Json)} (keys : ms.map Prod.fst = ns.map Prod.fst)
    (values : List.Forall₂ Rearranged (ms.map Prod.snd) (ns.map Prod.snd)) (order : ns.Perm ns') :
    Rearranged (.object ms) (.object ns')

/-- The same for the members of an object. -/
def RearrangedMembers (ms ns' : List (String × Json)) : Prop :=
  ∃ ns, List.Forall₂ (fun m n => m.1 = n.1 ∧ Rearranged m.2 n.2) ms ns ∧ ns.Perm ns'

theorem Rearranged.exists_list {vs : List Json} {w : Json} (h : Rearranged (.list vs) w) :
    ∃ ws, w = .list ws ∧ List.Forall₂ Rearranged vs ws := by
  cases h with
  | refl => exact ⟨vs, rfl, List.forall₂_same.2 fun v _ => .refl v⟩
  | list items => exact ⟨_, rfl, items⟩

private theorem forall₂_members {R : Json → Json → Prop} {ms ns : List (String × Json)}
    (hkeys : ms.map Prod.fst = ns.map Prod.fst) (hvalues : List.Forall₂ R (ms.map Prod.snd) (ns.map Prod.snd)) :
    List.Forall₂ (fun m n => m.1 = n.1 ∧ R m.2 n.2) ms ns := by
  induction ms generalizing ns with
  | nil =>
    obtain rfl : ns = [] := by simpa using hkeys.symm
    exact .nil
  | cons m ms ih =>
    cases ns with
    | nil => simp at hkeys
    | cons n ns =>
      obtain ⟨hkey, hkeys⟩ := List.cons.inj hkeys
      obtain ⟨hvalue, hvalues⟩ := List.forall₂_cons.1 hvalues
      exact .cons ⟨hkey, hvalue⟩ (ih hkeys hvalues)

theorem Rearranged.exists_object {ms : List (String × Json)} {w : Json} (h : Rearranged (.object ms) w) :
    ∃ ns, w = .object ns ∧ RearrangedMembers ms ns := by
  cases h with
  | refl => exact ⟨ms, rfl, ms, List.forall₂_same.2 fun m _ => ⟨rfl, .refl m.2⟩, .refl ms⟩
  | object keys values order => exact ⟨_, rfl, _, forall₂_members keys values, order⟩

private theorem forall₂_filter {R : String × Json → String × Json → Prop} {ms ns : List (String × Json)}
    (hkey : ∀ m n, R m n → m.1 = n.1) (p : String → Bool) (h : List.Forall₂ R ms ns) :
    List.Forall₂ R (ms.filter fun m => p m.1) (ns.filter fun n => p n.1) := by
  induction h with
  | nil => exact .nil
  | @cons m n ms ns hmn _ ih =>
    rw [List.filter_cons, List.filter_cons, hkey m n hmn]
    by_cases hp : p n.1 = true
    · rw [if_pos hp, if_pos hp]
      exact .cons hmn ih
    · rw [if_neg hp, if_neg hp]
      exact ih

/-- A member that is the only one under its keys stays the only one. -/
theorem RearrangedMembers.exists_filter {ms ns : List (String × Json)} (h : RearrangedMembers ms ns)
    (p : String → Bool) {key : String} {v : Json} (honly : ms.filter (fun m => p m.1) = [(key, v)]) :
    ∃ w, Rearranged v w ∧ ns.filter (fun m => p m.1) = [(key, w)] := by
  obtain ⟨ms', hvalues, horder⟩ := h
  have hfilter := forall₂_filter (fun _ _ hmn => hmn.1) p hvalues
  rw [honly] at hfilter
  obtain ⟨⟨key', w⟩, rest, ⟨hkey, hw⟩, hrest, hms'⟩ := List.forall₂_cons_left_iff.1 hfilter
  obtain rfl : key = key' := hkey
  obtain rfl : rest = [] := List.forall₂_nil_left_iff.1 hrest
  have hperm : [(key, w)].Perm (ns.filter fun m => p m.1) := by
    rw [← hms']
    exact horder.filter _
  exact ⟨w, hw, (List.singleton_perm.1 hperm).symm⟩

/-- Where there is no member under some keys there is none after a rearrangement. -/
theorem RearrangedMembers.filter_eq_nil {ms ns : List (String × Json)} (h : RearrangedMembers ms ns)
    (p : String → Bool) (hnone : ms.filter (fun m => p m.1) = []) : ns.filter (fun m => p m.1) = [] := by
  obtain ⟨ms', hvalues, horder⟩ := h
  have hfilter := forall₂_filter (fun _ _ hmn => hmn.1) p hvalues
  rw [hnone, List.forall₂_nil_left_iff] at hfilter
  rw [← List.nil_perm, ← hfilter]
  exact horder.filter _

theorem RearrangedMembers.exists_get? {ms ns : List (String × Json)} (h : RearrangedMembers ms ns) (key : String)
    {v : Json} (honly : ms.filter (fun m => m.1 == key) = [(key, v)]) :
    ∃ w, Rearranged v w ∧ (Json.object ns).get? key = some w ∧ ns.filter (fun m => m.1 == key) = [(key, w)] := by
  obtain ⟨w, hw, hfilter⟩ := h.exists_filter (fun k => k == key) honly
  refine ⟨w, hw, ?_, hfilter⟩
  rw [get?, ← List.head?_filter, hfilter]
  rfl

/-! ### Decoders -/

/-- The decoder takes the value for `a`, in whichever order its members stand. -/
def Decoder.Reads {α : Type} (decoder : Decoder α) (v : Json) (a : α) : Prop :=
  ∀ w, Rearranged v w → decoder w = .ok a

/-- The fields make up `a` from the members, in whichever order they stand. -/
def Fields.Reads {α : Type} (fields : Fields α) (ms : List (String × Json)) (a : α) : Prop :=
  ∀ ns, RearrangedMembers ms ns → fields.ofMembers ns = .ok a

namespace Decoder

variable {α : Type}

theorem reads_number {x : Float} (h : x.isFinite = true) : number.Reads (.ofFloat x) x := by
  intro w hw
  rw [ofFloat, if_pos h] at hw
  cases hw
  rfl

theorem reads_bool (b : Bool) : bool.Reads (.bool b) b := by
  rintro w ⟨⟩
  rfl

theorem reads_text (s : String) : text.Reads (.text s) s := by
  rintro w ⟨⟩
  rfl

theorem reads_path (s : String) : path.Reads (.text s) s := by
  rintro w ⟨⟩
  rfl

/-- A list is read item by item. -/
theorem reads_items {item : Decoder α} {vs : List Json} {as : List α} (h : List.Forall₂ item.Reads vs as) :
    (list item).Reads (.list vs) as := by
  intro w hw
  obtain ⟨ws, rfl, hws⟩ := hw.exists_list
  clear hw
  change ws.mapM item = .ok as
  induction h generalizing ws with
  | nil =>
    obtain rfl := List.forall₂_nil_left_iff.1 hws
    rfl
  | @cons v a vs as hv _ ih =>
    obtain ⟨w, rest, hw, hrest, rfl⟩ := List.forall₂_cons_left_iff.1 hws
    have hitem : item w = .ok a := hv w hw
    rw [List.mapM_cons, hitem, ih rest hrest]
    rfl

theorem reads_nullable_null (value : Decoder α) : (nullable value).Reads .null none := by
  rintro w ⟨⟩
  rfl

theorem Reads.nullable {value : Decoder α} {v : Json} {a : α} (h : value.Reads v a) (hv : v ≠ .null) :
    (nullable value).Reads v (some a) := by
  intro w hw
  have hnull : w ≠ .null := by
    rintro rfl
    cases hw
    exact hv rfl
  have hvalue : value w = .ok a := h w hw
  unfold Decoder.nullable
  split
  · exact absurd rfl hnull
  · rw [hvalue]
    rfl

end Decoder

namespace Fields.Reads

variable {α β : Type} {ms : List (String × Json)}

theorem map {x : Fields α} {a : α} (h : x.Reads ms a) (f : α → β) : (f <$> x).Reads ms (f a) := by
  intro ns hns
  have hx : x.ofMembers ns = .ok a := h ns hns
  change (andThen (const f) x).ofMembers ns = .ok (f a)
  simp only [andThen, const, hx]

theorem seq {f : Fields (α → β)} {x : Fields α} {g : α → β} {a : α} (hf : f.Reads ms g) (hx : x.Reads ms a) :
    (f <*> x).Reads ms (g a) := by
  intro ns hns
  have hf' : f.ofMembers ns = .ok g := hf ns hns
  have hx' : x.ofMembers ns = .ok a := hx ns hns
  change (andThen f x).ofMembers ns = .ok (g a)
  simp only [andThen, hf', hx']

/-- A field is read from the only member under one of its keys. -/
theorem oneOf {name key : String} {others : List String} {value : Decoder α} {v : Json} {a : α} (h : value.Reads v a)
    (honly : ms.filter (fun m => m.1 == name || others.contains m.1) = [(key, v)]) (absent : Option α) :
    (Fields.oneOf name others value absent).Reads ms a := by
  intro ns hns
  obtain ⟨w, hw, hfilter⟩ := hns.exists_filter (fun k => k == name || others.contains k) honly
  have hvalue : value w = .ok a := h w hw
  simp only [Fields.oneOf, hfilter, hvalue]

theorem required {name : String} {value : Decoder α} {v : Json} {a : α} (h : value.Reads v a)
    (honly : ms.filter (fun m => m.1 == name) = [(name, v)]) : (Fields.required name value).Reads ms a :=
  oneOf h (by simpa using honly) none

theorem optional {name : String} {value : Decoder α} {v : Json} {a : α} (h : value.Reads v a)
    (honly : ms.filter (fun m => m.1 == name) = [(name, v)]) (absent : α) :
    (Fields.optional name value absent).Reads ms a :=
  oneOf h (by simpa using honly) (some absent)

theorem record {fields : Fields α} {a : α} (h : fields.Reads ms a) (excess : Excess) (name : String) :
    (Decoder.record excess name fields).Reads (.object ms) a := by
  intro w hw
  obtain ⟨ns, rfl, hns⟩ := hw.exists_object
  have hfields : fields.ofMembers ns = .ok a := h ns hns
  rw [Decoder.record, hfields]
  rfl

end Fields.Reads

end SolidDrawing.Json
