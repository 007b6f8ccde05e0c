import SolidDrawing.Drawing.Check
import SolidDrawing.Proofs.FloatSigns

/-!
# Which drawings are accepted

`DrawingSpec.Verdict` lists the rules by which a drawing is judged: the first view with a defect is refused for its
first defect, and only where no view has one is the first dimension refused that names no view. Every drawing has
exactly one verdict under a policy, and the check finds it. What is accepted under the strict policy is accepted under
every policy (`DrawingSpec.fault_iff_verdict`).
-/

namespace SolidDrawing

/-! ### The rules -/

/-- The vector is finite, and its squared length is not zero. -/
def Vec3.Points (v : Vec3 Float) : Prop := v.isFinite = true ∧ Scalar.same v.normSq 0 = false

/-- What can be wrong with a view. -/
inductive ViewDefect where
  | direction
  | sectionNormal
  | scale
  | duplicateId
  | missingNormal

namespace ViewDefect

/-- The order in which defects count. -/
def rank : ViewDefect → Nat
  | direction => 0
  | sectionNormal => 1
  | scale => 2
  | duplicateId => 3
  | missingNormal => 4

theorem rank_injective : Function.Injective rank := by
  intro d e h
  cases d <;> cases e <;> first | rfl | cases h

/-- What a view with the defect is refused for. -/
def fault (v : ViewSpec Float) : ViewDefect → DrawingFault
  | direction => .invalidView v.id .direction
  | sectionNormal => .invalidView v.id .sectionNormal
  | scale => .invalidView v.id .scale
  | duplicateId => .duplicateViewId v.id
  | missingNormal => .missingSectionNormal v.id

end ViewDefect

namespace ViewSpec

/-- The view has the defect, behind the views `earlier`. A section normal counts in every view that has one. -/
def Has (policy : Policy) (earlier : List (ViewSpec Float)) (v : ViewSpec Float) : ViewDefect → Prop
  | .direction => ¬ v.direction.Points
  | .sectionNormal => ∃ n, v.sectionNormal = some n ∧ ¬ n.Points
  | .scale => ∃ c, v.scale = some c ∧ ¬ (Scalar.isFinite c = true ∧ 0 < c)
  | .duplicateId => policy.duplicateViews = .reject ∧ ∃ w ∈ earlier, w.id = v.id
  | .missingNormal => policy.missingSectionNormal = .reject ∧ v.isSection = true ∧ v.sectionNormal = none

/-- The view has no defect. -/
def Passes (policy : Policy) (earlier : List (ViewSpec Float)) (v : ViewSpec Float) : Prop :=
  ∀ defect, ¬ v.Has policy earlier defect

/-- The view has the defect, and none that counts before it. -/
structure First (policy : Policy) (earlier : List (ViewSpec Float)) (v : ViewSpec Float) (defect : ViewDefect) :
    Prop where
  has : v.Has policy earlier defect
  least : ∀ other, v.Has policy earlier other → defect.rank ≤ other.rank

end ViewSpec

namespace DrawingSpec

/-- Some view has the id. -/
def Names (spec : DrawingSpec Float) (id : String) : Prop := ∃ v ∈ spec.views, v.id = id

/-- How a drawing is judged. -/
inductive Verdict (policy : Policy) (spec : DrawingSpec Float) : Option DrawingFault → Prop
  | view {i : Nat} {v : ViewSpec Float} {defect : ViewDefect} (here : spec.views[i]? = some v)
      (first : v.First policy (spec.views.take i) defect)
      (before : ∀ j < i, ∀ w, spec.views[j]? = some w → w.Passes policy (spec.views.take j)) :
      Verdict policy spec (some (defect.fault v))
  | dimension {i : Nat} {d : DimensionSpec}
      (sound : ∀ j (v : ViewSpec Float), spec.views[j]? = some v → v.Passes policy (spec.views.take j))
      (here : spec.dimensions[i]? = some d) (unknown : ¬ spec.Names d.viewId)
      (before : ∀ j < i, ∀ e, spec.dimensions[j]? = some e → spec.Names e.viewId) :
      Verdict policy spec (some (.unknownView d.viewId i))
  | accepted (sound : ∀ j (v : ViewSpec Float), spec.views[j]? = some v → v.Passes policy (spec.views.take j))
      (known : ∀ d ∈ spec.dimensions, spec.Names d.viewId) : Verdict policy spec none

/-- What the check asks of a drawing under a policy. -/
structure IsSound (policy : Policy) (spec : DrawingSpec Float) : Prop where
  direction : ∀ v ∈ spec.views, v.direction.Points
  sectionNormal : ∀ v ∈ spec.views, ∀ n, v.sectionNormal = some n → n.Points
  scale : ∀ v ∈ spec.views, ∀ c, v.scale = some c → Scalar.isFinite c = true ∧ 0 < c
  distinct : policy.duplicateViews = .reject → (spec.views.map (·.id)).Nodup
  normal : policy.missingSectionNormal = .reject → ∀ v ∈ spec.views, v.isSection = true → v.sectionNormal ≠ none
  known : ∀ d ∈ spec.dimensions, spec.Names d.viewId

end DrawingSpec

/-! ### One view -/

theorem Vec3.isUsable_iff_points (v : Vec3 Float) : v.isUsable = true ↔ v.Points := by
  rw [isUsable, Bool.and_eq_true, decide_eq_true_eq, Points]
  refine and_congr_right fun hfinite => ?_
  exact zero_lt_normSq_iff hfinite

section

variable (policy : Policy) {seen : List String} {earlier : List (ViewSpec Float)}

open Classical in
/-- The check of a view goes through its defects in their order. -/
theorem ViewSpec.fault?_eq (hseen : ∀ id, id ∈ seen ↔ ∃ w ∈ earlier, w.id = id) (v : ViewSpec Float) :
    v.fault? policy seen =
      if v.Has policy earlier .direction then some (ViewDefect.direction.fault v)
      else if v.Has policy earlier .sectionNormal then some (ViewDefect.sectionNormal.fault v)
      else if v.Has policy earlier .scale then some (ViewDefect.scale.fault v)
      else if v.Has policy earlier .duplicateId then some (ViewDefect.duplicateId.fault v)
      else if v.Has policy earlier .missingNormal then some (ViewDefect.missingNormal.fault v)
      else none := by
  have hdirection : (!v.direction.isUsable) = true ↔ v.Has policy earlier .direction := by
    rw [Bool.not_eq_true', ← Bool.not_eq_true, Vec3.isUsable_iff_points]
    rfl
  have hnormal : (v.sectionNormal.any fun n => !n.isUsable) = true ↔ v.Has policy earlier .sectionNormal := by
    simp [Has, Option.any_eq_true, ← Vec3.isUsable_iff_points]
  have hscale : (v.scale.any fun c => !Scalar.isPositive c) = true ↔ v.Has policy earlier .scale := by
    simp [Has, Option.any_eq_true, Scalar.isPositive, imp_iff_not_or]
  have hduplicate : (seen.contains v.id && policy.duplicateViews == .reject) = true ↔
      v.Has policy earlier .duplicateId := by
    simp [Has, hseen, and_comm]
  have hmissing : (v.isSection && v.sectionNormal.isNone && policy.missingSectionNormal == .reject) = true ↔
      v.Has policy earlier .missingNormal := by
    simp [Has, and_comm]
  simp only [fault?, invalid?, hdirection, hnormal, hscale, hduplicate, hmissing]
  split_ifs <;> rfl

/-- A view passes, or is refused for the first one of its defects. -/
theorem ViewSpec.fault?_cases (hseen : ∀ id, id ∈ seen ↔ ∃ w ∈ earlier, w.id = id) (v : ViewSpec Float) :
    (v.fault? policy seen = none ∧ v.Passes policy earlier) ∨
      ∃ defect, v.fault? policy seen = some (defect.fault v) ∧ v.First policy earlier defect := by
  rw [fault?_eq policy hseen]
  by_cases hdirection : v.Has policy earlier .direction
  · exact .inr ⟨.direction, if_pos hdirection, hdirection, fun other _ => Nat.zero_le _⟩
  by_cases hnormal : v.Has policy earlier .sectionNormal
  · refine .inr ⟨.sectionNormal, by rw [if_neg hdirection, if_pos hnormal], hnormal, fun other hother => ?_⟩
    cases other <;> first | contradiction | decide
  by_cases hscale : v.Has policy earlier .scale
  · refine .inr ⟨.scale, by rw [if_neg hdirection, if_neg hnormal, if_pos hscale], hscale, fun other hother => ?_⟩
    cases other <;> first | contradiction | decide
  by_cases hduplicate : v.Has policy earlier .duplicateId
  · refine .inr ⟨.duplicateId, ?_, hduplicate, fun other hother => ?_⟩
    · rw [if_neg hdirection, if_neg hnormal, if_neg hscale, if_pos hduplicate]
    · cases other <;> first | contradiction | decide
  by_cases hmissing : v.Has policy earlier .missingNormal
  · refine .inr ⟨.missingNormal, ?_, hmissing, fun other hother => ?_⟩
    · rw [if_neg hdirection, if_neg hnormal, if_neg hscale, if_neg hduplicate, if_pos hmissing]
    · cases other <;> first | contradiction | decide
  · refine .inl ⟨?_, fun defect => ?_⟩
    · rw [if_neg hdirection, if_neg hnormal, if_neg hscale, if_neg hduplicate, if_neg hmissing]
    · cases defect <;> assumption

/-! ### All views, and all dimensions -/

/-- All views pass, or the first one that does not is refused. -/
theorem viewsFault?_cases (hseen : ∀ id, id ∈ seen ↔ ∃ w ∈ earlier, w.id = id) (views : List (ViewSpec Float)) :
    (viewsFault? policy seen views = none ∧
        ∀ i (v : ViewSpec Float), views[i]? = some v → v.Passes policy (earlier ++ views.take i)) ∨
      ∃ i v, ∃ defect : ViewDefect, viewsFault? policy seen views = some (defect.fault v) ∧ views[i]? = some v ∧
        v.First policy (earlier ++ views.take i) defect ∧
        ∀ j < i, ∀ w, views[j]? = some w → w.Passes policy (earlier ++ views.take j) := by
  induction views generalizing seen earlier with
  | nil => exact .inl ⟨rfl, by simp⟩
  | cons v views ih =>
    rw [viewsFault?]
    rcases v.fault?_cases policy hseen with ⟨hnone, hpasses⟩ | ⟨defect, hfault, hfirst⟩
    case inr =>
      refine .inr ⟨0, v, defect, by rw [hfault]; rfl, rfl, by simpa using hfirst, ?_⟩
      intro j hj
      exact absurd hj (Nat.not_lt_zero j)
    case inl =>
      -- the views behind `v` are judged behind the earlier ones and `v`
      have hseen' : ∀ id, id ∈ v.id :: seen ↔ ∃ w ∈ earlier ++ [v], w.id = id := by
        intro id
        rw [List.mem_cons, hseen]
        simp [or_comm, or_and_right, exists_or, eq_comm]
      have htake (i : Nat) : earlier ++ [v] ++ views.take i = earlier ++ (v :: views).take (i + 1) := by simp
      have hhead : v.Passes policy (earlier ++ (v :: views).take 0) := by simpa using hpasses
      rw [hnone, Option.orElse_eq_orElse, Option.orElse_eq_or, Option.none_or]
      rcases ih hseen' with ⟨hrest, hsound⟩ | ⟨i, w, defect, hrest, hw, hfirst, hbefore⟩
      case inl =>
        refine .inl ⟨hrest, fun i w hw => ?_⟩
        cases i with
        | zero =>
          cases hw
          exact hhead
        | succ i => exact htake i ▸ hsound i w hw
      case inr =>
        refine .inr ⟨i + 1, w, defect, hrest, hw, htake i ▸ hfirst, fun j hj u hu => ?_⟩
        cases j with
        | zero =>
          cases hu
          exact hhead
        | succ j => exact htake j ▸ hbefore j (Nat.lt_of_succ_lt_succ hj) u hu

/-- All dimensions name one of the ids, or the first one that does not is refused. -/
theorem dimensionsFault?_cases (ids : List String) (index : Nat) (dimensions : List DimensionSpec) :
    (dimensionsFault? ids index dimensions = none ∧ ∀ d ∈ dimensions, d.viewId ∈ ids) ∨
      ∃ i d, dimensionsFault? ids index dimensions = some (.unknownView d.viewId (index + i)) ∧
        dimensions[i]? = some d ∧ d.viewId ∉ ids ∧
        ∀ j < i, ∀ e, dimensions[j]? = some e → e.viewId ∈ ids := by
  induction dimensions generalizing index with
  | nil => exact .inl ⟨rfl, by simp⟩
  | cons d dimensions ih =>
    rw [dimensionsFault?]
    by_cases hd : d.viewId ∈ ids
    case neg =>
      refine .inr ⟨0, d, ?_, rfl, hd, ?_⟩
      · rw [if_neg (by simpa using hd)]
        rfl
      · intro j hj
        exact absurd hj (Nat.not_lt_zero j)
    case pos =>
      rw [if_pos (by simpa using hd)]
      rcases ih (index + 1) with ⟨hrest, hknown⟩ | ⟨i, e, hrest, he, hunknown, hbefore⟩
      case inl => exact .inl ⟨hrest, List.forall_mem_cons.2 ⟨hd, hknown⟩⟩
      case inr =>
        refine .inr ⟨i + 1, e, ?_, he, hunknown, fun j hj f hf => ?_⟩
        · rw [hrest, Nat.add_assoc, Nat.add_comm 1]
        · cases j with
          | zero =>
            cases hf
            exact hd
          | succ j => exact hbefore j (Nat.lt_of_succ_lt_succ hj) f hf

end

namespace DrawingSpec

variable {policy : Policy} {spec : DrawingSpec Float}

/-- The fault that the check finds, if any, is the verdict. -/
theorem verdict_fault? (policy : Policy) (spec : DrawingSpec Float) : Verdict policy spec (spec.fault? policy) := by
  have hnames (id : String) : id ∈ spec.views.map (·.id) ↔ spec.Names id := by
    simp [Names]
  rw [fault?]
  have hstart : ∀ id, id ∈ ([] : List String) ↔ ∃ w ∈ ([] : List (ViewSpec Float)), w.id = id := by simp
  rcases viewsFault?_cases policy hstart spec.views with
    ⟨hviews, hsound⟩ | ⟨i, v, defect, hviews, hv, hfirst, hbefore⟩
  case inr =>
    rw [hviews]
    exact .view hv hfirst hbefore
  case inl =>
    rw [hviews, Option.orElse_eq_orElse, Option.orElse_eq_or, Option.none_or]
    rcases dimensionsFault?_cases (spec.views.map (·.id)) 0 spec.dimensions with
      ⟨hdimensions, hknown⟩ | ⟨i, d, hdimensions, hd, hunknown, hbefore⟩
    case inl =>
      rw [hdimensions]
      exact .accepted hsound fun d hd => (hnames _).1 (hknown d hd)
    case inr =>
      rw [hdimensions, Nat.zero_add]
      exact .dimension hsound hd (mt (hnames _).2 hunknown) fun j hj e he => (hnames _).1 (hbefore j hj e he)

namespace Verdict

/-- Where a view is refused, that is the only verdict. -/
theorem eq_of_view {i : Nat} {v : ViewSpec Float} {defect : ViewDefect} (here : spec.views[i]? = some v)
    (first : v.First policy (spec.views.take i) defect)
    (before : ∀ j < i, ∀ w, spec.views[j]? = some w → w.Passes policy (spec.views.take j))
    {r : Option DrawingFault} (h : Verdict policy spec r) : r = some (defect.fault v) := by
  cases h with
  | @view i' v' defect' here' first' before' =>
    rcases Nat.lt_trichotomy i i' with hlt | rfl | hlt
    · exact absurd first.has (before' i hlt v here defect)
    · obtain rfl : v' = v := Option.some.inj (here'.symm.trans here)
      have hrank : defect'.rank = defect.rank :=
        Nat.le_antisymm (first'.least defect first.has) (first.least defect' first'.has)
      rw [ViewDefect.rank_injective hrank]
    · exact absurd first'.has (before i' hlt v' here' defect')
  | dimension sound => exact absurd first.has (sound i v here defect)
  | accepted sound => exact absurd first.has (sound i v here defect)

/-- Where all views pass and a dimension is refused, that is the only verdict. -/
theorem eq_of_dimension {i : Nat} {d : DimensionSpec}
    (sound : ∀ j (v : ViewSpec Float), spec.views[j]? = some v → v.Passes policy (spec.views.take j))
    (here : spec.dimensions[i]? = some d) (unknown : ¬ spec.Names d.viewId)
    (before : ∀ j < i, ∀ e, spec.dimensions[j]? = some e → spec.Names e.viewId)
    {r : Option DrawingFault} (h : Verdict policy spec r) : r = some (.unknownView d.viewId i) := by
  cases h with
  | @view i' v' defect' here' first' => exact absurd first'.has (sound i' v' here' defect')
  | @dimension i' d' _ here' unknown' before' =>
    rcases Nat.lt_trichotomy i i' with hlt | rfl | hlt
    · exact absurd (before' i hlt d here) unknown
    · rw [Option.some.inj (here'.symm.trans here)]
    · exact absurd (before i' hlt d' here') unknown'
  | accepted _ known => exact absurd (known d (List.mem_of_getElem? here)) unknown

theorem unique {r r' : Option DrawingFault} (h : Verdict policy spec r) (h' : Verdict policy spec r') : r' = r := by
  cases h with
  | view here first before => exact h'.eq_of_view here first before
  | dimension sound here unknown before => exact h'.eq_of_dimension sound here unknown before
  | accepted sound known =>
    cases h' with
    | view here first before => exact ((accepted sound known).eq_of_view here first before).symm
    | dimension sound here unknown before =>
      exact ((accepted sound known).eq_of_dimension sound here unknown before).symm
    | accepted => rfl

end Verdict

/-- The ids of views differ if none of them is the id of an earlier view. -/
theorem nodup_ids_iff (views : List (ViewSpec Float)) :
    (views.map (·.id)).Nodup ↔ ∀ i v, views[i]? = some v → ¬ ∃ w ∈ views.take i, w.id = v.id := by
  rw [List.Nodup, List.pairwise_map, List.pairwise_iff_getElem]
  constructor
  case mp =>
    rintro h i v hv ⟨w, hw, hid⟩
    obtain ⟨hi, rfl⟩ := List.getElem?_eq_some_iff.1 hv
    obtain ⟨j, hj, rfl⟩ := List.mem_take_iff_getElem.1 hw
    exact h j i (by omega) hi (by omega) hid
  case mpr =>
    intro h j i hj hi hlt hid
    exact h i views[i] (List.getElem?_eq_getElem hi)
      ⟨views[j], List.mem_take_iff_getElem.2 ⟨j, by omega, rfl⟩, hid⟩

theorem Verdict.isSound (h : Verdict policy spec none) : spec.IsSound policy := by
  obtain ⟨sound, known⟩ : (∀ i (v : ViewSpec Float), spec.views[i]? = some v → v.Passes policy (spec.views.take i)) ∧
      ∀ d ∈ spec.dimensions, spec.Names d.viewId := by
    cases h with
    | accepted sound known => exact ⟨sound, known⟩
  have hpasses {v : ViewSpec Float} (hv : v ∈ spec.views) : ∃ earlier, v.Passes policy earlier := by
    obtain ⟨i, hi⟩ := List.mem_iff_getElem?.1 hv
    exact ⟨_, sound i v hi⟩
  refine ⟨?direction, ?sectionNormal, ?scale, ?distinct, ?normal, known⟩
  case direction =>
    intro v hv
    obtain ⟨earlier, h⟩ := hpasses hv
    exact not_not.1 (h .direction)
  case sectionNormal =>
    intro v hv n hn
    obtain ⟨earlier, h⟩ := hpasses hv
    by_contra hno
    exact h .sectionNormal ⟨n, hn, hno⟩
  case scale =>
    intro v hv c hc
    obtain ⟨earlier, h⟩ := hpasses hv
    by_contra hno
    exact h .scale ⟨c, hc, hno⟩
  case distinct =>
    intro hreject
    rw [nodup_ids_iff]
    intro i v hv hid
    exact sound i v hv .duplicateId ⟨hreject, hid⟩
  case normal =>
    intro hreject v hv hsection hnone
    obtain ⟨earlier, h⟩ := hpasses hv
    exact h .missingNormal ⟨hreject, hsection, hnone⟩

namespace IsSound

theorem verdict (h : spec.IsSound policy) : Verdict policy spec none := by
  refine .accepted (fun i v hv defect hhas => ?_) h.known
  have hmem : v ∈ spec.views := List.mem_of_getElem? hv
  cases defect with
  | direction => exact hhas (h.direction v hmem)
  | sectionNormal =>
    obtain ⟨n, hn, hno⟩ := hhas
    exact hno (h.sectionNormal v hmem n hn)
  | scale =>
    obtain ⟨c, hc, hno⟩ := hhas
    exact hno (h.scale v hmem c hc)
  | duplicateId =>
    obtain ⟨hreject, hid⟩ := hhas
    exact (nodup_ids_iff spec.views).1 (h.distinct hreject) i v hv hid
  | missingNormal =>
    obtain ⟨hreject, hsection, hnone⟩ := hhas
    exact h.normal hreject v hmem hsection hnone

/-- What is asked under the strict policy is all that is asked under any. -/
theorem of_strict (h : spec.IsSound .strict) (policy : Policy) : spec.IsSound policy :=
  { h with
    distinct := fun _ => h.distinct rfl
    normal := fun _ => h.normal rfl }

end IsSound

/-- A drawing has exactly one verdict, and the check finds it. It is accepted if it is sound, and what is accepted under
the strict policy is accepted under every policy. -/
theorem fault_iff_verdict (spec : DrawingSpec Float) :
    (∀ policy r, spec.fault? policy = r ↔ Verdict policy spec r) ∧
      (∀ policy, spec.fault? policy = none ↔ spec.IsSound policy) ∧
      (spec.fault? .strict = none → ∀ policy, spec.fault? policy = none) := by
  have hverdict (policy : Policy) (r : Option DrawingFault) : spec.fault? policy = r ↔ Verdict policy spec r := by
    constructor
    · rintro rfl
      exact verdict_fault? policy spec
    · intro h
      exact h.unique (verdict_fault? policy spec)
  have hsound (policy : Policy) : spec.fault? policy = none ↔ spec.IsSound policy := by
    rw [hverdict]
    exact ⟨Verdict.isSound, IsSound.verdict⟩
  refine ⟨hverdict, hsound, fun hstrict policy => ?_⟩
  exact (hsound policy).2 (((hsound .strict).1 hstrict).of_strict policy)

-- the id is used twice as well, but the direction counts first
example : DrawingSpec.fault? .strict (⟨"Plate", "A4", [⟨"top", ⟨0, 0, 1⟩, false, none, none⟩,
    ⟨"top", ⟨1e-200, 0, 0⟩, false, none, none⟩], []⟩ : DrawingSpec Float) = some (.invalidView "top" .direction) := by
  decide +kernel

end DrawingSpec

end SolidDrawing
