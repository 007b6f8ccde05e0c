import Mathlib.Data.List.Forall2
import SolidDrawing.Proofs.ScreeningOrder

/-!
# Spellings of an axis

Screening changes nothing in a solid but the axes of its holes, which it writes with their small letters. Two solids are
respellings of each other if they differ in such axes only, and there in nothing but the case of the letter and the
blanks around it. Screening takes respellings to the same solid (`screenSolid_respelled`), and a solid that is screened
is a respelling of what it was before. So screening it again changes nothing, and jobs that are respellings of each
other are decoded alike (`Job.decode_respelled`).
-/

namespace SolidDrawing

/-- Two spellings of one axis. -/
structure Axis.SameLiteral (s t : String) : Prop where
  literal : IsLiteral s
  small : Text.lowerAscii (Text.trim t) = Text.lowerAscii (Text.trim s)

namespace Json

/-! ### Values that differ in one place -/

/-- Two objects with the same members in the same order, but for what is under a key. -/
def SameBut (key : String) : Json → Json → Prop
  | .object ms, .object ns => List.Forall₂ (fun m n => m.1 = n.1 ∧ (m.1 ≠ key → m.2 = n.2)) ms ns
  | _, _ => False

/-- The values are the same, or they are objects that differ in what is under a key, and there as `R` says. -/
inductive Under (key : String) (R : Json → Json → Prop) : Json → Json → Prop
  | same (v : Json) : Under key R v v
  | found {v w old new : Json} (hsame : v.SameBut key w) (hold : v.get? key = some old) (hnew : w.get? key = some new)
    (h : R old new) : Under key R v w

/-- Lists of the same length with related items. -/
inductive Items (R : Json → Json → Prop) : Json → Json → Prop
  | list {vs ws : List Json} (h : List.Forall₂ R vs ws) : Items R (.list vs) (.list ws)

/-- The operations are the same, or they are holes that differ in the spelling of their axis. -/
inductive OperationRespelled : Json → Json → Prop
  | same (op : Json) : OperationRespelled op op
  | hole {op op' : Json} {s t : String} (hsame : op.SameBut "axis" op') (hop : op.IsHoleAlong s)
    (hop' : op'.IsHoleAlong t) (h : Axis.SameLiteral s t) : OperationRespelled op op'

/-- The solids differ in the spelling of axes. -/
def SolidRespelled : Json → Json → Prop := Under "operations" (Items OperationRespelled)

/-- The jobs differ in the spelling of axes. -/
def JobRespelled : Json → Json → Prop := Under "solid" SolidRespelled

section

variable {v w : Json} {key other : String}

theorem sameBut_replace {old : Json} (h : v.get? key = some old) (w : Json) : v.SameBut key (v.replace key w) := by
  obtain ⟨ms, rfl⟩ := exists_object_of_get? h
  rw [replace, SameBut, List.forall₂_map_right_iff, List.forall₂_same]
  intro m _
  by_cases hm : m.1 = key <;> simp [hm]

theorem SameBut.get?_eq (h : v.SameBut key w) (hne : other ≠ key) : w.get? other = v.get? other := by
  unfold SameBut at h
  split at h
  case h_1 ms ns =>
    induction h with
    | nil => rfl
    | @cons m n ms ns hmn _ ih =>
      simp only [get?, List.find?_cons, ← hmn.1] at ih ⊢
      cases hm : m.1 == other with
      | true =>
        have hkey : m.1 ≠ key := (beq_iff_eq.1 hm).trans_ne hne
        simp [hmn.2 hkey]
      | false => exact ih
  case h_2 => exact h.elim

theorem SameBut.replace_eq (h : v.SameBut key w) (x : Json) : w.replace key x = v.replace key x := by
  unfold SameBut at h
  split at h
  case h_1 ms ns =>
    refine congrArg object ?_
    induction h with
    | nil => rfl
    | @cons m n ms ns hmn _ ih =>
      have hhead : (if n.1 == key then (key, x) else n) = if m.1 == key then (key, x) else m := by
        rw [← hmn.1]
        cases hm : m.1 == key with
        | true => rfl
        | false => exact Prod.ext hmn.1.symm (hmn.2 (by simpa using hm)).symm
      rw [List.map_cons, List.map_cons, hhead, ih]
  case h_2 => exact h.elim

end

end Json

/-! ### Screening -/

open Json (OperationRespelled SolidRespelled JobRespelled)

section

variable {solid : String} {index : Nat} {op op' : Json}

theorem Axis.parse?_congr {s t : String} (h : SameLiteral s t) : parse? t = parse? s := by
  rw [parse?, parse?, h.small]

theorem screenOperation_respelled (h : OperationRespelled op op') :
    screenOperation solid index op' = screenOperation solid index op := by
  cases h with
  | same => rfl
  | hole hsame hop hop' h =>
    obtain ⟨axis, haxis⟩ := Option.isSome_iff_exists.1 ((Axis.isSome_parse?_iff _).2 h.literal)
    have haxis' := (Axis.parse?_congr h).trans haxis
    rw [screenOperation_throughHole hop.1, screenOperation_throughHole hop'.1, screenAxis_of_parse? hop.2 haxis,
      screenAxis_of_parse? hop'.2 haxis', hsame.replace_eq]

theorem screenOperations_respelled {ops ops' : List Json} (h : List.Forall₂ OperationRespelled ops ops') :
    screenOperations solid index ops' = screenOperations solid index ops := by
  induction h generalizing index with
  | nil => rfl
  | cons hop _ ih => rw [screenOperations, screenOperations, screenOperation_respelled hop, ih]

end

/-- Screening takes respellings to the same solid, or finds the same fault in them. -/
theorem screenSolid_respelled {solid solid' : Json} (h : SolidRespelled solid solid') :
    screenSolid solid' = screenSolid solid := by
  cases h with
  | same => rfl
  | found hsame hold hnew h =>
    obtain ⟨hops⟩ := h
    have hid : solid'.idText = solid.idText := by
      rw [Json.idText, hsame.get?_eq (by decide), ← Json.idText]
    rw [Job.screenSolid_eq hold, Job.screenSolid_eq hnew, hid, screenOperations_respelled hops]
    simp only [hsame.replace_eq]

/-! ### What screening writes -/

section

variable {solid : String} {index : Nat} {op op' : Json}

theorem Axis.sameLiteral_letter {s : String} {axis : Axis} (h : parse? s = some axis) :
    SameLiteral s axis.letter ∧ axis.letter = Text.lowerAscii (Text.trim s) := by
  have hletter : axis.letter = Text.lowerAscii (Text.trim s) := letter_of_ofLetter? h
  have hsmall : Text.lowerAscii (Text.trim axis.letter) = axis.letter := by
    cases axis <;> decide
  exact ⟨⟨(isSome_parse?_iff s).1 (Option.isSome_iff_exists.2 ⟨axis, h⟩), hsmall.trans hletter⟩, hletter⟩

/-- Nothing but a hole with a text for its axis is changed. -/
theorem eq_of_screenOperation (hop : ∀ s, ¬ op.IsHoleAlong s) (h : screenOperation solid index op = .ok op') :
    op' = op := by
  unfold screenOperation at h
  split at h
  case h_1 => cases h
  case h_2 name htype =>
    split at h
    case h_1 => cases h
    case h_2 hkind =>
      unfold screenAxis at h
      split at h
      case h_1 s haxis =>
        have hname : OperationKind.throughHole.name = name := OperationKind.name_of_ofName? hkind
        exact absurd ⟨hname ▸ htype, haxis⟩ (hop s)
      case h_2 => exact (Except.ok.inj h).symm
    case h_3 => exact (Except.ok.inj h).symm
  case h_3 => cases h

/-- What becomes of an operation that passes. -/
theorem respelled_of_screenOperation (h : screenOperation solid index op = .ok op') :
    OperationRespelled op op' ∧ ∀ s, op.IsHoleAlong s → op'.IsHoleAlong (Text.lowerAscii (Text.trim s)) := by
  by_cases hop : ∃ s, op.IsHoleAlong s
  · obtain ⟨s, hop⟩ := hop
    cases hparse : Axis.parse? s with
    | none =>
      have hliteral : ¬ Axis.IsLiteral s := by simp [← Axis.isSome_parse?_iff, hparse]
      rw [screenOperation_of_not_isLiteral hop hliteral] at h
      cases h
    | some axis =>
      obtain ⟨hsame, hletter⟩ := Axis.sameLiteral_letter hparse
      rw [screenOperation_throughHole hop.1, screenAxis_of_parse? hop.2 hparse] at h
      obtain rfl := Except.ok.inj h
      have hop' : (op.replace "axis" (.text axis.letter)).IsHoleAlong axis.letter :=
        ⟨(Json.get?_replace_of_ne (by decide)).trans hop.1, Json.get?_replace_self hop.2 _⟩
      refine ⟨.hole (Json.sameBut_replace hop.2 _) hop hop' hsame, fun t ht => ?_⟩
      obtain rfl : s = t := Json.text.inj (Option.some.inj (hop.2.symm.trans ht.2))
      rwa [← hletter]
  · rw [not_exists] at hop
    obtain rfl := eq_of_screenOperation hop h
    exact ⟨.same _, fun s hs => absurd hs (hop s)⟩

theorem forall₂_of_screenOperations {ops ops' : List Json} (h : screenOperations solid index ops = .ok ops') :
    List.Forall₂ (fun op op' => OperationRespelled op op' ∧
      ∀ s, op.IsHoleAlong s → op'.IsHoleAlong (Text.lowerAscii (Text.trim s))) ops ops' := by
  induction ops generalizing index ops' with
  | nil =>
    obtain rfl := Except.ok.inj h
    exact .nil
  | cons op ops ih =>
    rw [screenOperations] at h
    obtain ⟨op', hop, h⟩ := exists_of_bind_eq_ok h
    obtain ⟨rest, hrest, h⟩ := exists_of_bind_eq_ok h
    obtain rfl := Except.ok.inj h
    exact .cons (respelled_of_screenOperation hop) (ih hrest)

end

section

variable {solid solid' : Json}

theorem exists_of_screenSolid {ops : List Json} (hops : solid.get? "operations" = some (.list ops))
    (h : screenSolid solid = .ok solid') :
    ∃ ops', screenOperations solid.idText 0 ops = .ok ops' ∧ solid' = solid.replace "operations" (.list ops') := by
  rw [Job.screenSolid_eq hops] at h
  obtain ⟨ops', hscreened, rfl⟩ := exists_of_map_eq_ok h
  exact ⟨ops', hscreened, rfl⟩

/-- A screened solid differs from what it was before in the spelling of axes only. -/
theorem respelled_of_screenSolid (h : screenSolid solid = .ok solid') : SolidRespelled solid solid' := by
  by_cases hops : ∃ ops, solid.get? "operations" = some (.list ops)
  · obtain ⟨ops, hops⟩ := hops
    obtain ⟨ops', hscreened, rfl⟩ := exists_of_screenSolid hops h
    have hrespelled := (forall₂_of_screenOperations hscreened).imp fun _ _ h => h.1
    exact .found (Json.sameBut_replace hops _) hops (Json.get?_replace_self hops _) (.list hrespelled)
  · rw [not_exists] at hops
    rw [Job.screenSolid_of_unscreened hops] at h
    obtain rfl := Except.ok.inj h
    exact .same _

/-- The axes of a screened solid are written with their small letters. -/
theorem small_of_screenSolid (h : screenSolid solid = .ok solid') {ops : List Json}
    (hops : solid.get? "operations" = some (.list ops)) {i : Nat} {op : Json} (hop : ops[i]? = some op) {s : String}
    (hs : op.IsHoleAlong s) : ∃ ops', solid'.get? "operations" = some (.list ops') ∧
      ∃ op' : Json, ops'[i]? = some op' ∧ op'.IsHoleAlong (Text.lowerAscii (Text.trim s)) := by
  obtain ⟨ops', hscreened, rfl⟩ := exists_of_screenSolid hops h
  have hall := forall₂_of_screenOperations hscreened
  obtain ⟨hi, rfl⟩ := List.getElem?_eq_some_iff.1 hop
  have hi' : i < ops'.length := hall.length_eq ▸ hi
  exact ⟨ops', Json.get?_replace_self hops _, ops'[i], List.getElem?_eq_getElem hi', (hall.get hi hi').2 s hs⟩

end

/-! ### Jobs -/

namespace Job

/-- Jobs that differ in the spelling of axes are decoded to the same job, or fail with the same fault. -/
theorem decode_respelled {v w : Json} (h : JobRespelled v w) : decode w = decode v := by
  cases h with
  | same => rfl
  | found hsame hold hnew h =>
    rw [decode_eq hold, decode_eq hnew, screenSolid_respelled h]
    simp only [hsame.replace_eq]

/-- Screening changes a solid in the spelling of axes only: it writes each of them with its small letter, and the next
time it changes nothing. Jobs that differ in the spelling of axes are decoded alike. -/
theorem decode_of_respelled :
    (∀ solid solid', screenSolid solid = .ok solid' →
      SolidRespelled solid solid' ∧
        (∀ ops (i : Nat) (op : Json) s, solid.get? "operations" = some (.list ops) → ops[i]? = some op →
          op.IsHoleAlong s → ∃ ops', solid'.get? "operations" = some (.list ops') ∧
            ∃ op' : Json, ops'[i]? = some op' ∧ op'.IsHoleAlong (Text.lowerAscii (Text.trim s))) ∧
        screenSolid solid' = .ok solid') ∧
      ∀ v w, JobRespelled v w → decode w = decode v := by
  refine ⟨fun solid solid' h => ?_, fun v w => decode_respelled⟩
  have hrespelled := respelled_of_screenSolid h
  refine ⟨hrespelled, fun ops i op s hops hop hs => ?_, (screenSolid_respelled hrespelled).trans h⟩
  exact small_of_screenSolid h hops hop hs

open Json (jobOf plate alongAxis solidObject)

/-- The axis of a hole is written with its small letter, that of another operation is left as it is. -/
theorem decode_of_respelled_plate :
    let solid := solidObject [plate, alongAxis "ThroughHole" " Y\n", alongAxis "Extrude" " Y"]
    let small := solidObject [plate, alongAxis "ThroughHole" "y", alongAxis "Extrude" " Y"]
    screenSolid solid = .ok small ∧ SolidRespelled solid small ∧ screenSolid small = .ok small ∧
      JobRespelled (jobOf solid) (jobOf small) ∧ decode (jobOf small) = decode (jobOf solid) := by
  intro solid small
  have hscreen : screenSolid solid = .ok small := rfl
  obtain ⟨hrespelled, -, hagain⟩ := decode_of_respelled.1 solid small hscreen
  have hsame : (jobOf solid).SameBut "solid" (jobOf small) := Json.sameBut_replace rfl small
  have hjob : JobRespelled (jobOf solid) (jobOf small) := .found hsame rfl rfl hrespelled
  exact ⟨hscreen, hrespelled, hagain, hjob, decode_of_respelled.2 _ _ hjob⟩

end Job

end SolidDrawing
