import SolidDrawing.Proofs.DrawnPages
import SolidDrawing.Proofs.SheetMarkup

/-!
# Well-formed sheets

The tags of a sheet are always nested as they have to be (`Svg.isMarkup_document`), but escaping keeps every character
that is not markup, and XML does not allow all of them. So the document of a sheet is well-formed just when the texts
that are put on it are (`Svg.isWellFormed_document_iff`), and a drawing with a control character in a text that is shown
is exported to a file that is no XML document (`Sheets.isWellFormed_export_iff`, `Sheets.malformed_controlDrawing`).
-/

namespace SolidDrawing

namespace Xml

/-! ### Documents -/

/-- The characters of XML 1.0. -/
def IsLegal (c : Char) : Prop :=
  c ∈ ['\t', '\n', '\r'] ∨ (0x20 ≤ c.toNat ∧ c.toNat ≤ 0xD7FF) ∨ (0xE000 ≤ c.toNat ∧ c.toNat ≤ 0xFFFD) ∨
    (0x10000 ≤ c.toNat ∧ c.toNat ≤ 0x10FFFF)

instance (c : Char) : Decidable (IsLegal c) := inferInstanceAs (Decidable (_ ∨ _))

/-- A text of such characters. -/
def IsLegalText (s : String) : Prop := ∀ c ∈ s.toList, IsLegal c

instance (s : String) : Decidable (IsLegalText s) := List.decidableBAll IsLegal s.toList

/-- The tags of an element around those of its content. -/
def around (name : String) (attributes : List (String × String)) (content : List Tag) : List Tag :=
  ⟨.opening, name, attributes⟩ :: content ++ [⟨.closing, name, []⟩]

/-- The tags of elements that stand next to each other. -/
inductive Content : List Tag → Prop
  | nil : Content []
  | empty (name : String) (attributes : List (String × String)) : Content [⟨.empty, name, attributes⟩]
  | element (name : String) (attributes : List (String × String)) {content : List Tag} (h : Content content) :
    Content (around name attributes content)
  | append {before after : List Tag} (h : Content before) (h' : Content after) : Content (before ++ after)

/-- The declaration of a document. -/
def declaration : Tag := ⟨.declaration, "xml", [("version", "1.0"), ("encoding", "UTF-8")]⟩

/-- A declaration and one element. There is no text outside of the element, and no tag has an attribute twice. -/
structure IsDocument (pieces : List Piece) : Prop where
  nested : ∃ name attributes content, pieces.map Piece.tag = declaration :: around name attributes content ∧
    Content content
  outside : ∀ p, pieces.head? = some p ∨ pieces.getLast? = some p → IsBlank p.data
  attributes : ∀ p ∈ pieces, (p.tag.attributes.map Prod.fst).Nodup

/-- The text reads as a document. -/
def IsMarkup (s : String) : Prop := ∃ pieces, read? s.toList = some pieces ∧ IsDocument pieces

/-- The text reads as a document, and has no character that XML does not allow. -/
structure IsWellFormed (s : String) : Prop where
  markup : IsMarkup s
  legal : IsLegalText s

theorem Content.flatMap {α : Type} {f : α → List Tag} {xs : List α} (h : ∀ x ∈ xs, Content (f x)) :
    Content (xs.flatMap f) := by
  induction xs with
  | nil => exact .nil
  | cons x xs ih =>
    obtain ⟨hx, hxs⟩ := List.forall_mem_cons.1 h
    exact .append hx (ih hxs)

/-- The tags around a document are no opening ones. -/
theorem kind_ne_opening {pieces : List Piece} {name : String} {attributes : List (String × String)}
    {content : List Tag} (h : pieces.map Piece.tag = declaration :: around name attributes content) {p : Piece}
    (hp : pieces.head? = some p ∨ pieces.getLast? = some p) : p.tag.kind ≠ .opening := by
  rcases hp with hp | hp
  · have htag : declaration = p.tag := by
      have hmap := congrArg (Option.map Piece.tag) hp
      rw [← List.head?_map, h] at hmap
      exact Option.some.inj hmap
    rw [← htag]
    decide
  · have htag : ⟨.closing, name, []⟩ = p.tag := by
      have hmap := congrArg (Option.map Piece.tag) hp
      rw [← List.getLast?_map, h, around, ← List.cons_append, List.getLast?_concat] at hmap
      exact Option.some.inj hmap
    rw [← htag]
    nofun

/-! ### Legal characters -/

theorem isLegal_of_isDigit {c : Char} (h : c.isDigit = true) : IsLegal c := by
  have hdigit : 48 ≤ c.toNat ∧ c.toNat ≤ 57 := by
    simpa [Char.isDigit, UInt32.le_iff_toNat_le] using h
  exact .inr (.inl ⟨by omega, by omega⟩)

@[simp] theorem isLegalText_append (s t : String) : IsLegalText (s ++ t) ↔ IsLegalText s ∧ IsLegalText t := by
  simp only [IsLegalText, String.toList_append, List.forall_mem_append]

theorem isLegalText_join (ss : List String) : IsLegalText (String.join ss) ↔ ∀ s ∈ ss, IsLegalText s := by
  simp only [IsLegalText, String.toList_join, List.forall_mem_flatMap]

theorem isLegalText_intercalate {sep : String} (hsep : IsLegalText sep) {ss : List String}
    (h : ∀ s ∈ ss, IsLegalText s) : IsLegalText (sep.intercalate ss) := by
  induction ss with
  | nil => exact nofun
  | cons s ss ih =>
    obtain ⟨hs, hss⟩ := List.forall_mem_cons.1 h
    cases ss with
    | nil => rwa [String.intercalate_singleton]
    | cons s' ss =>
      rw [String.intercalate_cons_cons]
      simp [hs, hsep, ih hss]

end Xml

namespace Svg

open Xml (Content IsMarkup IsLegal IsLegalText isLegalText_append isLegalText_join around)

variable {K : Type}

section

variable [DecimalText K]

/-! ### Nested tags -/

theorem nested_text (x y : K) (content : String) (bold : Bool) : Content (Element.text x y content bold).tags :=
  .element "text" _ .nil

theorem nested_rect (role : String) (r : Rect K) (stroke : K) : Content (Element.rect role r stroke).tags :=
  .empty "rect" _

variable [Scalar K]

theorem nested_textLines (x step y : K) (lines : List String) :
    Content ((textLines x step y lines).flatMap Element.tags) := by
  induction lines generalizing y with
  | nil => exact .nil
  | cons s lines ih => exact .append (nested_text x (y + step) s false) (ih (y + step))

theorem nested_frameElements (step : K) (f : Frame K) : Content ((frameElements step f).flatMap Element.tags) := by
  have hframe := (((nested_rect "view-frame" f.rect (0.25 : K)).append
    (nested_text (f.rect.x + step) (f.rect.y + 1.5 * step) f.heading true)).append
    (nested_textLines (f.rect.x + step) step (f.rect.y + 1.5 * step) f.lines)).element "g"
    [("class", "view"), ("id", "view-" ++ f.heading)]
  rw [frameElements, List.flatMap_append]
  exact hframe

variable (c : SheetConfig K) (l : Layout K)

/-- The tags of a sheet are those of one element. -/
theorem nested_elements : ∃ attributes content,
    (elements c l).flatMap Element.tags = Xml.declaration :: around "svg" attributes content ∧ Content content := by
  let block := l.titleBlock
  have htitle : Content (Element.title l.title : Element K).tags := .element "title" [] .nil
  have htemplate : Content (Element.template l.template : Element K).tags := .element "desc" [] .nil
  have hblock := (((nested_rect "title-frame" block (0.5 : K)).append
    (nested_text (block.x + c.lineHeight) (block.y + 1.5 * c.lineHeight) l.title true)).append
    (nested_text (block.x + c.lineHeight) (block.y + 2.7 * c.lineHeight) l.template false)).element "g"
    [("class", "title-block")]
  have hframes : Content (l.frames.flatMap fun f => (frameElements c.lineHeight f).flatMap Element.tags) :=
    .flatMap fun f _ => nested_frameElements c.lineHeight f
  have hall := (((htitle.append htemplate).append (nested_rect "border" l.border (0.7 : K))).append hblock).append
    hframes
  refine ⟨(Element.openDocument c.width c.height c.fontSize).last.attributes, _, ?_, hall⟩
  rw [elements, List.flatMap_append, List.flatMap_append, List.flatMap_assoc]
  rfl

/-- The document of a sheet reads as a document, whatever texts are on the sheet. -/
theorem isMarkup_document : IsMarkup (document c l) := by
  obtain ⟨attributes, content, htags, hcontent⟩ := nested_elements c l
  rw [← map_tag_pieces] at htags
  refine ⟨pieces (elements c l), read?_document c l, ⟨"svg", attributes, content, htags, hcontent⟩, ?_, ?_⟩
  case refine_1 =>
    intro p hp
    have hmem : p ∈ pieces (elements c l) := hp.elim List.mem_of_mem_head? List.mem_of_mem_getLast?
    exact isBlank_of_textOf?_eq_none _ p hmem (if_neg fun htext => Xml.kind_ne_opening htags hp htext.1)
  case refine_2 =>
    have hnodup : ∀ shape ∈ vocabulary, shape.attributes.Nodup := by decide
    exact fun p hp => hnodup _ (shape_mem_vocabulary _ p hp)

end

/-! ### Legal texts -/

theorem isLegal_escapeChar (c : Char) : (∀ ch ∈ escapeChar c, IsLegal ch) ↔ IsLegal c := by
  rcases escapeChar_cases c with ⟨name, hname, hc⟩ | ⟨-, hc⟩
  · have hentities : ∀ e ∈ Xml.predefined, IsLegal e.2 ∧ IsLegalText (String.ofList ('&' :: e.1.toList ++ [';'])) := by
      decide
    obtain ⟨hlegal, hentity⟩ := hentities _ hname
    rw [IsLegalText, String.toList_ofList] at hentity
    rw [hc]
    exact iff_of_true hentity hlegal
  · rw [hc]
    exact List.forall_mem_singleton

/-- Escaping neither removes an illegal character nor adds one. -/
@[simp] theorem isLegalText_escape (s : String) : IsLegalText (escape s) ↔ IsLegalText s := by
  simp only [IsLegalText, toList_escape, List.forall_mem_flatMap, isLegal_escapeChar]

/-- The texts that an element is made of. -/
def Element.texts : Element K → List String
  | title s | template s | text _ _ s _ | openView s => [s]
  | rect role .. => [role]
  | _ => []

section

variable [Scalar K]

theorem texts_textLines (x step y : K) (lines : List String) :
    (textLines x step y lines).flatMap Element.texts = lines := by
  rw [flatMap_textLines (g := fun s => [s]) fun _ _ _ => rfl, List.flatMap_singleton']

theorem texts_frameElements (step : K) (f : Frame K) :
    (frameElements step f).flatMap Element.texts = [f.heading, "view-frame", f.heading] ++ f.lines := by
  have hclose : [(Element.closeGroup : Element K)].flatMap Element.texts = [] := rfl
  rw [frameElements, List.flatMap_append, List.flatMap_append, texts_textLines, hclose, List.append_nil]
  rfl

theorem texts_elements (c : SheetConfig K) (l : Layout K) : (elements c l).flatMap Element.texts =
    [l.title, l.template, "border", "title-frame", l.title, l.template] ++
      l.frames.flatMap fun f => [f.heading, "view-frame", f.heading] ++ f.lines := by
  have hclose : [(Element.closeDocument : Element K)].flatMap Element.texts = [] := rfl
  rw [elements, List.flatMap_append, List.flatMap_append, List.flatMap_assoc, hclose, List.append_nil]
  simp only [texts_frameElements]
  rfl

end

section

variable [DecimalText K] (hnumber : ∀ x : K, IsLegalText (DecimalText.text x))

include hnumber

theorem Element.isLegalText_line (e : Element K) : IsLegalText e.line ↔ ∀ s ∈ e.texts, IsLegalText s := by
  unfold line
  cases e with
  | text x y content bold => cases bold <;> simp +decide [measure, attr, texts, hnumber]
  | _ => simp +decide [measure, attr, texts, hnumber]

/-- The characters of a document are legal just when those of the texts on the sheet are. -/
theorem isLegalText_document [Scalar K] (c : SheetConfig K) (l : Layout K) : IsLegalText (document c l) ↔
    IsLegalText l.title ∧ IsLegalText l.template ∧
      ∀ f ∈ l.frames, IsLegalText f.heading ∧ ∀ s ∈ f.lines, IsLegalText s := by
  have hend : IsLegalText "\n" := by decide
  have hborder : IsLegalText "border" := by decide
  have htitle : IsLegalText "title-frame" := by decide
  have hview : IsLegalText "view-frame" := by decide
  have htexts : IsLegalText (document c l) ↔ ∀ s ∈ (elements c l).flatMap Element.texts, IsLegalText s := by
    simp only [document, isLegalText_join, List.forall_mem_map, isLegalText_append, hend, and_true,
      Element.isLegalText_line hnumber, List.forall_mem_flatMap]
  rw [htexts, texts_elements]
  simp only [List.forall_mem_append, List.forall_mem_flatMap, List.forall_mem_cons, hborder, htitle, hview, true_and]
  constructor
  · rintro ⟨⟨ht, hd, -⟩, hframes⟩
    exact ⟨ht, hd, fun f hf => ⟨(hframes f hf).1.1, (hframes f hf).2⟩⟩
  · rintro ⟨ht, hd, hframes⟩
    have hnone : ∀ s ∈ ([] : List String), IsLegalText s := List.forall_mem_nil _
    exact ⟨⟨ht, hd, ht, hd, hnone⟩, fun f hf => ⟨⟨(hframes f hf).1, (hframes f hf).1, hnone⟩, (hframes f hf).2⟩⟩

end

end Svg

/-! ### Numbers -/

open Xml (IsLegal IsLegalText isLegalText_append isLegalText_intercalate)

theorem isLegalText_text (x : Float) : IsLegalText (DecimalText.text x) := by
  have hother : IsLegalText (String.ofList ['-', '.', 'N', 'a', 'i', 'n', 'f']) := by decide
  rw [IsLegalText, String.toList_ofList] at hother
  exact Decimal.Style.forall_mem_plain (fun _ => Xml.isLegal_of_isDigit) hother x

/-- The document of a sheet is well-formed just when the texts on it are legal. -/
theorem Svg.isWellFormed_document_iff (c : SheetConfig Float) (l : Layout Float) :
    Xml.IsWellFormed (document c l) ↔ IsLegalText l.title ∧ IsLegalText l.template ∧
      ∀ f ∈ l.frames, IsLegalText f.heading ∧ ∀ s ∈ f.lines, IsLegalText s := by
  rw [← isLegalText_document isLegalText_text]
  exact ⟨fun h => h.legal, fun h => ⟨isMarkup_document c l, h⟩⟩

/-! ### Drawings -/

/-- The texts of a drawing. -/
def DrawingSpec.texts {K : Type} (spec : DrawingSpec K) : List String :=
  [spec.pageTitle, spec.template] ++ spec.views.map (·.id) ++
    spec.dimensions.flatMap fun d => [d.kind, d.label] ++ d.edges

theorem Vec3.isLegalText_parenthesized (v : Vec3 Float) : IsLegalText v.parenthesized := by
  simp +decide [parenthesized, isLegalText_text]

theorem SectionRequest.isLegalText_line (cut : SectionRequest Float) : IsLegalText cut.line := by
  unfold line
  split
  · simp +decide [Vec3.isLegalText_parenthesized]
  · decide

theorem isLegalText_scaleLine (scale : Option Float) : IsLegalText (scaleLine scale) := by
  cases scale with
  | none => exact (by decide : IsLegalText "scale default")
  | some scale => simp +decide [scaleLine, isLegalText_text]

theorem Annotation.isLegalText_name {kind : String} (hkind : IsLegalText kind) {a : Annotation} (h : IsOf kind a) :
    IsLegalText a.name := by
  cases a with
  | distance => exact (by decide : IsLegalText "Distance")
  | diameter => exact (by decide : IsLegalText "Diameter")
  | other verbatim => rwa [name, h.1]

theorem DimensionSpec.isLegalText_line {d : DimensionSpec} (h : ∀ s ∈ [d.kind, d.label] ++ d.edges, IsLegalText s) :
    IsLegalText d.request.line := by
  obtain ⟨hkind, hlabel, hedges⟩ : IsLegalText d.kind ∧ IsLegalText d.label ∧ ∀ s ∈ d.edges, IsLegalText s := by
    simpa using h
  have hkindOf : d.request.annotation.IsOf d.kind := Annotation.isOf_ofKind d.kind
  have hname : IsLegalText d.request.annotation.name := Annotation.isLegalText_name hkind hkindOf
  have hlist : IsLegalText (", ".intercalate d.request.edges) := isLegalText_intercalate (by decide) hedges
  rw [DimensionRequest.line, isLegalText_append, isLegalText_append, isLegalText_append]
  refine ⟨⟨⟨hname, by decide⟩, hlabel⟩, ?_⟩
  split
  · exact nofun
  · simp +decide [hlist]

/-- Numbers and the words between the texts of a drawing bring no illegal character into its lines. -/
theorem DrawingSpec.isLegalText_linesAt {spec : DrawingSpec Float} (h : ∀ s ∈ spec.texts, IsLegalText s) (i : Nat)
    (v : ViewSpec Float) : ∀ line ∈ spec.linesAt i v, IsLegalText line := by
  have hdirection : IsLegalText ("direction " ++ v.direction.parenthesized) := by
    simp +decide [Vec3.isLegalText_parenthesized]
  have hcut : ∀ line ∈ if v.isSection then [SectionRequest.line ⟨v.sectionNormal⟩] else [], IsLegalText line := by
    split
    · exact List.forall_mem_singleton.2 (SectionRequest.isLegalText_line _)
    · exact nofun
  have hdimensions : ∀ line ∈ (dimensionsAt spec.views spec.dimensions i v).map (·.request.line), IsLegalText line := by
    rw [List.forall_mem_map]
    intro d hd
    have hmem : d ∈ spec.dimensions := by
      unfold dimensionsAt at hd
      split at hd
      · cases hd
      · exact (List.mem_filter.1 hd).1
    refine DimensionSpec.isLegalText_line fun s hs => h s ?_
    exact List.mem_append_right _ (List.mem_flatMap.2 ⟨d, hmem, hs⟩)
  have hfirst : ∀ line ∈ ["direction " ++ v.direction.parenthesized, scaleLine v.scale], IsLegalText line :=
    List.forall_mem_cons.2 ⟨hdirection, List.forall_mem_singleton.2 (isLegalText_scaleLine v.scale)⟩
  exact List.forall_mem_append.2 ⟨List.forall_mem_append.2 ⟨hfirst, hcut⟩, hdimensions⟩

namespace Sheets

variable (s : Sheets Float) (spec : DrawingSpec Float)

/-- The lines of view number `i` that fit into its frame. -/
def shownLines (i : Nat) (v : ViewSpec Float) : List String :=
  (spec.linesAt i v).take (s.config.maxLines spec.views.length)

theorem forall_mem_frames {P : String → List String → Prop} :
    (∀ f ∈ (s.nextLayout spec).frames, P f.heading f.lines) ↔ ∀ i v, spec.views[i]? = some v →
      P v.id (s.shownLines spec i v) := by
  rw [frames_nextLayout]
  constructor
  · intro h i v hv
    obtain ⟨hi, rfl⟩ := List.getElem?_eq_some_iff.1 hv
    have hframe := h _ (List.mem_mapIdx.2 ⟨i, hi, rfl⟩)
    rwa [SheetConfig.frame, PlacedView.lines_eq_linesAt] at hframe
  · intro h f hf
    obtain ⟨i, hi, rfl⟩ := List.mem_mapIdx.1 hf
    rw [SheetConfig.frame, PlacedView.lines_eq_linesAt]
    exact h i _ (List.getElem?_eq_getElem hi)

/-- Whatever a drawing has in its texts, the tags of what is exported are nested as they have to be. It is a well-formed
document just when the title, the template, the ids and the lines that are shown have no illegal character. This is so
if there is none in the texts of the drawing. -/
theorem isWellFormed_export_iff {m : Type → Type} [Monad m] [LawfulMonad m] (fs : FileSystem m) {s : Sheets Float}
    (hnames : Function.Injective s.names.view) {policy : Policy} {spec : DrawingSpec Float}
    (hfault : spec.fault? policy = none) (solid : SolidRef) (targets : ExportTargets) :
    let sheets : Renderer Float (StateT (Sheets Float) m) := renderer fs.lift
    let svg := Svg.document s.config (s.nextLayout spec)
    let saved : ExceptT String m Unit := do
      fs.saveTo (Pdf.document s.config (s.nextLayout spec)) targets.pdf
      fs.saveTo svg.toUTF8.toList targets.svg
    (sheets.project policy solid spec targets).run.run s = (fun result => (result, s.drawn solid spec)) <$>
        ((saved.adapt RenderError.io).adapt ProjectError.renderer >>= fun _ =>
          pure ⟨s.names.page s.pagesDrawn, targets.pdf, targets.svg⟩ : ExceptT ProjectError m _).run ∧
      Xml.IsMarkup svg ∧
      (Xml.IsWellFormed svg ↔ IsLegalText spec.pageTitle ∧ IsLegalText spec.template ∧
        ∀ i v, spec.views[i]? = some v → IsLegalText v.id ∧ ∀ line ∈ s.shownLines spec i v, IsLegalText line) ∧
      ((∀ text ∈ spec.texts, IsLegalText text) → Xml.IsWellFormed svg) := by
  intro sheets svg saved
  have hiff : Xml.IsWellFormed svg ↔ IsLegalText spec.pageTitle ∧ IsLegalText spec.template ∧
      ∀ i v, spec.views[i]? = some v → IsLegalText v.id ∧ ∀ line ∈ s.shownLines spec i v, IsLegalText line := by
    have hframes := forall_mem_frames s spec (P := fun heading lines =>
      IsLegalText heading ∧ ∀ line ∈ lines, IsLegalText line)
    rw [← hframes]
    exact Svg.isWellFormed_document_iff s.config (s.nextLayout spec)
  refine ⟨run_project fs hnames hfault solid targets, Svg.isMarkup_document _ _, hiff, fun htexts => hiff.2 ?_⟩
  have hfirst : ∀ text ∈ [spec.pageTitle, spec.template] ++ spec.views.map (·.id), IsLegalText text :=
    fun text htext => htexts text (List.mem_append_left _ htext)
  refine ⟨hfirst _ (by simp), hfirst _ (by simp), fun i v hv => ⟨?_, fun line hline => ?_⟩⟩
  · have hid : v.id ∈ spec.views.map (·.id) := List.mem_map_of_mem (List.mem_of_getElem? hv)
    exact hfirst _ (List.mem_append_right _ hid)
  · exact DrawingSpec.isLegalText_linesAt htexts i v line (List.mem_of_mem_take hline)

theorem isWellFormed_export_plateDrawing :
    let s : Sheets Float := .empty ⟨297, 210, 10, 20, 2, 4⟩ .numbered
    Function.Injective s.names.view ∧ plateDrawing.fault? {} = none ∧
      (∀ text ∈ plateDrawing.texts, IsLegalText text) ∧
      Xml.IsWellFormed (Svg.document s.config (s.nextLayout plateDrawing)) := by
  intro s
  have hfault : plateDrawing.fault? {} = none := by decide +kernel
  have hlegal : ∀ text ∈ plateDrawing.texts, IsLegalText text := by decide
  have hexport := isWellFormed_export_iff (m := StateM Disk) (s := s) (Disk.fileSystem "/") numbered_view_injective
    hfault ⟨⟨"solid0"⟩, "csg"⟩ ⟨some "/plate.pdf", some "/plate.svg"⟩
  exact ⟨numbered_view_injective, hfault, hlegal, hexport.2.2.2 hlegal⟩

/-- A title of one control character. -/
def controlDrawing : DrawingSpec Float := ⟨"\x01", "A4", [], []⟩

theorem malformed_controlDrawing :
    let s : Sheets Float := .empty ⟨297, 210, 10, 20, 2, 4⟩ .numbered
    controlDrawing.fault? {} = none ∧ ¬ Xml.IsWellFormed (Svg.document s.config (s.nextLayout controlDrawing)) := by
  intro s
  refine ⟨rfl, fun h => ?_⟩
  have htitle : IsLegalText controlDrawing.pageTitle := ((Svg.isWellFormed_document_iff _ _).1 h).1
  exact absurd htitle (by decide)

end Sheets

end SolidDrawing
