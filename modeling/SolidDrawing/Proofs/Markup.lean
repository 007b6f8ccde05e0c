import Mathlib.Data.List.Basic
import SolidDrawing.Sheet.Svg

/-!
# Markup and escaped texts

The part of XML 1.0 that sheets are written in: one declaration, tags with attributes in double quotes, and character
data behind each tag. `Xml.read?` reads it character by character, without knowing where a text was put in. An escaped
text is passed over as a whole, in character data and in the value of an attribute, and is read back as the text that
was escaped (`Xml.Reads.data`, `Xml.Reads.attr`).
-/

namespace SolidDrawing

namespace Xml

/-! ### References -/

/-- The entities that need no declaration. -/
def predefined : List (String × Char) := [("amp", '&'), ("lt", '<'), ("gt", '>'), ("quot", '"'), ("apos", '\'')]

/-- The character that an entity stands for. -/
def entity? (name : List Char) : Option Char := (predefined.find? fun e => e.1 == String.ofList name).map Prod.snd

/-- A text with the characters that its references stand for. `some name` is the part of a reference that was read. -/
def decodeFrom : Option (List Char) → List Char → Option (List Char)
  | none, [] => some []
  | none, c :: cs => if c = '&' then decodeFrom (some []) cs else (decodeFrom none cs).map (c :: ·)
  | some _, [] => none
  | some name, c :: cs =>
    if c = ';' then (entity? name).bind fun c => (decodeFrom none cs).map (c :: ·)
    else decodeFrom (some (name ++ [c])) cs

/-- A text with the characters that its references stand for, if all of them are to predefined entities. -/
def decode? (cs : List Char) : Option (List Char) := decodeFrom none cs

/-! ### Tags -/

/-- The kinds of tags: the declaration of a document, the two tags around the content of an element, and the tag of an
element without content. -/
inductive TagKind where
  | declaration
  | opening
  | closing
  | empty
  deriving Repr, DecidableEq

/-- A tag with its attributes in order. -/
structure Tag where
  kind : TagKind
  name : String
  attributes : List (String × String)
  deriving Repr, DecidableEq

/-- What is left of a tag without the values of its attributes. -/
structure Shape where
  kind : TagKind
  name : String
  attributes : List String
  deriving Repr, DecidableEq

/-- A tag and the character data behind it, up to the next tag. -/
structure Piece where
  tag : Tag
  data : String
  deriving Repr, DecidableEq

namespace Tag

/-- The tag with one more attribute. -/
def add (tag : Tag) (key value : String) : Tag := { tag with attributes := tag.attributes ++ [(key, value)] }

/-- The tag without the values of its attributes. -/
def shape (tag : Tag) : Shape := ⟨tag.kind, tag.name, tag.attributes.map Prod.fst⟩

end Tag

/-- White space and nothing else. -/
def IsBlank (s : String) : Prop := ∀ c ∈ s.toList, c ∈ [' ', '\t', '\n', '\r']

instance (s : String) : Decidable (IsBlank s) := List.decidableBAll (· ∈ [' ', '\t', '\n', '\r']) s.toList

/-! ### Reading -/

def isNameStart (c : Char) : Bool := c.isAlpha || c == '_' || c == ':'

def isNameChar (c : Char) : Bool := isNameStart c || c.isDigit || c == '-' || c == '.'

/-- The character can be the next one of a name. -/
def continues (name : List Char) (c : Char) : Bool := if name.isEmpty then isNameStart c else isNameChar c

def isName : List Char → Bool
  | [] => false
  | c :: cs => isNameStart c && cs.all isNameChar

/-- Where a reader is. Character data and values are collected as they are written. -/
inductive Mode where
  | start
  | data (tag : Tag) (raw : List Char)
  /-- Behind the bracket that begins a tag. -/
  | markup
  | name (kind : TagKind) (name : List Char)
  /-- Behind the name or an attribute of a tag. -/
  | inside (tag : Tag)
  | key (tag : Tag) (key : List Char)
  | equals (tag : Tag) (key : String)
  | value (tag : Tag) (key : String) (raw : List Char)
  /-- In front of the bracket that ends a tag. -/
  | last (tag : Tag)
  deriving Repr, DecidableEq

/-- What follows the name or an attribute of a tag. -/
def within (tag : Tag) (c : Char) : Option Mode :=
  if c = ' ' then some (.key tag [])
  else if c = '>' ∧ tag.kind = .opening then some (.data tag [])
  else if c = '/' ∧ tag.kind = .opening then some (.last { tag with kind := .empty })
  else if c = '?' ∧ tag.kind = .declaration then some (.last tag)
  else none

/-- The pieces that a character completes, and where the reader is behind it. -/
def step : Mode → Char → Option (List Piece × Mode)
  | .start, c => if c = '<' then some ([], .markup) else none
  | .data tag raw, c =>
    if c = '<' then (decode? raw).map fun s => ([⟨tag, String.ofList s⟩], .markup)
    else if c = '>' then none
    else some ([], .data tag (raw ++ [c]))
  | .markup, c =>
    if c = '/' then some ([], .name .closing [])
    else if c = '?' then some ([], .name .declaration [])
    else if isNameStart c then some ([], .name .opening [c])
    else none
  | .name kind name, c =>
    if continues name c then some ([], .name kind (name ++ [c]))
    else if name = [] then none
    else if kind = .closing then if c = '>' then some ([], .data ⟨.closing, String.ofList name, []⟩ []) else none
    else (within ⟨kind, String.ofList name, []⟩ c).map ([], ·)
  | .inside tag, c => (within tag c).map ([], ·)
  | .key tag key, c =>
    if continues key c then some ([], .key tag (key ++ [c]))
    else if c = '=' ∧ key ≠ [] then some ([], .equals tag (String.ofList key))
    else none
  | .equals tag key, c => if c = '"' then some ([], .value tag key []) else none
  | .value tag key raw, c =>
    if c = '"' then (decode? raw).map fun s => ([], .inside (tag.add key (String.ofList s)))
    else if c = '<' then none
    else some ([], .value tag key (raw ++ [c]))
  | .last tag, c => if c = '>' then some ([], .data tag []) else none

/-- The pieces that characters complete one after the other, and where the reader is behind them. -/
def run (m : Mode) : List Char → Option (List Piece × Mode)
  | [] => some ([], m)
  | c :: cs => do
    let (pieces, m) ← step m c
    let (rest, m) ← run m cs
    return (pieces ++ rest, m)

/-- The piece that the end of the document completes. A document ends behind a tag. -/
def finish : Mode → Option Piece
  | .data tag raw => (decode? raw).map fun s => ⟨tag, String.ofList s⟩
  | _ => none

/-- The pieces from a mode to the end of the document. -/
def readFrom (m : Mode) (cs : List Char) : Option (List Piece) := do
  let (pieces, m) ← run m cs
  return pieces ++ [← finish m]

/-- The tags of a document, each with the character data behind it. -/
def read? (cs : List Char) : Option (List Piece) := readFrom .start cs

/-! ### Reading part by part -/

/-- The reader comes from one mode to another over these characters, and completes these pieces. -/
def Reads (m : Mode) (cs : List Char) (pieces : List Piece) (m' : Mode) : Prop := run m cs = some (pieces, m')

theorem run_append (m : Mode) (cs cs' : List Char) : run m (cs ++ cs') = do
    let (pieces, m) ← run m cs
    let (rest, m) ← run m cs'
    return (pieces ++ rest, m) := by
  induction cs generalizing m with
  | nil => cases h : run m cs' <;> simp [run, h]
  | cons c cs ih => simp [run, ih, Option.bind_assoc]

namespace Reads

variable {m m₁ m₂ : Mode} {cs cs' : List Char} {pieces pieces' : List Piece} {tag : Tag}

theorem append (h : Reads m cs pieces m₁) (h' : Reads m₁ cs' pieces' m₂) :
    Reads m (cs ++ cs') (pieces ++ pieces') m₂ := by
  have hcs : run m cs = some (pieces, m₁) := h
  have hcs' : run m₁ cs' = some (pieces', m₂) := h'
  rw [Reads, run_append, hcs]
  simp [hcs']

theorem cons {c : Char} (hc : step m c = some ([], m₁)) (h : Reads m₁ cs pieces m₂) : Reads m (c :: cs) pieces m₂ := by
  have hcs : run m₁ cs = some (pieces, m₂) := h
  simp [Reads, run, hc, hcs]

theorem readFrom_append (h : Reads m cs pieces m₁) : readFrom m (cs ++ cs') = (readFrom m₁ cs').map (pieces ++ ·) := by
  have hcs : run m cs = some (pieces, m₁) := h
  rw [readFrom, run_append, hcs, readFrom]
  cases hrest : run m₁ cs' with
  | none => simp [hrest]
  | some r => cases hlast : finish r.2 <;> simp [hrest, hlast]

private theorem collect_append (mode : List Char → Mode) {p : Char → Prop}
    (hstep : ∀ raw c, p c → step (mode raw) c = some ([], mode (raw ++ [c]))) (raw : List Char) (h : ∀ c ∈ cs, p c) :
    Reads (mode raw) cs [] (mode (raw ++ cs)) := by
  induction cs generalizing raw with
  | nil => simp [Reads, run]
  | cons c cs ih =>
    obtain ⟨hc, hcs⟩ := List.forall_mem_cons.1 h
    have hrest := ih (raw ++ [c]) hcs
    rw [List.append_assoc, List.singleton_append] at hrest
    exact cons (hstep raw c hc) hrest

/-- Characters that leave the reader where it is are collected. -/
theorem collect (mode : List Char → Mode) {p : Char → Prop}
    (hstep : ∀ raw c, p c → step (mode raw) c = some ([], mode (raw ++ [c]))) (h : ∀ c ∈ cs, p c) :
    Reads (mode []) cs [] (mode cs) := by
  have hread := collect_append mode hstep [] h
  rwa [List.nil_append] at hread

theorem key (h : isName cs = true) : Reads (.key tag []) cs [] (.key tag cs) := by
  cases cs with
  | nil => cases h
  | cons c cs =>
    rw [isName, Bool.and_eq_true] at h
    have hfirst : step (.key tag []) c = some ([], .key tag [c]) := by simp [step, continues, h.1]
    refine cons hfirst (collect (fun raw => .key tag (c :: raw)) (fun raw ch hch => ?_) (List.all_eq_true.1 h.2))
    simp [step, continues, hch]

end Reads

end Xml

/-! ### Escaped texts -/

/-- The first text is the second one with references for the characters that have a meaning in markup. -/
structure Xml.Escapes (t s : String) : Prop where
  plain : ∀ c ∈ t.toList, c ∉ ['<', '>', '"', '\'']
  reference : ∀ rest, '&' :: rest <:+ t.toList → ∃ e ∈ predefined, e.1.toList ++ [';'] <+: rest
  decoded : decode? t.toList = some s.toList

namespace Svg

open Xml (predefined decode? decodeFrom)

variable {c : Char}

theorem escapeChar_of_ne (hamp : c ≠ '&') (hlt : c ≠ '<') (hgt : c ≠ '>') (hquot : c ≠ '"') (hapos : c ≠ '\'') :
    escapeChar c = [c] := by
  have hentity : entity? c = none := by
    unfold entity?
    split <;> first | contradiction | rfl
  rw [escapeChar, hentity]

/-- Either there is an entity for a character, or the character stands for itself. -/
theorem escapeChar_cases (c : Char) :
    (∃ name, (name, c) ∈ predefined ∧ escapeChar c = '&' :: name.toList ++ [';']) ∨
      (c ∉ ['&', '<', '>', '"', '\''] ∧ escapeChar c = [c]) := by
  by_cases hc : c ∈ ['&', '<', '>', '"', '\'']
  · left
    simp only [List.mem_cons, List.not_mem_nil, or_false] at hc
    rcases hc with rfl | rfl | rfl | rfl | rfl
    · exact ⟨"amp", by decide, rfl⟩
    · exact ⟨"lt", by decide, rfl⟩
    · exact ⟨"gt", by decide, rfl⟩
    · exact ⟨"quot", by decide, rfl⟩
    · exact ⟨"apos", by decide, rfl⟩
  · right
    simp only [List.mem_cons, List.not_mem_nil, or_false, not_or] at hc
    obtain ⟨hamp, hlt, hgt, hquot, hapos⟩ := hc
    exact ⟨by simp [*], escapeChar_of_ne hamp hlt hgt hquot hapos⟩

theorem notMem_of_mem_escapeChar {ch : Char} (h : ch ∈ escapeChar c) : ch ∉ ['<', '>', '"', '\''] := by
  rcases escapeChar_cases c with ⟨name, hname, hc⟩ | ⟨hplain, hc⟩
  · -- no name of an entity has one of these characters
    have hnames : ∀ e ∈ predefined, ('&' :: e.1.toList ++ [';']).all (· ∉ ['<', '>', '"', '\'']) = true := by decide
    exact of_decide_eq_true (List.all_eq_true.1 (hnames _ hname) ch (hc ▸ h))
  · rw [hc, List.mem_singleton] at h
    subst h
    exact fun hch => hplain (List.mem_cons_of_mem _ hch)

private theorem suffix_of_notMem {cs cs' rest : List Char} (hcs : c ∉ cs) (h : c :: rest <:+ cs ++ cs') :
    c :: rest <:+ cs' := by
  induction cs with
  | nil => exact h
  | cons x cs ih =>
    rw [List.mem_cons, not_or] at hcs
    rcases List.suffix_cons_iff.1 h with heq | hsuffix
    · exact absurd (List.cons.inj heq).1 hcs.1
    · exact ih hcs.2 hsuffix

/-- No reference begins inside of another one. -/
theorem reference_escapeChar {cs rest : List Char} (h : '&' :: rest <:+ escapeChar c ++ cs) :
    '&' :: rest <:+ cs ∨ ∃ e ∈ predefined, e.1.toList ++ [';'] <+: rest := by
  rcases escapeChar_cases c with ⟨name, hname, hc⟩ | ⟨hplain, hc⟩
  · have hnames : ∀ e ∈ predefined, '&' ∉ e.1.toList ++ [';'] := by decide
    rw [hc] at h
    rcases List.suffix_cons_iff.1 h with heq | hsuffix
    · right
      refine ⟨(name, c), hname, ?_⟩
      rw [(List.cons.inj heq).2]
      exact List.prefix_append _ _
    · exact .inl (suffix_of_notMem (hnames _ hname) hsuffix)
  · left
    rw [hc] at h
    refine suffix_of_notMem (fun hamp => hplain ?_) h
    rw [← List.mem_singleton.1 hamp]
    exact List.mem_cons_self

theorem decodeFrom_escapeChar (c : Char) (cs : List Char) :
    decodeFrom none (escapeChar c ++ cs) = (decodeFrom none cs).map (c :: ·) := by
  rcases escapeChar_cases c with ⟨name, hname, hc⟩ | ⟨hplain, hc⟩
  · simp only [predefined, List.mem_cons, Prod.mk.injEq, List.not_mem_nil, or_false] at hname
    rcases hname with ⟨rfl, rfl⟩ | ⟨rfl, rfl⟩ | ⟨rfl, rfl⟩ | ⟨rfl, rfl⟩ | ⟨rfl, rfl⟩ <;> rfl
  · have hamp : c ≠ '&' := fun hamp => hplain (hamp ▸ List.mem_cons_self)
    rw [hc, List.singleton_append, decodeFrom, if_neg hamp]

theorem escapes (s : String) : Xml.Escapes (escape s) s where
  plain := by
    intro ch hch
    rw [toList_escape, List.mem_flatMap] at hch
    obtain ⟨c, -, hch⟩ := hch
    exact notMem_of_mem_escapeChar hch
  reference := by
    rw [toList_escape]
    induction s.toList with
    | nil => simp
    | cons c cs ih =>
      intro rest hrest
      rw [List.flatMap_cons] at hrest
      rcases reference_escapeChar hrest with hrest | hfound
      · exact ih rest hrest
      · exact hfound
  decoded := by
    rw [toList_escape]
    induction s.toList with
    | nil => rfl
    | cons c cs ih =>
      rw [List.flatMap_cons, decode?, decodeFrom_escapeChar, ← decode?, ih]
      rfl

/-- Every occurrence of a character in a text replaced by another text. -/
def substitute (c : Char) (other s : String) : String :=
  String.ofList (s.toList.flatMap fun x => if x = c then other.toList else [x])

/-- Escaping is to substitute one character after the other, the ampersand first. -/
theorem escape_eq_substitute (s : String) : escape s =
    substitute '\'' "&apos;" (substitute '"' "&quot;" (substitute '>' "&gt;" (substitute '<' "&lt;"
      (substitute '&' "&amp;" s)))) := by
  simp only [substitute, escape, String.toList_ofList, List.flatMap_assoc]
  refine congrArg String.ofList (List.flatMap_congr fun c _ => ?_)
  by_cases hc : c ∈ ['&', '<', '>', '"', '\'']
  · simp only [List.mem_cons, List.not_mem_nil, or_false] at hc
    rcases hc with rfl | rfl | rfl | rfl | rfl <;> rfl
  · simp only [List.mem_cons, List.not_mem_nil, or_false, not_or] at hc
    obtain ⟨hamp, hlt, hgt, hquot, hapos⟩ := hc
    simp only [escapeChar_of_ne hamp hlt hgt hquot hapos, hamp, hlt, hgt, hquot, hapos, if_false,
      List.flatMap_singleton]

/-- With the ampersand last, entities of other characters are escaped again. -/
example : substitute '&' "&amp;" (substitute '<' "&lt;" "<") = "&amp;lt;" := by decide

end Svg

/-! ### Written markup -/

namespace Xml

open Svg (escape escapes toList_escape)

/-- What stands in a tag in front of its name. -/
def TagKind.before : TagKind → List Char
  | declaration => ['?']
  | closing => ['/']
  | opening | empty => []

/-- What stands in a tag behind its attributes. -/
def TagKind.after : TagKind → List Char
  | declaration => ['?']
  | empty => ['/']
  | opening | closing => []

namespace Tag

def attributeChars (attributes : List (String × String)) : List Char :=
  attributes.flatMap fun a => (Svg.Element.attr a.1 a.2).toList

/-- A tag in brackets. -/
def chars (tag : Tag) : List Char :=
  '<' :: (tag.kind.before ++ tag.name.toList ++ attributeChars tag.attributes ++ tag.kind.after ++ ['>'])

end Tag

/-- The tag and its attributes have names. A closing tag has no attributes. -/
structure Shape.IsNamed (shape : Shape) : Prop where
  name : isName shape.name.toList = true
  attributes : ∀ a ∈ shape.attributes, isName a.toList = true
  closing : shape.kind = .closing → shape.attributes = []

instance (shape : Shape) : Decidable shape.IsNamed :=
  decidable_of_iff (isName shape.name.toList = true ∧ (∀ a ∈ shape.attributes, isName a.toList = true) ∧
    (shape.kind = .closing → shape.attributes = [])) ⟨fun h => ⟨h.1, h.2.1, h.2.2⟩, fun h => ⟨h.1, h.2, h.3⟩⟩

/-- A tag, and the escaped text behind it. -/
def Piece.chars (p : Piece) : List Char := p.tag.chars ++ (escape p.data).toList

/-- The mode is behind the name or an attribute of a tag. -/
def Mode.IsBehind (m : Mode) (tag : Tag) : Prop := ∀ c ∈ [' ', '>', '/', '?'], step m c = (within tag c).map ([], ·)

theorem Mode.isBehind_inside (tag : Tag) : (Mode.inside tag).IsBehind tag := fun _ _ => rfl

theorem ne_nil_of_isName {name : List Char} (h : isName name = true) : name ≠ [] := by
  rintro rfl
  cases h

theorem continues_of_ne_nil {name : List Char} (h : name ≠ []) (c : Char) : continues name c = isNameChar c := by
  rw [continues, if_neg (by simpa using h)]

theorem Mode.isBehind_name {kind : TagKind} {name : List Char} (hname : name ≠ []) (hkind : kind ≠ .closing) :
    (Mode.name kind name).IsBehind ⟨kind, String.ofList name, []⟩ := by
  intro c hc
  have hend : isNameChar c = false := by
    simp only [List.mem_cons, List.not_mem_nil, or_false] at hc
    rcases hc with rfl | rfl | rfl | rfl <;> rfl
  simp [step, continues_of_ne_nil hname, hend, hname, hkind]

namespace Reads

variable {m : Mode} {cs : List Char} {pieces : List Piece} {tag : Tag}

/-- An escaped text is collected as character data. -/
theorem escaped (s : String) : Reads (.data tag []) (escape s).toList [] (.data tag (escape s).toList) := by
  refine collect (.data tag) (fun raw c hc => ?_) (escapes s).plain
  simp only [List.mem_cons, not_or] at hc
  simp [step, hc.1, hc.2.1]

/-- An escaped text is collected as the value of an attribute. -/
theorem escapedValue (key s : String) :
    Reads (.value tag key []) (escape s).toList [] (.value tag key (escape s).toList) := by
  refine collect (.value tag key) (fun raw c hc => ?_) (escapes s).plain
  simp only [List.mem_cons, not_or] at hc
  simp [step, hc.1, hc.2.2.1]

/-- An attribute adds its name and its value to the tag that it is in. -/
theorem attr {name : String} (value : String) (hname : isName name.toList = true) (hm : m.IsBehind tag) :
    Reads m (Svg.Element.attr name value).toList [] (.inside (tag.add name value)) := by
  have hblank : step m ' ' = some ([], .key tag []) := hm ' ' (by decide)
  have hequals : Reads (.key tag name.toList) ['=', '"'] [] (.value tag name []) := by
    have hne : name.toList ≠ [] := ne_nil_of_isName hname
    have hend : isNameChar '=' = false := by decide
    simp [Reads, run, step, continues_of_ne_nil hne, hend, hne]
  have hquote : Reads (.value tag name (escape value).toList) ['"'] [] (.inside (tag.add name value)) := by
    simp [Reads, run, step, (escapes value).decoded]
  have hattr : (Svg.Element.attr name value).toList =
      ' ' :: name.toList ++ ['=', '"'] ++ (escape value).toList ++ ['"'] := by
    simp [Svg.Element.attr]
  rw [hattr]
  exact (((cons hblank (Reads.key hname)).append hequals).append (escapedValue name value)).append hquote

theorem attributes {attributes : List (String × String)}
    (hnames : ∀ a ∈ attributes.map Prod.fst, isName a.toList = true) (hm : m.IsBehind tag) :
    ∃ m', Reads m (Tag.attributeChars attributes) [] m' ∧
      m'.IsBehind { tag with attributes := tag.attributes ++ attributes } := by
  induction attributes generalizing m tag with
  | nil =>
    refine ⟨m, rfl, ?_⟩
    rw [List.append_nil]
    exact hm
  | cons a rest ih =>
    rw [List.map_cons, List.forall_mem_cons] at hnames
    obtain ⟨hname, hrest⟩ := hnames
    obtain ⟨m', hreads, hm'⟩ := ih hrest (Mode.isBehind_inside (tag.add a.1 a.2))
    refine ⟨m', (attr a.2 hname hm).append hreads, ?_⟩
    simpa [Tag.add] using hm'

theorem name (kind : TagKind) (h : isName cs = true) : Reads .markup (kind.before ++ cs) []
    (.name (if kind = .empty then .opening else kind) cs) := by
  cases cs with
  | nil => cases h
  | cons c cs =>
    rw [isName, Bool.and_eq_true] at h
    have hfirst : Reads .markup (kind.before ++ [c]) [] (.name (if kind = .empty then .opening else kind) [c]) := by
      have hslash : c ≠ '/' := by
        rintro rfl
        exact absurd h.1 (by decide)
      have hquestion : c ≠ '?' := by
        rintro rfl
        exact absurd h.1 (by decide)
      cases kind <;> simp [Reads, run, step, TagKind.before, continues, h.1, hslash, hquestion]
    have hrest : Reads (.name (if kind = .empty then .opening else kind) [c]) cs []
        (.name (if kind = .empty then .opening else kind) (c :: cs)) := by
      refine collect (fun raw => .name _ (c :: raw)) (fun raw ch hch => ?_) (List.all_eq_true.1 h.2)
      simp [step, continues, hch]
    have hname := hfirst.append hrest
    rwa [List.append_assoc] at hname

private theorem ending {kind : TagKind} {name : String} {attributes : List (String × String)} (hkind : kind ≠ .closing)
    (hm : m.IsBehind ⟨if kind = .empty then .opening else kind, name, attributes⟩) :
    Reads m (kind.after ++ ['>']) [] (.data ⟨kind, name, attributes⟩ []) := by
  cases kind with
  | closing => exact absurd rfl hkind
  | opening => exact cons (hm '>' (by decide)) rfl
  | empty => exact cons (hm '/' (by decide)) rfl
  | declaration => exact cons (hm '?' (by decide)) rfl

/-- A tag is read behind the bracket that begins it. -/
theorem tail_chars {t : Tag} (h : t.shape.IsNamed) : Reads .markup t.chars.tail [] (.data t []) := by
  obtain ⟨kind, n, attrs⟩ := t
  have hne : n.toList ≠ [] := ne_nil_of_isName h.name
  have hname : Reads .markup (kind.before ++ n.toList) [] _ := name kind h.name
  by_cases hkind : kind = .closing
  · subst hkind
    obtain rfl : attrs = [] := List.map_eq_nil_iff.1 (h.closing rfl)
    have hend : Reads (.name .closing n.toList) ['>'] [] (.data ⟨.closing, n, []⟩ []) := by
      have hbracket : isNameChar '>' = false := by decide
      simp [Reads, run, step, continues_of_ne_nil hne, hbracket, hne]
    simpa [Tag.chars, Tag.attributeChars, TagKind.after] using hname.append hend
  · have hopening : (if kind = .empty then TagKind.opening else kind) ≠ .closing := by
      split
      · nofun
      · exact hkind
    obtain ⟨m', hattributes, hm'⟩ := attributes h.attributes (Mode.isBehind_name hne hopening)
    rw [String.ofList_toList] at hm'
    simpa [Tag.chars] using (hname.append hattributes).append (ending hkind hm')

end Reads

theorem readFrom_pieces {tag : Tag} {raw : List Char} {s : String} (hraw : decode? raw = some s.toList)
    {pieces : List Piece} (h : ∀ p ∈ pieces, p.tag.shape.IsNamed) :
    readFrom (.data tag raw) (pieces.flatMap Piece.chars) = some (⟨tag, s⟩ :: pieces) := by
  induction pieces generalizing tag raw s with
  | nil => simp [readFrom, run, finish, hraw]
  | cons p pieces ih =>
    obtain ⟨hp, hpieces⟩ := List.forall_mem_cons.1 h
    have hopen : Reads (.data tag raw) ['<'] [⟨tag, s⟩] .markup := by
      simp [Reads, run, step, hraw]
    have hread : Reads (.data tag raw) p.chars [⟨tag, s⟩] (.data p.tag (escape p.data).toList) :=
      (hopen.append (.tail_chars hp)).append (.escaped p.data)
    rw [List.flatMap_cons, hread.readFrom_append, ih (escapes p.data).decoded hpieces]
    rfl

/-- What is read is what was written. -/
theorem read?_pieces {pieces : List Piece} (hne : pieces ≠ []) (h : ∀ p ∈ pieces, p.tag.shape.IsNamed) :
    read? (pieces.flatMap Piece.chars) = some pieces := by
  cases pieces with
  | nil => exact absurd rfl hne
  | cons p pieces =>
    obtain ⟨hp, hpieces⟩ := List.forall_mem_cons.1 h
    have hread : Reads .start p.chars [] (.data p.tag (escape p.data).toList) :=
      ((show Reads .start ['<'] [] .markup from rfl).append (.tail_chars hp)).append (.escaped p.data)
    rw [List.flatMap_cons, read?, hread.readFrom_append, readFrom_pieces (escapes p.data).decoded hpieces]
    rfl

end Xml

end SolidDrawing
