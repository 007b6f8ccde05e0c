/-!
# Paths

A path is a text of names between slashes. Empty names and single dots lead nowhere; two dots go one step up. The steps
of a path are those of its parts that lead anywhere, and its parent has the same steps but the last (`steps_parent`).
`Path.absolute?` gives the text of a path from the root on, without going up any step.
-/

namespace SolidDrawing

/-- One step along a path. -/
inductive Step where
  | name (s : String)
  | up
  deriving Repr, DecidableEq

/-- The text of a step. -/
def Step.text : Step → String
  | name s => s
  | up => ".."

/-- A path as it is written. -/
structure Path where
  text : String
  deriving Repr, DecidableEq

namespace Path

/-! ### Parts -/

/-- The parts of a text between slashes. -/
def splitSlash : List Char → List (List Char)
  | [] => [[]]
  | '/' :: cs => [] :: splitSlash cs
  | c :: cs =>
    match splitSlash cs with
    | [] => [[c]]
    | part :: rest => (c :: part) :: rest

/-- Parts with slashes between them. -/
def joinSlash : List (List Char) → List Char
  | [] => []
  | [part] => part
  | part :: rest => part ++ '/' :: joinSlash rest

theorem slash_notMem_of_mem_splitSlash {cs part : List Char} (h : part ∈ splitSlash cs) : '/' ∉ part := by
  fun_induction splitSlash cs generalizing part with
  | case1 => simp_all
  | case2 cs ih =>
    rcases List.mem_cons.1 h with rfl | h
    · simp
    · exact ih h
  | case3 c cs hc hs ih =>
    rw [List.mem_singleton] at h
    subst h
    simpa using fun hslash => hc hslash.symm
  | case4 c cs hc part' rest hs ih =>
    rcases List.mem_cons.1 h with rfl | h
    · have hpart : '/' ∉ part' := ih (by simp [hs])
      simpa [hpart] using fun hslash => hc hslash.symm
    · exact ih (by simp [hs, h])

theorem splitSlash_append {part : List Char} (h : '/' ∉ part) (cs : List Char) :
    splitSlash (part ++ '/' :: cs) = part :: splitSlash cs := by
  induction part with
  | nil => simp [splitSlash]
  | cons c part ih =>
    simp only [List.mem_cons, not_or] at h
    rw [List.cons_append, splitSlash, ih h.2]
    exact fun hslash => h.1 hslash.symm

theorem splitSlash_of_notMem {part : List Char} (h : '/' ∉ part) : splitSlash part = [part] := by
  induction part with
  | nil => simp [splitSlash]
  | cons c part ih =>
    simp only [List.mem_cons, not_or] at h
    rw [splitSlash, ih h.2]
    exact fun hslash => h.1 hslash.symm

theorem splitSlash_joinSlash {parts : List (List Char)} (hne : parts ≠ []) (h : ∀ part ∈ parts, '/' ∉ part) :
    splitSlash (joinSlash parts) = parts := by
  fun_induction joinSlash parts with
  | case1 => exact absurd rfl hne
  | case2 part => exact splitSlash_of_notMem (h part (by simp))
  | case3 part rest hrest ih =>
    rw [splitSlash_append (h part (by simp)), ih (fun hnil => hrest hnil) fun q hq => h q (by simp [hq])]

/-- The step of a part, if it leads anywhere. -/
def step? : List Char → Option Step
  | [] => none
  | ['.'] => none
  | ['.', '.'] => some .up
  | cs => some (.name (String.ofList cs))

/-- A part that leads nowhere. -/
def isIdle (part : List Char) : Bool := (step? part).isNone

/-- The parts of a path. -/
def parts (p : Path) : List (List Char) := splitSlash p.text.toList

/-- The steps of a path. -/
def steps (p : Path) : List Step := p.parts.filterMap step?

/-- The path starts at the root, and not at the working directory. -/
def isRooted (p : Path) : Bool := p.text.toList.head? == some '/'

/-- The path ends in a slash or a dot, and can only lead to a directory. -/
def isClosed (p : Path) : Bool := p.parts.getLast?.any isIdle && !p.text.isEmpty

/-- The path leads nowhere from the working directory. -/
def isEmpty (p : Path) : Bool := !p.isRooted && p.steps.isEmpty

/-! ### Parents -/

/-- Parts without those at the end that lead nowhere. -/
def trimIdle (parts : List (List Char)) : List (List Char) := (parts.reverse.dropWhile isIdle).reverse

theorem filterMap_dropWhile_isIdle (parts : List (List Char)) :
    (parts.dropWhile isIdle).filterMap step? = parts.filterMap step? := by
  induction parts with
  | nil => rfl
  | cons part parts ih =>
    rw [List.dropWhile_cons]
    split
    · next h =>
      rw [ih, List.filterMap_cons_none (by simpa [isIdle] using h)]
    · rfl

theorem filterMap_trimIdle (parts : List (List Char)) : (trimIdle parts).filterMap step? = parts.filterMap step? := by
  rw [trimIdle, List.filterMap_reverse, filterMap_dropWhile_isIdle, ← List.filterMap_reverse, List.reverse_reverse]

/-- The path of the given parts. -/
def ofParts (rooted : Bool) (parts : List (List Char)) : Path :=
  if rooted && parts.isEmpty then ⟨"/"⟩ else ⟨String.ofList (joinSlash parts)⟩

/-- The path without its last step. -/
def parent? (p : Path) : Option Path :=
  match p.parts.reverse.dropWhile isIdle with
  | [] => none
  | _ :: front => some (ofParts p.isRooted (trimIdle front.reverse))

theorem steps_ofParts (rooted : Bool) {parts : List (List Char)} (h : ∀ part ∈ parts, '/' ∉ part) :
    (ofParts rooted parts).steps = parts.filterMap step? := by
  rw [ofParts]
  split
  · next hroot =>
    simp only [Bool.and_eq_true, List.isEmpty_iff] at hroot
    rw [hroot.2]
    simp [steps, Path.parts, splitSlash, step?]
  · by_cases hne : parts = []
    · subst hne
      simp [steps, Path.parts, joinSlash, splitSlash, step?]
    · simp only [steps, Path.parts, String.toList_ofList, splitSlash_joinSlash hne h]

/-- The parent of a path has its steps but the last. -/
theorem steps_parent {p q : Path} (h : p.parent? = some q) : q.steps = p.steps.dropLast := by
  unfold parent? at h
  split at h
  · simp at h
  · next part front hfront =>
    have hsub : ∀ q ∈ front, q ∈ p.parts := fun q hq => by
      have : q ∈ p.parts.reverse.dropWhile isIdle := by rw [hfront]; exact List.mem_cons_of_mem _ hq
      exact List.mem_reverse.1 ((List.dropWhile_suffix _).subset this)
    have hidle : isIdle part = false := by
      have := List.head?_dropWhile_not isIdle p.parts.reverse
      rw [hfront] at this
      simpa using this
    obtain ⟨s, hs⟩ : ∃ s, step? part = some s := by
      cases hstep : step? part with
      | none => simp [isIdle, hstep] at hidle
      | some s => exact ⟨s, rfl⟩
    have hsteps : p.steps = front.reverse.filterMap step? ++ [s] := by
      rw [steps, ← filterMap_trimIdle, trimIdle, hfront]
      simp [List.filterMap_append, hs]
    simp only [Option.some.injEq] at h
    rw [← h, steps_ofParts, filterMap_trimIdle, hsteps, List.dropLast_concat]
    intro q hq
    have hparts : q ∈ splitSlash p.text.toList → '/' ∉ q := slash_notMem_of_mem_splitSlash
    refine hparts (hsub q ?_)
    rw [trimIdle, List.mem_reverse] at hq
    simpa using (List.dropWhile_suffix _).subset hq

/-! ### Absolute paths -/

/-- A step at the end of a text. -/
def appendStep (text : String) (s : Step) : String :=
  if text.toList.getLast? == some '/' then text ++ s.text else text ++ "/" ++ s.text

/-- The text of a path from the root on; an empty text has none. Exactly two slashes at the front stay two, and a slash
at the end stays. -/
def absolute? (directory s : String) : Option String :=
  if s.isEmpty then none
  else
    let cs := s.toList
    let p : Path := ⟨s⟩
    let root :=
      if p.isRooted then
        if cs.take 2 == ['/', '/'] && cs.take 3 != ['/', '/', '/'] then "//" else "/"
      else directory
    let joined := p.steps.foldl appendStep root
    some (if cs.getLast? == some '/' && joined.toList.getLast? != some '/' then joined ++ "/" else joined)

end Path

end SolidDrawing
