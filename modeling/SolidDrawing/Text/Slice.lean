/-!
# Parts of a text by bytes

A place in a text is given by the number of bytes in front of it. A place inside of a character has no text in front of
it or behind it, so that a cut there fails. A text is cut where one of its parts ends (`takeBytes?_append`,
`dropBytes?_append`).
-/

namespace SolidDrawing.Text

/-- The number of bytes of a text. -/
def byteSize : List Char → Nat
  | [] => 0
  | c :: cs => c.utf8Size + byteSize cs

/-- What lies behind the first bytes of a text. -/
def dropBytes? : Nat → List Char → Option (List Char)
  | 0, cs => some cs
  | _ + 1, [] => none
  | n + 1, c :: cs => if c.utf8Size ≤ n + 1 then dropBytes? (n + 1 - c.utf8Size) cs else none

/-- The first bytes of a text. -/
def takeBytes? : Nat → List Char → Option (List Char)
  | 0, _ => some []
  | _ + 1, [] => none
  | n + 1, c :: cs =>
    if c.utf8Size ≤ n + 1 then (takeBytes? (n + 1 - c.utf8Size) cs).map (c :: ·) else none

/-- The part of a text between two places. -/
def slice? (first last : Nat) (cs : List Char) : Option (List Char) :=
  (dropBytes? first cs).bind (takeBytes? (last - first))

theorem dropBytes?_append (front rest : List Char) : dropBytes? (byteSize front) (front ++ rest) = some rest := by
  induction front with
  | nil => simp [byteSize, dropBytes?]
  | cons c front ih =>
    have hc := c.utf8Size_pos
    obtain ⟨n, hn⟩ : ∃ n, byteSize (c :: front) = n + 1 := ⟨byteSize (c :: front) - 1, by simp only [byteSize]; omega⟩
    have hrest : n + 1 - c.utf8Size = byteSize front := by simp only [byteSize] at hn; omega
    have hle : c.utf8Size ≤ n + 1 := by simp only [byteSize] at hn; omega
    rw [hn, List.cons_append, dropBytes?, if_pos hle, hrest, ih]

theorem takeBytes?_append (front rest : List Char) : takeBytes? (byteSize front) (front ++ rest) = some front := by
  induction front with
  | nil => simp [byteSize, takeBytes?]
  | cons c front ih =>
    have hc := c.utf8Size_pos
    obtain ⟨n, hn⟩ : ∃ n, byteSize (c :: front) = n + 1 := ⟨byteSize (c :: front) - 1, by simp only [byteSize]; omega⟩
    have hrest : n + 1 - c.utf8Size = byteSize front := by simp only [byteSize] at hn; omega
    have hle : c.utf8Size ≤ n + 1 := by simp only [byteSize] at hn; omega
    rw [hn, List.cons_append, takeBytes?, if_pos hle, hrest, ih, Option.map_some]

end SolidDrawing.Text
