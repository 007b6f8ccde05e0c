/-!
# Hexadecimal digits
-/

namespace SolidDrawing.Text

/-- The value of a hexadecimal digit in either case. -/
def hexDigit? (c : Char) : Option Nat :=
  if '0' ≤ c ∧ c ≤ '9' then some (c.toNat - '0'.toNat)
  else if 'a' ≤ c ∧ c ≤ 'f' then some (c.toNat - 'a'.toNat + 10)
  else if 'A' ≤ c ∧ c ≤ 'F' then some (c.toNat - 'A'.toNat + 10)
  else none

theorem hexDigit?_lt {c : Char} {n : Nat} (h : hexDigit? c = some n) : n < 16 := by
  unfold hexDigit? at h
  have key : ∀ a b : Char, a ≤ b → a.toNat ≤ b.toNat := fun a b hab => by
    simpa [Char.le_def, UInt32.le_iff_toNat_le] using hab
  split at h
  · next hc =>
    have h1 := key _ _ hc.1
    have h2 := key _ _ hc.2
    simp only [Option.some.injEq] at h
    simp only [show '0'.toNat = 48 from rfl, show '9'.toNat = 57 from rfl] at *
    omega
  · split at h
    · next hc =>
      have h1 := key _ _ hc.1
      have h2 := key _ _ hc.2
      simp only [Option.some.injEq] at h
      simp only [show 'a'.toNat = 97 from rfl, show 'f'.toNat = 102 from rfl] at *
      omega
    · split at h
      · next hc =>
        have h1 := key _ _ hc.1
        have h2 := key _ _ hc.2
        simp only [Option.some.injEq] at h
        simp only [show 'A'.toNat = 65 from rfl, show 'F'.toNat = 70 from rfl] at *
        omega
      · simp at h

end SolidDrawing.Text
