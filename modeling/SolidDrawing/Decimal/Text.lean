import SolidDrawing.Decimal.Shortest
import SolidDrawing.Scalar

/-!
# Decimal texts

A number is written with its shortest decimal, in one of three styles:

* `Style.plain` never uses an exponent and writes whole numbers without a point;
* `Style.pointed` is the same with `.0` after whole numbers;
* `Style.exponential` is pointed, with an exponent below `0.00001` and from `1e+16` on.
-/

namespace SolidDrawing.Decimal

/-- How a decimal is laid out. -/
structure Style where
  /-- Which of two equally near decimals is written. -/
  tie : Tie
  /-- Whole numbers end in `.0`. -/
  pointed : Bool
  /-- With `some (lo, hi)`, a decimal whose first digit stands for `10 ^ e` has an exponent unless `lo ≤ e < hi`. -/
  positional : Option (Int × Int)

/-- Never an exponent, no point in whole numbers. -/
def Style.plain : Style := ⟨.up, false, none⟩

/-- Never an exponent, `.0` after whole numbers. -/
def Style.pointedPlain : Style := ⟨.up, true, none⟩

/-- An exponent for the very small and the very large. -/
def Style.exponential : Style := ⟨.even, true, some (-5, 16)⟩

/-- `n` zeros. -/
def zeros (n : Nat) : List Char := List.replicate n '0'

/-- Digits in positional form. -/
def positionalChars (pointed : Bool) (ds : List Char) (exponent : Int) : List Char :=
  if 0 ≤ exponent then ds ++ zeros exponent.toNat ++ (if pointed then ['.', '0'] else [])
  else
    let fraction := (-exponent).toNat
    if fraction < ds.length then ds.take (ds.length - fraction) ++ '.' :: ds.drop (ds.length - fraction)
    else '0' :: '.' :: zeros (fraction - ds.length) ++ ds

/-- Digits with one place before the point and an exponent, which has its sign. -/
def exponentChars (ds : List Char) (leading : Int) : List Char :=
  let rest := ds.drop 1
  ds.take 1 ++ (if rest.isEmpty then [] else '.' :: rest) ++ 'e' :: (if leading < 0 then '-' else '+') ::
    Nat.toDigits 10 leading.natAbs

/-- A positive decimal as text. -/
def Style.digitChars (style : Style) (d : Digits) : List Char :=
  let ds := Nat.toDigits 10 d.digits
  let leading := d.exponent + ds.length - 1
  match style.positional with
  | none => positionalChars style.pointed ds d.exponent
  | some (lo, hi) =>
    if lo ≤ leading && leading < hi then positionalChars style.pointed ds d.exponent
    else exponentChars ds leading

/-- The text of the number with the given bit pattern. -/
def Style.ofBits (style : Style) (format : Format) (bits : Nat) : String :=
  let signed (cs : List Char) : String := String.ofList (if format.isNegative bits then '-' :: cs else cs)
  match format.magnitude bits with
  | .undefined => "NaN"
  | .infinite => signed ['i', 'n', 'f']
  | .zero => signed (positionalChars style.pointed ['0'] 0)
  | .positive b => signed (style.digitChars ((b.shortest style.tie).stripped 20))

/-- The text of a double. -/
def Style.ofFloat (style : Style) (x : Float) : String := style.ofBits .double x.toBits.toNat

/-- The text of a single. -/
def Style.ofFloat32 (style : Style) (x : Float32) : String := style.ofBits .single x.toBits.toNat

/-! ### Characters of texts -/

section

variable {p : Char → Prop} (hdigit : ∀ c, c.isDigit = true → p c)

include hdigit

theorem forall_mem_positionalChars (hpoint : p '.') (pointed : Bool) {ds : List Char} (hds : ∀ c ∈ ds, p c)
    (exponent : Int) : ∀ c ∈ positionalChars pointed ds exponent, p c := by
  have hzero : p '0' := hdigit '0' rfl
  have hzeros (n : Nat) : ∀ c ∈ zeros n, p c := by
    intro c hc
    rwa [List.eq_of_mem_replicate hc]
  have htake (n : Nat) : ∀ c ∈ ds.take n, p c := fun c hc => hds c (List.mem_of_mem_take hc)
  have hdrop (n : Nat) : ∀ c ∈ ds.drop n, p c := fun c hc => hds c (List.mem_of_mem_drop hc)
  unfold positionalChars
  split
  · refine List.forall_mem_append.2 ⟨List.forall_mem_append.2 ⟨hds, hzeros _⟩, ?_⟩
    cases pointed <;> simp [hpoint, hzero]
  · dsimp only
    split
    · exact List.forall_mem_append.2 ⟨htake _, List.forall_mem_cons.2 ⟨hpoint, hdrop _⟩⟩
    · refine List.forall_mem_cons.2 ⟨hzero, List.forall_mem_cons.2 ⟨hpoint, ?_⟩⟩
      exact List.forall_mem_append.2 ⟨hzeros _, hds⟩

/-- The text of a double in the plain style has digits, signs and points, or the letters of a value that is not
finite. -/
theorem Style.forall_mem_plain (hother : ∀ c ∈ ['-', '.', 'N', 'a', 'i', 'n', 'f'], p c) (x : Float) :
    ∀ c ∈ (Style.plain.ofFloat x).toList, p c := by
  have hsigned (cs : List Char) (h : ∀ c ∈ cs, p c) : ∀ c ∈
      (String.ofList (if Format.double.isNegative x.toBits.toNat then '-' :: cs else cs)).toList, p c := by
    rw [String.toList_ofList]
    split
    · exact List.forall_mem_cons.2 ⟨hother '-' (by simp), h⟩
    · exact h
  have hpoint : p '.' := hother '.' (by simp)
  rw [Style.ofFloat, Style.ofBits]
  cases Format.double.magnitude x.toBits.toNat with
  | undefined =>
    have hletters : "NaN".toList ⊆ ['-', '.', 'N', 'a', 'i', 'n', 'f'] := by simp
    exact fun c hc => hother c (hletters hc)
  | infinite =>
    have hletters : ['i', 'n', 'f'] ⊆ ['-', '.', 'N', 'a', 'i', 'n', 'f'] := by simp
    exact hsigned _ fun c hc => hother c (hletters hc)
  | zero =>
    have hzero : ∀ c ∈ ['0'], p c := List.forall_mem_singleton.2 (hdigit '0' rfl)
    exact hsigned _ (forall_mem_positionalChars hdigit hpoint _ hzero 0)
  | positive b =>
    refine hsigned _ (forall_mem_positionalChars hdigit hpoint _ (fun c hc => hdigit c ?_) _)
    exact Nat.isDigit_of_mem_toDigits (by decide) (by decide) hc

end

end SolidDrawing.Decimal

namespace SolidDrawing

/-- Numbers that can be written in messages and on drawings. -/
class DecimalText (K : Type) where
  /-- The text of a number. -/
  text : K → String

instance : DecimalText Float := ⟨Decimal.Style.plain.ofFloat⟩

end SolidDrawing
