import SolidDrawing.Proofs.FloatOrder

/-!
# Signs of floats

Packing and rounding keep the sign of a float (`signOf?_unpack_pack`, `signOf?_roundWithAccuracy`). So a square is never
below zero, and a sum of floats that are not below zero is not either, even where it overflows: such a float is greater
than zero as soon as it is not the same as zero (`Vec3.zero_lt_normSq_iff`). A float greater than zero is not rounded
away when it is doubled (`zero_lt_mul_two`).
-/

namespace SolidDrawing

open Float.Model (UnpackedFloat Format totalExponent)
open Float.Model.UnpackedFloat

/-! ### Packing -/

/-- The sign of what is a number. -/
def signOf? : UnpackedFloat → Option Sign
  | .infinity s => some s
  | .zero s => some s
  | .finite s _ _ _ => some s
  | .notANumber => none

/-- The float is one of the two zeros. -/
def IsZero (u : UnpackedFloat) : Prop := ∃ s, u = .zero s

theorem unpackSign_packComponents (format : Format) (s : Sign) (exponent : BitVec format.exponentBits)
    (mantissa : BitVec format.mantissaBitsWithoutImplicit) :
    Sign.ofBitVec (unpackSign (packComponents format s exponent mantissa)) = s := by
  have hbit : unpackSign (packComponents format s exponent mantissa) = s.toBitVec := by
    refine BitVec.eq_of_getLsbD_eq fun i hi => ?_
    obtain rfl : i = 0 := by omega
    simp [unpackSign, packComponents, BitVec.getLsbD_append, BitVec.getElem_append]
  rw [hbit]
  cases s <;> rfl

section

variable (s : Sign) {exponent : BitVec 11} {mantissa : BitVec 52}

/-- Unless the exponent has all its bits, the components are those of a number. -/
theorem signOf?_unpack_packComponents (h : exponent = -1#11 → mantissa = 0#52) :
    signOf? (unpack Format.binary64 (packComponents Format.binary64 s exponent mantissa)) = some s := by
  unfold unpack
  simp only [unpackMantissa_packComponents, unpackExponent_packComponents, unpackSign_packComponents]
  split
  · rename_i hall
    rw [if_pos (h hall)]
    rfl
  · split
    · split
      · rfl
      · rfl
    · rfl

/-- Components that have a bit are not those of a zero. -/
theorem not_isZero_unpack_packComponents (h : exponent ≠ 0#11 ∨ mantissa ≠ 0#52) :
    ¬ IsZero (unpack Format.binary64 (packComponents Format.binary64 s exponent mantissa)) := by
  unfold unpack
  simp only [unpackMantissa_packComponents, unpackExponent_packComponents, unpackSign_packComponents]
  rintro ⟨t, ht⟩
  split at ht
  · split at ht
    · cases ht
    · cases ht
  · split at ht
    · rename_i hexponent
      have hmantissa := h.resolve_left (not_not.2 hexponent)
      rw [dif_neg hmantissa] at ht
      cases ht
    · cases ht

end

private theorem biasedExponent_eq (e : ℤ) :
    (e + Format.binary64.exponentBias + Format.binary64.mantissaBitsWithoutImplicit).toNat = (e + 1075).toNat := by
  have hbias : (Format.binary64.exponentBias : ℤ) = 1023 := rfl
  have hbits : (Format.binary64.mantissaBitsWithoutImplicit : ℤ) = 52 := rfl
  rw [hbias, hbits, add_assoc]
  rfl

theorem signOf?_unpack_pack (u : UnpackedFloat) :
    signOf? (unpack Format.binary64 (pack Format.binary64 u)) = signOf? u := by
  cases u with
  | notANumber => rfl
  | infinity s => exact signOf?_unpack_packComponents s fun _ => rfl
  | zero s => exact signOf?_unpack_packComponents s fun _ => rfl
  | finite s m e hm =>
    unfold pack
    dsimp only
    rw [biasedExponent_eq]
    split
    · exact signOf?_unpack_packComponents s fun _ => rfl
    · rename_i hsmall
      split
      · refine signOf?_unpack_packComponents s fun hall => ?_
        have hbits : (e + 1075).toNat % 2 ^ 11 = 2047 := congrArg BitVec.toNat hall
        omega
      · exact signOf?_unpack_packComponents s fun hall => absurd hall (by decide)

/-- A mantissa of at most 53 bits is not lost when it is packed. -/
theorem not_isZero_unpack_pack (s : Sign) {m : ℕ} {e : ℤ} (hm : 0 < m) (hlt : m < 2 ^ 53) (he : -1074 ≤ e) :
    ¬ IsZero (unpack Format.binary64 (pack Format.binary64 (.finite s m e hm))) := by
  unfold pack
  dsimp only
  rw [biasedExponent_eq]
  split
  · exact not_isZero_unpack_packComponents s (.inl (by decide))
  · rename_i hsmall
    split
    · refine not_isZero_unpack_packComponents s (.inl fun hzero => ?_)
      have hbits : (e + 1075).toNat % 2 ^ 11 = 0 := congrArg BitVec.toNat hzero
      omega
    · rename_i hshort
      have hlog : m.log2 ≠ 52 := fun h => hshort (by rw [h]; rfl)
      have hlog' : m.log2 < 53 := (Nat.log2_lt hm.ne').2 hlt
      have hm52 : m < 2 ^ 52 := (Nat.log2_lt hm.ne').1 (by omega)
      refine not_isZero_unpack_packComponents s (.inr fun hzero => ?_)
      have hbits : m % 2 ^ 52 = 0 := congrArg BitVec.toNat hzero
      omega

/-! ### Rounding -/

theorem signOf?_roundWithAccuracy (format : Format) (s : Sign) (m : ℕ) (e : ℤ) (accuracy : Accuracy) :
    signOf? (roundWithAccuracy format s m e accuracy) = some s := by
  unfold roundWithAccuracy
  dsimp only
  split
  · rfl
  · rfl

theorem signOf?_round (format : Format) (s : Sign) (m : ℕ) (e : ℤ) : signOf? (round format s m e) = some s :=
  signOf?_roundWithAccuracy ..

theorem mantissa_shiftRight (em : ExtendedMantissa) (n : ℕ) : (em >>> n).mantissa = em.mantissa / 2 ^ n := by
  induction n with
  | zero => exact (Nat.div_one _).symm
  | succ n ih =>
    have hstep : (em >>> (n + 1)).mantissa = (em >>> n).mantissa / 2 := rfl
    rw [hstep, ih, Nat.div_div_eq_div_mul, pow_succ]

theorem le_roundedMantissa (em : ExtendedMantissa) : em.mantissa ≤ em.roundedMantissa := by
  unfold ExtendedMantissa.roundedMantissa
  generalize em.accuracy = accuracy
  cases accuracy with
  | exact => exact le_rfl
  | inexact half =>
    cases half with
    | lt => exact le_rfl
    | eq => exact Nat.le_add_right ..
    | gt => exact Nat.le_succ _

/-- By how much a mantissa is shifted to the right for the 53 bits that there are, and for the least exponent. -/
def shiftFor (m : ℕ) (e : ℤ) : ℕ := (max ((m.log2 : ℤ) - 52) (-1074 - e)).toNat

private theorem targetExponent_sub (m : ℕ) (e : ℤ) :
    (Format.binary64.targetExponent (totalExponent m e) - e).toNat = shiftFor m e := by
  have htarget : Format.binary64.targetExponent (totalExponent m e) = max ((m.log2 : ℤ) + 1 + e - 53) (-1074) := rfl
  rw [htarget, shiftFor]
  omega

private theorem le_shiftFor (m : ℕ) (e : ℤ) : -1074 ≤ e + shiftFor m e := by
  unfold shiftFor
  omega

private theorem two_pow_shiftFor_le {m : ℕ} (hm : 0 < m) {e : ℤ} (he : -1074 ≤ e) : 2 ^ shiftFor m e ≤ m := by
  have hshift : shiftFor m e ≤ m.log2 := by
    unfold shiftFor
    omega
  exact (Nat.pow_le_pow_right (by norm_num) hshift).trans (Nat.log2_self_le hm.ne')

private theorem div_shiftFor_lt (m : ℕ) (e : ℤ) : m / 2 ^ shiftFor m e < 2 ^ 53 := by
  have hshift : m.log2 + 1 ≤ 53 + shiftFor m e := by
    unfold shiftFor
    omega
  rw [Nat.div_lt_iff_lt_mul (Nat.two_pow_pos _), ← pow_add]
  exact Nat.lt_log2_self.trans_le (Nat.pow_le_pow_right (by norm_num) hshift)

/-- What the shift leaves something of is not rounded to zero, and has at most 53 bits then. -/
theorem exists_roundWithAccuracy_eq (s : Sign) {m : ℕ} {e : ℤ} (h : 2 ^ shiftFor m e ≤ m) :
    ∃ m' e', ∃ hm : 0 < m', roundWithAccuracy Format.binary64 s m e .exact = .finite s m' e' hm ∧ m' < 2 ^ 53 ∧
      -1074 ≤ e' := by
  let rounded := (ExtendedMantissa.ofMantissaAndAccuracy m .exact >>> shiftFor m e).roundedMantissa
  have hpos : 0 < rounded := by
    have hleft : 0 < m / 2 ^ shiftFor m e := Nat.div_pos h (Nat.two_pow_pos _)
    have hle := le_roundedMantissa (ExtendedMantissa.ofMantissaAndAccuracy m .exact >>> shiftFor m e)
    rw [mantissa_shiftRight] at hle
    exact hleft.trans_le hle
  have hkept := two_pow_shiftFor_le hpos (le_shiftFor m e)
  have hfinal : 0 < rounded / 2 ^ shiftFor rounded (e + shiftFor m e) := Nat.div_pos hkept (Nat.two_pow_pos _)
  refine ⟨_, _, hfinal, ?_, div_shiftFor_lt rounded (e + shiftFor m e), le_shiftFor rounded (e + shiftFor m e)⟩
  unfold roundWithAccuracy shiftToTargetExponent shiftToExponent
  simp only [targetExponent_sub, mantissa_shiftRight]
  exact dif_neg hfinal.ne'

theorem signOf?_normalize (format : Format) {m : ℤ} (h : 0 < m) (e : ℤ) (s : Sign) :
    signOf? (Float.Model.UnpackedFloat.normalize format m e s) = some .positive := by
  unfold Float.Model.UnpackedFloat.normalize
  rw [compare_gt_iff_gt.2 h]
  exact signOf?_round ..

/-! ### Products and sums -/

section

variable (format : Format) {u v : UnpackedFloat}

theorem signOf?_mul_self (h : u.isFinite = true) : signOf? (mul format u u) = some .positive := by
  cases u with
  | notANumber => cases h
  | infinity s => cases h
  | zero s => cases s <;> rfl
  | finite s m e hm =>
    show signOf? (roundWithAccuracy format (s * s) (m * m) (e + e) .exact) = some .positive
    rw [signOf?_roundWithAccuracy]
    cases s <;> rfl

theorem signOf?_add (hu : signOf? u = some .positive) (hv : signOf? v = some .positive) :
    signOf? (add format u v) = some .positive := by
  cases u with
  | notANumber => cases hu
  | infinity s =>
    cases hu
    cases v with
    | notANumber => cases hv
    | infinity t =>
      cases hv
      rfl
    | zero t => rfl
    | finite t m e hm => rfl
  | zero s =>
    cases hu
    cases v with
    | notANumber => cases hv
    | infinity t => exact hv
    | zero t =>
      cases hv
      rfl
    | finite t m e hm => exact hv
  | finite s m e hm =>
    cases hu
    cases v with
    | notANumber => cases hv
    | infinity t => exact hv
    | zero t => rfl
    | finite t m' e' hm' =>
      cases hv
      have hleft : 0 < m <<< (e - min e e').toNat := by
        rw [Nat.shiftLeft_eq]
        exact Nat.mul_pos hm (Nat.two_pow_pos _)
      refine signOf?_normalize format ?_ _ _
      exact Int.add_pos_of_pos_of_nonneg (Int.natCast_pos.2 hleft) (Int.natCast_nonneg _)

end

/-- Twice a mantissa has something left of it wherever the mantissa has. -/
theorem exists_mul_two_eq {m : ℕ} (hm : 0 < m) {e : ℤ} (he : -1074 ≤ e) : ∃ m' e', ∃ hm' : 0 < m',
    mul Format.binary64 (.finite .positive m e hm) (.finite .positive (2 ^ 52) (-51) (Nat.two_pow_pos 52)) =
      .finite .positive m' e' hm' ∧ m' < 2 ^ 53 ∧ -1074 ≤ e' := by
  have hle : 2 ^ 52 ≤ m * 2 ^ 52 := Nat.le_mul_of_pos_left _ hm
  have hne : m * 2 ^ 52 ≠ 0 := by omega
  have hlog : 52 ≤ (m * 2 ^ 52).log2 := (Nat.le_log2 hne).2 hle
  have hshift : shiftFor (m * 2 ^ 52) (e + -51) ≤ (m * 2 ^ 52).log2 := by
    unfold shiftFor
    omega
  exact exists_roundWithAccuracy_eq .positive
    ((Nat.pow_le_pow_right (by norm_num) hshift).trans (Nat.log2_self_le hne))

/-! ### Floats -/

/-- The sign of a float that is a number. -/
def floatSign? (x : Float) : Option Sign := signOf? x.toModel.unpack

section

variable {x y : Float}

theorem unpack_mul (x y : Float) : (x * y).toModel.unpack =
    unpack Format.binary64 (pack Format.binary64 (mul Format.binary64 x.toModel.unpack y.toModel.unpack)) := rfl

theorem unpack_add (x y : Float) : (x + y).toModel.unpack =
    unpack Format.binary64 (pack Format.binary64 (add Format.binary64 x.toModel.unpack y.toModel.unpack)) := rfl

theorem floatSign?_mul_self (h : x.isFinite = true) : floatSign? (x * x) = some .positive := by
  rw [floatSign?, unpack_mul, signOf?_unpack_pack]
  exact signOf?_mul_self Format.binary64 h

theorem floatSign?_add (hx : floatSign? x = some .positive) (hy : floatSign? y = some .positive) :
    floatSign? (x + y) = some .positive := by
  rw [floatSign?, unpack_add, signOf?_unpack_pack]
  exact signOf?_add Format.binary64 hx hy

/-- A float is greater than zero if its sign says so and it is not a zero. -/
theorem zero_lt_iff_floatSign? : 0 < x ↔ floatSign? x = some .positive ∧ ¬ IsZero x.toModel.unpack := by
  rw [lt_iff_compare, floatSign?]
  show (UnpackedFloat.zero .positive).compare x.toModel.unpack = some .lt ↔ _
  cases x.toModel.unpack with
  | notANumber => exact iff_of_false nofun fun h => by cases h.1
  | zero s => exact iff_of_false nofun fun h => h.2 ⟨s, rfl⟩
  | infinity s =>
    cases s with
    | negative => exact iff_of_false nofun fun h => by cases h.1
    | positive => exact iff_of_true rfl ⟨rfl, nofun⟩
  | finite s m e hm =>
    cases s with
    | negative => exact iff_of_false nofun fun h => by cases h.1
    | positive => exact iff_of_true rfl ⟨rfl, nofun⟩

theorem same_zero_iff : Scalar.same x 0 = true ↔ IsZero x.toModel.unpack := by
  show (x.toModel.unpack.compare (.zero .positive) == some .eq) = true ↔ _
  cases x.toModel.unpack with
  | notANumber => exact iff_of_false nofun nofun
  | zero s => exact iff_of_true rfl ⟨s, rfl⟩
  | infinity s =>
    cases s with
    | negative => exact iff_of_false nofun nofun
    | positive => exact iff_of_false nofun nofun
  | finite s m e hm =>
    cases s with
    | negative => exact iff_of_false nofun nofun
    | positive => exact iff_of_false nofun nofun

/-- A finite vector has a length that is greater than zero as soon as it is not zero, even where its square overflows
or is rounded away. -/
theorem Vec3.zero_lt_normSq_iff {v : Vec3 Float} (h : v.isFinite = true) :
    0 < v.normSq ↔ Scalar.same v.normSq 0 = false := by
  simp only [isFinite, Bool.and_eq_true] at h
  obtain ⟨⟨hx, hy⟩, hz⟩ := h
  have hsign : floatSign? v.normSq = some .positive :=
    floatSign?_add (floatSign?_add (floatSign?_mul_self hx) (floatSign?_mul_self hy)) (floatSign?_mul_self hz)
  rw [zero_lt_iff_floatSign?, ← Bool.not_eq_true, same_zero_iff]
  exact ⟨fun h => h.2, fun h => ⟨hsign, h⟩⟩

/-- Doubling does not take a float to zero. -/
theorem zero_lt_mul_two (h : 0 < x) : 0 < x * 2 := by
  have htwo : (Float.toModel 2).unpack = .finite .positive (2 ^ 52) (-51) (Nat.two_pow_pos 52) := rfl
  obtain ⟨p, hp, -⟩ := (isNumber_of_lt h).2.exists_parts
  rw [zero_lt_iff_floatSign?] at h ⊢
  obtain ⟨hsign, hzero⟩ := h
  rw [floatSign?, unpack_mul, signOf?_unpack_pack, htwo]
  unfold floatSign? at hsign
  cases hx : x.toModel.unpack with
  | notANumber =>
    rw [hx] at hsign
    cases hsign
  | zero s => exact absurd ⟨s, hx⟩ hzero
  | infinity s =>
    rw [hx] at hsign
    cases hsign
    exact ⟨rfl, not_isZero_unpack_packComponents .positive (.inl (by decide))⟩
  | finite s m e hm =>
    rw [hx] at hsign hp
    cases hsign
    have he : -1074 ≤ e := by
      cases hp
      omega
    obtain ⟨m', e', hm', heq, hlt, he'⟩ := exists_mul_two_eq hm he
    rw [heq]
    exact ⟨rfl, not_isZero_unpack_pack .positive hm' hlt he'⟩

end

end SolidDrawing
