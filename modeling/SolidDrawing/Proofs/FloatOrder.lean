import SolidDrawing.Proofs.Exact

/-!
# The order of floats

A float that is a number is a whole count of steps of `2 ^ -1074`, which `FloatParts` gives as a sign, a mantissa and a
shift; the infinite ones count as `2 ^ 1024` and its negative. The mantissa is large unless the shift is `0`, so that
the larger shift has the larger count (`FloatParts.magnitude_lt`). From this the comparisons of numbers are those of
their values (`floatValue_le_iff`, `floatValue_lt_iff`), and the bits without the sign are ordered like the values
(`floatValue_le_of_orderLe`). What is not a number compares with nothing.
-/

namespace SolidDrawing

open Float.Model (UnpackedFloat Format)
open Float.Model.UnpackedFloat (Sign unpackMantissa unpackExponent unpackSign)

/-! ### Counts of steps -/

/-- A sign and `mantissa * 2 ^ shift` steps. -/
structure FloatParts where
  negative : Bool
  mantissa : ℕ
  shift : ℕ

namespace FloatParts

variable {p q : FloatParts}

/-- The number of steps without the sign. -/
def magnitude (p : FloatParts) : ℕ := p.mantissa * 2 ^ p.shift

/-- The number of steps. -/
def steps (p : FloatParts) : ℤ := if p.negative then -p.magnitude else p.magnitude

/-- The bits without the sign. -/
def bits (p : FloatParts) : ℕ := 2 ^ 52 * p.shift + p.mantissa

/-- The mantissa has at most 53 bits, and exactly 53 if it is shifted. -/
structure IsCanonical (p : FloatParts) : Prop where
  shift_le : p.shift ≤ 2046
  mantissa_lt : p.mantissa < 2 ^ 53
  le_mantissa : p.shift ≠ 0 → 2 ^ 52 ≤ p.mantissa

theorem magnitude_pos (h : 0 < p.mantissa) : 0 < p.magnitude := Nat.mul_pos h (Nat.two_pow_pos _)

theorem magnitude_lt (hp : p.IsCanonical) (hq : q.IsCanonical) (h : p.shift < q.shift) : p.magnitude < q.magnitude := by
  have hmantissa : 2 ^ 52 ≤ q.mantissa := hq.le_mantissa (by omega)
  calc p.mantissa * 2 ^ p.shift < 2 ^ 53 * 2 ^ p.shift :=
        Nat.mul_lt_mul_of_pos_right hp.mantissa_lt (Nat.two_pow_pos _)
    _ = 2 ^ 52 * 2 ^ (p.shift + 1) := by ring
    _ ≤ 2 ^ 52 * 2 ^ q.shift := Nat.mul_le_mul_left _ (Nat.pow_le_pow_right (by norm_num) h)
    _ ≤ q.mantissa * 2 ^ q.shift := Nat.mul_le_mul_right _ hmantissa

theorem compares_magnitude (hp : p.IsCanonical) (hq : q.IsCanonical) :
    ((compare p.shift q.shift).then (compare p.mantissa q.mantissa)).Compares p.magnitude q.magnitude := by
  rcases lt_trichotomy p.shift q.shift with h | h | h
  · rw [compare_lt_iff_lt.2 h]
    exact magnitude_lt hp hq h
  · rw [compare_eq_iff_eq.2 h, Ordering.then, magnitude, magnitude, h]
    have hpos : 0 < 2 ^ q.shift := Nat.two_pow_pos _
    rcases lt_trichotomy p.mantissa q.mantissa with h' | h' | h'
    · rw [compare_lt_iff_lt.2 h']
      exact Nat.mul_lt_mul_of_pos_right h' hpos
    · rw [compare_eq_iff_eq.2 h', h']
      rfl
    · rw [compare_gt_iff_gt.2 h']
      exact Nat.mul_lt_mul_of_pos_right h' hpos
  · rw [compare_gt_iff_gt.2 h]
    exact magnitude_lt hq hp h

theorem magnitude_le_of_bits_le (hp : p.IsCanonical) (hq : q.IsCanonical) (h : p.bits ≤ q.bits) :
    p.magnitude ≤ q.magnitude := by
  have hmantissa := hq.mantissa_lt
  have hlead := hp.le_mantissa
  simp only [bits] at h
  rcases lt_trichotomy p.shift q.shift with hlt | heq | hgt
  · exact (magnitude_lt hp hq hlt).le
  · rw [magnitude, magnitude, heq]
    exact Nat.mul_le_mul_right _ (by omega)
  · omega

theorem steps_of_negative (h : p.negative = true) : p.steps = -p.magnitude := if_pos h

theorem steps_of_positive (h : p.negative = false) : p.steps = p.magnitude := if_neg (by simp [h])

theorem natAbs_steps (p : FloatParts) : p.steps.natAbs = p.magnitude := by
  unfold steps
  split <;> simp

theorem steps_lt_steps (hp : p.negative = true) (hq : q.negative = false) (h : 0 < p.magnitude) :
    p.steps < q.steps := by
  rw [steps_of_negative hp, steps_of_positive hq]
  omega

/-! Two floats are in the order that the sign of the larger count says. -/

theorem lt_steps (hp : p.negative = false) (h : q.magnitude < p.magnitude) : q.steps < p.steps := by
  have habs := natAbs_steps q
  rw [steps_of_positive hp]
  omega

theorem steps_lt (hp : p.negative = true) (h : q.magnitude < p.magnitude) : p.steps < q.steps := by
  have habs := natAbs_steps q
  rw [steps_of_negative hp]
  omega

theorem compares_steps_of_positive (hp : p.negative = false) (hq : q.negative = false) {o : Ordering}
    (h : o.Compares p.magnitude q.magnitude) : o.Compares p.steps q.steps := by
  rw [steps_of_positive hp, steps_of_positive hq]
  cases o <;> simpa [Ordering.Compares] using h

theorem compares_steps_of_negative (hp : p.negative = true) (hq : q.negative = true) {o : Ordering}
    (h : o.Compares p.magnitude q.magnitude) : o.swap.Compares p.steps q.steps := by
  rw [steps_of_negative hp, steps_of_negative hq]
  cases o <;> simpa [Ordering.Compares] using h

/-- The order of the bits, with the sign as the highest of them: negative ones below all others, in reverse. -/
def key (p : FloatParts) : ℕ := if p.negative then 2 ^ 63 - 1 - p.bits else 2 ^ 63 + p.bits

theorem IsCanonical.bits_lt (hp : p.IsCanonical) : p.bits < 2 ^ 63 := by
  have hshift := hp.shift_le
  have hmantissa := hp.mantissa_lt
  simp only [bits]
  omega

theorem steps_le_of_key_le (hp : p.IsCanonical) (hq : q.IsCanonical) (h : p.key ≤ q.key) : p.steps ≤ q.steps := by
  have hlt := hp.bits_lt
  have hlt' := hq.bits_lt
  unfold key at h
  cases hsp : p.negative <;> cases hsq : q.negative <;> simp only [hsp, hsq, if_true, Bool.false_eq_true, if_false] at h
  case true.true =>
    have hmagnitude := magnitude_le_of_bits_le hq hp (by omega)
    rw [steps_of_negative hsp, steps_of_negative hsq]
    omega
  case true.false =>
    rw [steps_of_negative hsp, steps_of_positive hsq]
    omega
  case false.true => omega
  case false.false =>
    have hmagnitude := magnitude_le_of_bits_le hp hq (by omega)
    rw [steps_of_positive hsp, steps_of_positive hsq]
    omega

end FloatParts

/-! ### Numbers -/

/-- Whether floats of the sign are below zero. -/
def isNegative : Sign → Bool
  | .negative => true
  | .positive => false

/-- The parts of a float that is a number. -/
inductive Unpacks : UnpackedFloat → FloatParts → Prop
  | infinity (s : Sign) : Unpacks (.infinity s) ⟨isNegative s, 2 ^ 52, 2046⟩
  | zero (s : Sign) : Unpacks (.zero s) ⟨isNegative s, 0, 0⟩
  | finite (s : Sign) {m k : ℕ} {e : ℤ} (hm : 0 < m) (he : e = k - 1074) (hk : k < 2046)
    (h : FloatParts.IsCanonical ⟨isNegative s, m, k⟩) : Unpacks (.finite s m e hm) ⟨isNegative s, m, k⟩

theorem isNegative_unpackSign (b : UInt64) :
    (if isNegative (.ofBitVec (@unpackSign .binary64 b.toBitVec)) then 2 ^ 63 else 0) =
      2 ^ 63 * (b.toNat / 2 ^ 63) := by
  have hn : b.toNat < 2 ^ 64 := b.toNat_lt
  have hs : (@unpackSign .binary64 b.toBitVec).toNat = b.toNat / 2 ^ 63 := by
    simp [unpackSign, BitVec.extractLsb_toNat, Nat.shiftRight_eq_div_pow]
    omega
  unfold Sign.ofBitVec
  split
  · rename_i hzero
    have hzero : b.toNat / 2 ^ 63 = 0 := hs.symm.trans (congrArg BitVec.toNat hzero)
    rw [hzero]
    rfl
  · rename_i hone
    have hone : b.toNat / 2 ^ 63 ≠ 0 := fun h => hone (BitVec.eq_of_toNat_eq (hs.trans h))
    have hone : b.toNat / 2 ^ 63 = 1 := by omega
    rw [hone]
    rfl

/-- A float that is a number has parts, and its bits are those of the parts. -/
theorem exists_unpacks (b : UInt64) (hnumber : UnpackedFloat.unpack Format.binary64 b.toBitVec ≠ .notANumber) :
    ∃ p, Unpacks (UnpackedFloat.unpack Format.binary64 b.toBitVec) p ∧
      b.toNat = (if p.negative then 2 ^ 63 else 0) + p.bits := by
  have hn : b.toNat < 2 ^ 64 := b.toNat_lt
  have hm : (@unpackMantissa .binary64 b.toBitVec).toNat = b.toNat % 2 ^ 52 := by
    simp [unpackMantissa, BitVec.extractLsb_toNat]
  have he : (@unpackExponent .binary64 b.toBitVec).toNat = b.toNat / 2 ^ 52 % 2 ^ 11 := by
    simp [unpackExponent, BitVec.extractLsb_toNat, Nat.shiftRight_eq_div_pow]
  have hlead : (1#1 ++ @unpackMantissa .binary64 b.toBitVec).toNat = 2 ^ 52 + b.toNat % 2 ^ 52 := by
    have hlt := (@unpackMantissa .binary64 b.toBitVec).isLt
    rw [BitVec.toNat_append, ← Nat.shiftLeft_add_eq_or_of_lt hlt, hm]
    rfl
  have hbias : (Format.binary64.exponentBias : ℤ) + Format.binary64.mantissaBitsWithoutImplicit = 1075 := rfl
  have hsign := isNegative_unpackSign b
  unfold UnpackedFloat.unpack at hnumber ⊢
  dsimp only at hnumber ⊢
  split at hnumber
  · rename_i hall
    have hall' : b.toNat / 2 ^ 52 % 2 ^ 11 = 2047 := he.symm.trans (congrArg BitVec.toNat hall)
    split at hnumber
    · rename_i hzero
      have hzero' : b.toNat % 2 ^ 52 = 0 := hm.symm.trans (congrArg BitVec.toNat hzero)
      rw [if_pos hall, if_pos hzero]
      refine ⟨_, .infinity _, ?_⟩
      simp only [FloatParts.bits, hsign]
      omega
    · exact absurd rfl hnumber
  · rename_i hall
    have hall' : b.toNat / 2 ^ 52 % 2 ^ 11 ≠ 2047 := fun h => hall (BitVec.eq_of_toNat_eq (he.trans h))
    rw [if_neg hall]
    split
    · rename_i hnone
      have hnone : b.toNat / 2 ^ 52 % 2 ^ 11 = 0 := he.symm.trans (congrArg BitVec.toNat hnone)
      split
      · rename_i hzero
        have hzero : b.toNat % 2 ^ 52 = 0 := hm.symm.trans (congrArg BitVec.toNat hzero)
        refine ⟨_, .zero _, ?_⟩
        simp only [FloatParts.bits, hsign]
        omega
      · -- without a leading bit the exponent counts as that of the next larger floats
        refine ⟨_, .finite _ (k := 0) _ ?_ (by norm_num) ⟨by norm_num, ?_, fun h => absurd rfl h⟩, ?_⟩
        · rw [he, hbias, hnone]
          norm_num
        · show (@unpackMantissa .binary64 b.toBitVec).toNat < 2 ^ 53
          omega
        · simp only [FloatParts.bits, hsign, hm]
          omega
    · rename_i hsome
      have hsome : b.toNat / 2 ^ 52 % 2 ^ 11 ≠ 0 := fun h => hsome (BitVec.eq_of_toNat_eq (he.trans h))
      refine ⟨_, .finite _ (k := b.toNat / 2 ^ 52 % 2 ^ 11 - 1) _ ?_ ?_ ⟨?_, ?_, fun _ => ?_⟩, ?_⟩
      · rw [he, hbias]
        omega
      · omega
      · show b.toNat / 2 ^ 52 % 2 ^ 11 - 1 ≤ 2046
        omega
      · show (1#1 ++ @unpackMantissa .binary64 b.toBitVec).toNat < 2 ^ 53
        omega
      · show 2 ^ 52 ≤ (1#1 ++ @unpackMantissa .binary64 b.toBitVec).toNat
        omega
      · simp only [FloatParts.bits, hsign, hlead]
        omega

/-! ### Comparisons -/

theorem compare_sub_natCast (k l : ℕ) (a : ℤ) : compare ((k : ℤ) - a) (l - a) = compare k l := by
  rcases lt_trichotomy k l with h | h | h
  · rw [compare_lt_iff_lt.2 h, compare_lt_iff_lt]
    omega
  · rw [compare_eq_iff_eq.2 h, compare_eq_iff_eq, h]
  · rw [compare_gt_iff_gt.2 h, compare_gt_iff_gt]
    omega

namespace Unpacks

variable {u v : UnpackedFloat} {p q : FloatParts}

theorem isCanonical (h : Unpacks u p) : p.IsCanonical := by
  cases h with
  | infinity s => exact ⟨le_rfl, by norm_num, fun _ => le_rfl⟩
  | zero s => exact ⟨by norm_num, by norm_num, fun h => absurd rfl h⟩
  | finite s hm he hk h => exact h


/-- Comparing floats that are numbers compares their steps. -/
theorem exists_compare (hu : Unpacks u p) (hv : Unpacks v q) :
    ∃ o, u.compare v = some o ∧ o.Compares p.steps q.steps := by
  have hp := hu.isCanonical
  have hq := hv.isCanonical
  cases hu with
  | infinity s =>
    have htop : 0 < FloatParts.magnitude ⟨isNegative s, 2 ^ 52, 2046⟩ := FloatParts.magnitude_pos (by norm_num)
    cases hv with
    | infinity t =>
      have htop' : 0 < FloatParts.magnitude ⟨isNegative t, 2 ^ 52, 2046⟩ := FloatParts.magnitude_pos (by norm_num)
      cases s <;> cases t
      · exact ⟨_, rfl, rfl⟩
      · exact ⟨_, rfl, FloatParts.steps_lt_steps rfl rfl htop⟩
      · exact ⟨_, rfl, FloatParts.steps_lt_steps rfl rfl htop'⟩
      · exact ⟨_, rfl, rfl⟩
    | zero t =>
      cases s
      · exact ⟨_, rfl, FloatParts.steps_lt rfl htop⟩
      · exact ⟨_, rfl, FloatParts.lt_steps rfl htop⟩
    | finite t hm he hk h =>
      cases s
      · exact ⟨_, rfl, FloatParts.steps_lt rfl (FloatParts.magnitude_lt hq hp hk)⟩
      · exact ⟨_, rfl, FloatParts.lt_steps rfl (FloatParts.magnitude_lt hq hp hk)⟩
  | zero s =>
    cases hv with
    | infinity t =>
      have htop : 0 < FloatParts.magnitude ⟨isNegative t, 2 ^ 52, 2046⟩ := FloatParts.magnitude_pos (by norm_num)
      cases t
      · exact ⟨_, rfl, FloatParts.steps_lt rfl htop⟩
      · exact ⟨_, rfl, FloatParts.lt_steps rfl htop⟩
    | zero t => cases s <;> cases t <;> exact ⟨_, rfl, rfl⟩
    | @finite t m k e hm he hk h =>
      have hpos : 0 < FloatParts.magnitude ⟨isNegative t, m, k⟩ := FloatParts.magnitude_pos hm
      cases t
      · exact ⟨_, rfl, FloatParts.steps_lt rfl hpos⟩
      · exact ⟨_, rfl, FloatParts.lt_steps rfl hpos⟩
  | @finite s m k e hm he hk h =>
    have hpos : 0 < FloatParts.magnitude ⟨isNegative s, m, k⟩ := FloatParts.magnitude_pos hm
    cases hv with
    | infinity t =>
      cases t
      · exact ⟨_, rfl, FloatParts.steps_lt rfl (FloatParts.magnitude_lt hp hq hk)⟩
      · exact ⟨_, rfl, FloatParts.lt_steps rfl (FloatParts.magnitude_lt hp hq hk)⟩
    | zero t =>
      cases s
      · exact ⟨_, rfl, FloatParts.steps_lt rfl hpos⟩
      · exact ⟨_, rfl, FloatParts.lt_steps rfl hpos⟩
    | @finite t m' k' e' hm' he' hk' h' =>
      have hpos' : 0 < FloatParts.magnitude ⟨isNegative t, m', k'⟩ := FloatParts.magnitude_pos hm'
      have hcompare := FloatParts.compares_magnitude hp hq
      have hshift : compare e e' = compare k k' := by rw [he, he', compare_sub_natCast]
      cases s <;> cases t
      · exact ⟨_, rfl, hshift ▸ FloatParts.compares_steps_of_negative rfl rfl hcompare⟩
      · exact ⟨_, rfl, FloatParts.steps_lt_steps rfl rfl hpos⟩
      · exact ⟨_, rfl, FloatParts.steps_lt_steps rfl rfl hpos'⟩
      · exact ⟨_, rfl, hshift ▸ FloatParts.compares_steps_of_positive rfl rfl hcompare⟩

end Unpacks

/-! ### Floats -/

/-- How many steps of `2 ^ -1074` an unpacked float is from zero. -/
def stepsOf : UnpackedFloat → ℤ
  | .infinity s => FloatParts.steps ⟨isNegative s, 2 ^ 52, 2046⟩
  | .zero s => FloatParts.steps ⟨isNegative s, 0, 0⟩
  | .finite s m e _ => FloatParts.steps ⟨isNegative s, m, (e + 1074).toNat⟩
  | .notANumber => 0

theorem Unpacks.stepsOf_eq {u : UnpackedFloat} {p : FloatParts} (h : Unpacks u p) : stepsOf u = p.steps := by
  cases h with
  | infinity s => rfl
  | zero s => rfl
  | @finite s m k e hm he hk h =>
    have hshift : (e + 1074).toNat = k := by omega
    rw [stepsOf, hshift]

/-- The value of a float that is a number. An infinity counts as the power of two that is next to the largest finite
number. -/
noncomputable def floatValue (x : Float) : ℝ := stepsOf x.toModel.unpack / (2 ^ 1074 : ℕ)

/-- Not undefined. -/
def IsNumber (x : Float) : Prop := x.isNaN = false

section

variable {x y : Float}

theorem IsNumber.exists_parts (hx : IsNumber x) :
    ∃ p : FloatParts, Unpacks x.toModel.unpack p ∧ x.toBits.toNat = (if p.negative then 2 ^ 63 else 0) + p.bits := by
  have hnumber : x.toModel.unpack ≠ .notANumber := by
    intro h
    have hnan : x.toModel.unpack.isNaN = false := hx
    rw [h] at hnan
    cases hnan
  exact exists_unpacks x.toBits hnumber

theorem le_iff_compare : x ≤ y ↔ (x.toModel.unpack.compare y.toModel.unpack).any (·.isLE) = true := decide_eq_true_iff

theorem lt_iff_compare : x < y ↔ x.toModel.unpack.compare y.toModel.unpack = some .lt :=
  decide_eq_true_iff.trans beq_iff_eq

theorem floatValue_le_iff (hx : IsNumber x) (hy : IsNumber y) : x ≤ y ↔ floatValue x ≤ floatValue y := by
  obtain ⟨p, hp, -⟩ := hx.exists_parts
  obtain ⟨q, hq, -⟩ := hy.exists_parts
  obtain ⟨o, ho, hcompares⟩ := hp.exists_compare hq
  rw [le_iff_compare, ho, floatValue, floatValue, div_le_div_iff_of_pos_right (by positivity), Int.cast_le,
    hp.stepsOf_eq, hq.stepsOf_eq, ← hcompares.ne_gt]
  cases o <;> simp

theorem floatValue_lt_iff (hx : IsNumber x) (hy : IsNumber y) : x < y ↔ floatValue x < floatValue y := by
  obtain ⟨p, hp, -⟩ := hx.exists_parts
  obtain ⟨q, hq, -⟩ := hy.exists_parts
  obtain ⟨o, ho, hcompares⟩ := hp.exists_compare hq
  rw [lt_iff_compare, ho, floatValue, floatValue, div_lt_div_iff_of_pos_right (by positivity), Int.cast_lt,
    hp.stepsOf_eq, hq.stepsOf_eq, ← hcompares.eq_lt, Option.some.injEq]

/-- Only numbers are in order. -/
theorem isNumber_of_lt (h : x < y) : IsNumber x ∧ IsNumber y := by
  have hcompare := lt_iff_compare.1 h
  constructor
  · show x.toModel.unpack.isNaN = false
    cases hx : x.toModel.unpack with
    | notANumber =>
      rw [hx] at hcompare
      cases hcompare
    | _ => rfl
  · show y.toModel.unpack.isNaN = false
    cases hy : y.toModel.unpack with
    | notANumber =>
      rw [hy] at hcompare
      cases hx : x.toModel.unpack <;> rw [hx] at hcompare <;> cases hcompare
    | _ => rfl

/-- The larger of two numbers is one of them. -/
theorem larger_eq (hx : IsNumber x) : Scalar.larger x y = if x < y then y else x := by
  have hnan : x.isNaN = false := hx
  show (if x < y || x.isNaN then y else x) = _
  simp only [hnan, Bool.or_false, decide_eq_true_eq]

theorem floatValue_larger (hx : IsNumber x) (hy : IsNumber y) :
    floatValue (Scalar.larger x y) = max (floatValue x) (floatValue y) := by
  rw [larger_eq hx]
  split
  · rename_i h
    exact (max_eq_right ((floatValue_lt_iff hx hy).1 h).le).symm
  · rename_i h
    exact (max_eq_left (not_lt.1 fun hlt => h ((floatValue_lt_iff hx hy).2 hlt))).symm

theorem IsNumber.larger (hx : IsNumber x) (hy : IsNumber y) : IsNumber (Scalar.larger x y) := by
  rw [larger_eq hx]
  split <;> assumption

theorem toNat_floatOrderKey (x : Float) : (floatOrderKey x).toNat =
    if x.toBits.toNat < 2 ^ 63 then 2 ^ 63 + x.toBits.toNat else 2 ^ 64 - 1 - x.toBits.toNat := by
  have hbit : (x.toBits &&& 0x8000000000000000 == 0) = decide (x.toBits.toNat < 2 ^ 63) := by
    have hlt := x.toBits.toNat_lt
    rw [Bool.eq_iff_iff, beq_iff_eq, decide_eq_true_iff, ← UInt64.toNat_inj, UInt64.toNat_and]
    show x.toBits.toNat &&& 2 ^ 63 = 0 ↔ _
    rw [Nat.and_two_pow, Nat.testBit_eq_decide_div_mod_eq]
    by_cases h : x.toBits.toNat / 2 ^ 63 % 2 = 1 <;> simp <;> omega
  simp only [floatOrderKey, hbit, decide_eq_true_eq]
  split
  · rename_i h
    rw [UInt64.toNat_or, Nat.or_comm]
    exact (Nat.two_pow_add_eq_or_of_lt h 1).symm
  · rw [UInt64.toNat_not]
    rfl

theorem Unpacks.toNat_floatOrderKey_eq {p : FloatParts} (hp : Unpacks x.toModel.unpack p)
    (hbits : x.toBits.toNat = (if p.negative then 2 ^ 63 else 0) + p.bits) : (floatOrderKey x).toNat = p.key := by
  have hlt := hp.isCanonical.bits_lt
  rw [toNat_floatOrderKey, hbits, FloatParts.key]
  cases p.negative <;> simp only [if_true, Bool.false_eq_true, if_false] <;> split <;> omega

/-- Numbers are sorted by their values. -/
theorem floatValue_le_of_orderLe (hx : IsNumber x) (hy : IsNumber y) (h : Scalar.orderLe x y = true) :
    floatValue x ≤ floatValue y := by
  obtain ⟨p, hp, hbits⟩ := hx.exists_parts
  obtain ⟨q, hq, hbits'⟩ := hy.exists_parts
  have hkey : (floatOrderKey x).toNat ≤ (floatOrderKey y).toNat := UInt64.le_iff_toNat_le.1 (of_decide_eq_true h)
  rw [hp.toNat_floatOrderKey_eq hbits, hq.toNat_floatOrderKey_eq hbits'] at hkey
  rw [floatValue, floatValue, div_le_div_iff_of_pos_right (by positivity), Int.cast_le, hp.stepsOf_eq, hq.stepsOf_eq]
  exact FloatParts.steps_le_of_key_le hp.isCanonical hq.isCanonical hkey

end

end SolidDrawing
