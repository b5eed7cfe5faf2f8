import Mathlib
import Lamplighter.Number.Binary64

/-!
# Magnitude: numbers that are not too large stay finite

A number is measured by the binary place of its last digit, which is all that decides whether it is
still finite once it is rounded.

* `EndsBy`                      a value that is zero, or finite with its last digit no higher than a place;
* `endsBy_pack`                 such a value is not lost when it is made a number;
* `endsBy_roundWithAccuracy`    rounding raises the last digit by little;
* `IsWithin.mul`, `IsWithin.div`  products and quotients of numbers that are not too large;
* `IsPositive.isWithin_of_le`   a number between zero and a bound;
* `valueOf_finite`              all of these have an exact value.
-/

namespace Lamplighter.Binary64

open Float.Model.UnpackedFloat

/-- the format of the numbers -/
abbrev format : Float.Model.Format :=
  Float.Model.Format.binary64

/-- a value that is zero, or finite with its last digit no higher than a binary place -/
def EndsBy (place : Int) : Float.Model.UnpackedFloat → Prop
  | .zero _ => True
  | .finite _ _ e _ => e ≤ place
  | _ => False

section Places

variable {place : Int} {m l : Nat} {e : Int}

/-! ### Numbers as bits -/

lemma mantissa_unpack {b : BitVec format.numBits} {s : Sign} {hm : 0 < m}
    (h : unpack format b = .finite s m e hm) : m < 2 ^ 53 := by
  have hshort : (unpackMantissa b).toNat < 2 ^ 52 := (unpackMantissa b).isLt
  have hfull : (1#1 ++ unpackMantissa b).toNat < 2 ^ 53 := (1#1 ++ unpackMantissa b).isLt
  unfold unpack at h
  dsimp only at h
  split at h
  · split at h <;> cases h
  · split at h
    · split at h
      · cases h
      · cases h
        exact Nat.lt_trans hshort (by decide)
    · cases h
      exact hfull

lemma endsBy_unpack {b : BitVec format.numBits} (hb : unpackExponent b ≠ -1#_)
    (hplace : ((unpackExponent b).toNat : Int) - 1075 ≤ place) (hlow : -1074 ≤ place) :
    EndsBy place (unpack format b) := by
  have hbias : (format.exponentBias : Int) + (format.mantissaBitsWithoutImplicit : Int) = 1075 := by
    decide
  unfold unpack
  simp only [hb, if_false, hbias]
  split
  · rename_i hzero
    split
    · trivial
    · rw [hzero]
      exact hlow
  · exact hplace

/-- a value below the infinite ones is written with a biased exponent that is not all ones -/
lemma endsBy_pack {u : Float.Model.UnpackedFloat} (hu : EndsBy place u) (hlow : -1074 ≤ place)
    (hhigh : place ≤ 900) : EndsBy place (unpack format (pack format u)) := by
  have hsmall : ∀ (s : Sign) (mantissa : BitVec format.mantissaBitsWithoutImplicit),
      EndsBy place (unpack format (packComponents format s 0 mantissa)) := by
    intro s mantissa
    apply endsBy_unpack
    · rw [unpackExponent_packComponents]
      decide
    · rw [unpackExponent_packComponents]
      show (0 : Int) - 1075 ≤ place
      omega
    · exact hlow
  cases u with
  | infinity => exact hu.elim
  | notANumber => exact hu.elim
  | zero s => exact hsmall s 0
  | finite s m e hm =>
    have he : e ≤ place := hu
    have hbias : (format.exponentBias : Int) = 1023 := by decide
    have hbiased : (e + 1023 + (52 : Nat)).toNat < 2047 := by omega
    rw [pack]
    dsimp only
    rw [hbias, if_neg (show ¬ 2 ^ 11 ≤ (e + 1023 + (52 : Nat)).toNat + 1 by omega)]
    split
    · have hexponent : (BitVec.ofNat 11 (e + 1023 + (52 : Nat)).toNat).toNat
          = (e + 1023 + (52 : Nat)).toNat :=
        (BitVec.toNat_ofNat _ _).trans (Nat.mod_eq_of_lt (by omega))
      apply endsBy_unpack
      · rw [unpackExponent_packComponents]
        intro hones
        have hones : (e + 1023 + (52 : Nat)).toNat = 2047 :=
          hexponent.symm.trans (congrArg BitVec.toNat hones)
        omega
      · rw [unpackExponent_packComponents]
        show (((BitVec.ofNat 11 (e + 1023 + (52 : Nat)).toNat).toNat : Nat) : Int) - 1075 ≤ place
        rw [hexponent]
        omega
      · exact hlow
    · exact hsmall s _

/-! ### Rounding -/

lemma mantissa_shiftRight_le (em : ExtendedMantissa) (n : Nat) :
    (em >>> n).mantissa ≤ em.mantissa := by
  show (n.repeat ExtendedMantissa.shiftRightOne em).mantissa ≤ em.mantissa
  induction n with
  | zero => exact Nat.le_refl _
  | succ n ih => exact Nat.le_trans (Nat.div_le_self _ 2) ih

lemma roundedMantissa_le (em : ExtendedMantissa) : em.roundedMantissa ≤ em.mantissa + 1 := by
  unfold ExtendedMantissa.roundedMantissa
  cases em.accuracy with
  | exact => exact Nat.le_succ _
  | inexact half =>
    cases half with
    | lt => exact Nat.le_succ _
    | eq =>
      show em.mantissa + em.mantissa % 2 ≤ em.mantissa + 1
      omega
    | gt => exact Nat.le_refl _

lemma shiftToTargetExponent_le (e : Int) (acc : Accuracy) (hm : m < 2 ^ l) :
    (shiftToTargetExponent format m e acc).1.mantissa ≤ m ∧
      (shiftToTargetExponent format m e acc).2 ≤ max (e + l) (-1074) := by
  constructor
  · have h := mantissa_shiftRight_le (ExtendedMantissa.ofMantissaAndAccuracy m acc)
      ((format.targetExponent (Float.Model.totalExponent m e) - e).toNat)
    refine Nat.le_trans h (Nat.le_of_eq ?_)
    unfold ExtendedMantissa.ofMantissaAndAccuracy
    split <;> rfl
  · have hlog : m.log2 ≤ l := by
      by_cases hzero : m = 0
      · rw [hzero]
        exact Nat.zero_le l
      · exact Nat.le_of_lt ((Nat.log2_lt hzero).mpr hm)
    have htarget : format.targetExponent (Float.Model.totalExponent m e)
        = max (m.log2 + 1 + e - 53) (-1074) := rfl
    show e + ((format.targetExponent (Float.Model.totalExponent m e) - e).toNat : Int) ≤ _
    rw [htarget]
    omega

/-- rounding shifts twice, and each time by no more than the mantissa is long -/
lemma endsBy_roundWithAccuracy (s : Sign) (acc : Accuracy) (hm : m < 2 ^ l)
    (he : e + 2 * l + 1 ≤ place) (hlow : -1074 + (l + 1) ≤ place) :
    EndsBy place (roundWithAccuracy format s m e acc) := by
  obtain ⟨hfirst, hplace⟩ := shiftToTargetExponent_le e acc hm
  unfold roundWithAccuracy
  generalize shiftToTargetExponent format m e acc = shifted at hfirst hplace ⊢
  obtain ⟨em, e'⟩ := shifted
  dsimp only at hfirst hplace ⊢
  have hrounded : em.roundedMantissa < 2 ^ (l + 1) := by
    have hnext := roundedMantissa_le em
    rw [Nat.pow_succ]
    omega
  obtain ⟨-, hplace'⟩ := shiftToTargetExponent_le e' .exact hrounded
  split
  · trivial
  · show _ ≤ place
    push_cast at hplace'
    omega

end Places

/-! ### Numbers -/

/-- a number that is zero, or finite with its last digit no higher than a binary place -/
def IsWithin (place : Int) (x : Float) : Prop :=
  EndsBy place x.toModel.unpack

/-- a positive number with its last digit at a binary place -/
def IsPositive (place : Int) (x : Float) : Prop :=
  ∃ m hm, x.toModel.unpack = .finite .positive m place hm

variable {x y : Float} {i j place : Int}

lemma IsPositive.isWithin (h : IsPositive place x) : IsWithin place x := by
  obtain ⟨m, hm, hx⟩ := h
  rw [IsWithin, hx]
  exact Int.le_refl place

theorem IsWithin.mul (hx : IsWithin i x) (hy : IsWithin j y) (hplace : i + j + 213 ≤ place)
    (hlow : -967 ≤ place) (hhigh : place ≤ 900) : IsWithin place (x * y) := by
  refine endsBy_pack ?_ (by omega) hhigh
  show EndsBy place (Float.Model.UnpackedFloat.mul format x.toModel.unpack y.toModel.unpack)
  unfold IsWithin at hx hy
  cases hxu : x.toModel.unpack with
  | infinity => rw [hxu] at hx; exact hx.elim
  | notANumber => rw [hxu] at hx; exact hx.elim
  | zero s =>
    cases hyu : y.toModel.unpack with
    | infinity => rw [hyu] at hy; exact hy.elim
    | notANumber => rw [hyu] at hy; exact hy.elim
    | zero s' => trivial
    | finite => trivial
  | finite s m e hm =>
    cases hyu : y.toModel.unpack with
    | infinity => rw [hyu] at hy; exact hy.elim
    | notANumber => rw [hyu] at hy; exact hy.elim
    | zero s' => trivial
    | finite s' m' e' hm' =>
      rw [hxu] at hx
      rw [hyu] at hy
      have hx : e ≤ i := hx
      have hy : e' ≤ j := hy
      have hproduct : m * m' < 2 ^ 106 := by
        have h := Nat.mul_lt_mul'' (mantissa_unpack hxu) (mantissa_unpack hyu)
        rwa [← Nat.pow_add] at h
      exact endsBy_roundWithAccuracy _ _ hproduct (by omega) (by omega)

/-- the quotient has at most as many digits as the dividend has after it was shifted -/
theorem IsWithin.div (hx : IsWithin i x) (hy : IsPositive j y) (hplace : i - j + 400 ≤ place)
    (hlow : -800 ≤ place) (hhigh : place ≤ 900) : IsWithin place (x / y) := by
  refine endsBy_pack ?_ (by omega) hhigh
  show EndsBy place (Float.Model.UnpackedFloat.div format x.toModel.unpack y.toModel.unpack)
  obtain ⟨m', hm', hyu⟩ := hy
  rw [hyu]
  unfold IsWithin at hx
  cases hxu : x.toModel.unpack with
  | infinity => rw [hxu] at hx; exact hx.elim
  | notANumber => rw [hxu] at hx; exact hx.elim
  | zero s => trivial
  | finite s m e hm =>
    rw [hxu] at hx
    have hx : e ≤ i := hx
    have hlog : m'.log2 < 53 := (Nat.log2_lt (by omega)).mpr (mantissa_unpack hyu)
    have htarget : format.targetExponent
        (Float.Model.totalExponent m e - Float.Model.totalExponent m' j)
          = max ((m.log2 + 1 + e) - (m'.log2 + 1 + j) - 53) (-1074) := rfl
    have hquotient : (m <<< (e - j - min (e - j) (format.targetExponent
        (Float.Model.totalExponent m e - Float.Model.totalExponent m' j))).toNat) / m' < 2 ^ 160 := by
      rw [htarget, Nat.shiftLeft_eq]
      refine Nat.lt_of_le_of_lt (Nat.div_le_self _ _) ?_
      refine Nat.lt_of_lt_of_le
        (Nat.mul_lt_mul_of_pos_right (mantissa_unpack hxu) (Nat.pow_pos (by decide))) ?_
      rw [← Nat.pow_add]
      exact Nat.pow_le_pow_right (by decide) (by omega)
    exact endsBy_roundWithAccuracy _ _ hquotient (by omega) (by omega)

/-- a number that is zero or positive, and not infinite -/
def IsNonneg (x : Float) : Prop :=
  match x.toModel.unpack with
  | .zero _ => True
  | .finite .positive _ _ _ => True
  | _ => False

/-- what lies between a number from zero on and a positive one ends no higher than the latter -/
theorem IsPositive.isWithin_of_le {low : Float} (hy : IsPositive place y) (hlow : IsNonneg low)
    (hle : low ≤ x) (hle' : x ≤ y) : IsWithin place x := by
  obtain ⟨m, hm, hyu⟩ := hy
  have hle : low.toModel.unpack.le x.toModel.unpack = true := of_decide_eq_true hle
  have hle' : x.toModel.unpack.le (.finite .positive m place hm) = true := by
    rw [← hyu]
    exact of_decide_eq_true hle'
  unfold IsNonneg at hlow
  unfold IsWithin
  cases hxu : x.toModel.unpack with
  | notANumber =>
    rw [hxu] at hle'
    exact nomatch hle'
  | infinity s =>
    rw [hxu] at hle hle'
    cases s with
    | positive => exact nomatch hle'
    | negative =>
      split at hlow
      · rename_i hzero
        rw [hzero] at hle
        exact nomatch hle
      · rename_i hpositive
        rw [hpositive] at hle
        exact nomatch hle
      · exact hlow.elim
  | zero s => trivial
  | finite s m' e hm' =>
    rw [hxu] at hle hle'
    cases s with
    | negative =>
      split at hlow
      · rename_i hzero
        rw [hzero] at hle
        exact nomatch hle
      · rename_i hpositive
        rw [hpositive] at hle
        exact nomatch hle
      · exact hlow.elim
    | positive =>
      have hle' : ((compare e place).then (compare m' m)).isLE = true := hle'
      refine Int.not_lt.mp fun hlt => ?_
      rw [Int.compare_eq_gt.mpr hlt] at hle'
      exact nomatch hle'

/-- what equals zero is zero -/
lemma isWithin_of_beq_zero (hx : (x == 0.0) = true) : IsWithin place x := by
  have hzero : (0.0 : Float).toModel.unpack = .zero .positive := by rfl
  have hx : x.toModel.unpack.beq (.zero .positive) = true := by
    rw [← hzero]
    exact hx
  unfold IsWithin
  cases hxu : x.toModel.unpack with
  | notANumber =>
    rw [hxu] at hx
    exact nomatch hx
  | infinity s =>
    rw [hxu] at hx
    cases s <;> exact nomatch hx
  | zero s => trivial
  | finite s m e hm =>
    rw [hxu] at hx
    cases s <;> exact nomatch hx

theorem valueOf_finite (hx : IsWithin place x) :
    ∃ negative m e, valueOf x = .finite negative m e := by
  have hbiased : x.toBits.toNat / leadingBit % 2048 ≠ 2047 := by
    intro heq
    have hones : unpackExponent (show BitVec format.numBits from x.toModel.toBits.toBitVec) = -1#_ := by
      apply BitVec.eq_of_toNat_eq
      show (BitVec.cast _ (BitVec.extractLsb _ _ _)).toNat = 2047
      rw [BitVec.toNat_cast, BitVec.extractLsb_toNat, Nat.shiftRight_eq_div_pow]
      exact heq
    unfold IsWithin Float.Model.unpack unpack at hx
    dsimp only at hx
    rw [if_pos hones] at hx
    split at hx <;> exact hx
  unfold valueOf ofBits
  dsimp only
  rw [if_neg hbiased]
  split
  · exact ⟨_, _, _, rfl⟩
  · exact ⟨_, _, _, rfl⟩

/-- a number that is not too large can be rounded to a whole one -/
lemma roundWith_of_isWithin (divide : Int → Nat → Int) (hx : IsWithin place x) :
    ∃ n, roundWith divide x = .ok n := by
  obtain ⟨negative, m, e, hvalue⟩ := valueOf_finite hx
  unfold roundWith
  rw [hvalue]
  dsimp only
  split
  · exact ⟨_, rfl⟩
  · exact ⟨_, rfl⟩

end Lamplighter.Binary64
