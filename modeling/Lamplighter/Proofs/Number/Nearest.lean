import Mathlib.Algebra.Order.Field.Power
import Mathlib.Data.Nat.Log
import Mathlib.Data.Rat.Cast.Order
import Mathlib.Tactic.FieldSimp
import Mathlib.Tactic.Linarith
import Mathlib.Tactic.Ring
import Lamplighter.Timeline.Moment

/-!
# Rounding keeps the order

A number that is not negative is rounded to so many units of its last binary place: the place is the
one that leaves the mantissa its full length, or the last one that there is.  A larger number has
the same place or a higher one, and in the same place no fewer units.

* `nearestNatDiv_le`    rounded quotients are in the order of the quotients;
* `place_spec`          what the last place of a number is;
* `nearestRat_eq`       a number is rounded to so many units of its last place;
* `nearestRat_le`       rounding keeps the order;
* `Moment.later_le`     what lies fewer seconds ahead does not lie later.
-/

namespace Lamplighter

/-! ### Rounded quotients -/

/-- the nearest whole number is half a unit away at most, and if it is just so far it is even -/
lemma nearestNatDiv_spec (a : Nat) {b : Nat} (hb : 0 < b) :
    2 * a ≤ 2 * (nearestNatDiv a b * b) + b ∧ 2 * (nearestNatDiv a b * b) ≤ 2 * a + b ∧
      (2 * a = 2 * (nearestNatDiv a b * b) + b ∨ 2 * (nearestNatDiv a b * b) = 2 * a + b →
        nearestNatDiv a b % 2 = 0) := by
  have hdiv := Nat.div_add_mod a b
  have hmod := Nat.mod_lt a hb
  have hup : (a / b + 1) * b = b * (a / b) + b := by ring
  have hdown : a / b * b = b * (a / b) := Nat.mul_comm _ _
  unfold nearestNatDiv
  dsimp only
  split_ifs
  · rw [hdown]
    omega
  · rw [hup]
    omega
  · rw [hdown]
    omega
  · rw [hup]
    omega

theorem nearestNatDiv_le {a b a' b' : Nat} (hb : 0 < b) (hb' : 0 < b')
    (h : (a : ℚ) / b ≤ (a' : ℚ) / b') : nearestNatDiv a b ≤ nearestNatDiv a' b' := by
  obtain ⟨_, hlow, heven⟩ := nearestNatDiv_spec a hb
  obtain ⟨hhigh, _, heven'⟩ := nearestNatDiv_spec a' hb'
  have hpos : (0 : ℚ) < b := by exact_mod_cast hb
  have hpos' : (0 : ℚ) < b' := by exact_mod_cast hb'
  generalize nearestNatDiv a b = n at *
  generalize nearestNatDiv a' b' = n' at *
  have hlow' : (n : ℚ) - 1 / 2 ≤ a / b := by
    rw [le_div_iff₀ hpos]
    have : (2 * (n * b) : ℚ) ≤ 2 * a + b := by exact_mod_cast hlow
    linarith
  have hhigh' : (a' : ℚ) / b' ≤ n' + 1 / 2 := by
    rw [div_le_iff₀ hpos']
    have : (2 * a' : ℚ) ≤ 2 * (n' * b') + b' := by exact_mod_cast hhigh
    linarith
  by_contra hlt
  have hsucc : (n' : ℚ) + 1 ≤ n := by exact_mod_cast Nat.lt_of_not_le hlt
  -- both quotients lie half way between the two whole numbers, which cannot both be even
  have hn : n = n' + 1 := by
    have : (n : ℚ) = n' + 1 := by linarith
    exact_mod_cast this
  have hhalf : (a : ℚ) / b = n - 1 / 2 := by linarith
  have hhalf' : (a' : ℚ) / b' = n' + 1 / 2 := by linarith
  have htie : 2 * (n * b) = 2 * a + b := by
    rw [div_eq_iff hpos.ne'] at hhalf
    have : (2 * (n * b) : ℚ) = 2 * a + b := by linarith
    exact_mod_cast this
  have htie' : 2 * a' = 2 * (n' * b') + b' := by
    rw [div_eq_iff hpos'.ne'] at hhalf'
    have : (2 * a' : ℚ) = 2 * (n' * b') + b' := by linarith
    exact_mod_cast this
  have := heven (.inr htie)
  have := heven' (.inl htie')
  omega

/-- a quotient of a whole number at least is rounded to that at least -/
lemma le_nearestNatDiv {a b k : Nat} (hb : 0 < b) (h : (k : ℚ) ≤ (a : ℚ) / b) :
    k ≤ nearestNatDiv a b := by
  have hwhole : nearestNatDiv k 1 = k := by simp [nearestNatDiv, Nat.mod_one]
  rw [← hwhole]
  exact nearestNatDiv_le Nat.one_pos hb (by simpa using h)

lemma nearestNatDiv_le_of_le {a b k : Nat} (hb : 0 < b) (h : (a : ℚ) / b ≤ (k : ℚ)) :
    nearestNatDiv a b ≤ k := by
  have hwhole : nearestNatDiv k 1 = k := by simp [nearestNatDiv, Nat.mod_one]
  rw [← hwhole]
  exact nearestNatDiv_le hb Nat.one_pos (by simpa using h)

namespace Binary64

/-! ### The last place -/

/-- the leading bit is not above the number when the last place is `e` -/
def Fits (n d : Nat) (e : Int) : Prop :=
  if 0 ≤ e then leadingBit * (d * pow2 e.toNat) ≤ n else leadingBit * d ≤ n * pow2 (-e).toNat

instance (n d : Nat) (e : Int) : Decidable (Fits n d e) := by
  unfold Fits
  infer_instance

/-- the last binary place of a mantissa of full length -/
def fullPlace (n d : Nat) : Int :=
  let guess : Int := Int.ofNat n.log2 - Int.ofNat d.log2 - 52
  if Fits n d guess then guess else guess - 1

/-- the last binary place -/
def place (n d : Nat) : Int :=
  max (-1074) (fullPlace n d)

/-- the units of a place -/
def units (n d : Nat) (e : Int) : Nat :=
  if 0 ≤ e then nearestNatDiv n (d * pow2 e.toNat) else nearestNatDiv (n * pow2 (-e).toNat) d

/-- the bits of so many units of a place -/
def pack (m : Nat) (e : Int) : Nat :=
  let (m, e) := if m = 2 * leadingBit then (leadingBit, e + 1) else (m, e)
  if 971 < e then infiniteBits
  else if m < leadingBit then m
  else (e + 1075).toNat * leadingBit + (m - leadingBit)

lemma ratioBits_eq {n : Nat} (hn : n ≠ 0) (d : Nat) :
    ratioBits n d = pack (units n d (place n d)) (place n d) := by
  unfold ratioBits
  rw [if_neg hn]
  have hfits : ∀ e, (if 0 ≤ e then leadingBit * (d * pow2 e.toNat) ≤ n
      else leadingBit * d ≤ n * pow2 (-e).toNat) = Fits n d e := fun _ => rfl
  simp only [hfits]
  rfl

lemma pow2_cast {e : Int} (he : 0 ≤ e) : (pow2 e.toNat : ℚ) = (2 : ℚ) ^ e := by
  conv_rhs => rw [← Int.toNat_of_nonneg he]
  rw [zpow_natCast]
  exact_mod_cast rfl

lemma leadingBit_cast : (leadingBit : ℚ) = (2 : ℚ) ^ (52 : Int) := by
  norm_num [leadingBit]

lemma fits_iff {n d : Nat} (hd : 0 < d) (e : Int) :
    Fits n d e ↔ (2 : ℚ) ^ (52 + e) ≤ (n : ℚ) / d := by
  have hpos : (0 : ℚ) < d := by exact_mod_cast hd
  rw [zpow_add₀ two_ne_zero, ← leadingBit_cast, le_div_iff₀ hpos]
  unfold Fits
  split
  · rename_i he
    rw [← pow2_cast he, ← Nat.cast_le (α := ℚ)]
    push_cast
    ring_nf
  · rename_i he
    have hneg : (2 : ℚ) ^ e = ((2 : ℚ) ^ (-e))⁻¹ := by rw [zpow_neg, inv_inv]
    have hscale : (0 : ℚ) < (2 : ℚ) ^ (-e) := zpow_pos two_pos _
    rw [hneg, ← Nat.cast_le (α := ℚ)]
    push_cast
    rw [pow2_cast (by omega : 0 ≤ -e), mul_right_comm, ← div_eq_mul_inv, div_le_iff₀ hscale]

/-- a mantissa of full length is below twice the leading bit -/
theorem fullPlace_spec {n d : Nat} (hn : 0 < n) (hd : 0 < d) :
    (2 : ℚ) ^ (52 + fullPlace n d) ≤ (n : ℚ) / d ∧ (n : ℚ) / d < 2 ^ (53 + fullPlace n d) := by
  have hpos : (0 : ℚ) < d := by exact_mod_cast hd
  have hlog : ∀ m : Nat, 0 < m → (2 : ℚ) ^ (m.log2 : Int) ≤ m ∧ (m : ℚ) < 2 ^ ((m.log2 : Int) + 1) := by
    intro m hm
    have hlow : 2 ^ m.log2 ≤ m := Nat.log2_self_le hm.ne'
    have hhigh : m < 2 ^ (m.log2 + 1) := Nat.lt_log2_self
    refine ⟨?_, ?_⟩
    · rw [zpow_natCast]
      exact_mod_cast hlow
    · have hcast : ((m.log2 : Int) + 1) = ((m.log2 + 1 : Nat) : Int) := by push_cast; ring
      rw [hcast, zpow_natCast]
      exact_mod_cast hhigh
  obtain ⟨hnlow, hnhigh⟩ := hlog n hn
  obtain ⟨hdlow, hdhigh⟩ := hlog d hd
  have hlow : (2 : ℚ) ^ ((n.log2 : Int) - d.log2 - 1) ≤ (n : ℚ) / d := by
    rw [le_div_iff₀ hpos]
    calc (2 : ℚ) ^ ((n.log2 : Int) - d.log2 - 1) * d
        ≤ 2 ^ ((n.log2 : Int) - d.log2 - 1) * 2 ^ ((d.log2 : Int) + 1) :=
          mul_le_mul_of_nonneg_left hdhigh.le (zpow_pos two_pos _).le
      _ = 2 ^ (n.log2 : Int) := by
          rw [← zpow_add₀ two_ne_zero]
          congr 1
          ring
      _ ≤ n := hnlow
  have hhigh : (n : ℚ) / d < 2 ^ ((n.log2 : Int) - d.log2 + 1) := by
    rw [div_lt_iff₀ hpos]
    calc (n : ℚ) < 2 ^ ((n.log2 : Int) + 1) := hnhigh
      _ = 2 ^ ((n.log2 : Int) - d.log2 + 1) * 2 ^ (d.log2 : Int) := by
          rw [← zpow_add₀ two_ne_zero]
          congr 1
          ring
      _ ≤ 2 ^ ((n.log2 : Int) - d.log2 + 1) * d :=
          mul_le_mul_of_nonneg_left hdlow (zpow_pos two_pos _).le
  unfold fullPlace
  dsimp only
  split
  · rename_i hfits
    refine ⟨(fits_iff hd _).mp hfits, ?_⟩
    convert hhigh using 2
    simp only [Int.ofNat_eq_natCast]
    ring
  · rename_i hfits
    rw [fits_iff hd, not_le] at hfits
    constructor
    · convert hlow using 2
      simp only [Int.ofNat_eq_natCast]
      ring
    · rwa [show 53 + (Int.ofNat n.log2 - Int.ofNat d.log2 - 52 - 1)
        = 52 + (Int.ofNat n.log2 - Int.ofNat d.log2 - 52) by omega]

/-! ### Units of a place -/

lemma units_ratio (n : Nat) {d : Nat} (hd : 0 < d) (e : Int) :
    ∃ a b, 0 < b ∧ units n d e = nearestNatDiv a b ∧ (a : ℚ) / b = (n : ℚ) / d / 2 ^ e := by
  unfold units
  split
  · rename_i he
    refine ⟨n, d * pow2 e.toNat, Nat.mul_pos hd (pow2_pos _), rfl, ?_⟩
    push_cast
    rw [pow2_cast he, div_div]
  · rename_i he
    refine ⟨n * pow2 (-e).toNat, d, hd, rfl, ?_⟩
    push_cast
    rw [pow2_cast (by omega), zpow_neg]
    field_simp

lemma units_le {n d n' d' : Nat} (hd : 0 < d) (hd' : 0 < d') (h : (n : ℚ) / d ≤ (n' : ℚ) / d')
    (e : Int) : units n d e ≤ units n' d' e := by
  obtain ⟨a, b, hb, hunits, hratio⟩ := units_ratio n hd e
  obtain ⟨a', b', hb', hunits', hratio'⟩ := units_ratio n' hd' e
  rw [hunits, hunits']
  refine nearestNatDiv_le hb hb' ?_
  rw [hratio, hratio']
  exact div_le_div_of_nonneg_right h (zpow_pos two_pos _).le

lemma le_units {n d k : Nat} (hd : 0 < d) {e : Int} (h : (k : ℚ) * 2 ^ e ≤ (n : ℚ) / d) :
    k ≤ units n d e := by
  obtain ⟨a, b, hb, hunits, hratio⟩ := units_ratio n hd e
  rw [hunits]
  refine le_nearestNatDiv hb ?_
  rwa [hratio, le_div_iff₀ (zpow_pos two_pos _)]

lemma units_le_of_le {n d k : Nat} (hd : 0 < d) {e : Int} (h : (n : ℚ) / d ≤ (k : ℚ) * 2 ^ e) :
    units n d e ≤ k := by
  obtain ⟨a, b, hb, hunits, hratio⟩ := units_ratio n hd e
  rw [hunits]
  refine nearestNatDiv_le_of_le hb ?_
  rwa [hratio, div_le_iff₀ (zpow_pos two_pos _)]

lemma two_zpow_le {e e' : Int} (h : e ≤ e') : (2 : ℚ) ^ e ≤ 2 ^ e' :=
  zpow_le_zpow_right₀ one_le_two h

/-- what a number is rounded to, if that is not beyond all floating-point numbers -/
def rounded (n d : Nat) : ℚ :=
  units n d (place n d) * 2 ^ place n d

lemma neg_le_place (n d : Nat) : -1074 ≤ place n d :=
  le_max_left ..

section
variable {n d n' d' : Nat} (hn : 0 < n) (hd : 0 < d)

include hn hd

/-- a number has at most so many units of its last place, and so many at least unless the place is
the last of all -/
theorem place_spec : (n : ℚ) / d < 2 ^ (53 + place n d) ∧
    (-1074 < place n d → (2 : ℚ) ^ (52 + place n d) ≤ (n : ℚ) / d) := by
  obtain ⟨hlow, hhigh⟩ := fullPlace_spec hn hd
  unfold place
  refine ⟨lt_of_lt_of_le hhigh (two_zpow_le ?_), fun hfull => ?_⟩
  · omega
  · rwa [show max (-1074) (fullPlace n d) = fullPlace n d by omega]

lemma place_le (hn' : 0 < n') (hd' : 0 < d') (h : (n : ℚ) / d ≤ (n' : ℚ) / d') :
    place n d ≤ place n' d' := by
  obtain ⟨_, hlow⟩ := place_spec hn hd
  obtain ⟨hhigh', _⟩ := place_spec hn' hd'
  by_contra hlt
  have hleast := neg_le_place n' d'
  have hbelow := lt_of_le_of_lt ((hlow (by omega)).trans h) hhigh'
  exact absurd hbelow (not_lt.mpr (two_zpow_le (by omega)))

lemma units_place_le : units n d (place n d) ≤ 2 * leadingBit := by
  refine units_le_of_le hd ?_
  obtain ⟨hhigh, _⟩ := place_spec hn hd
  refine hhigh.le.trans (le_of_eq ?_)
  rw [zpow_add₀ two_ne_zero]
  norm_num [leadingBit]

lemma le_units_place (h : -1074 < place n d) : leadingBit ≤ units n d (place n d) := by
  refine le_units hd ?_
  rw [leadingBit_cast, ← zpow_add₀ two_ne_zero]
  exact (place_spec hn hd).2 h

/-- a larger number is not rounded to less -/
theorem rounded_le (hn' : 0 < n') (hd' : 0 < d') (h : (n : ℚ) / d ≤ (n' : ℚ) / d') :
    rounded n d ≤ rounded n' d' := by
  unfold rounded
  rcases (place_le hn hd hn' hd' h).lt_or_eq with hlt | heq
  · have hleast : -1074 ≤ place n d := le_max_left ..
    have hunits : (units n d (place n d) : ℚ) ≤ 2 * leadingBit := by
      exact_mod_cast units_place_le hn hd
    have hunits' : (leadingBit : ℚ) ≤ units n' d' (place n' d') := by
      exact_mod_cast le_units_place hn' hd' (by omega)
    calc (units n d (place n d) : ℚ) * 2 ^ place n d
        ≤ 2 * leadingBit * 2 ^ place n d :=
          mul_le_mul_of_nonneg_right hunits (zpow_pos two_pos _).le
      _ = leadingBit * 2 ^ (place n d + 1) := by
          rw [zpow_add_one₀ two_ne_zero]
          ring
      _ ≤ leadingBit * 2 ^ place n' d' :=
          mul_le_mul_of_nonneg_left (two_zpow_le hlt) (Nat.cast_nonneg _)
      _ ≤ units n' d' (place n' d') * 2 ^ place n' d' :=
          mul_le_mul_of_nonneg_right hunits' (zpow_pos two_pos _).le
  · rw [heq]
    have hunits : (units n d (place n' d') : ℚ) ≤ units n' d' (place n' d') := by
      exact_mod_cast units_le hd hd' h _
    exact mul_le_mul_of_nonneg_right hunits (zpow_pos two_pos _).le

end

/-! ### Bits -/

lemma toRat?_finite (m : Nat) (e : Int) :
    (Value.finite false m e).toRat? = some ((m : ℚ) * 2 ^ e) := by
  simp only [Value.toRat?, Bool.false_eq_true, if_false]
  split
  · rename_i he
    rw [← pow2_cast he]
    simp
  · rename_i he
    rw [Rat.mkRat_eq_div]
    congr 1
    rw [pow2_cast (by omega), zpow_neg, div_inv_eq_mul]
    rfl

lemma ofBits_of_lt {m : Nat} (h : m < leadingBit) : ofBits m = .finite false m (-1074) := by
  have hsign : m / signBit = 0 := Nat.div_eq_of_lt (by unfold leadingBit signBit at *; omega)
  have hbiased : m / leadingBit = 0 := Nat.div_eq_of_lt h
  simp only [ofBits, hsign, hbiased, Nat.mod_eq_of_lt h]
  rfl

lemma ofBits_full {m : Nat} {e : Int} (hlow : leadingBit ≤ m) (hhigh : m < 2 * leadingBit)
    (he : -1074 ≤ e) (he' : e ≤ 971) :
    ofBits ((e + 1075).toNat * leadingBit + (m - leadingBit)) = .finite false m e := by
  obtain ⟨k, hk⟩ : ∃ k : Nat, e = (k : Int) - 1074 := ⟨(e + 1074).toNat, by omega⟩
  subst hk
  have hplace : ((k : Int) - 1074 + 1075).toNat = k + 1 := by omega
  have hk : k ≤ 2045 := by omega
  have hfraction : m - leadingBit < leadingBit := by omega
  have hbits : (k + 1) * leadingBit + (m - leadingBit) < signBit := by
    unfold leadingBit signBit at *
    omega
  have hsign : ((k + 1) * leadingBit + (m - leadingBit)) / signBit = 0 := Nat.div_eq_of_lt hbits
  have hbiased : ((k + 1) * leadingBit + (m - leadingBit)) / leadingBit = k + 1 := by
    rw [Nat.mul_comm, Nat.mul_add_div (by decide), Nat.div_eq_of_lt hfraction, Nat.add_zero]
  have hmod : ((k + 1) * leadingBit + (m - leadingBit)) % leadingBit = m - leadingBit := by
    rw [Nat.mul_comm, Nat.mul_add_mod, Nat.mod_eq_of_lt hfraction]
  have hmantissa : leadingBit + (m - leadingBit) = m := by omega
  have hexponent : Int.ofNat (k + 1) - 1075 = (k : Int) - 1074 := by
    rw [Int.ofNat_eq_natCast]
    omega
  rw [hplace]
  unfold ofBits
  dsimp only
  rw [hsign, hbiased, hmod, Nat.mod_eq_of_lt (show k + 1 < 2048 by omega),
    if_neg (show k + 1 ≠ 2047 by omega), if_neg (Nat.succ_ne_zero k), hmantissa, hexponent]
  rfl

/-- the least number that is beyond all floating-point numbers -/
def limit : ℚ :=
  2 ^ (1024 : Int)

/-- the bits of so many units stand for them, unless they are beyond all floating-point numbers -/
theorem toRat?_pack {m : Nat} {e : Int} (hm : m ≤ 2 * leadingBit) (he : -1074 ≤ e)
    (hfull : -1074 < e → leadingBit ≤ m) : (ofBits (pack m e)).toRat?
      = if limit ≤ (m : ℚ) * 2 ^ e then none else some ((m : ℚ) * 2 ^ e) := by
  have hscale : (0 : ℚ) < 2 ^ e := zpow_pos two_pos _
  -- the limit is a full mantissa in the place that is too high
  have hlimit : ∀ e' : Int, 971 < e' → ∀ m' : Nat, leadingBit ≤ m' → limit ≤ (m' : ℚ) * 2 ^ e' := by
    intro e' he' m' hm'
    have hcast : (leadingBit : ℚ) ≤ m' := by exact_mod_cast hm'
    calc limit = leadingBit * 2 ^ (972 : Int) := by
          rw [limit, leadingBit_cast, ← zpow_add₀ two_ne_zero]
          norm_num
      _ ≤ m' * 2 ^ e' :=
          mul_le_mul hcast (two_zpow_le (by omega)) (zpow_pos two_pos _).le (Nat.cast_nonneg _)
  have hwithin : ∀ e' : Int, e' ≤ 971 → ∀ m' : Nat, m' < 2 * leadingBit →
      ¬ limit ≤ (m' : ℚ) * 2 ^ e' := by
    intro e' he' m' hm'
    have hcast : (m' : ℚ) < 2 * leadingBit := by exact_mod_cast hm'
    rw [not_le]
    calc (m' : ℚ) * 2 ^ e' < 2 * leadingBit * 2 ^ e' :=
          mul_lt_mul_of_pos_right hcast (zpow_pos two_pos _)
      _ ≤ 2 * leadingBit * 2 ^ (971 : Int) :=
          mul_le_mul_of_nonneg_left (two_zpow_le he') (by positivity)
      _ = limit := by
          rw [limit, leadingBit_cast, show (1024 : Int) = 1 + 52 + 971 by norm_num,
            zpow_add₀ two_ne_zero, zpow_add₀ two_ne_zero, zpow_one]
  have hbits : ∀ m' : Nat, m' < 2 * leadingBit → ∀ e' : Int, -1074 ≤ e' →
      (-1074 < e' → leadingBit ≤ m') →
      (ofBits (if 971 < e' then infiniteBits else if m' < leadingBit then m'
        else (e' + 1075).toNat * leadingBit + (m' - leadingBit))).toRat?
        = if limit ≤ (m' : ℚ) * 2 ^ e' then none else some ((m' : ℚ) * 2 ^ e') := by
    intro m' hm' e' he' hfull'
    by_cases hhigh : 971 < e'
    · rw [if_pos hhigh, if_pos (hlimit e' hhigh m' (hfull' (by omega)))]
      rfl
    · rw [if_neg hhigh, if_neg (hwithin e' (by omega) m' hm')]
      by_cases hless : m' < leadingBit
      · have hlast : e' = -1074 := by
          by_contra hne
          exact absurd (hfull' (by omega)) (by omega)
        rw [if_pos hless, ofBits_of_lt hless, toRat?_finite, hlast]
      · rw [if_neg hless, ofBits_full (by omega) hm' he' (by omega), toRat?_finite]
  unfold pack
  by_cases htop : m = 2 * leadingBit
  · have hsame : ((leadingBit : Nat) : ℚ) * 2 ^ (e + 1) = (m : ℚ) * 2 ^ e := by
      rw [htop, zpow_add_one₀ two_ne_zero]
      push_cast
      ring
    rw [if_pos htop]
    dsimp only
    rw [hbits leadingBit (by decide) (e + 1) (by omega) fun _ => le_refl _, hsame]
  · rw [if_neg htop]
    exact hbits m (by omega) e he hfull

/-! ### Rounding -/

lemma nearestRat_zero : nearestRat 0 = 0 := by
  decide +kernel

/-- a number is rounded, unless that is beyond all floating-point numbers -/
theorem nearestRat_eq {q : ℚ} (hq : 0 < q) : nearestRat q
    = if limit ≤ rounded q.num.natAbs q.den then q else rounded q.num.natAbs q.den := by
  have hnum : 0 < q.num.natAbs := Int.natAbs_pos.mpr (Rat.num_pos.mpr hq).ne'
  unfold nearestRat
  rw [if_neg (not_lt.mpr hq.le), Nat.add_zero, ratioBits_eq hnum.ne',
    toRat?_pack (units_place_le hnum q.den_pos) (neg_le_place _ _) (le_units_place hnum q.den_pos)]
  unfold rounded
  by_cases h : limit ≤ (units q.num.natAbs q.den (place q.num.natAbs q.den) : ℚ)
      * 2 ^ place q.num.natAbs q.den
  · rw [if_pos h, if_pos h]
  · rw [if_neg h, if_neg h]

lemma ratio_of_pos {q : ℚ} (hq : 0 < q) : ((q.num.natAbs : Nat) : ℚ) / q.den = q := by
  have hnum : ((q.num.natAbs : Nat) : ℚ) = (q.num : ℚ) := by
    rw [← Int.cast_natCast, Int.natAbs_of_nonneg (Rat.num_pos.mpr hq).le]
  rw [hnum, Rat.num_div_den]

/-- the largest floating-point number -/
def top : ℚ :=
  (2 * leadingBit - 1 : Nat) * 2 ^ (971 : Int)

lemma top_lt_limit : top < limit := by
  rw [top, limit, show (1024 : Int) = 53 + 971 by norm_num, zpow_add₀ two_ne_zero]
  refine mul_lt_mul_of_pos_right ?_ (zpow_pos two_pos _)
  norm_num [leadingBit]

section
variable {n d : Nat} (hn : 0 < n) (hd : 0 < d)

include hn hd

lemma rounded_le_top_of_place (h : place n d < 971) : rounded n d ≤ top := by
  have hunits : (units n d (place n d) : ℚ) ≤ 2 * leadingBit := by
    exact_mod_cast units_place_le hn hd
  calc rounded n d ≤ 2 * leadingBit * 2 ^ place n d :=
        mul_le_mul_of_nonneg_right hunits (zpow_pos two_pos _).le
    _ ≤ 2 * leadingBit * 2 ^ (970 : Int) :=
        mul_le_mul_of_nonneg_left (two_zpow_le (by omega)) (by positivity)
    _ = leadingBit * 2 ^ (971 : Int) := by
        rw [show (971 : Int) = 970 + 1 by norm_num, zpow_add_one₀ two_ne_zero]
        ring
    _ ≤ top := by
        refine mul_le_mul_of_nonneg_right ?_ (zpow_pos two_pos _).le
        norm_num [leadingBit]

omit hn hd in
lemma rounded_le_top_of_units (hplace : place n d = 971)
    (hunits : units n d (place n d) ≤ 2 * leadingBit - 1) : rounded n d ≤ top := by
  unfold rounded top
  rw [hplace] at hunits ⊢
  have hcast : (units n d 971 : ℚ) ≤ (2 * leadingBit - 1 : Nat) := by exact_mod_cast hunits
  exact mul_le_mul_of_nonneg_right hcast (zpow_pos two_pos _).le

/-- between the largest floating-point number and the limit there is none -/
lemma rounded_le_top (h : rounded n d < limit) : rounded n d ≤ top := by
  rcases lt_trichotomy (place n d) 971 with hless | heq | hmore
  · exact rounded_le_top_of_place hn hd hless
  · refine rounded_le_top_of_units heq ?_
    by_contra htop
    have hunits : units n d (place n d) = 2 * leadingBit := by
      have := units_place_le hn hd
      omega
    refine absurd h (not_lt.mpr (le_of_eq ?_))
    rw [rounded, hunits, heq, limit, Nat.cast_mul, leadingBit_cast, show (1024 : Int) = 1 + 52 + 971
      by norm_num, zpow_add₀ two_ne_zero, zpow_add₀ two_ne_zero, zpow_one]
    rfl
  · have hunits : (leadingBit : ℚ) ≤ units n d (place n d) := by
      exact_mod_cast le_units_place hn hd (by omega)
    refine absurd h (not_lt.mpr ?_)
    calc limit = leadingBit * 2 ^ (972 : Int) := by
          rw [limit, leadingBit_cast, ← zpow_add₀ two_ne_zero]
          norm_num
      _ ≤ units n d (place n d) * 2 ^ place n d :=
          mul_le_mul hunits (two_zpow_le (by omega)) (zpow_pos two_pos _).le (Nat.cast_nonneg _)

/-- a number that is not above the largest floating-point number is not rounded beyond it -/
lemma rounded_le_top_of_le (h : (n : ℚ) / d ≤ top) : rounded n d ≤ top := by
  have hbelow : (n : ℚ) / d < 2 ^ (1024 : Int) := lt_of_le_of_lt h top_lt_limit
  have hplace : place n d ≤ 971 := by
    by_contra hmore
    have hlow := (place_spec hn hd).2 (by omega)
    exact absurd (lt_of_le_of_lt hlow hbelow) (not_lt.mpr (two_zpow_le (by omega)))
  rcases hplace.lt_or_eq with hless | heq
  · exact rounded_le_top_of_place hn hd hless
  · refine rounded_le_top_of_units heq ?_
    rw [heq]
    exact units_le_of_le hd h

end

/-- rounding keeps the order -/
theorem nearestRat_le {q q' : ℚ} (hq : 0 ≤ q) (h : q ≤ q') : nearestRat q ≤ nearestRat q' := by
  have hpos : ∀ {x : ℚ}, 0 < x → 0 < x.num.natAbs := fun hx =>
    Int.natAbs_pos.mpr (Rat.num_pos.mpr hx).ne'
  have hnonneg : ∀ {x : ℚ}, 0 < x → 0 ≤ nearestRat x := by
    intro x hx
    rw [nearestRat_eq hx]
    split
    · exact hx.le
    · exact mul_nonneg (Nat.cast_nonneg _) (zpow_pos two_pos _).le
  rcases hq.eq_or_lt with rfl | hq
  · rcases h.eq_or_lt with rfl | hq'
    · exact le_refl _
    · rw [nearestRat_zero]
      exact hnonneg hq'
  have hq' := lt_of_lt_of_le hq h
  have hratio : ((q.num.natAbs : Nat) : ℚ) / q.den ≤ ((q'.num.natAbs : Nat) : ℚ) / q'.den := by
    rwa [ratio_of_pos hq, ratio_of_pos hq']
  have hrounded := rounded_le (hpos hq) q.den_pos (hpos hq') q'.den_pos hratio
  rw [nearestRat_eq hq, nearestRat_eq hq']
  by_cases hmore : limit ≤ rounded q.num.natAbs q.den
  · rw [if_pos hmore, if_pos (hmore.trans hrounded)]
    exact h
  · rw [if_neg hmore]
    split
    · rename_i hmore'
      refine (rounded_le_top (hpos hq) q.den_pos (not_le.mp hmore)).trans ?_
      by_contra hless
      have hbelow := rounded_le_top_of_le (hpos hq') q'.den_pos
        ((ratio_of_pos hq').le.trans (not_le.mp hless).le)
      exact absurd (hmore'.trans hbelow) (not_le.mpr top_lt_limit)
    · exact hrounded

end Binary64

/-- what lies fewer seconds ahead does not lie later -/
theorem Moment.later_le {moment : Moment} (h : 0 ≤ moment) {seconds seconds' : Rat}
    (hseconds : 0 ≤ seconds) (hle : seconds ≤ seconds') :
    moment.later seconds ≤ moment.later seconds' :=
  Binary64.nearestRat_le (add_nonneg h hseconds) (add_le_add_right hle moment)

end Lamplighter
