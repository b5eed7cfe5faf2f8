import Mathlib.Tactic.SplitIfs
import Lamplighter.Color.Physical
import Lamplighter.Proofs.Number.Magnitude

/-!
# Reading: a light within its bounds has a state

* `PhysicalColor.IsSound`     a color whose channels are within their bounds;
* `isSound_of_ofLevels`       what lights are set to is such a color;
* `toState_of_isSound`        and such a color is read as a state.
-/

namespace Lamplighter.PhysicalColor

open Binary64

variable {color color' : PhysicalColor}

/-- every channel is within its bounds -/
def IsSound (color : PhysicalColor) : Prop :=
  color.check = .ok color

lemma check_eq_ok (h : color.check = .ok color') :
    color' = color ∧ within 0.0 360.0 color.hue = true ∧ within 0.0 1.0 color.saturation = true
      ∧ within 0.0 1.0 color.brightness = true
      ∧ (within 1000.0 10000.0 color.kelvin = true ∨ (color.kelvin != 0.0) = false) := by
  unfold check at h
  split_ifs at h with hhue hsaturation hbrightness hkelvin
  rw [Bool.not_eq_true', Bool.not_eq_false] at hhue hsaturation hbrightness
  refine ⟨(Except.ok.inj h).symm, hhue, hsaturation, hbrightness, ?_⟩
  simpa [Decidable.or_iff_not_imp_left] using hkelvin

/-- lights are only set to colors within the bounds -/
theorem isSound_of_ofLevels {hue saturation brightness kelvin : Int}
    (h : ofLevels hue saturation brightness kelvin = .ok color) : color.IsSound := by
  have hchecked : ∃ color', check color' = .ok color := by
    unfold ofLevels at h
    simp only [bind, Except.bind] at h
    split at h
    · cases h
    · split at h
      · cases h
      · split at h
        · cases h
        · split at h
          · cases h
          · exact ⟨_, h⟩
  obtain ⟨color', hcheck⟩ := hchecked
  obtain rfl := (check_eq_ok hcheck).1
  exact hcheck

lemma isWithin_of_within {place : Int} {low high x : Float} (hhigh : IsPositive place high)
    (hlow : IsNonneg low) (h : within low high x = true) : IsWithin place x := by
  obtain ⟨hle, hle'⟩ := Bool.and_eq_true_iff.mp h
  exact hhigh.isWithin_of_le hlow (of_decide_eq_true hle) (of_decide_eq_true hle')

/-- what is read off a light within its bounds is a state -/
theorem toState_of_isSound (h : color.IsSound) (isOn : Bool) (label : String) :
    ∃ state, color.toState isOn label = .ok state := by
  obtain ⟨-, hhue, hsaturation, hbrightness, hkelvin⟩ := check_eq_ok h
  have hzero : IsNonneg 0.0 := trivial
  have hone : IsPositive (-52) 1.0 := ⟨0x10000000000000, by decide, by rfl⟩
  have hcircle : IsPositive (-44) 360.0 := ⟨0x16800000000000, by decide, by rfl⟩
  have hfull : IsPositive (-37) 65535.0 := ⟨0x1FFFE000000000, by decide, by rfl⟩
  have hshare : ∀ {x : Float}, within 0.0 1.0 x = true → ∃ n, Binary64.nearest (x * 65535.0) = .ok n := by
    intro x hx
    have hproduct : IsWithin 124 (x * 65535.0) :=
      (isWithin_of_within hone hzero hx).mul hfull.isWithin (by decide) (by decide) (by decide)
    exact roundWith_of_isWithin _ hproduct
  obtain ⟨hue, hhue⟩ : ∃ n, Binary64.nearest (color.hue * 65535.0 / 360.0) = .ok n := by
    have hproduct : IsWithin 132 (color.hue * 65535.0) :=
      (isWithin_of_within hcircle hzero hhue).mul hfull.isWithin (by decide) (by decide) (by decide)
    have hquotient : IsWithin 576 (color.hue * 65535.0 / 360.0) :=
      hproduct.div hcircle (by decide) (by decide) (by decide)
    exact roundWith_of_isWithin _ hquotient
  obtain ⟨saturation, hsaturation⟩ := hshare hsaturation
  obtain ⟨brightness, hbrightness⟩ := hshare hbrightness
  obtain ⟨kelvin, hkelvin⟩ : ∃ n, Binary64.truncate color.kelvin = .ok n := by
    have hhigh : IsPositive (-39) 10000.0 := ⟨0x13880000000000, by decide, by rfl⟩
    have hlow : IsNonneg 1000.0 := trivial
    have hwithin : IsWithin (-39) color.kelvin := by
      rcases hkelvin with hbounds | hnone
      · exact isWithin_of_within hhigh hlow hbounds
      · exact isWithin_of_beq_zero (by simpa [bne] using hnone)
    exact roundWith_of_isWithin _ hwithin
  refine ⟨{ label, power := if isOn then powerOn else powerOff, hue, saturation, brightness, kelvin },
    ?_⟩
  unfold toState
  rw [hhue, hsaturation, hbrightness, hkelvin]
  rfl

end Lamplighter.PhysicalColor
