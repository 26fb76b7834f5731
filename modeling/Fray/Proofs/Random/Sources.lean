import Fray.Random.Source

/-!
# Sources that keep to their bounds

A source is asked for a number below a bound, and a die shows a face more than what was
drawn. So with a source that keeps to its bounds a die has no face above its sides, and none
above the end of the range; with any source it has none below one.
-/

namespace Fray

/-- Whatever is drawn with a positive bound lies below it. -/
def KeepsBounds (σ : Type) [RandomSource σ] : Prop :=
  ∀ (bound : Count) (source : σ), 0 < bound → (draw bound source).1 < bound

/-! ### Sources given in advance -/

/-- What a value is cut down to by a positive bound. -/
private theorem min_pred_lt (value : Count) {bound : Count} (positive : 0 < bound) :
    min value (bound - 1) < bound := by
  have one := Count.toNat_one
  have zero : (0 : Count).toNat = 0 := rfl
  rw [Count.lt_iff, zero] at positive
  rw [Count.lt_iff, Count.toNat_min, Count.toNat_sub, one]
  omega

theorem Fixed.keepsBounds : KeepsBounds Fixed :=
  fun _ source positive => min_pred_lt source.value positive

theorem Cycle.keepsBounds : KeepsBounds Cycle := by
  intro bound source positive
  show (Cycle.draw bound source).1 < bound
  simp only [Cycle.draw]
  split
  · exact positive
  · exact min_pred_lt _ positive

/-- To write down the bounds changes nothing of what is drawn. -/
theorem KeepsBounds.recorded {σ : Type} [RandomSource σ] (keeps : KeepsBounds σ) :
    KeepsBounds (Recorded σ) :=
  fun bound recorded positive => keeps bound recorded.source positive

/-! ### Faces -/

theorem toInt_faceOf (drawn : Count) :
    (faceOf drawn).toInt = min ((drawn.toNat : Int) + 1) 2147483647 := by
  have one : (1 : Score).toInt = 1 := rfl
  rw [faceOf, Score.toInt_add, Count.toInt_toScore, one]
  omega

theorem one_le_faceOf (drawn : Count) : 1 ≤ (faceOf drawn).toInt := by
  rw [toInt_faceOf]
  omega

/-- A face is no higher than the sides of its die, and than a score can be. -/
theorem faceOf_le {drawn sides : Count} (below : drawn < sides) :
    (faceOf drawn).toInt ≤ min (sides.toNat : Int) 2147483647 := by
  rw [Count.lt_iff] at below
  rw [toInt_faceOf]
  omega

end Fray
