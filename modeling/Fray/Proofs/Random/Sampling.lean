import Fray.Proofs.Random.Sources
import Fray.Random.Seeded

/-!
# Drawing with words

A word of 32 bits is a fraction of `2 ^ 32`, and a draw is the whole part of that fraction of the
bound. A second word may add one to it. It is only asked where the part that is left over is
greater than `2 ^ 32` less the bound, and the highest number below the bound never has that much
left over. So no words lead out of the range.

## Main result

`Sampler.keepsBounds`: a draw lies below its bound, whatever words the generator gives.
-/

namespace Fray

/-- The whole part of a share and what is left over make up the share. -/
theorem share_split (bound : Nat) (word : UInt32) :
    word.toNat * bound = 4294967296 * share bound word + shareRest bound word :=
  (Nat.div_add_mod (word.toNat * bound) (Nat.pow 2 32)).symm

theorem shareRest_lt (bound : Nat) (word : UInt32) : shareRest bound word < 4294967296 :=
  Nat.mod_lt _ (by decide)

theorem share_lt {bound : Nat} (word : UInt32) (positive : 0 < bound) :
    share bound word < bound := by
  refine Nat.div_lt_of_lt_mul ?_
  exact Nat.mul_lt_mul_of_pos_right word.toNat_lt positive

/-- A share of which so much is left over is not the highest one. -/
theorem share_succ_lt {bound : Nat} {word : UInt32} (positive : 0 < bound)
    (much : 4294967296 - bound < shareRest bound word) : share bound word + 1 < bound := by
  refine Nat.lt_of_not_le fun highest => ?_
  have last : share bound word = bound - 1 := by
    have := share_lt word positive
    omega
  have whole := share_split bound word
  rw [last, Nat.mul_sub, Nat.mul_one] at whole
  -- Then one more word than there can be would still not fill the bound.
  have full : 4294967296 * bound < (word.toNat + 1) * bound := by
    rw [Nat.add_mul, Nat.one_mul]
    omega
  have beyond := Nat.lt_of_mul_lt_mul_right full
  have most := word.toNat_lt
  omega

namespace Sampler

variable {ρ : Type} [Generator ρ]

/-- Nothing is asked of the generator where there is nothing to draw. -/
theorem draw_zero (source : Sampler ρ) : draw 0 source = (0, source) := rfl

theorem keepsBounds : KeepsBounds (Sampler ρ) := by
  intro bound source positive
  have some : 0 < bound.toNat := positive
  have most := bound.le_greatest
  rw [Count.lt_iff]
  show (Sampler.draw bound source).1.toNat < bound.toNat
  have limit : (Nat.pow 2 32 - bound.toNat) % Nat.pow 2 32 = 4294967296 - bound.toNat :=
    Nat.mod_eq_of_lt (by show 4294967296 - bound.toNat < 4294967296; omega)
  simp only [Sampler.draw, if_neg (Nat.ne_of_gt some), limit]
  split
  next much =>
    have low := share_succ_lt some much
    have left := shareRest_lt bound.toNat (Generator.next source.generator).1
    have second := share_lt (Generator.next (Generator.next source.generator).2).1 some
    rw [Count.toNat_ofNat]
    -- Two fractions are less than two wholes.
    have carry : (shareRest bound.toNat (Generator.next source.generator).1
        + share bound.toNat (Generator.next (Generator.next source.generator).2).1)
        / Nat.pow 2 32 ≤ 1 := by
      refine Nat.le_of_lt_succ (Nat.div_lt_of_lt_mul ?_)
      show _ < 4294967296 * 2
      omega
    omega
  next =>
    have low := share_lt (Generator.next source.generator).1 some
    rw [Count.toNat_ofNat]
    omega

end Sampler

end Fray
