import Fray.Proofs.Afflictions.Penalties
import Mathlib.Algebra.Order.Ring.Int

/-!
# Modifiers over the life of a set

The modifier of a set of conditions is never positive, and it does not matter in which order
the conditions are gone through. It follows what happens to the set. The stacks of an entry
only grow while it is there, so an application never raises the modifier; a removal and a
tick take entries away and leave the others with their stacks, so they never lower it.

The stacks grow because all conditions come from one codex: a condition of the same name
with a lower cap would cut the stacks that are there.

## Main results

`burden_le_apply`, `burden_erase_le` and `burden_tick_le`: what a step does to the sum of the
penalties. `Arises.modifiers`: the two modifiers of a set with any history.
-/

namespace Fray

/-! ### Entries -/

namespace Affliction

variable {penalty : Condition → Score}

/-- An entry weighs its penalty times its stacks, as far as a score can tell. -/
theorem weight_of_positive {affliction : Affliction}
    (positive : 0 < (penalty affliction.condition).toInt) :
    (affliction.weight penalty : Int)
      = min ((penalty affliction.condition).toInt * min (affliction.stack.toNat : Int) 2147483647)
          2147483647 := by
  have many := Count.toInt_toScore affliction.stack
  have product : 0 ≤ (penalty affliction.condition).toInt * affliction.stack.toScore.toInt :=
    Int.mul_nonneg (by omega) (by omega)
  have heavy : 0 < penalty affliction.condition := positive
  rw [many] at product
  rw [weight, if_pos heavy, Score.toInt_mul, many]
  omega

theorem weight_of_not_positive {affliction : Affliction}
    (free : ¬0 < (penalty affliction.condition).toInt) : affliction.weight penalty = 0 := by
  have light : ¬0 < penalty affliction.condition := free
  rw [weight, if_neg light]

/-- With more stacks a condition weighs no less. -/
theorem weight_mono {few many : Affliction} (same : many.condition = few.condition)
    (fewer : few.stack ≤ many.stack) : few.weight penalty ≤ many.weight penalty := by
  by_cases positive : 0 < (penalty few.condition).toInt
  · have more : few.stack.toNat ≤ many.stack.toNat := fewer
    have light := weight_of_positive positive
    have heavy := weight_of_positive (same ▸ positive : 0 < (penalty many.condition).toInt)
    rw [same] at heavy
    have product : (penalty few.condition).toInt * min (few.stack.toNat : Int) 2147483647
        ≤ (penalty few.condition).toInt * min (many.stack.toNat : Int) 2147483647 :=
      Int.mul_le_mul_of_nonneg_left (by omega) (by omega)
    omega
  · rw [weight_of_not_positive positive]
    exact Nat.zero_le _

theorem weight_countdown (affliction : Affliction) :
    affliction.countdown.weight penalty = affliction.weight penalty := by
  simp [weight]

end Affliction

namespace Afflictions

variable {codex : Codex} {set : Afflictions} {penalty : Condition → Score}

/-! ### Steps -/

/-- An entry of the codex's own condition has no stacks that an application could cut. -/
theorem burden_le_apply (arises : set.Arises codex) {condition : Condition}
    (listed : codex.get? condition.id = some condition) (stack : Count)
    (duration : Option Count) :
    set.burden penalty ≤ (set.apply condition stack duration).burden penalty := by
  cases found : set.get? condition.id with
  | none =>
    rw [burden_apply_new (congrArg Option.isSome found)]
    exact Nat.le_add_right ..
  | some affliction =>
    obtain ⟨steps, known, rfl⟩ := arises
    have stacked := (entry_grown known found).stacked
    have own : affliction.condition = condition :=
      Option.some.inj (stacked.listed.symm.trans listed)
    have within : affliction.stack ≤ condition.cap := by
      obtain ⟨early, late, first, rest, _, _, _, sum⟩ := (entry_grown known found).requested
      rw [← own, Count.le_iff, sum]
      exact Condition.total_le_cap ..
    have heavier : affliction.weight penalty
        ≤ (affliction.again condition stack duration).weight penalty :=
      Affliction.weight_mono rfl (Affliction.le_stack_again within stack duration)
    simp only [apply, found, burden]
    have sum : Table.total (Affliction.weight penalty) _ + _ = _ :=
      Table.total_insert found (affliction.again condition stack duration)
    omega

theorem burden_erase_le (set : Afflictions) (id : String) :
    burden penalty (Table.erase set id) ≤ set.burden penalty := by
  cases found : set.get? id with
  | none => rw [Table.erase_of_absent found]
  | some affliction =>
    have sum : Table.total (Affliction.weight penalty) (Table.erase set id) + _ = _ :=
      Table.total_erase found
    simp only [burden]
    omega

/-- A countdown takes no stacks, so only the entries that run out matter. -/
theorem burden_tick_le (set : Afflictions) : burden penalty set.tick.2 ≤ set.burden penalty := by
  have counted : burden penalty (Table.map Affliction.countdown set) = set.burden penalty := by
    simp [burden, Table.total_map, Function.comp_def, Affliction.weight_countdown]
  rw [← counted]
  exact Table.total_filter_le ..

/-! ### Modifiers -/

/-- A set that weighs more has a modifier that is no higher. -/
theorem modifier_le_of_burden {light heavy : Afflictions}
    (more : light.burden penalty ≤ heavy.burden penalty) :
    heavy.modifier penalty ≤ light.modifier penalty := by
  rw [Score.le_iff, toInt_modifier, toInt_modifier]
  omega

/-- The exact sum of a penalty over a set: each condition has it once for each of its stacks, as
far as a score can tell, and what is no penalty does not count. -/
def penaltySum (penalty : Condition → Score) (set : Afflictions) : Int :=
  ((set.values.filter fun affliction => 0 < (penalty affliction.condition).toInt).map
    fun affliction =>
      min ((penalty affliction.condition).toInt * min (affliction.stack.toNat : Int) 2147483647)
        2147483647).sum

theorem burden_eq (penalty : Condition → Score) (set : Afflictions) :
    (set.burden penalty : Int) = set.penaltySum penalty := by
  unfold burden Table.total penaltySum
  induction set.values with
  | nil => rfl
  | cons first rest ih =>
    by_cases positive : 0 < (penalty first.condition).toInt
    · rw [List.filter_cons_of_pos (by simpa using positive)]
      simp [Affliction.weight_of_positive positive, ih]
    · rw [List.filter_cons_of_neg (by simpa using positive)]
      simp [Affliction.weight_of_not_positive positive, ih]

/-- The penalties of entries taken off one after the other, in the order of a list. -/
def reduction (penalty : Condition → Score) (entries : List Affliction) : Score :=
  (entries.filter fun affliction => 0 < penalty affliction.condition).foldl
    (fun sum affliction => sum - penalty affliction.condition * affliction.stack.toScore) 0

/-- Every difference may saturate, but in any order the end is the same. -/
theorem reduction_perm {entries others : List Affliction} (perm : entries.Perm others) :
    reduction penalty entries = reduction penalty others := by
  have same : (entries.map (Affliction.weight penalty)).sum
      = (others.map (Affliction.weight penalty)).sum := (perm.map _).sum_eq
  refine Score.ext ?_
  rw [reduction, toInt_foldl, same, ← toInt_foldl, reduction]

/-- What is known of a modifier that comes from a penalty, at a set of conditions of a codex. -/
structure Hampers (codex : Codex) (penalty : Condition → Score) (modifier : Afflictions → Score)
    (set : Afflictions) : Prop where
  exact : (modifier set).toInt = max (-2147483648) (-set.penaltySum penalty)
  nonpos : modifier set ≤ 0
  unordered : ∀ entries, entries.Perm set.values → reduction penalty entries = modifier set
  apply : ∀ condition stack duration, codex.get? condition.id = some condition →
    modifier (set.apply condition stack duration) ≤ modifier set
  remove : ∀ id, modifier set ≤ modifier (Table.erase set id)
  tick : modifier set ≤ modifier set.tick.2

theorem Arises.hampers (arises : set.Arises codex) (penalty : Condition → Score) :
    Hampers codex penalty (modifier penalty) set where
  exact := by rw [toInt_modifier, burden_eq]
  nonpos := by
    have zero : (0 : Score).toInt = 0 := rfl
    rw [Score.le_iff, toInt_modifier, zero]
    omega
  unordered entries perm := reduction_perm perm
  apply condition stack duration listed :=
    modifier_le_of_burden (burden_le_apply arises listed stack duration)
  remove id := modifier_le_of_burden (burden_erase_le set id)
  tick := modifier_le_of_burden (burden_tick_le set)

/--
Take conditions from one codex, apply them to an empty set, remove them and let rounds pass, in
any order and number. Then each modifier of the set is its exact sum of penalties below zero,
as far as the range goes, so it is never positive; to take the penalties off in another order
gives the same. Applying any condition of the codex to the set, with any stacks and duration,
never raises a modifier, and neither a removal nor a tick ever lowers one.
-/
theorem Arises.modifiers (arises : set.Arises codex) :
    Hampers codex Condition.attackPenalty attackModifier set ∧
      Hampers codex Condition.acPenalty acModifier set :=
  ⟨arises.hampers _, arises.hampers _⟩

/-! ### Beyond the range -/

/-- A curse whose penalty is as high as it can be, and which makes its victim harder to hit. -/
def sampleCurse : Condition :=
  { id := "cursed", name := "Cursed", description := "Hopeless.", lasting := .rounds,
    maxStacks := 4294967295, attackPenalty := 2147483647, acPenalty := Score.ofInt (-3),
    speedPenalty := 0, restricted := [] }

def sampleCurses : Codex := Codex.core.register sampleCurse

def sampleCursing : List Step :=
  [.apply sampleCurse 4294967295 (some 2), .apply .frightened 3 (some 1), .apply .prone 1 none]

def sampleCursed : Afflictions := afterAll .empty sampleCursing

/-- The attack modifier is at the end of its range until the curse is taken away. -/
theorem modifiers_sample :
    sampleCursed.Arises sampleCurses ∧
    Hampers sampleCurses Condition.attackPenalty attackModifier sampleCursed ∧
    Hampers sampleCurses Condition.acPenalty acModifier sampleCursed ∧
    sampleCursed.penaltySum Condition.attackPenalty = 2147483652 ∧
    sampleCursed.attackModifier.toInt = -2147483648 ∧ sampleCursed.acModifier.toInt = -3 ∧
    (attackModifier (Table.erase sampleCursed "cursed")).toInt = -5 := by
  have known : ∀ step ∈ sampleCursing, step.IsFrom sampleCurses := by decide +kernel
  have arises : sampleCursed.Arises sampleCurses := ⟨sampleCursing, known, rfl⟩
  have modifiers := arises.modifiers
  exact ⟨arises, modifiers.1, modifiers.2, by decide +kernel, by decide +kernel,
    by decide +kernel, by decide +kernel⟩

end Afflictions

end Fray
