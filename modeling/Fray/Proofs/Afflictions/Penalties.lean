import Fray.Proofs.Encounter.Histories
import Mathlib.Data.List.Perm.Subperm

/-!
# Penalties of conditions

The penalties of a set of conditions are taken off one after the other, and each
difference saturates. As all of them are positive, saturating on the way is the same as
saturating at the end, so the modifier of a set is its exact sum of penalties below zero,
as far as the range goes. An application changes the sum by what its own entry gains.

## Main results

`toInt_modifier`: the modifier of a set is its negative sum. `burden_apply_new`,
`burden_apply_single` and `burden_apply_free`: what an application adds.
`Arises.burden_core_le`: with the built-in conditions the sum is small.
-/

namespace Fray

/-- What an entry takes off a total: its penalty for each of its stacks, if it is positive. -/
def Affliction.weight (penalty : Condition → Score) (affliction : Affliction) : Nat :=
  if 0 < penalty affliction.condition then
    (penalty affliction.condition * affliction.stack.toScore).toInt.toNat
  else 0

namespace Afflictions

/-- The sum of the penalties of a set. -/
def burden (penalty : Condition → Score) (set : Afflictions) : Nat :=
  Table.total (Affliction.weight penalty) set

/-! ### Sums of penalties -/

private theorem toInt_positive {penalty : Condition → Score} {affliction : Affliction}
    (positive : 0 < penalty affliction.condition) :
    (penalty affliction.condition * affliction.stack.toScore).toInt
      = affliction.weight penalty := by
  have above : 0 < (penalty affliction.condition).toInt := Score.lt_iff.mp positive
  have many := Count.toInt_toScore affliction.stack
  have product : 0 ≤ (penalty affliction.condition).toInt * affliction.stack.toScore.toInt :=
    Int.mul_nonneg (by omega) (by omega)
  rw [Affliction.weight, if_pos positive, Score.toInt_mul]
  omega

/-- Only the end of a row of differences can saturate. -/
theorem toInt_foldl (penalty : Condition → Score) (entries : List Affliction)
    (start : Score) :
    ((entries.filter fun affliction => 0 < penalty affliction.condition).foldl
        (fun sum affliction => sum - penalty affliction.condition * affliction.stack.toScore)
        start).toInt
      = max (-2147483648)
          (start.toInt - ((entries.map (Affliction.weight penalty)).sum : Nat)) := by
  induction entries generalizing start with
  | nil =>
    have least := start.least_le
    simp only [List.filter_nil, List.foldl_nil, List.map_nil, List.sum_nil]
    omega
  | cons first rest ih =>
    by_cases positive : 0 < penalty first.condition
    · have below := start.le_greatest
      rw [List.filter_cons_of_pos (by simpa using positive), List.foldl_cons, ih, Score.toInt_sub,
        toInt_positive positive, List.map_cons, List.sum_cons]
      omega
    · rw [List.filter_cons_of_neg (by simpa using positive), ih, List.map_cons, List.sum_cons,
        Affliction.weight, if_neg positive, Nat.zero_add]

/-- The modifier of a set is its burden below zero, as far as the range goes. -/
theorem toInt_modifier (penalty : Condition → Score) (set : Afflictions) :
    (set.modifier penalty).toInt = max (-2147483648) (-(set.burden penalty : Int)) := by
  have sum := toInt_foldl penalty set.values 0
  have zero : (0 : Score).toInt = 0 := rfl
  rw [zero, Int.zero_sub] at sum
  exact sum

/-! ### Applications -/

section Apply

variable {codex : Codex} {set : Afflictions} {penalty : Condition → Score} {condition : Condition}

/-- A condition that was absent adds what its entry takes off. -/
theorem burden_apply_new (absent : set.has condition.id = false) (stack : Count)
    (duration : Option Count) :
    (set.apply condition stack duration).burden penalty
      = set.burden penalty + (Affliction.new condition stack duration).weight penalty := by
  have none : set.get? condition.id = none := by
    simpa [has, Table.contains] using absent
  simp only [apply, none, burden]
  exact Table.total_insert_new none _

/-- An application that leaves the weight of its entry as it is leaves the burden. -/
private theorem burden_apply_same {affliction : Affliction}
    (found : set.get? condition.id = some affliction) {stack : Count} {duration : Option Count}
    (same : (affliction.again condition stack duration).weight penalty
      = affliction.weight penalty) :
    (set.apply condition stack duration).burden penalty = set.burden penalty := by
  simp only [apply, found, burden]
  have sum : Table.total (Affliction.weight penalty) _ + _ = _ :=
    Table.total_insert found (affliction.again condition stack duration)
  omega

/-- A condition that is there and does not stack adds nothing. -/
theorem burden_apply_single (arises : set.Arises codex)
    (listed : codex.get? condition.id = some condition) (single : condition.maxStacks = 0)
    (present : set.has condition.id = true) (stack : Count) (duration : Option Count) :
    (set.apply condition stack duration).burden penalty = set.burden penalty := by
  obtain ⟨affliction, found⟩ := Option.isSome_iff_exists.mp present
  obtain ⟨steps, known, rfl⟩ := arises
  have stacked := (entry_grown known found).stacked
  have own : affliction.condition = condition :=
    Option.some.inj (stacked.listed.symm.trans listed)
  have one : affliction.stack = 1 := stacked.single (own ▸ single)
  refine burden_apply_same found ?_
  have unstackable : condition.isStackable = false := by
    rw [Condition.isStackable, single]
    decide
  simp only [Affliction.weight, Affliction.again, unstackable, one, Bool.false_eq_true, if_false]

/-- A condition without a penalty adds nothing. -/
theorem burden_apply_free (arises : set.Arises codex)
    (listed : codex.get? condition.id = some condition) (free : ¬0 < penalty condition)
    (stack : Count) (duration : Option Count) :
    (set.apply condition stack duration).burden penalty = set.burden penalty := by
  cases found : set.get? condition.id with
  | none =>
    rw [burden_apply_new (congrArg Option.isSome found), Affliction.weight]
    simp [Affliction.new, free]
  | some affliction =>
    obtain ⟨steps, known, rfl⟩ := arises
    have own : affliction.condition = condition :=
      Option.some.inj ((entry_grown known found).listed.symm.trans listed)
    refine burden_apply_same found ?_
    simp [Affliction.weight, Affliction.again, own, free]

end Apply

/-! ### Built-in conditions -/

private theorem core_capped : ∀ condition ∈ Codex.core.values,
    (max 1 condition.maxStacks).toNat ≤ 4 := by
  decide +kernel

/-- A built-in condition has four stacks at most, at two each. -/
private theorem weight_core_le {affliction : Affliction} {id : String} {steps : List Step}
    {penalty : Condition → Score} (stacked : affliction.Stacked .core id steps)
    (small : ∀ condition ∈ Codex.core.values, (penalty condition).toInt ≤ 2) :
    affliction.weight penalty ≤ 8 := by
  have member : affliction.condition ∈ Codex.core.values :=
    List.mem_map.mpr ⟨_, Table.mem_entries.mpr stacked.listed, rfl⟩
  have most := Nat.le_trans (Count.le_iff.mp stacked.most) (core_capped _ member)
  have little := small _ member
  have many := Count.toInt_toScore affliction.stack
  unfold Affliction.weight
  split
  next positive =>
    have above : 0 < (penalty affliction.condition).toInt := Score.lt_iff.mp positive
    have product : (penalty affliction.condition).toInt * affliction.stack.toScore.toInt
        ≤ 2 * 4 := Int.mul_le_mul little (by omega) (by omega) (by omega)
    rw [Score.toInt_mul]
    omega
  · exact Nat.zero_le _

/-- With built-in conditions the burden of a penalty that is at most two is small. -/
theorem Arises.burden_core_le {set : Afflictions} (arises : set.Arises .core)
    (penalty : Condition → Score)
    (small : ∀ condition ∈ Codex.core.values, (penalty condition).toInt ≤ 2) :
    set.burden penalty ≤ 48 := by
  obtain ⟨steps, known, rfl⟩ := arises
  have stacked {id : String} {affliction : Affliction}
      (found : (afterAll .empty steps).get? id = some affliction) :=
    (entry_grown known found).stacked
  -- There are six of them, and no name occurs twice in a set.
  have few : (afterAll .empty steps).keys.length ≤ 6 := by
    have inside : ∀ id ∈ (afterAll .empty steps).keys, id ∈ Codex.core.keys := by
      intro id member
      obtain ⟨affliction, found⟩ := Option.isSome_iff_exists.mp (Table.mem_keys.mp member)
      exact Table.mem_keys.mpr (congrArg Option.isSome (stacked found).listed)
    exact (List.subperm_of_subset (Table.nodup_keys _) inside).length_le
  have sum : burden penalty _ ≤ _ :=
    Table.total_le fun id affliction found => weight_core_le (stacked found) small
  omega

end Afflictions

end Fray
