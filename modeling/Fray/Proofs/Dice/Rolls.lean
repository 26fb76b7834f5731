import Fray.Proofs.Dice.Grammar
import Fray.Proofs.Dice.Throws
import Fray.Proofs.Random.Sources
import Mathlib.Algebra.Order.BigOperators.Group.List
import Mathlib.Algebra.Order.Ring.Int
import Mathlib.Data.List.Perm.Subperm

/-!
# Rolls

A roll shows all dice of its throw as they fell, or the highest of them from the highest
down. The ones that are left out are none higher than those that count, so no choice of as
many dice has a larger sum. Dice are positive, so a total that reaches the end of the range
stays there, and is the exact sum otherwise.

## Main results

`sum_le_take`: the first of a falling row have the largest sum. `highest_isHighest`: which
dice are kept. `toInt_total`: the total as an exact sum. `parse_rolls` puts them together
for every expression that is read.
-/

namespace Fray.Dice

open Draws

/-! ### Sums -/

/-- The exact sum of dice. -/
def sum (dice : List Score) : Int := (dice.map Score.toInt).sum

@[simp] theorem sum_nil : sum [] = 0 := rfl

@[simp] theorem sum_cons (die : Score) (rest : List Score) :
    sum (die :: rest) = die.toInt + sum rest := by
  simp [sum]

theorem sum_perm {dice others : List Score} (perm : dice.Perm others) : sum dice = sum others :=
  (perm.map Score.toInt).sum_eq

theorem length_le_sum {dice : List Score} (positive : ∀ die ∈ dice, 1 ≤ die.toInt) :
    (dice.length : Int) ≤ sum dice := by
  simpa [sum] using List.card_nsmul_le_sum (dice.map Score.toInt) 1 (by simpa using positive)

theorem sum_le_length {dice : List Score} {most : Int} (below : ∀ die ∈ dice, die.toInt ≤ most) :
    sum dice ≤ dice.length * most := by
  simpa [sum] using List.sum_le_card_nsmul (dice.map Score.toInt) most (by simpa using below)

/-- In a row that falls, to begin one place later is to gain nothing. -/
private theorem sum_take_tail {first : Score} {rest : List Score}
    (falling : (first :: rest).Pairwise fun high low => low ≤ high) {many : Nat}
    (enough : many ≤ rest.length) :
    sum (rest.take many) ≤ sum ((first :: rest).take many) := by
  induction many generalizing first rest with
  | zero => simp
  | succ many ih =>
    cases rest with
    | nil => simp at enough
    | cons second rest =>
      obtain ⟨above, tail⟩ := List.pairwise_cons.mp falling
      have less : second.toInt ≤ first.toInt := above second List.mem_cons_self
      have later := ih tail (by simpa using enough)
      simp only [List.take_succ_cons, sum_cons] at later ⊢
      omega

/-- No dice of a falling row have a larger sum than as many from its start. -/
theorem sum_le_take {dice chosen : List Score}
    (falling : dice.Pairwise fun high low => low ≤ high) (part : chosen.Sublist dice) :
    sum chosen ≤ sum (dice.take chosen.length) := by
  induction part with
  | slnil => simp
  | cons first part ih =>
    exact (ih (List.pairwise_cons.mp falling).2).trans (sum_take_tail falling part.length_le)
  | cons_cons first part ih =>
    have rest := ih (List.pairwise_cons.mp falling).2
    simp only [List.length_cons, List.take_succ_cons, sum_cons]
    omega

/-! ### The highest dice -/

/-- A number of dice are the highest of a throw. -/
structure IsHighest (keep : Nat) (thrown kept : List Score) : Prop where
  length : kept.length = keep
  falling : kept.Pairwise fun high low => low ≤ high
  /-- The dice that are left out are no higher than those that are kept. -/
  parted : ∃ dropped, (kept ++ dropped).Perm thrown ∧
    ∀ low ∈ dropped, ∀ high ∈ kept, low ≤ high
  largest : ∀ chosen, chosen.Subperm thrown → chosen.length = keep → sum chosen ≤ sum kept

theorem falling_mergeSort (thrown : List Score) :
    (thrown.mergeSort fun a b => decide (b ≤ a)).Pairwise fun high low => low ≤ high := by
  have trans (a b c : Score) : decide (b ≤ a) = true → decide (c ≤ b) = true →
      decide (c ≤ a) = true := by
    simpa [Score.le_iff] using fun one two => Int.le_trans two one
  have total (a b : Score) : (decide (b ≤ a) || decide (a ≤ b)) = true := by
    simpa [Score.le_iff] using Int.le_total b.toInt a.toInt
  simpa using List.pairwise_mergeSort trans total thrown

/-- However the dice are put into a falling row, the highest are its first ones. -/
theorem highest_eq_take {row thrown : List Score} (perm : row.Perm thrown)
    (falling : row.Pairwise fun high low => low ≤ high) (keep : Count) :
    highest keep thrown = row.take keep.toNat := by
  have same := (thrown.mergeSort_perm fun a b => decide (b ≤ a)).trans perm.symm
  unfold highest
  rw [same.eq_of_pairwise (fun a b _ _ low high => Score.ext (Int.le_antisymm high low))
    (falling_mergeSort thrown) falling]

theorem highest_isHighest {keep : Count} {thrown : List Score}
    (enough : keep.toNat ≤ thrown.length) :
    IsHighest keep.toNat thrown (highest keep thrown) := by
  unfold highest
  have perm := thrown.mergeSort_perm fun a b => decide (b ≤ a)
  have falling := falling_mergeSort thrown
  generalize thrown.mergeSort (fun a b => decide (b ≤ a)) = sorted at perm falling
  -- The row is cut after the dice that are kept.
  have cut : sorted.take keep.toNat ++ sorted.drop keep.toNat = sorted := List.take_append_drop ..
  have parts := cut.symm ▸ falling
  obtain ⟨front, _, across⟩ := List.pairwise_append.mp parts
  constructor
  · simpa [perm.length_eq] using enough
  · exact front
  · exact ⟨_, cut.symm ▸ perm, fun low left high kept => across high kept low left⟩
  · intro chosen part many
    obtain ⟨row, same, inside⟩ := part.trans perm.symm.subperm
    rw [← sum_perm same, ← many, ← same.length_eq]
    exact sum_le_take falling inside

/-! ### Totals -/

private theorem toInt_foldl {dice : List Score} (positive : ∀ die ∈ dice, 1 ≤ die.toInt)
    (start : Score) :
    (dice.foldl (· + ·) start).toInt = min (start.toInt + sum dice) 2147483647 := by
  induction dice generalizing start with
  | nil =>
    have most := start.le_greatest
    simp only [List.foldl_nil, sum_nil]
    omega
  | cons die rest ih =>
    obtain ⟨one, others⟩ := List.forall_mem_cons.mp positive
    -- No sum is below the first, which is in range, and what comes later only adds to it.
    have least := start.least_le
    have more := length_le_sum others
    rw [List.foldl_cons, ih others, Score.toInt_add, sum_cons]
    omega

/-- Positive dice are added up exactly until the end of the range. -/
theorem toInt_total {roll : Roll} (positive : ∀ die ∈ roll.dice, 1 ≤ die.toInt) :
    roll.total.toInt = min (roll.modifier.toInt + sum roll.dice) 2147483647 :=
  toInt_foldl positive roll.modifier

/-! ### Rolls of what was read -/

/-- What a roll shows of the dice that were thrown for its expression. -/
structure Roll.Shows (expr : Expr) (thrown : List Score) (roll : Roll) : Prop where
  expression : roll.expression = expr.raw
  modifier : roll.modifier = expr.modifier
  all : expr.keep = none → roll.dice = thrown
  highest : ∀ keep, expr.keep = some keep → IsHighest keep.toNat thrown roll.dice

theorem Roll.Shows.subset {expr : Expr} {thrown : List Score} {roll : Roll}
    (showing : roll.Shows expr thrown) : roll.dice ⊆ thrown := by
  cases kept : expr.keep with
  | none => simp [showing.all kept]
  | some keep =>
    obtain ⟨dropped, perm, _⟩ := (showing.highest keep kept).parted
    exact fun die member => perm.subset (List.mem_append_left _ member)

variable {σ : Type} [RandomSource σ]

/-- The dice of an expression are thrown first, and nothing else is drawn. -/
theorem roll_shows {expr : Expr} (proper : expr.IsProper) (source : σ) :
    (expr.roll.run source).2 = afterDice expr.sides expr.count.toNat source ∧
      (expr.roll.run source).1.Shows expr (facesFrom expr.sides expr.count.toNat source) := by
  simp only [Expr.roll, run_bind, run_throwDice]
  cases kept : expr.keep with
  | none =>
    refine ⟨rfl, rfl, rfl, fun _ => rfl, fun keep some => ?_⟩
    rw [kept] at some
    cases some
  | some keep =>
    have fewer := (proper.keep keep kept).2
    rw [Count.lt_iff] at fewer
    refine ⟨rfl, rfl, rfl, fun none => ?_, fun other some => ?_⟩
    · rw [kept] at none
      cases none
    · rw [kept] at some
      cases some
      exact highest_isHighest (by simpa using Nat.le_of_lt fewer)

theorem one_le_of_mem_facesFrom {sides : Count} {many : Nat} {source : σ} {die : Score}
    (member : die ∈ facesFrom sides many source) : 1 ≤ die.toInt := by
  obtain ⟨place, _, rfl⟩ := List.mem_map.mp member
  exact one_le_faceOf _

theorem le_of_mem_facesFrom (keeps : KeepsBounds σ) {sides : Count} (some : 0 < sides)
    {many : Nat} {source : σ} {die : Score} (member : die ∈ facesFrom sides many source) :
    die.toInt ≤ min (sides.toNat : Int) 2147483647 := by
  obtain ⟨place, _, rfl⟩ := List.mem_map.mp member
  exact faceOf_le (keeps sides _ some)

/--
Read an expression and roll it with any source. It draws as many times as the expression has
dice, each time with the bound of its sides, and nothing else. The dice that count are all of
them in the order of the throw, or the highest of them, from the highest down: none that is
left out is higher than one that is kept, and no other choice of as many has a larger sum.
Every die is at least one, and the total is the exact sum of the modifier and the dice, up to
the end of the range. With a source that keeps to its bounds no die is higher than its sides
or than the end of the range, so the total lies between the sums of that many lowest and of
that many highest dice.
-/
theorem parse_rolls {text : String} {expr : Expr} (accepted : parse text = .ok expr)
    (source : Recorded σ) :
    let thrown := facesFrom expr.sides expr.count.toNat source
    let rolled := expr.roll.run source
    let many : Int := rolled.1.dice.length
    rolled.2 = afterDice expr.sides expr.count.toNat source ∧
      rolled.2.bounds = List.replicate expr.count.toNat expr.sides ++ source.bounds ∧
      rolled.1.Shows expr thrown ∧
      (∀ die ∈ thrown, 1 ≤ die.toInt) ∧
      rolled.1.total.toInt = min (expr.modifier.toInt + sum rolled.1.dice) 2147483647 ∧
      min (many + expr.modifier.toInt) 2147483647 ≤ rolled.1.total.toInt ∧
      (KeepsBounds σ →
        (∀ die ∈ thrown, die.toInt ≤ min (expr.sides.toNat : Int) 2147483647) ∧
          rolled.1.total.toInt
            ≤ min (many * expr.sides.toNat + expr.modifier.toInt) 2147483647) := by
  intro thrown rolled many
  have proper := (parse_sound accepted).2.isProper
  obtain ⟨left, showing⟩ := roll_shows proper source
  have positive : ∀ die ∈ rolled.1.dice, 1 ≤ die.toInt :=
    fun die member => one_le_of_mem_facesFrom (showing.subset member)
  have total := toInt_total positive
  have least := length_le_sum positive
  rw [showing.modifier] at total
  refine ⟨left, ?_, showing, fun die => one_le_of_mem_facesFrom, total, ?_, fun keeps => ?_⟩
  · rw [left, bounds_afterDice]
  · rw [total]
    omega
  · have some : 0 < expr.sides := Nat.lt_of_lt_of_le (by decide) proper.sides
    have below : ∀ die ∈ thrown, die.toInt ≤ min (expr.sides.toNat : Int) 2147483647 :=
      fun die => le_of_mem_facesFrom keeps.recorded some
    have most : sum rolled.1.dice ≤ many * expr.sides.toNat :=
      sum_le_length fun die member => (below die (showing.subset member)).trans (min_le_left _ _)
    refine ⟨below, ?_⟩
    rw [total]
    omega

/-! ### Three dice with very many sides -/

def sampleExpr : Expr := ⟨"3d4294967295kh2-7", 3, 4294967295, Score.ofInt (-7), some 2⟩

/-- The last die has more on it than a score can tell. -/
def sampleThrow : Recorded Cycle := ⟨⟨[2147483640, 4, 4294967294], 0⟩, []⟩

/-- The highest dice come first, and their sum reaches the end of the range. -/
theorem parse_rolls_sample :
    parse "3d4294967295kh2-7" = .ok sampleExpr ∧
    (sampleExpr.roll.run sampleThrow).2.bounds = [4294967295, 4294967295, 4294967295] ∧
    (sampleExpr.roll.run sampleThrow).1.Shows sampleExpr [2147483641, 5, 2147483647] ∧
    (sampleExpr.roll.run sampleThrow).1.dice = [2147483647, 2147483641] ∧
    KeepsBounds Cycle ∧
    (∀ die ∈ facesFrom 4294967295 3 sampleThrow, die.toInt ≤ min 4294967295 2147483647) ∧
    (sampleExpr.roll.run sampleThrow).1.total.toInt = 2147483647 := by
  have accepted : parse "3d4294967295kh2-7" = .ok sampleExpr := by decide +kernel
  have faces : facesFrom 4294967295 3 sampleThrow = [2147483641, 5, 2147483647] := by
    decide +kernel
  have row : [2147483647, 2147483641, 5].Perm [2147483641, 5, (2147483647 : Score)] := by decide
  have dice : (sampleExpr.roll.run sampleThrow).1.dice = [2147483647, 2147483641] := by
    simp only [Expr.roll, run_bind, run_throwDice]
    show highest 2 (facesFrom 4294967295 3 sampleThrow) = _
    rw [faces, highest_eq_take row (by decide)]
    rfl
  obtain ⟨_, bounds, showing, _, total, _, within⟩ := parse_rolls accepted sampleThrow
  rw [dice] at total
  exact ⟨accepted, bounds, faces ▸ showing, dice, Cycle.keepsBounds,
    (within Cycle.keepsBounds).1, total⟩

end Fray.Dice
