import Fray.AttackRoll

/-!
# Better and worse outcomes

The four outcomes are ranked. The outcome of an attack rises with its total and falls
with the target number, its damage rises with the outcome, and range takes from the
total. Every sum here saturates, the thresholds of the outcomes too, and saturating keeps
the order.

It does not keep the distance of ten between two thresholds. At the lower end of the range
nothing comes of this, since every total reaches the least score. At the upper end a
threshold above all scores is brought down to the greatest one, which a total can have.

## Main results

`shotRoll_farther`: a longer range leaves the dice of a shot as they are, and makes none of
its results better.

`Attack.withTotal_tiers`: the outcome and the damage of an attack in exact arithmetic, and
where they differ.
-/

namespace Fray

namespace Outcome

/-- How good an outcome is. -/
def rank : Outcome → Nat
  | criticalFailure => 0
  | failure => 1
  | success => 2
  | criticalSuccess => 3

/-- A total has a rank for every threshold that it reaches. -/
theorem rank_of (total target : Score) :
    (of total target).rank
      = if (target + 10).toInt ≤ total.toInt then 3
        else if target.toInt ≤ total.toInt then 2
        else if (target - 10).toInt ≤ total.toInt then 1
        else 0 := by
  unfold of
  simp only [Score.le_iff]
  repeat' split
  all_goals rfl

/-- A higher total is no worse. -/
theorem rank_of_total {low high : Score} (higher : low ≤ high) (target : Score) :
    (of low target).rank ≤ (of high target).rank := by
  have higher := Score.le_iff.mp higher
  rw [rank_of, rank_of]
  repeat' split
  all_goals omega

/-- A higher target number is no better: each of its thresholds is no lower. -/
theorem rank_of_target {low high : Score} (higher : low ≤ high) (total : Score) :
    (of total high).rank ≤ (of total low).rank := by
  have higher := Score.le_iff.mp higher
  have above : (low + 10).toInt ≤ (high + 10).toInt := by
    simp only [Score.toInt_add]
    omega
  have below : (low - 10).toInt ≤ (high - 10).toInt := by
    simp only [Score.toInt_sub]
    omega
  rw [rank_of, rank_of]
  repeat' split
  all_goals omega

/-- A worse outcome does no more damage. -/
theorem scale_of_rank {worse better : Outcome} (less : worse.rank ≤ better.rank) (base : Score) :
    worse.scale base ≤ better.scale base := by
  have zero : (0 : Score).toInt = 0 := rfl
  have two : (2 : Score).toInt = 2 := rfl
  have greatest := base.le_greatest
  cases worse <;> cases better <;> first
    | exact absurd less (by decide)
    | simp only [scale, Score.le_iff, Score.toInt_mul, Score.toInt_max, zero, two]
      omega

end Outcome

/-- The two attacks were rolled alike, and the first came to no more than the second. -/
structure Attack.NoBetter (first second : Attack) : Prop where
  roll : first.roll = second.roll
  base : first.base = second.base
  dice : first.dice = second.dice
  total : first.total ≤ second.total
  outcome : first.outcome.rank ≤ second.outcome.rank
  damage : first.damage ≤ second.damage

/-- An attack with another total. -/
def Attack.withTotal (attack : Attack) (total armorClass : Score) : Attack :=
  { attack with total := total, outcome := .of total armorClass }

/-- With a lower total, an attack comes to no more. -/
theorem Attack.withTotal_noBetter (attack : Attack) {low high : Score} (higher : low ≤ high)
    (armorClass : Score) :
    (attack.withTotal low armorClass).NoBetter (attack.withTotal high armorClass) where
  roll := rfl
  base := rfl
  dice := rfl
  total := higher
  outcome := Outcome.rank_of_total higher armorClass
  damage := Outcome.scale_of_rank (Outcome.rank_of_total higher armorClass) attack.base

/-! ### Tiers in exact arithmetic -/

namespace Outcome

/-- Whether a total lies in a tier of a target number, by thresholds of any size. -/
def IsTier (total target : Int) : Outcome → Prop
  | criticalSuccess => target + 10 ≤ total
  | success => target ≤ total ∧ total < target + 10
  | failure => target - 10 ≤ total ∧ total < target
  | criticalFailure => total < target - 10

instance (total target : Int) : (outcome : Outcome) → Decidable (outcome.IsTier total target)
  | criticalSuccess => inferInstanceAs (Decidable (target + 10 ≤ total))
  | success => inferInstanceAs (Decidable (target ≤ total ∧ total < target + 10))
  | failure => inferInstanceAs (Decidable (target - 10 ≤ total ∧ total < target))
  | criticalFailure => inferInstanceAs (Decidable (total < target - 10))

/-- The greatest total that there is, short of a critical success all the same. -/
def IsCapped (total target : Score) : Prop :=
  total.toInt = 2147483647 ∧ total.toInt < target.toInt + 10

instance (total target : Score) : Decidable (IsCapped total target) :=
  inferInstanceAs (Decidable (_ ∧ _))

theorem rank_injective {first second : Outcome} (same : first.rank = second.rank) :
    first = second := by
  cases first <;> cases second <;> first | rfl | cases same

/-- The tiers leave nothing out, and each excludes the others. -/
theorem isTier_iff_rank (total target : Int) (outcome : Outcome) :
    outcome.IsTier total target ↔
      (if target + 10 ≤ total then 3 else if target ≤ total then 2
        else if target - 10 ≤ total then 1 else 0) = outcome.rank := by
  cases outcome <;> simp only [IsTier, rank] <;> repeat' split
  all_goals omega

/-- Only the threshold of a critical success is missed by saturating it. -/
theorem of_eq_iff (total target : Score) (outcome : Outcome) :
    of total target = outcome ↔
      if IsCapped total target then outcome = criticalSuccess
      else outcome.IsTier total.toInt target.toInt := by
  have ten : (10 : Score).toInt = 10 := rfl
  have above : (target + 10).toInt = min (target.toInt + 10) 2147483647 := by
    rw [Score.toInt_add, ten]
    have := target.least_le
    omega
  have below : (target - 10).toInt = max (target.toInt - 10) (-2147483648) := by
    rw [Score.toInt_sub, ten]
    have := target.le_greatest
    omega
  have least := total.least_le
  have greatest := total.le_greatest
  have ranked := rank_of total target
  rw [above, below] at ranked
  split
  next capped =>
    obtain ⟨most, short⟩ := capped
    have critical : of total target = criticalSuccess := by
      apply rank_injective
      rw [ranked, if_pos (by omega)]
      rfl
    rw [critical]
    exact eq_comm
  next reached =>
    rw [isTier_iff_rank]
    have same : (of total target).rank
        = if target.toInt + 10 ≤ total.toInt then 3 else if target.toInt ≤ total.toInt then 2
          else if target.toInt - 10 ≤ total.toInt then 1 else 0 := by
      simp only [IsCapped, not_and, Int.not_lt] at reached
      rw [ranked]
      repeat' split
      all_goals omega
    rw [← same]
    exact ⟨fun equal => congrArg rank equal, rank_injective⟩

/-- The damage of an outcome, in exact arithmetic up to the greatest score. -/
def exactDamage (base : Int) : Outcome → Int
  | criticalSuccess => min (2 * max base 0) 2147483647
  | success => max base 0
  | failure | criticalFailure => 0

theorem toInt_scale (outcome : Outcome) (base : Score) :
    (outcome.scale base).toInt = outcome.exactDamage base.toInt := by
  have zero : (0 : Score).toInt = 0 := rfl
  have two : (2 : Score).toInt = 2 := rfl
  cases outcome with
  | criticalSuccess =>
    simp only [scale, exactDamage, Score.toInt_mul, Score.toInt_max, zero, two]
    omega
  | success => simp only [scale, exactDamage, Score.toInt_max, zero]
  | failure => exact zero
  | criticalFailure => exact zero

end Outcome

/--
Whatever the total, the armor class and the base damage of an attack, its outcome is the
tier in which the total lies in exact arithmetic, and its damage is that of the outcome. The
one exception is the greatest total that there is, against an armor class so high that a
critical success takes more: it is a critical success all the same.
-/
theorem Attack.withTotal_tiers (attack : Attack) (total armorClass : Score) :
    let classified := attack.withTotal total armorClass
    (∀ outcome, classified.outcome = outcome ↔
      if Outcome.IsCapped total armorClass then outcome = .criticalSuccess
      else outcome.IsTier total.toInt armorClass.toInt) ∧
    classified.damage.toInt = classified.outcome.exactDamage attack.base.toInt :=
  ⟨Outcome.of_eq_iff total armorClass, Outcome.toInt_scale _ attack.base⟩

/-- Three short of a critical success, and one all the same: five points of damage become ten. -/
theorem Attack.withTotal_tiers_capped :
    Outcome.of 2147483647 2147483640 = .criticalSuccess ∧
    ¬Outcome.criticalSuccess.IsTier (2147483647 : Score).toInt (2147483640 : Score).toInt ∧
    Outcome.success.IsTier (2147483647 : Score).toInt (2147483640 : Score).toInt ∧
    Outcome.scale (.of 2147483647 2147483640) 5 = 10 ∧
    Outcome.success.exactDamage (5 : Score).toInt = 5 := by
  decide

/-! ### Range -/

/-- What a shot loses by its range. -/
def rangeLoss (range : Score) : Score := rangePenalty * max range 0

theorem rangeLoss_le {near far : Score} (farther : near ≤ far) : rangeLoss near ≤ rangeLoss far := by
  have penalty : rangePenalty.toInt = 2 := rfl
  have zero : (0 : Score).toInt = 0 := rfl
  simp only [Score.le_iff, rangeLoss, Score.toInt_mul, Score.toInt_max, penalty, zero] at farther ⊢
  omega

theorem Score.sub_le_sub_left {low high : Score} (less : low ≤ high) (total : Score) :
    total - high ≤ total - low := by
  simp only [Score.le_iff, Score.toInt_sub] at less ⊢
  omega

/-- The total of a shot before its range counts. -/
def shotTotal (attacker : Combatant) (roll : Score) : Score :=
  roll + attacker.dexterity + proficiencyBonus attacker.level

/-- The range of a shot changes its total, and nothing that is rolled. -/
theorem shotRoll_eq (dice : Dice.Evaluator) (attacker target : Combatant) (weapon : Weapon)
    (range : Score) :
    shotRoll dice attacker target weapon range
      = shotRoll dice attacker target weapon 0 >>= fun attack => pure
          (attack.withTotal (shotTotal attacker attack.roll - rangeLoss range)
            target.armorClass) := by
  simp only [shotRoll, bind_assoc, pure_bind]
  rfl

theorem shotRoll_noBetter {σ : Type} [RandomSource σ] (dice : Dice.Evaluator)
    (attacker target : Combatant) (weapon : Weapon) {near far : Score} (farther : near ≤ far)
    (source : σ) :
    ((shotRoll dice attacker target weapon far).run source).1.NoBetter
      ((shotRoll dice attacker target weapon near).run source).1 := by
  rw [shotRoll_eq _ _ _ _ near, shotRoll_eq _ _ _ _ far, Draws.run_bind, Draws.run_bind]
  exact Attack.withTotal_noBetter _ (Score.sub_le_sub_left (rangeLoss_le farther) _) _

theorem shotRoll_source {σ : Type} [RandomSource σ] (dice : Dice.Evaluator)
    (attacker target : Combatant) (weapon : Weapon) (near far : Score) (source : σ) :
    ((shotRoll dice attacker target weapon far).run source).2
      = ((shotRoll dice attacker target weapon near).run source).2 := by
  rw [shotRoll_eq _ _ _ _ near, shotRoll_eq _ _ _ _ far, Draws.run_bind, Draws.run_bind]
  rfl

/--
With any dice, attacker, target, weapon and source, a shot across more range increments
draws with the same bounds and leaves the same source behind. Its die, its damage dice and
its base damage are the same, and its total, its outcome and its damage are no better.
Negative increments and those at the end of the range are no exception. In general, a
higher total gives no worse outcome, and a higher target number no better one.
-/
theorem shotRoll_farther :
    (∀ (σ : Type) [RandomSource σ] (dice : Dice.Evaluator) (attacker target : Combatant)
        (weapon : Weapon) (source : Recorded σ) (near far : Score), near ≤ far →
      ((shotRoll dice attacker target weapon far).run source).2
        = ((shotRoll dice attacker target weapon near).run source).2 ∧
      ((shotRoll dice attacker target weapon far).run source).1.NoBetter
        ((shotRoll dice attacker target weapon near).run source).1) ∧
    (∀ low high target : Score, low ≤ high →
      (Outcome.of low target).rank ≤ (Outcome.of high target).rank) ∧
    (∀ total low high : Score, low ≤ high →
      (Outcome.of total high).rank ≤ (Outcome.of total low).rank) := by
  refine ⟨?_, ?_, ?_⟩
  · intro σ _ dice attacker target weapon source near far farther
    exact ⟨shotRoll_source dice attacker target weapon near far source,
      shotRoll_noBetter dice attacker target weapon farther source⟩
  · exact fun low high target higher => Outcome.rank_of_total higher target
  · exact fun total low high higher => Outcome.rank_of_target higher total

/-! ### A shot that the range spoils -/

def sampleShooter : Combatant :=
  { id := "ann", name := "Ann", side := .player, maxHp := 9, hp := 9, armorClass := 12,
    dexterity := 2 }

def sampleMark : Combatant :=
  { id := "rat", name := "Rat", side := .npc, maxHp := 30, hp := 30, armorClass := 9 }

def sampleRifle : Weapon :=
  { id := "rifle", name := "Rifle", damageDice := "2d4+1", damageType := "piercing",
    rangeIncrement := 30, reloadActions := 1, magazineCapacity := 6, firingModes := [.single],
    traits := [] }

def sampleShot (range : Score) : Attack × Recorded Fixed :=
  (shotRoll Dice.standard sampleShooter sampleMark sampleRifle range).run ⟨⟨15⟩, []⟩

/-- At hand the shot hits critically, and from afar it misses; the longest range is saturated. -/
theorem shotRoll_farther_sample :
    (sampleShot 2147483647).1.NoBetter (sampleShot 0).1 ∧
    (sampleShot 2147483647).2 = (sampleShot 0).2 ∧
    (sampleShot 0).2.bounds = [4, 4, 20] ∧
    ((sampleShot 0).1.total, (sampleShot 0).1.outcome, (sampleShot 0).1.damage)
      = (20, .criticalSuccess, 18) ∧
    ((sampleShot 2147483647).1.total, (sampleShot 2147483647).1.outcome,
        (sampleShot 2147483647).1.damage)
      = (Score.ofInt (-2147483627), .criticalFailure, 0) :=
  have farther := shotRoll_farther.1 Fixed Dice.standard sampleShooter sampleMark sampleRifle
    ⟨⟨15⟩, []⟩ 0 2147483647 (by decide)
  ⟨farther.2, farther.1, by decide +kernel, by decide +kernel, by decide +kernel⟩

end Fray
