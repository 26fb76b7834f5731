import Fray.Proofs.Dice.Throws
import Fray.Proofs.Outcomes
import Fray.Proofs.Round.Blows

/-!
# Blasts

A thrown explosive rolls its damage once, lets every living opponent of the thrower save
against it with a die of its own, and hurts each by the part that its save leaves. The
saves are rolled before anybody is hurt, so the results are matched with the opponents
afterwards; no position occurs twice among the opponents, and so none is hurt for another.

## Main result

`perform_blasts`: the draws of a throw, the hit points that every opponent loses, and that
nobody else loses any.
-/

namespace Fray

open Draws

/-! ### The parts of a blast -/

namespace Explosive

/-- The damage that all targets share. Dice that cannot be read do none. -/
def shared : Except Dice.Error Dice.Roll → Score
  | .ok roll => roll.total
  | .error _ => 0

/-- The part of the damage that a save leaves, in whole numbers. -/
def part (damage : Int) : Outcome → Int
  | .criticalSuccess => 0
  | .success => damage.tdiv 2
  | .failure => damage
  | .criticalFailure => max (-2147483648) (min (2 * damage) 2147483647)

/-- The hit points that a save total costs; negative damage heals nobody. -/
def cost (explosive : Explosive) (damage total : Score) : Int :=
  max 0 (part damage.toInt (.of total explosive.saveDifficulty))

private theorem tdiv_two (damage : Int) :
    0 ≤ damage ∧ damage.tdiv 2 = damage / 2 ∨ damage < 0 ∧ damage.tdiv 2 = -(-damage / 2) := by
  rcases Int.lt_or_le damage 0 with negative | positive
  · refine .inr ⟨negative, ?_⟩
    rw [← Int.tdiv_eq_ediv_of_nonneg (by omega), Int.neg_tdiv, Int.neg_neg]
  · exact .inl ⟨positive, Int.tdiv_eq_ediv_of_nonneg positive⟩

theorem toInt_blastDamage (save : Outcome) (damage : Score) :
    (blastDamage save damage).toInt = max 0 (part damage.toInt save) := by
  have zero : (0 : Score).toInt = 0 := rfl
  have two : (2 : Score).toInt = 2 := rfl
  have least := damage.least_le
  have greatest := damage.le_greatest
  have halved := tdiv_two damage.toInt
  cases save with
  | criticalSuccess => rfl
  | success =>
    simp only [blastDamage, part, Score.toInt_max, Score.half, Score.toInt_ofInt, zero]
    omega
  | failure =>
    simp only [blastDamage, part, Score.toInt_max, zero]
    omega
  | criticalFailure =>
    simp only [blastDamage, part, Score.toInt_max, Score.toInt_mul, zero, two]
    omega

/-- A better save leaves no greater part, for half of the damage is no more than all of it. -/
theorem part_of_rank {worse better : Outcome} (less : worse.rank ≤ better.rank)
    (damage : Score) :
    max 0 (part damage.toInt better) ≤ max 0 (part damage.toInt worse) := by
  have greatest := damage.le_greatest
  have halved := tdiv_two damage.toInt
  cases worse <;> cases better <;> first
    | exact absurd less (by decide)
    | simp only [part]
      omega

/-- A higher save total costs no more. -/
theorem cost_le (explosive : Explosive) (damage : Score) {low high : Score} (higher : low ≤ high) :
    explosive.cost damage high ≤ explosive.cost damage low :=
  part_of_rank (Outcome.rank_of_total higher explosive.saveDifficulty) damage

/-- The save of a target that rolled a given face. -/
def saved (explosive : Explosive) (damage : Score) (target : Combatant) (face : Score) : Blast :=
  let total := face + target.dexterity
  let save := Outcome.of total explosive.saveDifficulty
  ⟨target.id, total, save, blastDamage save damage⟩

/-- The targets save in order, each with a die of one throw. -/
theorem savesAgainst_eq (explosive : Explosive) (damage : Score) (targets : List Combatant) :
    savesAgainst explosive damage targets
      = Dice.throwDice checkDie targets.length [] >>= fun faces =>
          pure (List.zipWith (explosive.saved damage) targets faces) := by
  induction targets with
  | nil => rfl
  | cons target rest ih =>
    rw [List.length_cons, Dice.throwDice_succ, savesAgainst, ih]
    simp only [saveAgainst, bind_assoc, pure_bind]
    rfl

/-- A blast is the roll of its damage and one throw of a die for each target. -/
theorem blastRoll_eq (dice : Dice.Evaluator) (explosive : Explosive) (targets : List Combatant) :
    blastRoll dice explosive targets
      = dice explosive.damageDice >>= fun rolled =>
          Dice.throwDice checkDie targets.length [] >>= fun faces =>
            pure (List.zipWith (explosive.saved (shared rolled)) targets faces) := by
  unfold blastRoll
  congr 1
  funext rolled
  cases rolled with
  | ok roll => exact savesAgainst_eq explosive roll.total targets
  | error fault => exact savesAgainst_eq explosive 0 targets

end Explosive

/-! ### Opponents -/

namespace Encounter

/-- The opponents of a combatant are the others on the opposing side that are alive. -/
theorem mem_opponents {encounter : Encounter} {actor target : Nat} :
    target ∈ encounter.opponents actor ↔
      ∃ self other, encounter.combatants[actor]? = some self ∧
        encounter.combatants[target]? = some other ∧ target ≠ actor ∧ other.isDead = false ∧
        other.side = self.side.opposing := by
  unfold opponents
  split
  next missing => simp [missing]
  next self found =>
    simp only [List.mem_filter, List.mem_range, Option.any_eq_true, Bool.and_eq_true,
      Combatant.isAlive, Bool.not_eq_true', bne_iff_ne, beq_iff_eq, found, Option.some.injEq]
    constructor
    · rintro ⟨_, other, there, ⟨different, alive⟩, opposing⟩
      exact ⟨self, other, rfl, there, different, alive, opposing⟩
    · rintro ⟨_, other, rfl, there, different, alive, opposing⟩
      exact ⟨(List.getElem?_eq_some_iff.mp there).1, other, there, ⟨different, alive⟩, opposing⟩

theorem opponents_ascend (encounter : Encounter) (actor : Nat) :
    (encounter.opponents actor).Pairwise (· < ·) := by
  unfold opponents
  split
  · exact .nil
  · exact List.pairwise_lt_range.filter _

/-- Somebody stands at the position of every opponent. -/
theorem opponents_stand (encounter : Encounter) (actor : Nat) :
    (encounter.opponents actor).map (encounter.combatants[·]?)
      = ((encounter.opponents actor).filterMap (encounter.combatants[·]?)).map some := by
  have stand : ∀ target ∈ encounter.opponents actor,
      (encounter.combatants[target]?).isSome := by
    intro target member
    obtain ⟨_, other, _, there, _⟩ := mem_opponents.mp member
    simp [there]
  generalize encounter.opponents actor = targets at stand
  induction targets with
  | nil => rfl
  | cons target rest ih =>
    obtain ⟨first, others⟩ := List.forall_mem_cons.mp stand
    obtain ⟨victim, there⟩ := Option.isSome_iff_exists.mp first
    simp [there, ih others]

end Encounter

namespace Scene

open Encounter

/-! ### Who is hurt -/

/-- Hurting a target by its part of a blast. -/
private def afterBlast (scene : Scene) (target : Nat) (blast : Blast) : Scene :=
  (scene.hurt target blast.damage).within (·.beginDying target)

private theorem hpAt?_afterBlast (scene : Scene) (target : Nat) (blast : Blast) (index : Nat) :
    (scene.afterBlast target blast).encounter.hpAt? index
      = (scene.hurt target blast.damage).encounter.hpAt? index :=
  hpAt?_of_combatants (combatants_beginDying ..) index

private theorem blastEach_cons (actor : Actor) (explosive : Explosive) (target : Nat)
    (blast : Blast) (rest : List (Nat × Blast)) (scene : Scene) :
    (blastEach actor explosive ((target, blast) :: rest) scene).2
      = (blastEach actor explosive rest (scene.afterBlast target blast)).2 := rfl

theorem blastEach_spares (actor : Actor) (explosive : Explosive) (hits : List (Nat × Blast))
    (scene : Scene) {index : Nat} (outside : index ∉ hits.map Prod.fst) :
    (blastEach actor explosive hits scene).2.encounter.hpAt? index
      = scene.encounter.hpAt? index := by
  induction hits generalizing scene with
  | nil => rfl
  | cons first rest ih =>
    obtain ⟨target, blast⟩ := first
    simp only [List.map_cons, List.mem_cons, not_or] at outside
    rw [blastEach_cons, ih _ outside.2, hpAt?_afterBlast, hpAt?_hurt_of_ne _ _ outside.1]

/-- Whoever is hit loses its part, for no position is hit twice. -/
theorem blastEach_hurts (actor : Actor) (explosive : Explosive) (hits : List (Nat × Blast))
    (scene : Scene) (distinct : (hits.map Prod.fst).Nodup) {target : Nat} {blast : Blast}
    (hit : (target, blast) ∈ hits) :
    (blastEach actor explosive hits scene).2.encounter.hpAt? target
      = (scene.encounter.hpAt? target).map (· - blast.damage.toCount) := by
  induction hits generalizing scene with
  | nil => cases hit
  | cons first rest ih =>
    obtain ⟨other, part⟩ := first
    obtain ⟨fresh, distinct⟩ := List.nodup_cons.mp distinct
    rw [blastEach_cons]
    rcases List.mem_cons.mp hit with same | later
    · cases same
      rw [blastEach_spares _ _ _ _ fresh, hpAt?_afterBlast, hpAt?_hurt]
    · have different : target ≠ other := by
        rintro rfl
        exact fresh (List.mem_map.mpr ⟨_, later, rfl⟩)
      rw [ih _ distinct later, hpAt?_afterBlast, hpAt?_hurt_of_ne _ _ different]

/-! ### Throws -/

/-- What a blast of given damage does to targets that save with given faces. -/
structure Blasted (explosive : Explosive) (damage : Score) (targets : List Nat)
    (faces : List Score) (before after : Encounter) : Prop where
  /-- Every target has a die of its own. -/
  matched : faces.length = targets.length
  loses : ∀ (place target : Nat) (face : Score), targets[place]? = some target →
    faces[place]? = some face →
    ∃ combatant left, before.combatants[target]? = some combatant ∧
      after.hpAt? target = some left ∧
      (left.toNat : Int)
        = max 0 (combatant.hp.toNat - explosive.cost damage (face + combatant.dexterity))
  spared : ∀ index, index ∉ targets → after.hpAt? index = before.hpAt? index

private theorem toNat_left (hp : Count) (explosive : Explosive) (damage : Score)
    (target : Combatant) (face : Score) :
    ((hp - (explosive.saved damage target face).damage.toCount).toNat : Int)
      = max 0 (hp.toNat - explosive.cost damage (face + target.dexterity)) := by
  have lost : (explosive.saved damage target face).damage.toInt
      = explosive.cost damage (face + target.dexterity) := Explosive.toInt_blastDamage ..
  have positive : 0 ≤ explosive.cost damage (face + target.dexterity) := Int.le_max_left ..
  rw [Count.toNat_sub, Score.toNat_toCount, lost]
  omega

theorem blastEach_blasted (actor : Actor) (explosive : Explosive) (damage : Score) (scene : Scene)
    {targets : List Nat} {faces : List Score} {victims : List Combatant}
    (distinct : targets.Nodup) (matched : faces.length = targets.length)
    (stand : targets.map (scene.encounter.combatants[·]?) = victims.map some) :
    Blasted explosive damage targets faces scene.encounter
      (blastEach actor explosive
        (targets.zip (List.zipWith (explosive.saved damage) victims faces)) scene).2.encounter := by
  have many : victims.length = targets.length := by
    simpa using (congrArg List.length stand).symm
  have positions : (targets.zip (List.zipWith (explosive.saved damage) victims faces)).map
      Prod.fst = targets := by
    rw [List.map_fst_zip]
    simp [many, matched]
  refine ⟨matched, fun place target face here rolled => ?_, fun index outside => ?_⟩
  · obtain ⟨victim, chosen⟩ : ∃ victim, victims[place]? = some victim := by
      have inside := (List.getElem?_eq_some_iff.mp here).1
      exact ⟨_, List.getElem?_eq_getElem (many ▸ inside)⟩
    have there : scene.encounter.combatants[target]? = some victim := by
      have same := congrArg (·[place]?) stand
      simpa [here, chosen] using same
    have hit : (target, explosive.saved damage victim face)
        ∈ targets.zip (List.zipWith (explosive.saved damage) victims faces) := by
      refine List.mem_of_getElem? (i := place) ?_
      simp [List.getElem?_zip_eq_some, List.getElem?_zipWith, here, chosen, rolled]
    refine ⟨victim, victim.hp - (explosive.saved damage victim face).damage.toCount, there, ?_,
      toNat_left ..⟩
    rw [blastEach_hurts _ _ _ _ (positions.symm ▸ distinct) hit, hpAt?, there]
    rfl
  · exact blastEach_spares _ _ _ _ (positions.symm ▸ outside)

section Throw

variable {scene : Scene} (actor : Actor) {action : Action} {inventory : Inventory}
  {explosive : Explosive}

/-- Somebody is about to throw an explosive, and the hook has been asked. -/
private def askedToThrow (scene : Scene) (actor : Actor) (explosive : Explosive) : Scene :=
  scene.within fun encounter =>
    (encounter.consult Hooks.onExplosiveThrow [.text actor.id, .text explosive.id]).2

/-- Whether or not there is somebody to hit, a throw leaves the scene after the blast. -/
private theorem performThrow_scene (stocked : scene.encounter.inventory = some inventory)
    (known : action.explosive.bind inventory.explosives.get? = some explosive) :
    Prod.snd <$> scene.performThrow actor action
      = blastRoll scene.encounter.dice explosive
          ((scene.encounter.opponents actor.index).filterMap (scene.encounter.combatants[·]?))
        >>= fun blasts => pure (blastEach actor explosive
          ((scene.encounter.opponents actor.index).zip blasts)
          (scene.askedToThrow actor explosive)).2 := by
  simp only [performThrow, stocked, known]
  rw [map_bind]
  congr 1
  funext blasts
  split <;> rfl

/-- A throw rolls its damage, then a save for each opponent, and hurts them accordingly. -/
theorem performThrow_run {σ : Type} [RandomSource σ]
    (stocked : scene.encounter.inventory = some inventory)
    (known : action.explosive.bind inventory.explosives.get? = some explosive) (source : σ) :
    let rolled := (scene.encounter.dice explosive.damageDice).run source
    let targets := scene.encounter.opponents actor.index
    let saves := (Dice.throwDice checkDie targets.length []).run rolled.2
    let thrown := (scene.performThrow actor action).run source
    thrown.2 = saves.2 ∧
      Blasted explosive (Explosive.shared rolled.1) targets saves.1 scene.encounter
        thrown.1.2.encounter := by
  have stand := scene.encounter.opponents_stand actor.index
  have many : ((scene.encounter.opponents actor.index).filterMap
      (scene.encounter.combatants[·]?)).length = (scene.encounter.opponents actor.index).length := by
    simpa using (congrArg List.length stand).symm
  intro rolled targets saves thrown
  have same : (thrown.1.2, thrown.2) = ((blastEach actor explosive (targets.zip
      (List.zipWith (explosive.saved (Explosive.shared rolled.1))
        (targets.filterMap (scene.encounter.combatants[·]?)) saves.1))
      (scene.askedToThrow actor explosive)).2, saves.2) := by
    have run := congrArg (·.run source) (performThrow_scene actor stocked known)
    simp only [Explosive.blastRoll_eq, many, map_eq_pure_bind, bind_assoc, pure_bind, run_bind]
      at run
    exact run
  obtain ⟨after, left⟩ := Prod.mk.inj same
  have length := (Dice.length_throwDice checkDie targets.length []).run rolled.2
  -- The hook that is asked before the throw moves nobody.
  have blasted := blastEach_blasted actor explosive (Explosive.shared rolled.1)
    (scene.askedToThrow actor explosive) (nodup_opponents scene.encounter actor.index)
    (by simpa using length) stand
  rw [after]
  exact ⟨left, blasted.matched, blasted.loses, blasted.spared⟩

end Throw

/--
A throw of an explosive that the inventory knows, at any moment of any round. It draws the
dice of the explosive once, or nothing if they cannot be read, then one die of twenty for
each opponent, and nothing else. The opponents are the others on the opposing side that are
alive, in initiative order, and each of them saves with the die of its place. Its save costs
nothing, half of the shared damage, all of it or twice of it, as the outcome of the save is a
critical success, a success, a failure or a critical failure; so much it loses, down to zero,
and a negative cost is none. A higher save costs no more than a lower one. Nobody else loses
hit points or gains any, neither the thrower nor its side nor the dead.
-/
theorem perform_blasts {σ : Type} [RandomSource σ] {scene : Scene} {actor : Actor}
    {action : Action} {inventory : Inventory} {key : String} {explosive : Explosive}
    (standard : scene.encounter.dice = Dice.standard) (kind : action.kind = .throw)
    (stocked : scene.encounter.inventory = some inventory)
    (named : action.explosive = some key)
    (known : inventory.explosives.get? key = some explosive) (source : Recorded σ) :
    let rolled := (Dice.standard explosive.damageDice).run source
    let damage := Explosive.shared rolled.1
    let targets := scene.encounter.opponents actor.index
    let saves := (Dice.throwDice checkDie targets.length []).run rolled.2
    let thrown := (scene.perform actor action).run source
    thrown.2 = saves.2 ∧
      thrown.2.bounds = List.replicate targets.length checkDie
        ++ (Dice.standardBounds explosive.damageDice ++ source.bounds) ∧
      targets.Pairwise (· < ·) ∧
      (∀ target, target ∈ targets ↔
        ∃ self other, scene.encounter.combatants[actor.index]? = some self ∧
          scene.encounter.combatants[target]? = some other ∧ target ≠ actor.index ∧
          other.isDead = false ∧ other.side = self.side.opposing) ∧
      Blasted explosive damage targets saves.1 scene.encounter thrown.1.2.encounter ∧
      ∀ low high, low ≤ high → explosive.cost damage high ≤ explosive.cost damage low := by
  intro rolled damage targets saves thrown
  have chosen : action.explosive.bind inventory.explosives.get? = some explosive := by
    rw [named, Option.bind_some, known]
  have performed : scene.perform actor action = scene.performThrow actor action := by
    simp only [perform, kind]
  obtain ⟨left, blasted⟩ := performThrow_run actor stocked chosen source
  rw [← performed, standard] at left blasted
  refine ⟨left, ?_, opponents_ascend _ _, fun target => mem_opponents, blasted, ?_⟩
  · rw [left, Dice.bounds_throwDice, Dice.bounds_standard]
  · exact fun low high higher => explosive.cost_le damage higher

/-! ### A throw at two of five -/

def sampleGrenade : Explosive :=
  { id := "grenade", name := "Grenade", damageDice := "2d6+1", damageType := "fire",
    area := .burst, saveType := "reflex", saveDifficulty := 15, fuse := .immediate, traits := [] }

def sampleStore : Inventory := ⟨.empty, .ofList [("grenade", sampleGrenade)]⟩

def sampleBattle : Setup :=
  { room := "cellar"
    zone := "house"
    inventory := some sampleStore
    combatants := [
      { id := "ann", name := "Ann", side := .player, maxHp := 9, hp := 9, armorClass := 12 },
      { id := "bob", name := "Bob", side := .player, maxHp := 9, hp := 9, armorClass := 12 },
      { id := "rat", name := "Rat", side := .npc, maxHp := 10, hp := 10, armorClass := 9 },
      { id := "owl", name := "Owl", side := .npc, maxHp := 7, hp := 0, armorClass := 9 },
      { id := "bat", name := "Bat", side := .npc, maxHp := 30, hp := 30, armorClass := 9,
        dexterity := 5 }] }

def sampleScene : Scene := ⟨begin sampleBattle, []⟩

def sampleThrow : Action := { kind := .throw, explosive := some "grenade" }

/-- Ann's throw, with the source that it leaves. -/
def sampleThrown (source : Recorded Cycle) : (List RoundEvent × Scene) × Recorded Cycle :=
  (sampleScene.perform ⟨0, "ann", "Ann"⟩ sampleThrow).run source

def sampleDice : Recorded Cycle := ⟨⟨[2, 3, 0, 11], 0⟩, []⟩

/-- Two dice of six, then a save for the rat and one for the bat: it is twice eight for the one
and half of it for the other. -/
theorem perform_blasts_sample :
    Blasted sampleGrenade 8 [2, 4] [1, 12] (begin sampleBattle)
      (sampleThrown sampleDice).1.2.encounter ∧
    (sampleThrown sampleDice).2.bounds = [20, 20, 6, 6] ∧
    (sampleThrown sampleDice).1.2.encounter.combatants.map (·.hp.toNat) = [9, 9, 0, 0, 26] :=
  have thrown := @perform_blasts Cycle _ sampleScene ⟨0, "ann", "Ann"⟩ sampleThrow sampleStore
    "grenade" sampleGrenade rfl rfl rfl rfl (by decide +kernel) sampleDice
  ⟨thrown.2.2.2.2.1, thrown.2.1, by decide +kernel⟩

end Scene

end Fray
