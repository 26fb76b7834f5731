import Fray.Arsenal.Explosive
import Fray.Combatant
import Fray.Dice.Roll
import Fray.Event
import Fray.Initiative

/-!
# Attack rolls and saves

An attack rolls a twenty-sided die against the target's armor class and then
its damage. An explosive rolls its damage once, and every target saves against
it. Dice that cannot be read do no damage and are not rolled.
-/
namespace Fray

/-- The damage die of an attack without a firearm. -/
def unarmedDie : Count := 6

/-- What every range increment takes off a shot. -/
def rangePenalty : Score := 2

/-- A blow with whatever is in the hand. -/
def meleeRoll (attacker target : Combatant) : Draws Attack := do
  let roll ← Draws.die checkDie
  let face ← Draws.die unarmedDie
  let total := roll + attacker.strength + proficiencyBonus attacker.level
  return {
    attacker := attacker.id
    target := target.id
    roll := roll
    total := total
    outcome := .of total target.armorClass
    base := face + max attacker.strength 0
    dice := [face] }

/-- A shot across a number of range increments. -/
def shotRoll (dice : Dice.Evaluator) (attacker target : Combatant) (weapon : Weapon)
    (range : Score) : Draws Attack := do
  let roll ← Draws.die checkDie
  let total := roll + attacker.dexterity + proficiencyBonus attacker.level
    - rangePenalty * max range 0
  let rolled ← dice weapon.damageDice
  let damage := match rolled with
    | .ok roll => (max roll.total 0, roll.dice)
    | .error _ => (0, [])
  return {
    attacker := attacker.id
    target := target.id
    roll := roll
    total := total
    outcome := .of total target.armorClass
    base := damage.1
    dice := damage.2 }

/-! ### Explosives -/

/-- What an explosive does to one target. -/
structure Blast where
  target : String
  saveTotal : Score
  save : Outcome
  damage : Score
deriving DecidableEq

/-- The better the save, the less of the damage is left. -/
def blastDamage (save : Outcome) (damage : Score) : Score :=
  match save with
  | .criticalSuccess => 0
  | .success => max damage.half 0
  | .failure => max damage 0
  | .criticalFailure => max (damage * 2) 0

def saveAgainst (explosive : Explosive) (damage : Score) (target : Combatant) : Draws Blast := do
  let roll ← Draws.die checkDie
  let total := roll + target.dexterity
  let save := Outcome.of total explosive.saveDifficulty
  return ⟨target.id, total, save, blastDamage save damage⟩

def savesAgainst (explosive : Explosive) (damage : Score) : List Combatant → Draws (List Blast)
  | [] => return []
  | target :: rest => do
    let blast ← saveAgainst explosive damage target
    let others ← savesAgainst explosive damage rest
    return blast :: others

/-- Throw an explosive at targets, who save in order. -/
def blastRoll (dice : Dice.Evaluator) (explosive : Explosive) (targets : List Combatant) :
    Draws (List Blast) := do
  let rolled ← dice explosive.damageDice
  let damage := match rolled with
    | .ok roll => roll.total
    | .error _ => 0
  savesAgainst explosive damage targets

end Fray
