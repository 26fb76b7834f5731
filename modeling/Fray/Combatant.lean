import Fray.Arsenal.Loadout
import Fray.Side

/-!
# Combatants

A participant of an encounter with its statistics, hit points and loadout, and
the two formulas that turn an ability score or a level into a bonus.
-/
namespace Fray

/-- Half of what an ability score has above ten, toward zero. -/
def abilityModifier (score : Score) : Score := (score - 10).half

/-- Two, and one more for every four levels above the first. -/
def proficiencyBonus (level : Count) : Score :=
  2 + Score.ofInt (((level - 1).toNat / 4 : Nat) : Int)

structure Combatant where
  id : String
  name : String
  side : Side
  maxHp : Count
  hp : Count
  armorClass : Score
  level : Count := 1
  strength : Score := 0
  dexterity : Score := 0
  initiative : Score := 0
  /-- Set at the end of the dying chain. -/
  dead : Bool := false
  loadout : Loadout := .empty
deriving DecidableEq

namespace Combatant

def isPlayer (combatant : Combatant) : Bool := combatant.side = .player

/-- A non-player is dead at zero hit points, a player when marked as dead. -/
def isDead (combatant : Combatant) : Bool :=
  match combatant.side with
  | .npc => combatant.hp = 0
  | .player => combatant.dead

def isAlive (combatant : Combatant) : Bool := !combatant.isDead

/-- Lose hit points, as far as there are any. -/
def hurt (amount : Count) (combatant : Combatant) : Combatant :=
  { combatant with hp := combatant.hp - amount }

/-- Set the hit points, up to the maximum. -/
def setHp (hp : Count) (combatant : Combatant) : Combatant :=
  { combatant with hp := min hp combatant.maxHp }

end Combatant

end Fray
