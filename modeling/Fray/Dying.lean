import Fray.Afflictions
import Fray.Combatant
import Fray.Event
import Fray.Initiative

/-!
# The dying chain

A player at zero hit points is dying. When a round opens, a dying combatant
makes a check without bonus: it recovers, it recovers with a wound, or the
dying goes on by one stack, up to death at the fourth.
-/
namespace Fray

/-- The stacks of dying at which a combatant dies. -/
def deathStacks : Count := 4

/-- The check that brings a combatant back with a wound. -/
def recoveryDifficulty : Score := 15

/-- The check that brings a combatant back unharmed; no bare die reaches it. -/
def fullRecovery : Score := 25

/-- A combatant with its conditions, and what became of them. -/
structure Opening where
  combatant : Combatant
  afflictions : Afflictions
  events : List ConditionEvent

namespace Combatant

def conditionEvent (combatant : Combatant) (codex : Codex) (id : String) (stack : Count)
    (change : Change) : ConditionEvent :=
  { combatant := combatant.id
    combatantName := combatant.name
    condition := id
    conditionName := codex.nameOf id
    stack := stack
    change := change }

/-- What a recovery check with a given roll does to a dying combatant. -/
def recover (combatant : Combatant) (set : Afflictions) (codex : Codex) (roll : Score) : Opening :=
  let dying := Condition.dying.id
  let wounded := Condition.wounded.id
  if fullRecovery ≤ roll then
    { combatant := combatant.setHp 1
      afflictions := set.erase dying
      events := [combatant.conditionEvent codex dying 0 .removed] }
  else if recoveryDifficulty ≤ roll then
    let better := Afflictions.applyKnown (set.erase dying) codex wounded 1
    { combatant := combatant.setHp 1
      afflictions := better
      events := [
        combatant.conditionEvent codex dying 0 .removed,
        combatant.conditionEvent codex wounded (better.stackOf wounded) .applied] }
  else
    -- The event tells the stack that is due, even where the codex caps it lower.
    let stack := set.stackOf dying + 1
    if deathStacks ≤ stack then
      { combatant := { combatant with hp := 0, dead := true }
        afflictions := set.erase dying
        events := [combatant.conditionEvent codex dying deathStacks .removed] }
    else
      { combatant := combatant
        afflictions :=
          if codex.contains dying then Afflictions.applyKnown (set.erase dying) codex dying stack
          else set
        events := [combatant.conditionEvent codex dying stack .applied] }

/-- The recovery check of a combatant; nothing happens to one that is not dying. -/
def recoveryCheck (combatant : Combatant) (set : Afflictions) (codex : Codex) : Draws Opening :=
  if set.has Condition.dying.id then do
    let roll ← Draws.die checkDie
    return combatant.recover set codex roll
  else return ⟨combatant, set, []⟩

end Combatant

end Fray
