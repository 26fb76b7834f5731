import Fray.Action
import Fray.Outcome

/-!
# Events

The records in which a round tells what happened: attacks, resolved actions,
and conditions that came or went when a round was opened.
-/
namespace Fray

/-- One attack roll against one target. -/
structure Attack where
  attacker : String
  target : String
  /-- The die before modifiers. -/
  roll : Score
  /-- The result after every modifier. -/
  total : Score
  outcome : Outcome
  /-- Damage before the outcome scales it. -/
  base : Score
  dice : List Score
deriving DecidableEq

/-- Damage once the outcome has scaled it. -/
def Attack.damage (attack : Attack) : Score := attack.outcome.scale attack.base

/-- One resolved step of an action. -/
structure RoundEvent where
  actor : String
  actorName : String
  action : ActionKind
  attack : Option Attack
  narrative : String
deriving DecidableEq

inductive Change where
  | applied
  | removed
deriving DecidableEq

def Change.name : Change → String
  | applied => "applied"
  | removed => "removed"

instance : Tagged Change := ⟨[.applied, .removed], Change.name⟩

/-- A condition that was applied, worsened, removed or ran out. -/
structure ConditionEvent where
  combatant : String
  combatantName : String
  condition : String
  conditionName : String
  /-- The number of its stacks. -/
  stack : Count
  change : Change
deriving DecidableEq

end Fray
