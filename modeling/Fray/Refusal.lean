import Fray.Action
import Fray.Text.Quoted

/-!
# Refusals

Why an encounter does not accept an action or a condition.
-/
namespace Fray

inductive Refusal where
  | invalidAction (combatant : String)
  | insufficientPoints (needed left : Count)
  | unknownCombatant (combatant : String)
  | unknownCondition (condition : String)
  | restricted (combatant : String) (action : ActionKind) (condition : String)
deriving DecidableEq

def Refusal.message : Refusal → String
  | invalidAction combatant =>
    "invalid action for " ++ combatant ++ ": the unknown action kind is never valid"
  | insufficientPoints needed left =>
    "insufficient action points: need " ++ toString needed ++ ", have " ++ toString left
  | unknownCombatant combatant =>
    "combatant " ++ combatant ++ " not found or has no active queue"
  | unknownCondition condition => "unknown condition " ++ Text.quoted condition
  | restricted combatant action condition =>
    combatant ++ " cannot " ++ action.name ++ " while " ++ condition

end Fray
