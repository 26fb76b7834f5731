import Fray.Refusal

/-!
# Action queues

The actions that a combatant has committed in the open round, and the action
points left to it. Passing gives up the rest of the points and closes the
queue.
-/
namespace Fray

structure Queue where
  combatant : String
  points : Count
  left : Count
  actions : List Action
deriving DecidableEq

namespace Queue

def fresh (combatant : String) (points : Count) : Queue := ⟨combatant, points, points, []⟩

/-- Commit one more action. -/
def enqueue (action : Action) (queue : Queue) : Except Refusal Queue :=
  match action.kind with
  | .unknown => .error (.invalidAction queue.combatant)
  | .pass => .ok { queue with left := 0, actions := queue.actions ++ [action] }
  | kind =>
    if kind.cost ≤ queue.left then
      .ok { queue with left := queue.left - kind.cost, actions := queue.actions ++ [action] }
    else .error (.insufficientPoints kind.cost queue.left)

/-- Whether nothing more will be committed. -/
def isSubmitted (queue : Queue) : Bool :=
  queue.left = 0 || queue.actions.any (·.kind = .pass)

def hasPoints (queue : Queue) : Bool := 0 < queue.left && !queue.isSubmitted

end Queue

end Fray
