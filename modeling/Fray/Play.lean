import Fray.Round

/-!
# Playing an encounter

Everything that can be asked of an encounter by whoever runs it, one request
after another. A request that is refused changes nothing.
-/
namespace Fray

namespace Encounter

inductive Request where
  | openRound (points : Count)
  | commit (id : String) (action : Action)
  | resolve
  | afflict (id condition : String) (stack : Count) (duration : Option Count)
  | relieve (id condition : String)
  | currentTurn
  | advanceTurn

/-- Whether a request belongs to the rounds, and not to whoever intervenes in them. -/
def Request.isOfRounds : Request → Bool
  | openRound _ | commit _ _ | resolve => true
  | afflict _ _ _ _ | relieve _ _ | currentTurn | advanceTurn => false

/-- What an encounter becomes of an operation that may be refused. -/
def orKeep (encounter : Encounter) : Except Refusal Encounter → Encounter
  | .ok changed => changed
  | .error _ => encounter

def answer (encounter : Encounter) : Request → Draws Encounter
  | .openRound points => do
    let (_, opened) ← encounter.openRound points
    return opened
  | .commit id action => return encounter.orKeep (encounter.commit id action)
  | .resolve => do
    let resolution ← encounter.resolve
    return resolution.encounter
  | .afflict id condition stack duration =>
    return encounter.orKeep (encounter.afflict id condition stack duration)
  | .relieve id condition => return encounter.orKeep (encounter.relieve id condition)
  | .currentTurn => return encounter.currentTurn.2
  | .advanceTurn => return encounter.advanceTurn

/-- Answer requests one after another. -/
def play : List Request → Encounter → Draws Encounter
  | [], encounter => return encounter
  | request :: rest, encounter => do
    let answered ← encounter.answer request
    play rest answered

end Encounter

end Fray
