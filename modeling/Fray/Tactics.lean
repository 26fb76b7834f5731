import Fray.Encounter

/-!
# Tactics

A simple way to steer combatants: shoot a burst or strike at the first opponent
who still stands, reload an empty firearm, and pass when there is nothing to
do. Plans are made for everybody before any of them is committed.
-/
namespace Fray

/-- Which combatants are steered: always the non-players, and perhaps the players. -/
structure Tactics where
  steersPlayers : Bool
deriving DecidableEq

namespace Tactics

def npcsOnly : Tactics := ⟨false⟩

def everyone : Tactics := ⟨true⟩

def steers (tactics : Tactics) (combatant : Combatant) : Bool :=
  tactics.steersPlayers || !combatant.isPlayer

/-- The first living opponent with hit points left. -/
def standingOpponent (encounter : Encounter) (actor : Combatant) : Option Combatant :=
  encounter.living.find? fun combatant => combatant.side != actor.side && 0 < combatant.hp

/-- What to do against a standing opponent. -/
def chooseAgainst (actor target : Combatant) : Action :=
  match actor.loadout.mainHand with
  | none => .strike target.name
  | some held =>
    if !held.weapon.isFirearm then .strike target.name
    else if held.magazine.any Magazine.isEmpty then .reload
    else if held.weapon.firesBursts then .burst target.id held.weapon.id
    else .strike target.name

def choose (encounter : Encounter) (actor : Combatant) : Action :=
  if actor.hp = 0 then .pass
  else
    match standingOpponent encounter actor with
    | none => .pass
    | some target => chooseAgainst actor target

/-- A planned action, and the name to attack when it is refused. -/
structure Plan where
  combatant : String
  action : Action
  fallback : Option String

def plan (encounter : Encounter) (actor : Combatant) : Plan :=
  { combatant := actor.id
    action := choose encounter actor
    fallback :=
      if actor.hp = 0 then none else (standingOpponent encounter actor).map Combatant.name }

end Tactics

/-- An encounter while actions are committed to it, with those that it has accepted. -/
structure Muster where
  encounter : Encounter
  commits : List Commit

namespace Muster

/-- Commit an action if it is accepted. -/
def attempt (muster : Muster) (id : String) (action : Action) : Muster :=
  match muster.encounter.commit id action with
  | .ok committed => ⟨committed, muster.commits ++ [⟨id, action⟩]⟩
  | .error _ => muster

/-- Commit a plan or its fallback, then pass. -/
def carryOut (muster : Muster) (plan : Tactics.Plan) : Muster :=
  -- A plan is refused by a condition, or when there are too few points for it.
  let acted : Muster :=
    match muster.encounter.commit plan.combatant plan.action, plan.fallback with
    | .ok committed, _ => ⟨committed, muster.commits ++ [⟨plan.combatant, plan.action⟩]⟩
    | .error _, some target => muster.attempt plan.combatant (.attack target)
    | .error _, none => muster
  acted.attempt plan.combatant .pass

end Muster

namespace Tactics

/-- Commit the actions of every living combatant that is steered. -/
def muster (tactics : Tactics) (encounter : Encounter) : Muster :=
  let plans := (encounter.living.filter tactics.steers).map (plan encounter)
  plans.foldl Muster.carryOut ⟨encounter, []⟩

def queueAll (tactics : Tactics) (encounter : Encounter) : Encounter :=
  (tactics.muster encounter).encounter

end Tactics

end Fray
