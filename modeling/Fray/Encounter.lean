import Fray.Arsenal.Inventory
import Fray.AttackRoll
import Fray.Dying
import Fray.Hook
import Fray.Queue

/-!
# Encounters

One fight in one room: the combatants in initiative order, their conditions and
queues, the round and the turn cursor. Opening a round counts conditions down,
makes the recovery checks of the dying and gives every living combatant a fresh
queue. Actions are then committed until the round is resolved, which
`Fray.Round` describes.
-/
namespace Fray

/-- How an encounter stands. -/
inductive Standing where
  | ongoing
  | victory
  | defeat
deriving DecidableEq

/-- What an encounter is begun with. -/
structure Setup where
  room : String
  /-- The zone whose hooks apply. -/
  zone : String
  combatants : List Combatant
  codex : Codex := .core
  /-- Without an inventory every throw fails. -/
  inventory : Option Inventory := none
  hooks : Hooks := .none
  dice : Dice.Evaluator := Dice.standard

structure Encounter where
  room : String
  zone : String
  /-- In initiative order. -/
  combatants : List Combatant
  /-- The position of the combatant whose turn it is. -/
  cursor : Nat
  /-- Zero before the first round is opened. -/
  round : Count
  isOver : Bool
  /-- The queues of the open round. -/
  queues : Table Queue
  afflictions : Table Afflictions
  codex : Codex
  inventory : Option Inventory
  hooks : Hooks
  /-- Every call to a hook, the latest first. -/
  calls : List HookCall
  dice : Dice.Evaluator

/-- An action that was accepted, and whose it is. -/
structure Commit where
  combatant : String
  action : Action
deriving DecidableEq

namespace Encounter

/-- An encounter before its first round. -/
def begin (setup : Setup) : Encounter :=
  let combatants := sortByInitiative setup.combatants
  { room := setup.room
    zone := setup.zone
    combatants := combatants
    cursor := 0
    round := 0
    isOver := false
    queues := .empty
    afflictions := .ofList (combatants.map fun combatant => (combatant.id, Table.empty))
    codex := setup.codex
    inventory := setup.inventory
    hooks := setup.hooks
    calls := []
    dice := setup.dice }

def markOver (encounter : Encounter) : Encounter := { encounter with isOver := true }

/-! ### Questions -/

def combatant? (encounter : Encounter) (id : String) : Option Combatant :=
  encounter.combatants.find? fun combatant => combatant.id == id

def living (encounter : Encounter) : List Combatant :=
  encounter.combatants.filter Combatant.isAlive

def hasLivingPlayers (encounter : Encounter) : Bool := encounter.living.any Combatant.isPlayer

def hasLivingNpcs (encounter : Encounter) : Bool := encounter.living.any (!·.isPlayer)

/-- A fight that leaves nobody standing is a defeat. -/
def standing (encounter : Encounter) : Standing :=
  if !encounter.hasLivingPlayers then .defeat
  else if !encounter.hasLivingNpcs then .victory
  else .ongoing

/-- Whether every living combatant is done committing actions. -/
def allSubmitted (encounter : Encounter) : Bool :=
  encounter.living.all fun combatant =>
    (encounter.queues.get? combatant.id).any Queue.isSubmitted

def afflictionsOf (encounter : Encounter) (id : String) : Afflictions :=
  (encounter.afflictions.get? id).getD .empty

def hasCondition (encounter : Encounter) (id condition : String) : Bool :=
  (encounter.afflictionsOf id).has condition

/-! ### Conditions -/

/-- Apply a condition of the codex to a combatant. -/
def afflict (encounter : Encounter) (id condition : String) (stack : Count)
    (duration : Option Count) : Except Refusal Encounter :=
  match encounter.codex.get? condition with
  | none => .error (.unknownCondition condition)
  | some known =>
    match encounter.afflictions.get? id with
    | none => .error (.unknownCombatant id)
    | some set =>
      .ok { encounter with
        afflictions := encounter.afflictions.insert id (set.apply known stack duration) }

/-- Take a condition from a combatant, who may be without it. -/
def relieve (encounter : Encounter) (id condition : String) : Except Refusal Encounter :=
  match encounter.afflictions.get? id with
  | none => .error (.unknownCombatant id)
  | some set =>
    .ok { encounter with afflictions := encounter.afflictions.insert id (set.erase condition) }

/-! ### Opening a round -/

/-- Count down the conditions of a living combatant, then make its recovery check. -/
def openCombatant (codex : Codex) (combatant : Combatant) (set : Afflictions) : Draws Opening := do
  let ticked := set.tick
  let expired := ticked.1.map fun id => combatant.conditionEvent codex id 0 .removed
  let checked ← combatant.recoveryCheck ticked.2 codex
  return { checked with events := expired ++ checked.events }

/-- Combatants and conditions after the combatants of a list have been opened in order. -/
structure Opened where
  combatants : List Combatant
  afflictions : Table Afflictions
  events : List ConditionEvent

def openAll (codex : Codex) : List Combatant → Table Afflictions → Draws Opened
  | [], afflictions => return ⟨[], afflictions, []⟩
  | combatant :: rest, afflictions =>
    -- Nothing changes for the dead: their conditions stay and are not counted down.
    if combatant.isDead then do
      let opened ← openAll codex rest afflictions
      return { opened with combatants := combatant :: opened.combatants }
    else do
      let first ← openCombatant codex combatant ((afflictions.get? combatant.id).getD .empty)
      let opened ← openAll codex rest (afflictions.insert combatant.id first.afflictions)
      return {
        combatants := first.combatant :: opened.combatants
        afflictions := opened.afflictions
        events := first.events ++ opened.events }

/-- A queue for every living combatant, less the points that conditions take. -/
def freshQueues (combatants : List Combatant) (afflictions : Table Afflictions) (points : Count) :
    Table Queue :=
  .ofList <| (combatants.filter Combatant.isAlive).map fun combatant =>
    let lost := ((afflictions.get? combatant.id).map Afflictions.lostPoints).getD 0
    (combatant.id, .fresh combatant.id (points - lost))

/-- Open the next round; the events tell the changes of conditions in initiative order. -/
def openRound (encounter : Encounter) (points : Count) : Draws (List ConditionEvent × Encounter) := do
  let opened ← openAll encounter.codex encounter.combatants encounter.afflictions
  return (opened.events,
    { encounter with
      round := encounter.round + 1
      combatants := opened.combatants
      afflictions := opened.afflictions
      queues := freshQueues opened.combatants opened.afflictions points })

/-! ### Committing actions -/

/-- Commit an action; a refused one changes nothing. -/
def commit (encounter : Encounter) (id : String) (action : Action) : Except Refusal Encounter :=
  match encounter.queues.get? id with
  | none => .error (.unknownCombatant id)
  | some queue =>
    match (encounter.afflictionsOf id).restriction? action.kind with
    | some condition => .error (.restricted id action.kind condition)
    | none =>
      (queue.enqueue action).map fun longer =>
        { encounter with queues := encounter.queues.insert id longer }

/-! ### Turns -/

/-- Move the cursor to the next place, around the end; without combatants it stays at zero. -/
def advanceTurn (encounter : Encounter) : Encounter :=
  let size := encounter.combatants.length
  { encounter with cursor := if size = 0 then 0 else (encounter.cursor + 1) % size }

/-- Look for a living combatant at the cursor, moving it on at most a number of times. -/
def seekTurn : Nat → Encounter → Option Combatant × Encounter
  | 0, encounter => (none, encounter)
  | moves + 1, encounter =>
    match encounter.combatants[encounter.cursor]? with
    | some combatant =>
      if combatant.isAlive then (some combatant, encounter)
      else seekTurn moves encounter.advanceTurn
    | none => seekTurn moves encounter.advanceTurn

/-- The living combatant at or after the cursor, which moves there. -/
def currentTurn (encounter : Encounter) : Option Combatant × Encounter :=
  seekTurn encounter.combatants.length encounter

end Encounter

end Fray
