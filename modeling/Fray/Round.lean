import Fray.Encounter
import Fray.Text.Lower

/-!
# Resolving a round

The combatants act in initiative order. One that is dead when its turn comes
does nothing; otherwise its committed actions are performed in order, each
giving a block of events. Damage counts at once and is reported.

A melee swing takes the conditions of both sides into account, and a critical
result leaves a condition behind. A shot costs a round of ammunition. After
every kind of hit, a player at zero hit points begins to die.
-/
namespace Fray

/-- What the second swing of a strike takes off its total. -/
def secondSwingPenalty : Score := 5

def burstShots : Nat := 2

/-- The most targets of automatic fire. -/
def automaticTargets : Nat := 3

/-- The encounter while a round is being resolved, with the damage reported so far. -/
structure Scene where
  encounter : Encounter
  /-- Who was hurt, and the hit points left. -/
  damage : List (String × Count)

/-- The combatant whose actions are performed. -/
structure Actor where
  index : Nat
  id : String
  name : String

/-- An action with the events that it gave. -/
structure Block where
  actor : String
  action : Action
  events : List RoundEvent

/-- The turn of a combatant, as it stood when the turn came, with what it did. -/
structure Turn where
  combatant : Combatant
  blocks : List Block

namespace Actor

def event (actor : Actor) (kind : ActionKind) (narrative : String) : RoundEvent :=
  ⟨actor.id, actor.name, kind, none, narrative⟩

def attackEvent (actor : Actor) (kind : ActionKind) (attack : Attack) (narrative : String) :
    RoundEvent :=
  ⟨actor.id, actor.name, kind, some attack, narrative⟩

end Actor

namespace Encounter

/-! ### Targets -/

/-- Whether the combatant at a position is dead; nobody is alive at a position without one. -/
def isDeadAt (encounter : Encounter) (index : Nat) : Bool :=
  (encounter.combatants[index]?).all Combatant.isDead

/-- The first position with a living combatant that passes a test. -/
def firstLiving (encounter : Encounter) (test : Combatant → Bool) : Option Nat :=
  encounter.combatants.findIdx? fun combatant => combatant.isAlive && test combatant

/-- The first living combatant of exactly that name. -/
def livingNamed (encounter : Encounter) (name : String) : Option Nat :=
  encounter.firstLiving fun combatant => combatant.name == name

/-- The first living combatant of that name or id, in whatever case. -/
def livingCalled (encounter : Encounter) (key : String) : Option Nat :=
  let lowered := Text.lower key
  encounter.firstLiving fun combatant =>
    Text.lower combatant.name == lowered || Text.lower combatant.id == lowered

/-- The positions of the living opponents of an actor, in initiative order. -/
def opponents (encounter : Encounter) (actor : Nat) : List Nat :=
  match encounter.combatants[actor]? with
  | none => []
  | some self =>
    (List.range encounter.combatants.length).filter fun index =>
      (encounter.combatants[index]?).any fun combatant =>
        index != actor && combatant.isAlive && combatant.side == self.side.opposing

def nameAt (encounter : Encounter) (index : Nat) : String :=
  ((encounter.combatants[index]?).map Combatant.name).getD ""

/-- The firearm in an actor's main hand, if an action that names a weapon names this one. -/
def firearm? (encounter : Encounter) (actor : Nat) (weapon : Option String) : Option Weapon := do
  let self ← encounter.combatants[actor]?
  let held ← self.loadout.mainHand
  if !held.weapon.isFirearm then none
  else if weapon.any fun id => !id.isEmpty && id != held.weapon.id then none
  else some held.weapon

/-! ### Hooks and conditions -/

/-- Call a hook of the encounter's zone. -/
def consult (encounter : Encounter) (hook : String) (args : List HookValue) :
    Option HookValue × Encounter :=
  let call : HookCall := ⟨encounter.zone, hook, args⟩
  (encounter.hooks encounter.calls call, { encounter with calls := call :: encounter.calls })

/-- Apply a condition unless a hook forbids it or the codex does not know it. -/
def afflictIfAllowed (encounter : Encounter) (id condition : String) (stack : Count)
    (duration : Option Count) : Encounter :=
  -- The hook is asked even about conditions that nobody knows.
  let (answer, asked) :=
    encounter.consult Hooks.onConditionApply [.text id, .text condition, .ofCount stack]
  if answer.any HookValue.isFalse then asked
  else match asked.afflict id condition stack duration with
    | .ok afflicted => afflicted
    | .error _ => asked

/-- A player at zero hit points begins to die, the worse the more it is wounded. -/
def beginDying (encounter : Encounter) (target : Nat) : Encounter :=
  match encounter.combatants[target]? with
  | none => encounter
  | some combatant =>
    if combatant.isPlayer && !combatant.dead && combatant.hp = 0
        && !encounter.hasCondition combatant.id Condition.dying.id then
      let wounds := (encounter.afflictionsOf combatant.id).stackOf Condition.wounded.id
      encounter.afflictIfAllowed combatant.id Condition.dying.id (wounds + 1) none
    else encounter

/-- What a swing leaves behind: a stumble of the attacker or an opening of the target. -/
def afterSwing (encounter : Encounter) (attacker target : Combatant) (outcome : Outcome) :
    Encounter :=
  match outcome with
  | .criticalFailure => encounter.afflictIfAllowed attacker.id Condition.prone.id 1 none
  | .criticalSuccess => encounter.afflictIfAllowed target.id Condition.flatFooted.id 1 (some 1)
  | .success | .failure => encounter

/-- How the conditions of both sides change the total of a swing. -/
def swingModifier (encounter : Encounter) (attacker target : String) : Score :=
  (encounter.afflictionsOf attacker).attackModifier - (encounter.afflictionsOf target).acModifier

/-- Change the combatant at a position. -/
def changeAt (encounter : Encounter) (index : Nat) (change : Combatant → Combatant) : Encounter :=
  { encounter with combatants := encounter.combatants.modify index change }

end Encounter

namespace Scene

/-- Do something to the encounter of a scene. -/
def within (scene : Scene) (change : Encounter → Encounter) : Scene :=
  { scene with encounter := change scene.encounter }

/-- Damage a combatant and report what is left of it; there is no damage below one. -/
def hurt (scene : Scene) (target : Nat) (damage : Score) : Scene :=
  if damage ≤ 0 then scene
  else
    match scene.encounter.combatants[target]? with
    | none => scene
    | some combatant =>
      { encounter := scene.encounter.changeAt target (Combatant.hurt damage.toCount)
        damage := scene.damage ++ [(combatant.id, (combatant.hurt damage.toCount).hp)] }

/-! ### The common part of swings and shots -/

/-- The total of an attack roll, unless a hook sets another. -/
def attackTotal (scene : Scene) (attacker target : Combatant) (total : Score) : Score × Scene :=
  let (answer, asked) := scene.encounter.consult Hooks.onAttackRoll
    [.text attacker.id, .text target.id, .ofScore total, .ofScore target.armorClass]
  ((answer.bind HookValue.score?).getD total, { scene with encounter := asked })

/-- The damage of a hit, unless a hook sets another. No hook is asked where there is none. -/
def attackDamage (scene : Scene) (attacker target : Combatant) (damage : Score) : Score × Scene :=
  if damage ≤ 0 then (damage, scene)
  else
    let (answer, asked) := scene.encounter.consult Hooks.onDamageRoll
      [.text attacker.id, .text target.id, .ofScore damage]
    ((answer.bind HookValue.score?).getD damage, { scene with encounter := asked })

/-- An attack that has been carried out. -/
structure Hit where
  attack : Attack
  /-- The damage dealt, which a hook may have set. -/
  damage : Score
  scene : Scene

/-- Let hooks adjust an attack roll, then deal its damage. -/
def land (scene : Scene) (attacker target : Combatant) (index : Nat) (attack : Attack) : Hit :=
  let (total, asked) := scene.attackTotal attacker target attack.total
  let attack := { attack with total := total, outcome := .of total target.armorClass }
  let (damage, asked) := asked.attackDamage attacker target attack.damage
  ⟨attack, damage, asked.hurt index damage⟩

/-! ### Melee -/

/-- One swing at the combatant at a position. -/
def swing (scene : Scene) (actor target : Nat) (penalty : Score) : Draws (Option Attack × Scene) :=
  match scene.encounter.combatants[actor]?, scene.encounter.combatants[target]? with
  | some attacker, some defender => do
    let rolled ← meleeRoll attacker defender
    let total :=
      rolled.total + scene.encounter.swingModifier attacker.id defender.id - penalty
    -- Hooks see the total with conditions and penalty already in it.
    let hit := scene.land attacker defender target { rolled with total := total }
    return (some hit.attack, hit.scene.within fun encounter =>
      (encounter.afterSwing attacker defender hit.attack.outcome).beginDying target)
  | _, _ => return (none, scene)

def rolledText (attack : Attack) : String :=
  attack.outcome.name ++ " (total " ++ toString attack.total ++ ")."

def performAttack (scene : Scene) (actor : Actor) (action : Action) :
    Draws (List RoundEvent × Scene) :=
  match action.target.bind scene.encounter.livingNamed with
  | none => return ([actor.event .attack (actor.name ++ " attacks but hits nothing.")], scene)
  | some target => do
    let name := scene.encounter.nameAt target
    let (attack, scene) ← scene.swing actor.index target 0
    return (attack.toList.map fun attack =>
      actor.attackEvent .attack attack (actor.name ++ " attacks " ++ name ++ ": " ++ rolledText attack),
      scene)

def performStrike (scene : Scene) (actor : Actor) (action : Action) :
    Draws (List RoundEvent × Scene) :=
  match action.target.bind scene.encounter.livingNamed with
  | none =>
    return ([actor.event .strike (actor.name ++ " strikes but hits nothing."),
      actor.event .strike (actor.name ++ " strikes again but hits nothing.")], scene)
  | some target => do
    let name := scene.encounter.nameAt target
    let (first, scene) ← scene.swing actor.index target 0
    let firstEvents := first.toList.map fun attack =>
      actor.attackEvent .strike attack (actor.name ++ " strikes " ++ name ++ ": " ++ rolledText attack)
    if scene.encounter.isDeadAt target then
      return (firstEvents ++
        [actor.event .strike (actor.name ++ " follows up but " ++ name ++ " is already dead.")], scene)
    else
      let (second, scene) ← scene.swing actor.index target secondSwingPenalty
      return (firstEvents ++ second.toList.map fun attack =>
        actor.attackEvent .strike attack
          (actor.name ++ " strikes " ++ name ++ " again (MAP): " ++ rolledText attack), scene)

/-! ### Firearms -/

def performReload (scene : Scene) (actor : Actor) (action : Action) : List RoundEvent × Scene :=
  let reloaded := do
    let self ← scene.encounter.combatants[actor.index]?
    let held ← self.loadout.mainHand
    let _ ← held.magazine
    return held.weapon.name
  let narrative := match reloaded with
    | some weapon => actor.name ++ " reloads " ++ weapon ++ "."
    | none => actor.name ++ " reloads."
  let full := scene.encounter.changeAt actor.index fun self =>
    { self with loadout := self.loadout.reload }
  let (_, asked) := full.consult Hooks.onReload [.text actor.id, .text (action.weapon.getD "")]
  ([actor.event .reload narrative], { scene with encounter := asked })

/-- The roll of a shot; without a firearm it is a blow. -/
def shotOrBlow (dice : Dice.Evaluator) (attacker defender : Combatant) :
    Option Weapon → Draws Attack
  | some weapon => shotRoll dice attacker defender weapon 0
  | none => meleeRoll attacker defender

/-- One shot at the combatant at a position. -/
def shoot (scene : Scene) (actor target : Nat) (weapon : Option Weapon) : Draws (Option Hit) :=
  match scene.encounter.combatants[actor]?, scene.encounter.combatants[target]? with
  | some attacker, some defender => do
    let rolled ← shotOrBlow scene.encounter.dice attacker defender weapon
    let hit := scene.land attacker defender target rolled
    let after := hit.scene.within (·.beginDying target)
    -- The round is used up at the end, and an empty magazine stops no shot.
    return some { hit with
      scene := if weapon.isSome then
          after.within (·.changeAt actor fun self => { self with loadout := self.loadout.fire })
        else after }
  | _, _ => return none

def shotText (actor target : String) (outcome : Outcome) (damage : Score) : String :=
  match outcome with
  | .criticalSuccess =>
    actor ++ " scores a CRITICAL HIT on " ++ target ++ " for " ++ toString damage ++ " damage!"
  | .success => actor ++ " hits " ++ target ++ " for " ++ toString damage ++ " damage."
  | .failure => actor ++ " misses " ++ target ++ "."
  | .criticalFailure => actor ++ " critically fails against " ++ target ++ "."

def shotEvent (actor : Actor) (kind : ActionKind) (target : String) (hit : Hit) : RoundEvent :=
  actor.attackEvent kind hit.attack (shotText actor.name target hit.attack.outcome hit.damage)

/-- Up to a number of shots at one target, which end with its death. -/
def shootOn (actor : Actor) (target : Nat) (name : String) (weapon : Option Weapon) :
    Nat → Scene → Draws (List RoundEvent × Scene)
  | 0, scene => return ([], scene)
  | shots + 1, scene => do
    match ← scene.shoot actor.index target weapon with
    | none => return ([], scene)
    | some hit =>
      let event := shotEvent actor .burst name hit
      if hit.scene.encounter.isDeadAt target then return ([event], hit.scene)
      else
        let (events, scene) ← shootOn actor target name weapon shots hit.scene
        return (event :: events, scene)

def performBurst (scene : Scene) (actor : Actor) (action : Action) :
    Draws (List RoundEvent × Scene) :=
  match action.target.bind scene.encounter.livingCalled with
  | none =>
    return ([actor.event .burst (actor.name ++ " fires burst but target not found.")], scene)
  | some target =>
    shootOn actor target (scene.encounter.nameAt target)
      (scene.encounter.firearm? actor.index action.weapon) burstShots scene

/-- One shot at each of the targets. -/
def shootEach (actor : Actor) (weapon : Option Weapon) :
    List Nat → Scene → Draws (List RoundEvent × Scene)
  | [], scene => return ([], scene)
  | target :: rest, scene => do
    let name := scene.encounter.nameAt target
    match ← scene.shoot actor.index target weapon with
    | none => shootEach actor weapon rest scene
    | some hit =>
      let (events, scene) ← shootEach actor weapon rest hit.scene
      return (shotEvent actor .automatic name hit :: events, scene)

def performAutomatic (scene : Scene) (actor : Actor) (action : Action) :
    Draws (List RoundEvent × Scene) :=
  let targets := scene.encounter.opponents actor.index
  if targets.isEmpty then
    return ([actor.event .automatic (actor.name ++ " lays down suppressive fire.")], scene)
  else
    shootEach actor (scene.encounter.firearm? actor.index action.weapon)
      (targets.take automaticTargets) scene

/-! ### Explosives -/

/-- Hurt each target by its part of a blast. -/
def blastEach (actor : Actor) (explosive : Explosive) :
    List (Nat × Blast) → Scene → List RoundEvent × Scene
  | [], scene => ([], scene)
  | (target, blast) :: rest, scene =>
    let event := actor.event .throw
      (actor.name ++ " throws " ++ explosive.name ++ " at " ++ scene.encounter.nameAt target
        ++ " for " ++ toString blast.damage ++ " damage (save " ++ toString blast.saveTotal
        ++ " vs DC " ++ toString explosive.saveDifficulty ++ ").")
    let hurt := (scene.hurt target blast.damage).within (·.beginDying target)
    let (events, scene) := blastEach actor explosive rest hurt
    (event :: events, scene)

def performThrow (scene : Scene) (actor : Actor) (action : Action) :
    Draws (List RoundEvent × Scene) :=
  match scene.encounter.inventory with
  | none => return ([actor.event .throw (actor.name ++ " fumbles the throw.")], scene)
  | some inventory =>
    match action.explosive.bind inventory.explosives.get? with
    | none =>
      return ([actor.event .throw (actor.name ++ " reaches for an explosive but finds nothing.")],
        scene)
    | some explosive => do
      let (_, asked) :=
        scene.encounter.consult Hooks.onExplosiveThrow [.text actor.id, .text explosive.id]
      -- All saves are rolled before anybody is hurt.
      let targets := asked.opponents actor.index
      let blasts ← blastRoll asked.dice explosive (targets.filterMap (asked.combatants[·]?))
      let (events, scene) :=
        blastEach actor explosive (targets.zip blasts) { scene with encounter := asked }
      if events.isEmpty then
        return ([actor.event .throw
          (actor.name ++ " throws " ++ explosive.name ++ " but no targets are in range.")], scene)
      else return (events, scene)

/-! ### Turns -/

/-- Perform one action; the events are its block. -/
def perform (scene : Scene) (actor : Actor) (action : Action) : Draws (List RoundEvent × Scene) :=
  match action.kind with
  | .unknown => return ([], scene)
  | .pass => return ([actor.event .pass (actor.name ++ " passes.")], scene)
  | .attack => scene.performAttack actor action
  | .strike => scene.performStrike actor action
  | .reload => return scene.performReload actor action
  | .burst => scene.performBurst actor action
  | .automatic => scene.performAutomatic actor action
  | .throw => scene.performThrow actor action

def performAll (actor : Actor) : List Action → Scene → Draws (List Block × Scene)
  | [], scene => return ([], scene)
  | action :: rest, scene => do
    let (events, scene) ← scene.perform actor action
    let (blocks, scene) ← performAll actor rest scene
    return (⟨actor.id, action, events⟩ :: blocks, scene)

/-- The turn of the combatant at a position; there is none at a position without one. -/
def takeTurn (index : Nat) (scene : Scene) : Draws (List Turn × Scene) :=
  match scene.encounter.combatants[index]? with
  | none => return ([], scene)
  | some combatant =>
    if combatant.isDead then return ([⟨combatant, []⟩], scene)
    else
      match scene.encounter.queues.get? combatant.id with
      | none => return ([⟨combatant, []⟩], scene)
      | some queue => do
        let (blocks, scene) ←
          performAll ⟨index, combatant.id, combatant.name⟩ queue.actions scene
        return ([⟨combatant, blocks⟩], scene)

def takeTurns : List Nat → Scene → Draws (List Turn × Scene)
  | [], scene => return ([], scene)
  | index :: rest, scene => do
    let (first, scene) ← takeTurn index scene
    let (others, scene) ← takeTurns rest scene
    return (first ++ others, scene)

end Scene

/-! ### Rounds -/

/-- A resolved round. -/
structure Resolution where
  /-- One turn for every combatant, in initiative order. -/
  turns : List Turn
  /-- Who was hurt, and the hit points left, in order. -/
  damage : List (String × Count)
  encounter : Encounter

def Resolution.blocks (resolution : Resolution) : List Block :=
  resolution.turns.flatMap Turn.blocks

def Resolution.events (resolution : Resolution) : List RoundEvent :=
  resolution.blocks.flatMap Block.events

/-- Perform every committed action. The queues stay until the next round is opened. -/
def Encounter.resolve (encounter : Encounter) : Draws Resolution := do
  let (turns, scene) ←
    Scene.takeTurns (List.range encounter.combatants.length) ⟨encounter, []⟩
  return ⟨turns, scene.damage, scene.encounter⟩

end Fray
