import Fray.Records
import Fray.Settings

/-!
# Views

The state of an encounter and of what takes part in it as JSON, for those who
watch it.
-/
namespace Fray

/-! ### Combatants -/

namespace Magazine

def toJson (magazine : Magazine) : Json :=
  .object [
    ("weapon", .text magazine.weapon),
    ("loaded", .ofCount magazine.loaded),
    ("capacity", .ofCount magazine.capacity),
    ("empty", .flag magazine.isEmpty)]

end Magazine

namespace Combatant

/-- What changes about a combatant; the ammunition is shown if there is a magazine. -/
def toJson (combatant : Combatant) : Json :=
  let ammunition := combatant.loadout.magazine?.map fun magazine =>
    ("ammo", Json.ofCount magazine.loaded)
  .object ([
    ("id", .text combatant.id),
    ("hp", .ofCount combatant.hp),
    ("init", .ofScore combatant.initiative),
    ("dead", .flag combatant.dead),
    ("is_dead", .flag combatant.isDead)] ++ ammunition.toList)

end Combatant

namespace Inventory

def toJson (inventory : Inventory) : Json :=
  .object [
    ("weapons", .array (inventory.weapons.values.map Weapon.toJson)),
    ("explosives", .array (inventory.explosives.values.map Explosive.toJson))]

end Inventory

namespace Codex

/-- Every condition in the order of the names. -/
def toJson (codex : Codex) : Json := .array (codex.values.map Condition.toJson)

end Codex

namespace Afflictions

/-- Every condition of the set in the order of the names. -/
def toJson (set : Afflictions) : Json :=
  .array (set.entries.map fun entry => .object [
    ("id", .text entry.1),
    ("stacks", .ofCount entry.2.stack),
    ("duration", .ofOption .ofCount entry.2.left)])

end Afflictions

/-! ### Dice and blasts -/

namespace Dice

def Expr.toJson (expr : Expr) : Json :=
  .object [
    ("raw", .text expr.raw),
    ("count", .ofCount expr.count),
    ("sides", .ofCount expr.sides),
    ("modifier", .ofScore expr.modifier),
    ("keep_highest", .ofOption .ofCount expr.keep)]

def Roll.toJson (roll : Roll) : Json :=
  .object [
    ("expression", .text roll.expression),
    ("dice", .array (roll.dice.map Json.ofScore)),
    ("modifier", .ofScore roll.modifier),
    ("total", .ofScore roll.total),
    ("display", .text roll.describe)]

end Dice

def Blast.toJson (blast : Blast) : Json :=
  .object [
    ("target", .text blast.target),
    ("save_total", .ofScore blast.saveTotal),
    ("save", .ofTag blast.save),
    ("damage", .ofScore blast.damage)]

/-! ### Actions -/

namespace Action

/-- An action with those of its aims that it has. -/
def toJson (action : Action) : Json :=
  let aims := [("target", action.target), ("weapon", action.weapon),
    ("explosive", action.explosive)]
  .object (("kind", .ofTag action.kind) :: aims.filterMap fun aim =>
    aim.2.map fun value => (aim.1, Json.text value))

end Action

namespace Queue

/-- A queue with its actions written in a given way. -/
def toJsonWith (actions : List Action → Json) (queue : Queue) : Json :=
  .object [
    ("max", .ofCount queue.points),
    ("left", .ofCount queue.left),
    ("has_points", .flag queue.hasPoints),
    ("submitted", .flag queue.isSubmitted),
    ("actions", actions queue.actions)]

def actionsJson (actions : List Action) : Json := .array (actions.map Action.toJson)

def toJson (queue : Queue) : Json := queue.toJsonWith actionsJson

end Queue

/-! ### Hooks -/

namespace HookValue

/-- The number with a name, for one that no JSON number stands for. -/
def named? : String → Option HookValue
  | "nan" => some (number (0.0 / 0.0))
  | "inf" => some (number (1.0 / 0.0))
  | "-inf" => some (number (-1.0 / 0.0))
  | _ => none

/-- A JSON value that is no value of a hook stands for none. -/
def ofJson : Json → HookValue
  | .flag value => flag value
  | .integer value => number (Float.ofInt value)
  | .real value => number value
  | .text value => text value
  | value => (((value.get? "num").bind Document.text?).bind named?).getD nil

/-- A whole number is written without a fraction if it is not too large. -/
def numberJson (value : Float) : Json :=
  if value.isNaN then .object [("num", .text "nan")]
  else if value.isInf then .object [("num", .text (if 0 < value then "inf" else "-inf"))]
  else if value.floor == value && value.abs < 1e15 then .integer value.toInt64.toInt
  else .real value

def toJson : HookValue → Json
  | nil => .null
  | flag value => .flag value
  | text value => .text value
  | number value => numberJson value

end HookValue

/-! ### Encounters -/

def Standing.name : Standing → String
  | ongoing => "ongoing"
  | victory => "victory"
  | defeat => "defeat"

namespace Encounter

/-- The state of an encounter, without the combatants that have no conditions or no queue. -/
def toJson (encounter : Encounter) : Json :=
  let afflicted := encounter.afflictions.entries.filter fun entry => !entry.2.isEmpty
  .object [
    ("round", .ofCount encounter.round),
    ("over", .flag encounter.isOver),
    ("outcome", .text encounter.standing.name),
    ("submitted", .flag encounter.allSubmitted),
    ("combatants", .array (encounter.combatants.map Combatant.toJson)),
    ("queues", .object (encounter.queues.entries.map fun entry => (entry.1, entry.2.toJson))),
    ("conditions", .object (afflicted.map fun entry => (entry.1, Afflictions.toJson entry.2)))]

end Encounter

def ConditionEvent.listJson (events : List ConditionEvent) : Json :=
  .array (events.map ConditionEvent.toJson)

def RoundEvent.listJson (events : List RoundEvent) : Json :=
  .array (events.map RoundEvent.toJson)

namespace Notice

/-- A notice as it is told to an observer, who knows rooms and not encounters. -/
def toJson : Notice → Json
  | roundStarted _ room round events =>
    .object [("on", .text "round_started"), ("room", .text room), ("round", .ofCount round),
      ("events", ConditionEvent.listJson events)]
  | roundResolved _ room round events =>
    .object [("on", .text "round_resolved"), ("room", .text room), ("round", .ofCount round),
      ("events", RoundEvent.listJson events)]
  | damaged _ room combatant hp =>
    .object [("on", .text "damage"), ("room", .text room), ("id", .text combatant),
      ("hp", .ofCount hp)]
  | ended _ room standing =>
    .object [("on", .text "ended"), ("room", .text room), ("outcome", .text standing.name)]

end Notice

/-! ### Settings -/

namespace Pace

def toJson (pace : Pace) : Json :=
  .object [
    ("actions_per_round", .ofCount pace.points),
    ("duration_ms", .integer pace.duration),
    ("max_rounds", .ofCount pace.maxRounds)]

end Pace

namespace ContentFolders

def toJson (folders : ContentFolders) : Json :=
  .object [
    ("conditions_dir", .ofOption .text folders.conditions),
    ("weapons_dir", .ofOption .text folders.weapons),
    ("explosives_dir", .ofOption .text folders.explosives)]

end ContentFolders

namespace RosterEntry

def toJson (entry : RosterEntry) : Json :=
  .object [
    ("id", .text entry.id),
    ("name", .text entry.name),
    ("allegiance", .ofTag entry.side),
    ("hp", .ofCount entry.hp),
    ("ac", .ofScore entry.armorClass),
    ("level", .ofCount entry.level),
    ("str_mod", .ofScore entry.strength),
    ("dex_mod", .ofScore entry.dexterity),
    ("weapon", .ofOption .text entry.weapon)]

end RosterEntry

namespace Settings

def toJson (settings : Settings) : Json :=
  .object [
    ("round", settings.pace.toJson),
    ("content", settings.content.toJson),
    ("logging", .object [
      ("level", .text settings.logging.level),
      ("format", .ofTag settings.logging.format)]),
    ("simulation", .object [
      ("seed", .ofOption (fun seed => .integer seed.toNat) settings.scenario.seed),
      ("zone", .ofOption .text settings.scenario.zone),
      ("room", .text settings.scenario.room),
      ("combatants", .array (settings.scenario.roster.map RosterEntry.toJson))])]

end Settings

end Fray
