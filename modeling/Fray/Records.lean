import Fray.Arsenal.Explosive
import Fray.Arsenal.Weapon
import Fray.Condition
import Fray.Document.Json
import Fray.Event

/-!
# Written forms of definitions and events

Every definition can be read from any document format, and definitions and
events have a JSON form in which all fields are written. Definitions may leave
out the fields that have a default. A condition takes no other fields than its
own; everywhere else they are ignored.
-/
namespace Fray

open Document

variable {ν : Type} [Document ν]

/-! ### Conditions -/

namespace Condition

def fieldNames : List String :=
  ["id", "name", "description", "duration_type", "max_stacks", "attack_penalty", "ac_penalty",
    "speed_penalty", "restrict_actions"]

def read? (value : ν) : Option Condition := do
  let record ← Record.of? fieldNames true value
  return {
    id := ← record.required "id" text?
    name := ← record.required "name" text?
    description := ← record.defaulted "description" "" text?
    lasting := ← record.required "duration_type" tagged?
    maxStacks := ← record.defaulted "max_stacks" 0 count?
    attackPenalty := ← record.defaulted "attack_penalty" 0 score?
    acPenalty := ← record.defaulted "ac_penalty" 0 score?
    speedPenalty := ← record.defaulted "speed_penalty" 0 score?
    restricted := ← record.defaulted "restrict_actions" [] texts? }

def toJson (condition : Condition) : Json :=
  .object [
    ("id", .text condition.id),
    ("name", .text condition.name),
    ("description", .text condition.description),
    ("duration_type", .ofTag condition.lasting),
    ("max_stacks", .ofCount condition.maxStacks),
    ("attack_penalty", .ofScore condition.attackPenalty),
    ("ac_penalty", .ofScore condition.acPenalty),
    ("speed_penalty", .ofScore condition.speedPenalty),
    ("restrict_actions", .ofTexts condition.restricted)]

end Condition

/-! ### Weapons and explosives -/

namespace Weapon

def fieldNames : List String :=
  ["id", "name", "damage_dice", "damage_type", "range_increment", "reload_actions",
    "magazine_capacity", "firing_modes", "traits"]

def read? (value : ν) : Option Weapon := do
  let record ← Record.of? fieldNames false value
  return {
    id := ← record.required "id" text?
    name := ← record.required "name" text?
    damageDice := ← record.required "damage_dice" text?
    damageType := ← record.required "damage_type" text?
    rangeIncrement := ← record.defaulted "range_increment" 0 count?
    reloadActions := ← record.defaulted "reload_actions" 0 count?
    magazineCapacity := ← record.defaulted "magazine_capacity" 0 count?
    firingModes := ← record.defaulted "firing_modes" [] (listOf? tagged?)
    traits := ← record.defaulted "traits" [] texts? }

def toJson (weapon : Weapon) : Json :=
  .object [
    ("id", .text weapon.id),
    ("name", .text weapon.name),
    ("damage_dice", .text weapon.damageDice),
    ("damage_type", .text weapon.damageType),
    ("range_increment", .ofCount weapon.rangeIncrement),
    ("reload_actions", .ofCount weapon.reloadActions),
    ("magazine_capacity", .ofCount weapon.magazineCapacity),
    ("firing_modes", .array (weapon.firingModes.map Json.ofTag)),
    ("traits", .ofTexts weapon.traits)]

end Weapon

namespace Explosive

def fieldNames : List String :=
  ["id", "name", "damage_dice", "damage_type", "area_type", "save_type", "save_dc", "fuse",
    "traits"]

def read? (value : ν) : Option Explosive := do
  let record ← Record.of? fieldNames false value
  return {
    id := ← record.required "id" text?
    name := ← record.required "name" text?
    damageDice := ← record.required "damage_dice" text?
    damageType := ← record.required "damage_type" text?
    area := ← record.defaulted "area_type" .room tagged?
    saveType := ← record.required "save_type" text?
    saveDifficulty := ← record.required "save_dc" score?
    fuse := ← record.defaulted "fuse" .immediate tagged?
    traits := ← record.defaulted "traits" [] texts? }

def toJson (explosive : Explosive) : Json :=
  .object [
    ("id", .text explosive.id),
    ("name", .text explosive.name),
    ("damage_dice", .text explosive.damageDice),
    ("damage_type", .text explosive.damageType),
    ("area_type", .ofTag explosive.area),
    ("save_type", .text explosive.saveType),
    ("save_dc", .ofScore explosive.saveDifficulty),
    ("fuse", .ofTag explosive.fuse),
    ("traits", .ofTexts explosive.traits)]

end Explosive

/-! ### Events -/

namespace Attack

def fieldNames : List String :=
  ["attacker_id", "target_id", "attack_roll", "attack_total", "outcome", "base_damage",
    "damage_roll"]

def read? (value : ν) : Option Attack := do
  let record ← Record.of? fieldNames false value
  return {
    attacker := ← record.required "attacker_id" text?
    target := ← record.required "target_id" text?
    roll := ← record.required "attack_roll" score?
    total := ← record.required "attack_total" score?
    outcome := ← record.required "outcome" tagged?
    base := ← record.required "base_damage" score?
    dice := ← record.required "damage_roll" (listOf? score?) }

def toJson (attack : Attack) : Json :=
  .object [
    ("attacker_id", .text attack.attacker),
    ("target_id", .text attack.target),
    ("attack_roll", .ofScore attack.roll),
    ("attack_total", .ofScore attack.total),
    ("outcome", .ofTag attack.outcome),
    ("base_damage", .ofScore attack.base),
    ("damage_roll", .array (attack.dice.map Json.ofScore))]

end Attack

namespace RoundEvent

def fieldNames : List String := ["actor_id", "actor_name", "action", "attack", "narrative"]

def read? (value : ν) : Option RoundEvent := do
  let record ← Record.of? fieldNames false value
  return {
    actor := ← record.required "actor_id" text?
    actorName := ← record.required "actor_name" text?
    action := ← record.required "action" tagged?
    attack := ← record.optional "attack" Attack.read?
    narrative := ← record.required "narrative" text? }

def toJson (event : RoundEvent) : Json :=
  .object [
    ("actor_id", .text event.actor),
    ("actor_name", .text event.actorName),
    ("action", .ofTag event.action),
    ("attack", .ofOption Attack.toJson event.attack),
    ("narrative", .text event.narrative)]

end RoundEvent

namespace ConditionEvent

def fieldNames : List String :=
  ["combatant_id", "combatant_name", "condition_id", "condition_name", "stacks", "change"]

def read? (value : ν) : Option ConditionEvent := do
  let record ← Record.of? fieldNames false value
  return {
    combatant := ← record.required "combatant_id" text?
    combatantName := ← record.required "combatant_name" text?
    condition := ← record.required "condition_id" text?
    conditionName := ← record.required "condition_name" text?
    stack := ← record.required "stacks" count?
    change := ← record.required "change" tagged? }

def toJson (event : ConditionEvent) : Json :=
  .object [
    ("combatant_id", .text event.combatant),
    ("combatant_name", .text event.combatantName),
    ("condition_id", .text event.condition),
    ("condition_name", .text event.conditionName),
    ("stacks", .ofCount event.stack),
    ("change", .ofTag event.change)]

end ConditionEvent

end Fray
