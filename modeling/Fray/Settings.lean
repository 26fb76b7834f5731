import Fray.Content
import Fray.Warden

/-!
# Settings

The settings of a program that runs one encounter: the pace of its rounds, the
folders of its content, its log, and the encounter itself. They are read from a
YAML text in which every section and most fields may be left out. A root folder
given from outside takes the place of all content folders.
-/
namespace Fray

/-! ### Sections -/

/-- The pace of rounds, and after how many of them to stop; zero is no limit. -/
structure Pace where
  points : Count := 3
  duration : Nat := 6000
  maxRounds : Count := 0
deriving DecidableEq

def Pace.rounds (pace : Pace) : RoundSettings := ⟨pace.points, pace.duration⟩

/-- The folders of definitions. -/
structure ContentFolders where
  conditions : Option String := none
  weapons : Option String := none
  explosives : Option String := none
deriving DecidableEq

/-- The usual folders below a root. -/
def ContentFolders.under (root : String) : ContentFolders where
  conditions := some (Files.join root "conditions")
  weapons := some (Files.join root "weapons")
  explosives := some (Files.join root "explosives")

/-- How a log is written. -/
inductive LogFormat where
  | pretty
  | json
deriving DecidableEq

def LogFormat.name : LogFormat → String
  | pretty => "pretty"
  | json => "json"

instance : Tagged LogFormat := ⟨[.pretty, .json], LogFormat.name⟩

structure Logging where
  /-- Which records are written. -/
  level : String := "info"
  format : LogFormat := .pretty
deriving DecidableEq

/-- A combatant as it stands in the settings. -/
structure RosterEntry where
  id : String
  name : String
  side : Side
  hp : Count
  armorClass : Score
  level : Count := 1
  strength : Score := 0
  dexterity : Score := 0
  /-- The name of the weapon in its hand. -/
  weapon : Option String := none
deriving DecidableEq

/-- The combatants of an encounter that nobody has described. -/
def defaultRoster : List RosterEntry :=
  [{ id := "p1", name := "Aldric", side := .player, hp := 20, armorClass := 15,
     strength := 3, dexterity := 1 },
   { id := "p2", name := "Mira", side := .player, hp := 16, armorClass := 14,
     strength := 2, dexterity := 1 },
   { id := "g1", name := "Goblin Cutter", side := .npc, hp := 8, armorClass := 13,
     strength := 1, dexterity := 1 },
   { id := "g2", name := "Goblin Sneak", side := .npc, hp := 8, armorClass := 13,
     strength := 1, dexterity := 1 }]

/-- The encounter to run. -/
structure Scenario where
  /-- The seed of the dice; without one they differ from run to run. -/
  seed : Option UInt64 := none
  /-- The zone of hooks, if it is not named like the room. -/
  zone : Option String := none
  room : String := "arena"
  roster : List RosterEntry := defaultRoster
deriving DecidableEq

structure Settings where
  pace : Pace := {}
  content : ContentFolders := {}
  logging : Logging := {}
  scenario : Scenario := {}
deriving DecidableEq

/-! ### Faults -/

/-- Why an encounter cannot be run with some settings. -/
inductive Unusable where
  | noPoints
  | noDuration
  | fewCombatants (found : Nat)
  | duplicateCombatant (id : String)
  | unknownWeapon (combatant weapon : String)
deriving DecidableEq

def Unusable.reason : Unusable → String
  | noPoints => "round.actions_per_round must be at least 1"
  | noDuration => "round.duration_ms must be at least 1"
  | fewCombatants found =>
    "simulation.combatants needs at least 2 entries, found " ++ toString found
  | duplicateCombatant id => "duplicate combatant id " ++ id
  | unknownWeapon combatant weapon =>
    "combatant " ++ combatant ++ " wields unknown weapon " ++ weapon

def Unusable.message (cause : Unusable) : String := "invalid configuration: " ++ cause.reason

inductive SettingsFault where
  | unreadable
  | malformed
  | content (fault : Content.Fault)
  | unusable (cause : Unusable)
deriving DecidableEq

/-! ### Reading -/

open Document

section

variable {ν : Type} [Document ν]

/-- A number of 64 bits. -/
def word? (value : ν) : Option Nat := (unsigned? value).filter (· < Nat.pow 2 64)

def Pace.read? (value : ν) : Option Pace := do
  let record ← Record.of? ["actions_per_round", "duration_ms", "max_rounds"] false value
  let usual : Pace := {}
  return {
    points := ← record.defaulted "actions_per_round" usual.points count?
    duration := ← record.defaulted "duration_ms" usual.duration word?
    maxRounds := ← record.defaulted "max_rounds" usual.maxRounds count? }

def ContentFolders.read? (value : ν) : Option ContentFolders := do
  let record ← Record.of? ["conditions_dir", "weapons_dir", "explosives_dir"] false value
  return {
    conditions := ← record.optional "conditions_dir" text?
    weapons := ← record.optional "weapons_dir" text?
    explosives := ← record.optional "explosives_dir" text? }

def Logging.read? (value : ν) : Option Logging := do
  let record ← Record.of? ["level", "format"] false value
  let usual : Logging := {}
  return {
    level := ← record.defaulted "level" usual.level text?
    format := ← record.defaulted "format" usual.format tagged? }

def RosterEntry.read? (value : ν) : Option RosterEntry := do
  let record ← Record.of? ["id", "name", "allegiance", "hp", "ac", "level", "str_mod", "dex_mod",
    "weapon"] false value
  return {
    id := ← record.required "id" text?
    name := ← record.required "name" text?
    side := ← record.required "allegiance" tagged?
    hp := ← record.required "hp" count?
    armorClass := ← record.required "ac" score?
    level := ← record.defaulted "level" 1 count?
    strength := ← record.defaulted "str_mod" 0 score?
    dexterity := ← record.defaulted "dex_mod" 0 score?
    weapon := ← record.optional "weapon" text? }

def Scenario.read? (value : ν) : Option Scenario := do
  let record ← Record.of? ["seed", "zone", "room", "combatants"] false value
  let usual : Scenario := {}
  return {
    seed := (← record.optional "seed" word?).map UInt64.ofNat
    zone := ← record.optional "zone" text?
    room := ← record.defaulted "room" usual.room text?
    roster := ← record.defaulted "combatants" usual.roster (listOf? RosterEntry.read?) }

def Settings.read? (value : ν) : Option Settings := do
  let record ← Record.of? ["round", "content", "logging", "simulation"] false value
  return {
    pace := ← record.defaulted "round" {} Pace.read?
    content := ← record.defaulted "content" {} ContentFolders.read?
    logging := ← record.defaulted "logging" {} Logging.read?
    scenario := ← record.defaulted "simulation" {} Scenario.read? }

end

namespace Settings

/-- Put the usual folders below a root in place of the content folders. -/
def withRoot (settings : Settings) (root : Option String) : Settings :=
  match root with
  | none => settings
  | some root => { settings with content := .under root }

/-- The settings in a text. -/
def parse (root : Option String) (text : String) : Except SettingsFault Settings :=
  match (Yaml.Node.read? text).bind Settings.read? with
  | none => .error .malformed
  | some settings => .ok (settings.withRoot root)

def load (files : Files) (root : Option String) (path : String) :
    Except SettingsFault Settings :=
  match files.text? path with
  | none => .error .unreadable
  | some text => parse root text

/-! ### Use -/

/-- The first name that is given again. -/
def firstDuplicate (seen : List String) : List String → Option String
  | [] => none
  | name :: rest =>
    if seen.contains name then some name else firstDuplicate (name :: seen) rest

/-- Why an encounter cannot be run, if it cannot. -/
def unusable? (settings : Settings) : Option Unusable :=
  let roster := settings.scenario.roster
  if settings.pace.points = 0 then some .noPoints
  else if settings.pace.duration = 0 then some .noDuration
  else if roster.length < 2 then some (.fewCombatants roster.length)
  else (firstDuplicate [] (roster.map RosterEntry.id)).map .duplicateCombatant

def validate (settings : Settings) : Except SettingsFault Unit :=
  match settings.unusable? with
  | some cause => .error (.unusable cause)
  | none => .ok ()

def loadCodex (files : Files) (settings : Settings) : Except SettingsFault Codex :=
  (Content.loadCodex files settings.content.conditions).mapError .content

def loadInventory (files : Files) (settings : Settings) : Except SettingsFault Inventory :=
  (Content.loadInventory files settings.content.weapons settings.content.explosives).mapError
    .content

end Settings

namespace RosterEntry

/-- The combatant without its weapon. -/
def unarmed (entry : RosterEntry) : Combatant where
  id := entry.id
  name := entry.name
  side := entry.side
  maxHp := entry.hp
  hp := entry.hp
  armorClass := entry.armorClass
  level := entry.level
  strength := entry.strength
  dexterity := entry.dexterity

/-- The combatant with its weapon from an inventory in its hand. -/
def combatant (entry : RosterEntry) (inventory : Inventory) : Except SettingsFault Combatant :=
  match entry.weapon with
  | none => .ok entry.unarmed
  | some id =>
    match inventory.weapons.get? id with
    | none => .error (.unusable (.unknownWeapon entry.id id))
    | some weapon =>
      match Loadout.empty.equip weapon with
      | .error fault => .error (.content (.refused fault))
      | .ok loadout => .ok { entry.unarmed with loadout := loadout }

end RosterEntry

end Fray
