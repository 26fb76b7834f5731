import Fray.Arsenal.Inventory
import Fray.Condition
import Fray.Files
import Fray.Records
import Fray.Yaml.Reader

/-!
# Content

Folders of definitions, one definition in each YAML file. All files of a folder
are read before any of its definitions is entered. Conditions may replace each
other, the later file the earlier one; weapons and explosives have to be valid
and their names unique.
-/
namespace Fray.Content

/-- Why content cannot be loaded. -/
inductive Fault where
  | unreadable (path : String)
  | malformed (path : String)
  | refused (fault : Arsenal.Fault)
deriving DecidableEq

/-- The extension of a file with a definition. -/
def extension : String := "yaml"

/-! ### Reading a folder -/

variable {α : Type}

def loadFile (files : Files) (read : String → Option α) (path : String) : Except Fault α :=
  match files.text? path with
  | none => .error (.unreadable path)
  | some text =>
    match read text with
    | none => .error (.malformed path)
    | some value => .ok value

/-- The definitions of a folder in the order of their file names. -/
def loadFolder (files : Files) (read : String → Option α) (folder : String) :
    Except Fault (List α) :=
  match files.items? folder with
  | none => .error (.unreadable folder)
  | some items =>
    (Files.sortedNames extension items).mapM fun name =>
      loadFile files read (Files.join folder name)

/-- How the text of a definition is read, for each kind of definitions. -/
structure Reading where
  condition : String → Option Condition
  weapon : String → Option Weapon
  explosive : String → Option Explosive

/-! ### Conditions -/

def readConditions (reading : Reading) (files : Files) (folder : String) : Except Fault Codex :=
  (loadFolder files reading.condition folder).map (Codex.registerAll Table.empty)

/-- The built-in conditions, replaced and extended by those of a folder. -/
def readCodex (reading : Reading) (files : Files) (folder : Option String) :
    Except Fault Codex :=
  match folder with
  | none => .ok .core
  | some folder =>
    (readConditions reading files folder).map fun loaded => Codex.registerAll .core loaded.values

/-! ### Weapons and explosives -/

def addWeapon (inventory : Inventory) (weapon : Weapon) : Except Fault Inventory :=
  match weapon.validate with
  | .error fault => .error (.refused fault)
  | .ok _ => (inventory.registerWeapon weapon).mapError .refused

def addExplosive (inventory : Inventory) (explosive : Explosive) : Except Fault Inventory :=
  match explosive.validate with
  | .error fault => .error (.refused fault)
  | .ok _ => (inventory.registerExplosive explosive).mapError .refused

/-- The definitions of a folder that may not be given. -/
def loadGiven (files : Files) (read : String → Option α) (folder : Option String) :
    Except Fault (List α) :=
  match folder with
  | none => .ok []
  | some folder => loadFolder files read folder

/-- Weapons, and then explosives, each from its folder. -/
def readInventory (reading : Reading) (files : Files) (weapons explosives : Option String) :
    Except Fault Inventory := do
  let weapons ← loadGiven files reading.weapon weapons
  let armed ← weapons.foldlM addWeapon .empty
  let explosives ← loadGiven files reading.explosive explosives
  explosives.foldlM addExplosive armed

/-! ### YAML texts -/

/-- The definition in a YAML text. -/
def definition? (read : Yaml.Node → Option α) (text : String) : Option α :=
  (Yaml.Node.read? text).bind read

def Reading.yaml : Reading where
  condition := definition? Condition.read?
  weapon := definition? Weapon.read?
  explosive := definition? Explosive.read?

def loadConditions : Files → String → Except Fault Codex := readConditions .yaml

def loadCodex : Files → Option String → Except Fault Codex := readCodex .yaml

def loadInventory : Files → Option String → Option String → Except Fault Inventory :=
  readInventory .yaml

end Fray.Content
