import Fray.Proofs.Content.Folders
import Fray.Proofs.Tables
import Mathlib.Data.List.Nodup

/-!
# What content is loaded

Weapons and explosives are entered like each other: a definition is checked, and then its
name has to be new. Conditions are neither checked nor have to be new; the last one of a
name stays, and the built-in ones are there where no other takes their place.

The faults of an inventory are those of the weapon files, of entering the weapons, of the
explosive files and of entering the explosives, in this order, each part in the order of
the file names. The first of them is the one that is reported (`readInventory_eq`).

## Main result

`Content.content_loads`: what is loaded from folders, when loading fails and with which
fault, and that it is the same in whatever order the folders list their files.
-/

namespace Fray

namespace Content

/-! ### Values by name -/

section

variable {α : Type} (name : α → String)

/-- Some values by name; the last one of a name stays. -/
def byName (values : List α) : Table α := .ofList (values.map fun value => (name value, value))

theorem get?_byName (values : List α) (key : String) :
    (byName name values).get? key = values.reverse.find? (name · = key) := by
  rw [byName, Table.get?_ofList, ← List.map_reverse, List.find?_map, Option.map_map]
  simp [Function.comp_def]

theorem contains_byName (values : List α) (key : String) :
    (byName name values).contains key = true ↔ key ∈ values.map name := by
  rw [Table.contains, get?_byName, List.find?_isSome]
  simp [eq_comm]

theorem byName_concat (values : List α) (value : α) :
    byName name (values ++ [value]) = (byName name values).insert (name value) value := by
  simp [byName, Table.ofList]

/-- Where names are distinct, every value is under its name, and nothing else is. -/
theorem get?_byName_eq_some {values : List α} (distinct : (values.map name).Nodup)
    {key : String} {value : α} :
    (byName name values).get? key = some value ↔ value ∈ values ∧ name value = key := by
  rw [get?_byName]
  constructor
  · intro found
    exact ⟨List.mem_reverse.mp (List.mem_of_find?_eq_some found), by
      simpa using List.find?_some found⟩
  · rintro ⟨inside, rfl⟩
    obtain ⟨first, found⟩ := Option.isSome_iff_exists.mp
      (List.find?_isSome (p := fun other => decide (name other = name value)).mpr
        ⟨value, List.mem_reverse.mpr inside, by simp⟩)
    have same : name first = name value := by simpa using List.find?_some found
    have there := List.mem_reverse.mp (List.mem_of_find?_eq_some found)
    -- The last value of a name is the only one.
    rw [found, List.inj_on_of_nodup_map distinct there inside same]

/-- A table whose values are under their names is made of its values. -/
theorem byName_values {table : Table α}
    (named : ∀ key value, table.get? key = some value → name value = key) :
    byName name table.values = table := by
  have names : table.values.map name = table.keys := by
    rw [Table.values, Table.keys, List.map_map]
    exact List.map_congr_left fun entry inside =>
      named entry.1 entry.2 (Table.mem_entries.mp inside)
  have distinct : (table.values.map name).Nodup := names ▸ table.nodup_keys
  refine Table.ext_get? fun key => Option.ext fun value => ?_
  rw [get?_byName_eq_some name distinct]
  constructor
  · rintro ⟨inside, rfl⟩
    obtain ⟨⟨key, _⟩, listed, rfl⟩ := List.mem_map.mp inside
    have found := Table.mem_entries.mp listed
    rwa [named key _ found]
  · intro found
    exact ⟨List.mem_map.mpr ⟨(key, value), Table.mem_entries.mpr found, rfl⟩,
      named key value found⟩

end

/-! ### Entering definitions -/

/-- How definitions of a kind are entered. -/
structure Kind (α : Type) where
  name : α → String
  check : α → Except Arsenal.Fault Unit
  /-- The fault of a name that is there already. -/
  duplicate : String → Arsenal.Fault

namespace Kind

def weapon : Kind Weapon := ⟨Weapon.id, Weapon.validate, .duplicateWeapon⟩

def explosive : Kind Explosive := ⟨Explosive.id, Explosive.validate, .duplicateExplosive⟩

variable {α : Type} (kind : Kind α)

/-- Enter a definition if it passes its checks and its name is new. -/
def enter (table : Table α) (value : α) : Except Fault (Table α) :=
  match kind.check value with
  | .error fault => .error (.refused fault)
  | .ok _ =>
    if table.contains (kind.name value) then .error (.refused (kind.duplicate (kind.name value)))
    else .ok (table.insert (kind.name value) value)

/-- What is wrong with a definition that comes behind others: its checks, and then its name. -/
def faults (earlier : List α) (value : α) : List Fault :=
  ((faultOf? (kind.check value)).toList
    ++ if kind.name value ∈ earlier.map kind.name then [kind.duplicate (kind.name value)]
      else []).map .refused

/-- All that is wrong with some definitions that come behind others. -/
def allFaults (earlier : List α) : List α → List Fault
  | [] => []
  | value :: rest => kind.faults earlier value ++ allFaults (earlier ++ [value]) rest

/-- The next definition is entered unless something is wrong with it. -/
theorem enter_eq (earlier : List α) (value : α) :
    kind.enter (byName kind.name earlier) value
      = orFirst (kind.faults earlier value) (byName kind.name (earlier ++ [value])) := by
  have known := contains_byName kind.name earlier (kind.name value)
  unfold enter faults
  cases kind.check value with
  | error fault => rfl
  | ok passed =>
    by_cases there : kind.name value ∈ earlier.map kind.name
    · simp only [known.mpr there, there, if_true]
      rfl
    · simp only [mt known.mp there, there, if_false, byName_concat]
      rfl

/-- Definitions are entered one after another, up to the first that is wrong. -/
theorem foldlM_enter (earlier values : List α) :
    values.foldlM kind.enter (byName kind.name earlier)
      = orFirst (kind.allFaults earlier values) (byName kind.name (earlier ++ values)) := by
  induction values generalizing earlier with
  | nil => rw [List.append_nil]; rfl
  | cons value rest ih =>
    -- What follows is only entered if this one is, and then it is one of the earlier ones.
    have next := ih (earlier ++ [value])
    rw [← List.append_cons] at next
    rw [List.foldlM_cons, enter_eq]
    exact orFirst_bind _ _ _ _ _ next

theorem faults_eq_nil {earlier : List α} {value : α} :
    kind.faults earlier value = [] ↔
      kind.check value = .ok () ∧ kind.name value ∉ earlier.map kind.name := by
  have faultless : faultOf? (kind.check value) = none ↔ kind.check value = .ok () := by
    cases kind.check value <;> simp [faultOf?]
  rw [faults, List.map_eq_nil_iff, List.append_eq_nil_iff, Option.toList_eq_nil_iff, faultless]
  simp

theorem allFaults_eq_nil {earlier values : List α} :
    kind.allFaults earlier values = [] ↔
      (∀ value ∈ values, kind.check value = .ok () ∧ kind.name value ∉ earlier.map kind.name) ∧
        (values.map kind.name).Nodup := by
  induction values generalizing earlier with
  | nil => simp [allFaults]
  | cons value rest ih =>
    have names (key : String) : key ∈ (earlier ++ [value]).map kind.name ↔
        key ∈ earlier.map kind.name ∨ key = kind.name value := by simp
    rw [allFaults, List.append_eq_nil_iff, faults_eq_nil, ih, List.map_cons, List.nodup_cons,
      List.forall_mem_cons]
    simp only [names, not_or, List.mem_map (b := kind.name value), not_exists, not_and]
    constructor
    · rintro ⟨first, others, distinct⟩
      refine ⟨⟨first, fun later inside => ⟨(others later inside).1, (others later inside).2.1⟩⟩,
        ?_, distinct⟩
      exact fun later inside => (others later inside).2.2
    · rintro ⟨⟨first, others⟩, fresh, distinct⟩
      exact ⟨first, fun later inside =>
        ⟨(others later inside).1, (others later inside).2, fresh later inside⟩, distinct⟩

/-- Each definition passes its checks, and no two have the same name. -/
def Enterable (values : List α) : Prop :=
  (∀ value ∈ values, kind.check value = .ok ()) ∧ (values.map kind.name).Nodup

theorem enterable_iff {values : List α} :
    kind.allFaults [] values = [] ↔ kind.Enterable values := by
  simp [allFaults_eq_nil, Enterable]

end Kind

/-! ### Inventories -/

theorem addWeapon_eq (weapons : Table Weapon) (weapon : Weapon) :
    addWeapon ⟨weapons, .empty⟩ weapon = (Kind.weapon.enter weapons weapon).map (⟨·, .empty⟩) := by
  unfold addWeapon Kind.enter
  simp only [Kind.weapon, Inventory.registerWeapon]
  cases weapon.validate with
  | error fault => rfl
  | ok passed =>
    by_cases there : weapons.contains weapon.id = true
    · simp only [there, if_true]
      rfl
    · simp only [there, Bool.false_eq_true, if_false]
      rfl

theorem addExplosive_eq (weapons : Table Weapon) (explosives : Table Explosive)
    (explosive : Explosive) :
    addExplosive ⟨weapons, explosives⟩ explosive
      = (Kind.explosive.enter explosives explosive).map (⟨weapons, ·⟩) := by
  unfold addExplosive Kind.enter
  simp only [Kind.explosive, Inventory.registerExplosive]
  cases explosive.validate with
  | error fault => rfl
  | ok passed =>
    by_cases there : explosives.contains explosive.id = true
    · simp only [there, if_true]
      rfl
    · simp only [there, Bool.false_eq_true, if_false]
      rfl

/-- Entering into one table of an inventory goes like entering into the table. -/
theorem Kind.foldlM_add {α : Type} (kind : Kind α) (around : Table α → Inventory)
    (add : Inventory → α → Except Fault Inventory)
    (enters : ∀ table value, add (around table) value = (kind.enter table value).map around)
    (values : List α) :
    values.foldlM add (around .empty)
      = orFirst (kind.allFaults [] values) (around (byName kind.name values)) := by
  have lifted (table : Table α) :
      values.foldlM add (around table) = (values.foldlM kind.enter table).map around := by
    induction values generalizing table with
    | nil => rfl
    | cons value rest ih =>
      rw [List.foldlM_cons, List.foldlM_cons, enters]
      cases kind.enter table value with
      | error fault => rfl
      | ok entered => exact ih entered
  have entered := kind.foldlM_enter [] values
  rw [List.nil_append] at entered
  rw [lifted, show (Table.empty : Table α) = byName kind.name [] from rfl, entered]
  cases kind.allFaults [] values <;> rfl

variable (reading : Reading) (files : Files) (conditions weapons explosives : Option String)

/-- All that is wrong with the weapons and the explosives in folders. -/
def inventoryFaults : List Fault :=
  folderFaults files reading.weapon weapons
    ++ (Kind.weapon.allFaults [] (folderValues files reading.weapon weapons)
    ++ (folderFaults files reading.explosive explosives
    ++ Kind.explosive.allFaults [] (folderValues files reading.explosive explosives)))

/-- What is loaded if nothing is wrong. -/
def inventoryOf : Inventory where
  weapons := byName Weapon.id (folderValues files reading.weapon weapons)
  explosives := byName Explosive.id (folderValues files reading.explosive explosives)

/-- An inventory is loaded, or the first fault is reported. -/
theorem readInventory_eq :
    readInventory reading files weapons explosives
      = orFirst (inventoryFaults reading files weapons explosives)
        (inventoryOf reading files weapons explosives) := by
  have exploding (armed : Table Weapon) := Kind.explosive.foldlM_add (⟨armed, ·⟩) addExplosive
    (addExplosive_eq armed) (folderValues files reading.explosive explosives)
  have arming := Kind.weapon.foldlM_add (⟨·, .empty⟩) addWeapon addWeapon_eq
    (folderValues files reading.weapon weapons)
  unfold readInventory
  rw [loadGiven_eq]
  refine orFirst_bind _ _ _ _ _ ?_
  rw [show Inventory.empty = ⟨.empty, .empty⟩ from rfl, arming]
  refine orFirst_bind _ _ _ _ _ ?_
  rw [loadGiven_eq]
  exact orFirst_bind _ _ _ _ _ (exploding _)

theorem inventoryFaults_eq_nil :
    inventoryFaults reading files weapons explosives = [] ↔
      (Legible files reading.weapon weapons ∧
        Kind.weapon.Enterable (folderValues files reading.weapon weapons)) ∧
      (Legible files reading.explosive explosives ∧
        Kind.explosive.Enterable (folderValues files reading.explosive explosives)) := by
  simp only [inventoryFaults, List.append_eq_nil_iff, folderFaults_eq_nil, Kind.enterable_iff,
    and_assoc]

/-! ### Conditions -/

theorem get?_registerAll (codex : Codex) (values : List Condition) (id : String) :
    (Codex.registerAll codex values).get? id
      = (values.reverse.find? (·.id = id)).or (codex.get? id) := by
  induction values generalizing codex with
  | nil => rfl
  | cons first rest ih =>
    have next := ih (codex.register first)
    rw [Codex.register, Table.get?_insert] at next
    refine next.trans ?_
    rw [List.reverse_cons, List.find?_append, Option.or_assoc]
    congr 1
    by_cases same : id = first.id
    · simp [same]
    · simp [same, Ne.symm same]

/-- Conditions are put over the built-in ones as they were read, the last of a name on top. -/
theorem readCodex_eq :
    readCodex reading files conditions
      = orFirst (folderFaults files reading.condition conditions)
        (Codex.registerAll .core
          (byName Condition.id (folderValues files reading.condition conditions)).values) := by
  cases conditions with
  | none => rfl
  | some folder =>
    have loaded : loadFolder files reading.condition folder
        = orFirst (folderFaults files reading.condition (some folder))
          (folderValues files reading.condition (some folder)) :=
      loadGiven_eq files reading.condition (some folder)
    have registered (values : List Condition) :
        Codex.registerAll Table.empty values = byName Condition.id values := by
      refine Table.ext_get? fun id => ?_
      rw [get?_registerAll, get?_byName, Table.get?_empty, Option.or_none]
    rw [← registered]
    simp only [readCodex, readConditions, loaded]
    cases folderFaults files reading.condition (some folder) <;> rfl

theorem get?_overlaid (values : List Condition) (id : String) :
    (Codex.registerAll .core (byName Condition.id values).values).get? id
      = (values.reverse.find? (·.id = id)).or (Codex.core.get? id) := by
  have named (key : String) (value : Condition)
      (found : (byName Condition.id values).get? key = some value) : value.id = key := by
    rw [get?_byName] at found
    simpa using List.find?_some found
  rw [get?_registerAll, ← get?_byName, byName_values Condition.id named, get?_byName]

/-! ### What is loaded -/

/-- What loading from folders comes to. -/
structure Loads : Prop where
  /-- Files are taken by name. Strings are ordered by their characters, which is the order of
  their bytes in UTF-8. -/
  ordered (items : List FolderItem) :
    (Files.sortedNames extension items).Pairwise (· ≤ ·)
  /-- However the folders list their files, the same is loaded. -/
  codex_relisted (other : Files) (relisted : files.Relisted other) :
    readCodex reading other conditions = readCodex reading files conditions
  inventory_relisted (other : Files) (relisted : files.Relisted other) :
    readInventory reading other weapons explosives
      = readInventory reading files weapons explosives
  /-- Weapons and explosives are loaded if every file of theirs can be read, every definition
  passes its checks, and no two of a kind have the same name. -/
  inventory_loads :
    (∃ inventory, readInventory reading files weapons explosives = .ok inventory) ↔
      (Legible files reading.weapon weapons ∧
        Kind.weapon.Enterable (folderValues files reading.weapon weapons)) ∧
      (Legible files reading.explosive explosives ∧
        Kind.explosive.Enterable (folderValues files reading.explosive explosives))
  /-- Each definition is then there under its name, and nothing else is. -/
  inventory_holds (inventory : Inventory)
    (loaded : readInventory reading files weapons explosives = .ok inventory) :
    (∀ id weapon, inventory.weapons.get? id = some weapon ↔
      Defines files reading.weapon weapons weapon ∧ weapon.id = id) ∧
    (∀ id explosive, inventory.explosives.get? id = some explosive ↔
      Defines files reading.explosive explosives explosive ∧ explosive.id = id)
  /-- Otherwise the first fault is reported. -/
  inventory_fails (fault : Fault) :
    readInventory reading files weapons explosives = .error fault ↔
      (inventoryFaults reading files weapons explosives).head? = some fault
  /-- Conditions are loaded if every file of theirs can be read. -/
  codex_loads :
    (∃ codex, readCodex reading files conditions = .ok codex) ↔
      Legible files reading.condition conditions
  /-- The last condition of a name is then there, or else the built-in one. -/
  codex_holds (codex : Codex) (loaded : readCodex reading files conditions = .ok codex)
    (id : String) :
    codex.get? id = ((folderValues files reading.condition conditions).reverse.find?
      (·.id = id)).or (Codex.core.get? id)
  codex_fails (fault : Fault) :
    readCodex reading files conditions = .error fault ↔
      (folderFaults files reading.condition conditions).head? = some fault

variable {reading files conditions weapons explosives} in
theorem readCodex_relisted {other : Files} (relisted : files.Relisted other) :
    readCodex reading other conditions = readCodex reading files conditions := by
  cases conditions with
  | none => rfl
  | some folder =>
    have same : loadFolder files reading.condition folder
        = loadFolder other reading.condition folder :=
      relisted.loadGiven reading.condition (some folder)
    simp only [readCodex, readConditions, same]

/-- For every way to read a text: what is loaded does not depend on the order in which folders
list their files, is all that they define, and fails with the fault of the first wrong step. -/
theorem content_loads : Loads reading files conditions weapons explosives where
  ordered := Files.sortedNames_ordered
  codex_relisted _ relisted := readCodex_relisted relisted
  inventory_relisted other relisted := by
    simp only [readInventory, relisted.loadGiven]
  inventory_loads := by
    simp only [readInventory_eq, orFirst_eq_ok, exists_and_left,
      exists_eq', and_true, inventoryFaults_eq_nil]
  inventory_holds inventory loaded := by
    obtain ⟨faultless, rfl⟩ := orFirst_eq_ok.mp ((readInventory_eq ..).symm.trans loaded)
    obtain ⟨⟨_, _, distinct⟩, _, _, apart⟩ := (inventoryFaults_eq_nil ..).mp faultless
    constructor
    · exact fun id weapon => (get?_byName_eq_some Weapon.id distinct).trans
        (and_congr_left' mem_folderValues)
    · exact fun id explosive => (get?_byName_eq_some Explosive.id apart).trans
        (and_congr_left' mem_folderValues)
  inventory_fails fault := by rw [readInventory_eq, orFirst_eq_error]
  codex_loads := by
    simp only [readCodex_eq, orFirst_eq_ok, exists_and_left, exists_eq', and_true,
      folderFaults_eq_nil]
  codex_holds codex loaded id := by
    obtain ⟨_, rfl⟩ := orFirst_eq_ok.mp ((readCodex_eq ..).symm.trans loaded)
    exact get?_overlaid ..
  codex_fails fault := by rw [readCodex_eq, orFirst_eq_error]

end Content

end Fray
