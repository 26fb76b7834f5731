import Fray.Proofs.Document.Fields
import Fray.Proofs.Text.Numerals
import Fray.Records

/-!
# Written forms

Definitions and events are written as JSON objects with all their fields, and read from any
object that has the fields that they need. What is said of one kind of record is said of all of
them: a `Form` is a kind with its declared fields and their defaults, and `Form.Survives` is what
its reader and its writer owe each other.

## Main results

`Form.Regular.survives`: it suffices that the reader reads back what is written and looks at
nothing but the declared fields. `records_survive`: so do all six kinds, and a told attack may
hold undeclared fields as well.
-/

namespace Fray

open Document

/-! ### Enumerations -/

/-- The written name of every member is its own. -/
class LawfulTagged (α : Type) [Tagged α] : Prop where
  ofTag?_tag : ∀ member : α, Tagged.ofTag? (Tagged.tag member) = some member

instance : LawfulTagged ActionKind := ⟨fun kind => by cases kind <;> rfl⟩
instance : LawfulTagged Outcome := ⟨fun outcome => by cases outcome <;> rfl⟩
instance : LawfulTagged Change := ⟨fun change => by cases change <;> rfl⟩
instance : LawfulTagged Lasting := ⟨fun lasting => by cases lasting <;> rfl⟩
instance : LawfulTagged FiringMode := ⟨fun mode => by cases mode <;> rfl⟩
instance : LawfulTagged Area := ⟨fun area => by cases area <;> rfl⟩
instance : LawfulTagged Fuse := ⟨fun fuse => by cases fuse <;> rfl⟩

/-! ### Values of fields -/

namespace Json

variable {α : Type}

@[simp] theorem row?_object (fields : List (String × Json)) : row? (object fields) = none := rfl

@[simp] theorem fields?_object (fields : List (String × Json)) :
    fields? (object fields) = some fields := rfl

@[simp] theorem text?_text (value : String) : text? (text value) = some value := rfl

@[simp] theorem count?_ofCount (count : Count) : count? (ofCount count) = some count := by
  show (if 0 ≤ (count.toNat : Int) then some (count.toNat : Int).toNat else none).bind _ = _
  simp [Count.ofInt?_eq_some]

@[simp] theorem score?_ofScore (score : Score) : score? (ofScore score) = some score :=
  Score.ofInt?_eq_some.mpr rfl

@[simp] theorem tagged?_ofTag [Tagged α] [LawfulTagged α] (member : α) :
    tagged? (ofTag member) = some member :=
  LawfulTagged.ofTag?_tag member

variable {read : Json → Option α} {write : α → Json}

@[simp] theorem listOf?_map (reads : ∀ value, read (write value) = some value)
    (values : List α) : listOf? read (array (values.map write)) = some values := by
  show (values.map write).mapM read = some values
  induction values with
  | nil => rfl
  | cons value rest ih => simp [reads, ih]

@[simp] theorem texts?_ofTexts (texts : List String) : texts? (ofTexts texts) = some texts :=
  listOf?_map text?_text texts

/-- A value that is there is read as one, unless it is written as if it were not. -/
theorem optional?_ofOption (reads : ∀ value, read (write value) = some value)
    (present : ∀ value, isAbsent (write value) = false) (value : Option α) :
    optional? read (ofOption write value) = some value := by
  cases value with
  | none => rfl
  | some value => simp [optional?, ofOption, reads, present]

/-- A value without the fields that are not declared. -/
def trim (names : List String) : Json → Json
  | object fields => object (fields.filter fun field => names.contains field.1)
  | value => value

end Json

/-! ### Records -/

namespace Record

/-- An object is a record of an open kind, and of a closed one if all its fields are declared. -/
theorem of?_object {names : List String} {closed : Bool} {fields : List (String × Json)}
    (admitted : closed = true → ∀ field ∈ fields, field.1 ∈ names) :
    Record.of? names closed (Json.object fields) = some ⟨names, fields, false⟩ := by
  simp only [Record.of?, Json.row?_object, Json.fields?_object]
  refine if_neg ?_
  cases closed with
  | false => simp
  | true => simpa using admitted rfl

/-- A closed kind has no object with an undeclared field. -/
theorem of?_unknown {names : List String} {fields : List (String × Json)} {field : String × Json}
    (member : field ∈ fields) (unknown : field.1 ∉ names) :
    Record.of? names true (Json.object fields) = none := by
  simp only [Record.of?, Json.row?_object, Json.fields?_object]
  refine if_pos ?_
  simpa using ⟨field.1, ⟨field.2, member⟩, unknown⟩

theorem of?_array {names : List String} {closed : Bool} {row : List Json}
    (short : row.length ≤ names.length) :
    Record.of? names closed (Json.array row) = some ⟨names, names.zip row, true⟩ :=
  if_pos short

end Record

/-! ### Forms -/

/-- A kind of record, as it is read and written. -/
structure Form (α : Type) where
  /-- Its declared fields, in the order of a row. -/
  names : List String
  /-- Whether it refuses other fields. -/
  closed : Bool
  /-- What may be left out: fields with the written forms of their default values. -/
  defaults : List (String × Json)
  read : Json → Option α
  write : α → Json

namespace Form

variable {α : Type}

/-- Nothing is lost between a record and its written form. -/
structure Survives (form : Form α) : Prop where
  /-- Every declared field is written, in its place. -/
  written : ∀ record, ∃ fields,
    form.write record = .object fields ∧ fields.map Prod.fst = form.names
  decodes : ∀ record, form.read (form.write record) = some record
  settles : ∀ value record, form.read value = some record →
    form.read (form.write record) = some record
  /-- A field of an object may be left out for its default. -/
  fills : ∀ before after, ∀ field ∈ form.defaults, field.1 ∉ (before ++ after).map Prod.fst →
    form.read (.object (before ++ field :: after)) = form.read (.object (before ++ after))
  /-- A row may end before a field with a default, but not before an optional one. -/
  fillsRow : ∀ row, ∀ field ∈ form.defaults, isAbsent field.2 = false →
    form.names[row.length]? = some field.1 →
    form.read (.array (row ++ [field.2])) = form.read (.array row)
  refuses : form.closed = true → ∀ fields, ∀ field ∈ fields, field.1 ∉ form.names →
    form.read (.object fields) = none
  ignores : form.closed = false → ∀ value, form.read (value.trim form.names) = form.read value

/-- A writer of all fields, with a reader that reads them and looks at the declared ones only. -/
structure Regular (form : Form α) : Prop where
  distinct : form.names.Nodup
  declared : ∀ field ∈ form.defaults, field.1 ∈ form.names
  written : ∀ record, ∃ fields,
    form.write record = .object fields ∧ fields.map Prod.fst = form.names
  decodes : ∀ record, form.read (form.write record) = some record
  reads : ∃ build : Record Json → Option α,
    (∀ value, form.read value = (Record.of? form.names form.closed value).bind build) ∧
    ∀ {one two}, Record.Matches form.names form.defaults one two → build one = build two

namespace Regular

variable {form : Form α}

theorem refused (regular : form.Regular) {value : Json}
    (unfit : Record.of? form.names form.closed value = none) : form.read value = none := by
  obtain ⟨build, reads, _⟩ := regular.reads
  rw [reads, unfit]
  rfl

/-- Values whose records agree are read alike. -/
theorem alike (regular : form.Regular) {full short : Json} {one two : Record Json}
    (first : Record.of? form.names form.closed full = some one)
    (second : Record.of? form.names form.closed short = some two)
    (same : Record.Matches form.names form.defaults one two) :
    form.read full = form.read short := by
  obtain ⟨build, reads, builds⟩ := regular.reads
  rw [reads, reads, first, second]
  exact builds same

theorem refuses (regular : form.Regular) (isClosed : form.closed = true)
    {fields : List (String × Json)} {field : String × Json} (member : field ∈ fields)
    (unknown : field.1 ∉ form.names) : form.read (.object fields) = none := by
  refine regular.refused ?_
  rw [isClosed]
  exact Record.of?_unknown member unknown

theorem fills (regular : form.Regular) {before after : List (String × Json)}
    {field : String × Json} (known : field ∈ form.defaults)
    (absent : field.1 ∉ (before ++ after).map Prod.fst) :
    form.read (.object (before ++ field :: after)) = form.read (.object (before ++ after)) := by
  have declared := regular.declared field known
  -- The field itself is declared, so that either both objects are refused or none is.
  by_cases admitted : form.closed = true → ∀ other ∈ before ++ after, other.1 ∈ form.names
  · have longer : form.closed = true → ∀ other ∈ before ++ field :: after,
        other.1 ∈ form.names := by
      intro isClosed
      obtain ⟨early, late⟩ := List.forall_mem_append.mp (admitted isClosed)
      exact List.forall_mem_append.mpr ⟨early, List.forall_mem_cons.mpr ⟨declared, late⟩⟩
    exact regular.alike (Record.of?_object longer) (Record.of?_object admitted)
      (Record.matches_middle form.names before after false known absent fun _ => rfl)
  · obtain ⟨isClosed, some⟩ := Classical.not_imp.mp admitted
    obtain ⟨other, strange⟩ := not_forall.mp some
    obtain ⟨member, unknown⟩ := Classical.not_imp.mp strange
    have inside : other ∈ before ++ field :: after :=
      ((List.sublist_cons_self field after).append_left before).mem member
    rw [regular.refuses isClosed member unknown, regular.refuses isClosed inside unknown]

theorem fillsRow (regular : form.Regular) {row : List Json} {field : String × Json}
    (known : field ∈ form.defaults) (present : isAbsent field.2 = false)
    (next : form.names[row.length]? = some field.1) :
    form.read (.array (row ++ [field.2])) = form.read (.array row) := by
  have inside : row.length < form.names.length := (List.getElem?_eq_some_iff.mp next).1
  have full : (row ++ [field.2]).length ≤ form.names.length := by
    rw [List.length_append]
    exact inside
  exact regular.alike (Record.of?_array full) (Record.of?_array (Nat.le_of_lt inside))
    (Record.matches_row regular.distinct known present next)

theorem ignores (regular : form.Regular) (isOpen : form.closed = false) (value : Json) :
    form.read (value.trim form.names) = form.read value := by
  have admitted (fields : List (String × Json)) :
      form.closed = true → ∀ field ∈ fields, field.1 ∈ form.names := by
    rw [isOpen]
    exact fun never => by cases never
  cases value with
  | object fields =>
    exact regular.alike (Record.of?_object (admitted _)) (Record.of?_object (admitted _))
      (Record.matches_declared form.names form.defaults fields false)
  | null | flag _ | integer _ | real _ | text _ | array _ => rfl

theorem survives (regular : form.Regular) : form.Survives where
  written := regular.written
  decodes := regular.decodes
  settles := fun _ record _ => regular.decodes record
  fills := fun _ _ _ known absent => regular.fills known absent
  fillsRow := fun _ _ known present next => regular.fillsRow known present next
  refuses := fun isClosed _ _ member unknown => regular.refuses isClosed member unknown
  ignores := fun isOpen value => regular.ignores isOpen value

end Regular

end Form

/-! ### The six kinds -/

namespace Condition

theorem read_toJson (condition : Condition) : read? condition.toJson = some condition := by
  simp [read?, toJson, Record.of?, Record.required, Record.defaulted, Record.find, fieldNames]

def form : Form Condition where
  names := fieldNames
  closed := true
  defaults := [
    ("description", .text ""), ("max_stacks", .integer 0), ("attack_penalty", .integer 0),
    ("ac_penalty", .integer 0), ("speed_penalty", .integer 0), ("restrict_actions", .array [])]
  read := read?
  write := toJson

theorem form_regular : form.Regular where
  distinct := by decide
  declared := by decide
  written := fun _ => ⟨_, rfl, rfl⟩
  decodes := read_toJson
  reads := ⟨_, fun _ => rfl, fun same => by
    simp (disch := decide) only [same.required, same.defaulted]⟩

end Condition

namespace Weapon

theorem read_toJson (weapon : Weapon) : read? weapon.toJson = some weapon := by
  simp [read?, toJson, Record.of?, Record.required, Record.defaulted, Record.find]

def form : Form Weapon where
  names := fieldNames
  closed := false
  defaults := [
    ("range_increment", .integer 0), ("reload_actions", .integer 0),
    ("magazine_capacity", .integer 0), ("firing_modes", .array []), ("traits", .array [])]
  read := read?
  write := toJson

theorem form_regular : form.Regular where
  distinct := by decide
  declared := by decide
  written := fun _ => ⟨_, rfl, rfl⟩
  decodes := read_toJson
  reads := ⟨_, fun _ => rfl, fun same => by
    simp (disch := decide) only [same.required, same.defaulted]⟩

end Weapon

namespace Explosive

theorem read_toJson (explosive : Explosive) : read? explosive.toJson = some explosive := by
  simp [read?, toJson, Record.of?, Record.required, Record.defaulted, Record.find]

/-- The default member of an enumeration can be written in two ways. -/
def form : Form Explosive where
  names := fieldNames
  closed := false
  defaults := [
    ("area_type", .text "room"), ("area_type", .object [("room", .null)]),
    ("fuse", .text "immediate"), ("fuse", .object [("immediate", .null)]), ("traits", .array [])]
  read := read?
  write := toJson

theorem form_regular : form.Regular where
  distinct := by decide
  declared := by decide
  written := fun _ => ⟨_, rfl, rfl⟩
  decodes := read_toJson
  reads := ⟨_, fun _ => rfl, fun same => by
    simp (disch := decide) only [same.required, same.defaulted]⟩

end Explosive

namespace Attack

theorem read_toJson (attack : Attack) : read? attack.toJson = some attack := by
  simp [read?, toJson, Record.of?, Record.required, Record.find]

def form : Form Attack where
  names := fieldNames
  closed := false
  defaults := []
  read := read?
  write := toJson

theorem form_regular : form.Regular where
  distinct := by decide
  declared := by decide
  written := fun _ => ⟨_, rfl, rfl⟩
  decodes := read_toJson
  reads := ⟨_, fun _ => rfl, fun same => by simp (disch := decide) only [same.required]⟩

end Attack

namespace RoundEvent

theorem read_toJson (event : RoundEvent) : read? event.toJson = some event := by
  have attack : optional? Attack.read? (Json.ofOption Attack.toJson event.attack)
      = some event.attack :=
    Json.optional?_ofOption Attack.read_toJson (fun _ => rfl) event.attack
  simp [read?, toJson, Record.of?, Record.required, Record.optional, Record.find, attack]

/-- An attack that is not there is written as null, and can also be left out. -/
def form : Form RoundEvent where
  names := fieldNames
  closed := false
  defaults := [("attack", .null)]
  read := read?
  write := toJson

theorem form_regular : form.Regular where
  distinct := by decide
  declared := by decide
  written := fun _ => ⟨_, rfl, rfl⟩
  decodes := read_toJson
  reads := ⟨_, fun _ => rfl, fun same => by
    simp (disch := decide) only [same.required, same.optional]⟩

private theorem optional?_trim (attack : Json) :
    optional? Attack.read? (attack.trim Attack.fieldNames) = optional? Attack.read? attack := by
  have absent : isAbsent (attack.trim Attack.fieldNames) = isAbsent attack := by
    cases attack <;> rfl
  have reads : Attack.read? (attack.trim Attack.fieldNames) = Attack.read? attack :=
    Attack.form_regular.ignores rfl attack
  simp only [optional?, absent, reads]

/-- Events of which the same is read as their attack, and all else is the same, are the same. -/
private theorem read_alike {full short : Json} {one two : Record Json}
    (first : Record.of? fieldNames false full = some one)
    (second : Record.of? fieldNames false short = some two)
    (others : ∀ name, "attack" ≠ name → one.find name = two.find name)
    (told : one.optional "attack" Attack.read? = two.optional "attack" Attack.read?) :
    read? full = read? short := by
  have required {α : Type} {name : String} (apart : "attack" ≠ name) (read : Json → Option α) :
      one.required name read = two.required name read := by
    simp only [Record.required, others name apart]
  simp only [read?, Option.bind_eq_bind, first, second, Option.bind_some]
  simp (disch := decide) only [required, told]

private theorem optional_trim (before after : List (String × Json)) (attack : Json)
    (isRow : Bool) :
    (Record.mk fieldNames (before ++ ("attack", attack.trim Attack.fieldNames) :: after)
        isRow).optional "attack" Attack.read?
      = (Record.mk fieldNames (before ++ ("attack", attack) :: after) isRow).optional "attack"
        Attack.read? := by
  rcases Record.find_middle_cases fieldNames before after "attack" isRow with one | twice
  · simp only [Record.optional, one, Option.bind_some, optional?_trim]
  · simp only [Record.optional, twice, Option.bind_none]

private theorem find_trim (before after : List (String × Json)) (attack : Json) (isRow : Bool)
    (name : String) (apart : "attack" ≠ name) :
    (Record.mk fieldNames (before ++ ("attack", attack.trim Attack.fieldNames) :: after)
        isRow).find name
      = (Record.mk fieldNames (before ++ ("attack", attack) :: after) isRow).find name := by
  rw [Record.find_middle_of_ne _ _ _ _ _ apart, Record.find_middle_of_ne _ _ _ _ _ apart]

/-- The attack of an object is read alike without its undeclared fields. -/
theorem read_trim_attack (before after : List (String × Json)) (attack : Json) :
    read? (Json.object (before ++ ("attack", attack.trim Attack.fieldNames) :: after))
      = read? (Json.object (before ++ ("attack", attack) :: after)) :=
  read_alike rfl rfl (find_trim before after attack false)
    (optional_trim before after attack false)

/-- So is the attack of a row. -/
theorem read_trim_attack_row (actor name action attack narrative : Json) :
    read? (Json.array [actor, name, action, attack.trim Attack.fieldNames, narrative])
      = read? (Json.array [actor, name, action, attack, narrative]) := by
  let before := [("actor_id", actor), ("actor_name", name), ("action", action)]
  let after := [("narrative", narrative)]
  exact read_alike rfl rfl (find_trim before after attack true)
    (optional_trim before after attack true)

end RoundEvent

namespace ConditionEvent

theorem read_toJson (event : ConditionEvent) : read? event.toJson = some event := by
  simp [read?, toJson, Record.of?, Record.required, Record.find]

def form : Form ConditionEvent where
  names := fieldNames
  closed := false
  defaults := []
  read := read?
  write := toJson

theorem form_regular : form.Regular where
  distinct := by decide
  declared := by decide
  written := fun _ => ⟨_, rfl, rfl⟩
  decodes := read_toJson
  reads := ⟨_, fun _ => rfl, fun same => by simp (disch := decide) only [same.required]⟩

end ConditionEvent

/--
Each of the six kinds of record survives its JSON form. What is written of a record has all its
fields and is read as that record, and so is every value that can be read, once it has been written
again. A field with a default may be left out. Only a condition refuses undeclared fields;
elsewhere they do not matter, and neither do those of the attack that an event tells.
-/
theorem records_survive :
    Condition.form.Survives ∧ Weapon.form.Survives ∧ Explosive.form.Survives ∧
    Attack.form.Survives ∧ RoundEvent.form.Survives ∧ ConditionEvent.form.Survives ∧
    (∀ before after attack,
      RoundEvent.form.read
          (.object (before ++ ("attack", attack.trim Attack.form.names) :: after))
        = RoundEvent.form.read (.object (before ++ ("attack", attack) :: after))) ∧
    (∀ actor name action attack narrative,
      RoundEvent.form.read
          (.array [actor, name, action, attack.trim Attack.form.names, narrative])
        = RoundEvent.form.read (.array [actor, name, action, attack, narrative])) :=
  ⟨Condition.form_regular.survives, Weapon.form_regular.survives, Explosive.form_regular.survives,
    Attack.form_regular.survives, RoundEvent.form_regular.survives,
    ConditionEvent.form_regular.survives, RoundEvent.read_trim_attack,
    RoundEvent.read_trim_attack_row⟩

/-- Three fields make a condition. -/
example : Condition.read? (Json.object [
    ("id", .text "sickened"), ("duration_type", .text "rounds"), ("name", .text "Sickened")])
      = some {
        id := "sickened", name := "Sickened", description := "", lasting := .rounds,
        maxStacks := 0, attackPenalty := 0, acPenalty := 0, speedPenalty := 0, restricted := [] } :=
  rfl

end Fray
