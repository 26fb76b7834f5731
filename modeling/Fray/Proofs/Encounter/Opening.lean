import Fray.Proofs.Encounter.Committing
import Fray.Proofs.Round.Frame
import Fray.Proofs.Tables
import Mathlib.Data.List.Forall2

/-!
# Opening a round

When a round is opened, every living combatant is treated by itself: its
conditions are counted down, and it makes its recovery check if it is dying.
Nobody changes places, and the queues are fresh.

## Main results

`openAll_opens` describes the opening of all combatants by the opening of each,
`openRound_opens` the rest of the encounter.
-/

namespace Fray

open Draws

namespace Combatant

/-- A combatant apart from what an encounter changes: a profile that may die. -/
def person (combatant : Combatant) : Combatant := { combatant.profile with dead := false }

theorem person_recover (combatant : Combatant) (set : Afflictions) (codex : Codex) (roll : Score) :
    (combatant.recover set codex roll).combatant.person = combatant.person := by
  simp only [recover]
  split
  · rfl
  · split
    · rfl
    · split <;> rfl

theorem id_recover (combatant : Combatant) (set : Afflictions) (codex : Codex) (roll : Score) :
    (combatant.recover set codex roll).combatant.id = combatant.id := by
  have same := congrArg Combatant.id (combatant.person_recover set codex roll)
  exact same

/-- How the opening of a round treats one combatant with its conditions. -/
inductive Opens (codex : Codex) (combatant : Combatant) (set : Afflictions) : Opening → Prop
  | dead (gone : combatant.isDead = true) : Opens codex combatant set ⟨combatant, set, []⟩
  | counted (alive : combatant.isDead = false) (well : set.tick.2.has Condition.dying.id = false) :
      Opens codex combatant set ⟨combatant, set.tick.2,
        set.tick.1.map fun id => combatant.conditionEvent codex id 0 .removed⟩
  | checked (alive : combatant.isDead = false) (dying : set.tick.2.has Condition.dying.id = true)
      (roll : Score) :
      Opens codex combatant set ⟨(combatant.recover set.tick.2 codex roll).combatant,
        (combatant.recover set.tick.2 codex roll).afflictions,
        (set.tick.1.map fun id => combatant.conditionEvent codex id 0 .removed)
          ++ (combatant.recover set.tick.2 codex roll).events⟩

theorem Opens.person {codex : Codex} {combatant : Combatant} {set : Afflictions}
    {opening : Opening} (opens : Opens codex combatant set opening) :
    opening.combatant.person = combatant.person := by
  cases opens with
  | dead _ => rfl
  | counted _ _ => rfl
  | checked _ _ roll => exact person_recover ..

section Keeps

variable {codex : Codex} {property : Afflictions → Prop} {combatant : Combatant}
  {set : Afflictions}

/-- A recovery check takes dying away and applies dying and wounded, and nothing else. -/
theorem recover_keeps
    (erased : ∀ set : Afflictions, property set → property (Table.erase set Condition.dying.id))
    (applied : ∀ (set : Afflictions) (id : String) (stack : Count),
      id = Condition.dying.id ∨ id = Condition.wounded.id → property set →
        property (set.applyKnown codex id stack))
    (holds : property set) (roll : Score) :
    property (combatant.recover set codex roll).afflictions := by
  have without := erased set holds
  simp only [recover]
  split
  · exact without
  · split
    · exact applied _ _ 1 (.inr rfl) without
    · split
      · exact without
      · split
        · exact applied _ _ _ (.inl rfl) without
        · exact holds

/-- An opening counts the conditions down besides. -/
theorem Opens.keeps {opening : Opening} (opens : Opens codex combatant set opening)
    (erased : ∀ set : Afflictions, property set → property (Table.erase set Condition.dying.id))
    (applied : ∀ (set : Afflictions) (id : String) (stack : Count),
      id = Condition.dying.id ∨ id = Condition.wounded.id → property set →
        property (set.applyKnown codex id stack))
    (ticked : ∀ set : Afflictions, property set → property set.tick.2)
    (holds : property set) : property opening.afflictions := by
  cases opens with
  | dead _ => exact holds
  | counted _ _ => exact ticked set holds
  | checked _ _ roll => exact recover_keeps erased applied (ticked set holds) roll

end Keeps

end Combatant

theorem Encounter.openCombatant_opens (codex : Codex) {combatant : Combatant} (set : Afflictions)
    (alive : combatant.isDead = false) :
    Always (combatant.Opens codex set) (openCombatant codex combatant set) := by
  simp only [openCombatant, Combatant.recoveryCheck]
  rw [always_bind]
  split
  next dying =>
    rw [always_bind]
    exact always_of_forall (fun roll => .checked alive dying roll) _
  next well =>
    have counted : combatant.Opens codex set _ := .counted alive (by simpa using well)
    simpa using counted

/-! ### All combatants -/

/-- The conditions that a table has for a name. -/
abbrev Table.conditionsOf (afflictions : Table Afflictions) (id : String) : Afflictions :=
  (afflictions.get? id).getD .empty

namespace Encounter

/-- The openings of all combatants, one by one. -/
structure OpensAll (codex : Codex) (roster : List Combatant) (afflictions : Table Afflictions)
    (opened : Opened) (openings : List Opening) : Prop where
  each : List.Forall₂ (fun combatant opening =>
    combatant.Opens codex (afflictions.conditionsOf combatant.id) opening ∧
    opened.afflictions.conditionsOf combatant.id = opening.afflictions) roster openings
  combatants : opened.combatants = openings.map Opening.combatant
  events : opened.events = openings.flatMap Opening.events
  others : ∀ id, id ∉ roster.map Combatant.id →
    opened.afflictions.get? id = afflictions.get? id
  contains : ∀ id, afflictions.contains id = true → opened.afflictions.contains id = true

theorem exists_of_mem_right {α β : Type} {related : α → β → Prop} {ones : List α}
    {others : List β} (each : List.Forall₂ related ones others) {other : β}
    (member : other ∈ others) : ∃ one ∈ ones, related one other := by
  induction each with
  | nil => cases member
  | cons first rest ih =>
    rcases List.mem_cons.mp member with rfl | later
    · exact ⟨_, List.mem_cons_self, first⟩
    · obtain ⟨one, inside, holds⟩ := ih later
      exact ⟨one, List.mem_cons_of_mem _ inside, holds⟩

/-- Everybody after the opening comes from the opening of somebody, with the conditions of it. -/
theorem OpensAll.of_mem {codex : Codex} {roster : List Combatant} {afflictions : Table Afflictions}
    {opened : Opened} {openings : List Opening}
    (all : OpensAll codex roster afflictions opened openings) {combatant : Combatant}
    (member : combatant ∈ opened.combatants) :
    ∃ before ∈ roster, ∃ opening,
      before.Opens codex (afflictions.conditionsOf before.id) opening ∧
      combatant = opening.combatant ∧
      opened.afflictions.conditionsOf combatant.id = opening.afflictions := by
  rw [all.combatants] at member
  obtain ⟨opening, inside, rfl⟩ := List.mem_map.mp member
  obtain ⟨before, listed, opens, conditions⟩ := exists_of_mem_right all.each inside
  have same := congrArg Combatant.id opens.person
  have named : opening.combatant.id = before.id := same
  exact ⟨before, listed, opening, opens, rfl, named ▸ conditions⟩

/-- Combatants of different names are opened independently of each other. -/
theorem openAll_opens (codex : Codex) (combatants : List Combatant)
    (afflictions : Table Afflictions) (distinct : (combatants.map Combatant.id).Nodup) :
    Always (fun opened => ∃ openings, OpensAll codex combatants afflictions opened openings)
      (openAll codex combatants afflictions) := by
  induction combatants generalizing afflictions with
  | nil => exact ⟨[], .nil, rfl, rfl, fun _ _ => rfl, fun _ inside => inside⟩
  | cons combatant rest ih =>
    obtain ⟨fresh, distinct⟩ := List.nodup_cons.mp distinct
    have different {other : Combatant} (member : other ∈ rest) : other.id ≠ combatant.id :=
      fun same => fresh (same ▸ List.mem_map_of_mem member)
    simp only [openAll]
    split
    next gone =>
      rw [always_bind]
      refine (ih afflictions distinct).mono fun opened => ?_
      rintro ⟨openings, all⟩
      refine ⟨⟨combatant, afflictions.conditionsOf combatant.id, []⟩ :: openings, ?_⟩
      constructor
      · refine .cons ⟨.dead gone, ?_⟩ all.each
        simp only [Table.conditionsOf, all.others combatant.id fresh]
      · exact congrArg (combatant :: ·) all.combatants
      · simpa using all.events
      · intro id outside
        exact all.others id fun inside => outside (List.mem_cons_of_mem _ inside)
      · exact all.contains
    next living =>
      have alive : combatant.isDead = false := by simpa using living
      rw [always_bind]
      refine (openCombatant_opens codex _ alive).mono fun opening opens => ?_
      rw [always_bind]
      refine (ih (afflictions.insert combatant.id opening.afflictions) distinct).mono
        fun opened => ?_
      rintro ⟨openings, all⟩
      refine ⟨opening :: openings, ?_⟩
      constructor
      · refine .cons ⟨opens, ?_⟩ ?_
        · simp [Table.conditionsOf, all.others combatant.id fresh, Table.get?_insert]
        -- The set that was just entered belongs to nobody in the rest.
        · have apart := (List.forall₂_and_left _ _).mpr ⟨fun _ member => different member, all.each⟩
          refine apart.imp fun other opening both => ?_
          simpa [Table.conditionsOf, Table.get?_insert, both.1] using both.2
      · exact congrArg (opening.combatant :: ·) all.combatants
      · exact congrArg (opening.events ++ ·) all.events
      · intro id outside
        obtain ⟨notThis, notRest⟩ := not_or.mp (mt List.mem_cons.mpr outside)
        rw [all.others id notRest, Table.get?_insert, if_neg notThis]
      · intro id inside
        refine all.contains id ?_
        simp only [Table.contains, Table.get?_insert] at inside ⊢
        split
        · rfl
        · exact inside

/-- What each opening keeps of a set, and then of its combatant, holds of all sets and stays in
every place, whether or not names are distinct. -/
theorem openAll_carries {α : Type} {codex : Codex} (part : Combatant → α)
    (property : Afflictions → Prop)
    (kept : ∀ (combatant : Combatant) (set : Afflictions) (opening : Opening),
      combatant.Opens codex set opening → property set →
        part opening.combatant = part combatant ∧ property opening.afflictions)
    (combatants : List Combatant) {afflictions : Table Afflictions}
    (start : ∀ id, property (afflictions.conditionsOf id)) :
    Always (fun opened => opened.combatants.map part = combatants.map part ∧
        ∀ id, property (opened.afflictions.conditionsOf id))
      (openAll codex combatants afflictions) := by
  induction combatants generalizing afflictions with
  | nil => exact ⟨rfl, start⟩
  | cons combatant rest ih =>
    simp only [openAll]
    split
    · rw [always_bind]
      exact (ih start).mono fun opened all => ⟨congrArg (part combatant :: ·) all.1, all.2⟩
    next living =>
      have alive : combatant.isDead = false := by simpa using living
      rw [always_bind]
      refine (openCombatant_opens codex _ alive).mono fun opening opens => ?_
      obtain ⟨place, holds⟩ := kept combatant _ opening opens (start combatant.id)
      have entered (id : String) :
          property ((afflictions.insert combatant.id opening.afflictions).conditionsOf id) := by
        rw [Table.conditionsOf, Table.get?_insert]
        split
        · exact holds
        · exact start id
      rw [always_bind]
      refine (ih entered).mono fun opened all => ⟨?_, all.2⟩
      simp only [List.map_cons, place, all.1]

/-- What each opening keeps of a combatant stays in its place. -/
theorem openAll_maps {α : Type} {part : Combatant → α} {codex : Codex}
    (kept : ∀ (combatant : Combatant) (set : Afflictions) (opening : Opening),
      combatant.Opens codex set opening → part opening.combatant = part combatant)
    (combatants : List Combatant) (afflictions : Table Afflictions) :
    Always (fun opened => opened.combatants.map part = combatants.map part)
      (openAll codex combatants afflictions) :=
  (openAll_carries part (fun _ => True)
    (fun combatant set opening opens _ => ⟨kept combatant set opening opens, trivial⟩)
    combatants fun _ => trivial).mono fun _ all => all.1

theorem openAll_persons (codex : Codex) (combatants : List Combatant)
    (afflictions : Table Afflictions) :
    Always (fun opened => opened.combatants.map Combatant.person
        = combatants.map Combatant.person)
      (openAll codex combatants afflictions) :=
  openAll_maps (fun _ _ _ opens => opens.person) combatants afflictions

/-- The openings of living combatants who share a set of conditions, one after another. -/
inductive OpensInTurn (codex : Codex) : List Combatant → Afflictions → Afflictions → Prop
  | done (set : Afflictions) : OpensInTurn codex [] set set
  | next {combatant : Combatant} {rest : List Combatant} {set last : Afflictions}
      {opening : Opening} (alive : combatant.isDead = false)
      (opens : combatant.Opens codex set opening)
      (later : OpensInTurn codex rest opening.afflictions last) :
      OpensInTurn codex (combatant :: rest) set last

/-- The living who go by a name. -/
def namesakes (combatants : List Combatant) (id : String) : List Combatant :=
  combatants.filter fun combatant => combatant.isAlive && combatant.id == id

/-- The set of a name is opened for each of the living who go by it, in order. -/
theorem openAll_inTurn (codex : Codex) (combatants : List Combatant)
    (afflictions : Table Afflictions) :
    Always (fun opened => ∀ id, OpensInTurn codex (namesakes combatants id)
        (afflictions.conditionsOf id) (opened.afflictions.conditionsOf id))
      (openAll codex combatants afflictions) := by
  induction combatants generalizing afflictions with
  | nil => exact fun id => .done _
  | cons combatant rest ih =>
    simp only [openAll]
    split
    next gone =>
      have skipped (id : String) : namesakes (combatant :: rest) id = namesakes rest id := by
        simp [namesakes, Combatant.isAlive, gone]
      rw [always_bind]
      exact (ih afflictions).mono fun opened inTurn id => skipped id ▸ inTurn id
    next living =>
      have alive : combatant.isDead = false := by simpa using living
      rw [always_bind]
      refine (openCombatant_opens codex _ alive).mono fun opening opens => ?_
      rw [always_bind]
      refine (ih _).mono fun opened inTurn id => ?_
      -- The rest finds what the first has left to those of its name.
      have later := inTurn id
      simp only [Table.conditionsOf, Table.get?_insert] at later
      by_cases own : id = combatant.id
      · subst own
        rw [if_pos rfl] at later
        simpa [namesakes, Combatant.isAlive, alive] using OpensInTurn.next alive opens later
      · rw [if_neg own] at later
        simpa [namesakes, Ne.symm own] using later

/-- What each opening keeps of a set holds of all sets. -/
theorem openAll_sets {codex : Codex} {property : Afflictions → Prop}
    (kept : ∀ (combatant : Combatant) (set : Afflictions) (opening : Opening),
      combatant.Opens codex set opening → property set → property opening.afflictions)
    (combatants : List Combatant) {afflictions : Table Afflictions}
    (start : ∀ id, property (afflictions.conditionsOf id)) :
    Always (fun opened => ∀ id, property (opened.afflictions.conditionsOf id))
      (openAll codex combatants afflictions) :=
  (openAll_carries (fun _ => ()) property
    (fun combatant set opening opens holds => ⟨rfl, kept combatant set opening opens holds⟩)
    combatants start).mono fun _ all => all.2

/-- An opening takes nobody's set of conditions away. -/
theorem openAll_contains (codex : Codex) (combatants : List Combatant)
    (afflictions : Table Afflictions) :
    Always (fun opened => ∀ id, afflictions.contains id = true →
        opened.afflictions.contains id = true)
      (openAll codex combatants afflictions) := by
  induction combatants generalizing afflictions with
  | nil => exact fun id present => present
  | cons combatant rest ih =>
    simp only [openAll]
    split
    · rw [always_bind]
      exact (ih afflictions).mono fun opened kept => kept
    · rw [always_bind]
      refine always_of_forall (fun opening => ?_) _
      rw [always_bind]
      refine (ih _).mono fun opened kept id present => kept id ?_
      rw [Table.contains_insert, present, Bool.or_true]

/-! ### Queues -/

theorem freshQueues_get? {combatants : List Combatant} {afflictions : Table Afflictions}
    {points : Count} {id : String} {queue : Queue}
    (present : (freshQueues combatants afflictions points).get? id = some queue) :
    queue.actions = [] ∧ id ∈ combatants.map Combatant.id := by
  obtain ⟨combatant, living, same⟩ := List.mem_map.mp (Table.mem_of_get?_ofList present)
  obtain ⟨rfl, rfl⟩ := Prod.mk.inj same
  exact ⟨rfl, List.mem_map_of_mem (List.mem_of_mem_filter living)⟩

/-- Everybody alive has a queue with all the points that its conditions leave it. -/
theorem freshQueues_living {combatants : List Combatant} {afflictions : Table Afflictions}
    {points : Count} {combatant : Combatant} (member : combatant ∈ combatants)
    (alive : combatant.isAlive = true) :
    (freshQueues combatants afflictions points).get? combatant.id
      = some (.fresh combatant.id
          (points - ((afflictions.get? combatant.id).map Afflictions.lostPoints).getD 0)) := by
  have living := List.mem_filter.mpr ⟨member, alive⟩
  have entered : ((freshQueues combatants afflictions points).get? combatant.id).isSome = true :=
    Table.isSome_get?_ofList (List.mem_map_of_mem living)
  obtain ⟨queue, present⟩ := Option.isSome_iff_exists.mp entered
  -- Several combatants of one name would have the same queue.
  obtain ⟨other, _, same⟩ := List.mem_map.mp (Table.mem_of_get?_ofList present)
  obtain ⟨named, rfl⟩ := Prod.mk.inj same
  rw [named] at present
  exact present

/-! ### The encounter -/

/-- What the opening of a round does to an encounter as a whole. -/
structure OpensRound (before after : Encounter) : Prop where
  room : after.room = before.room
  zone : after.zone = before.zone
  persons : after.combatants.map Combatant.person = before.combatants.map Combatant.person
  cursor : after.cursor = before.cursor
  round : after.round = before.round + 1
  isOver : after.isOver = before.isOver
  keeps : after.Keeps []
  codex : after.codex = before.codex
  inventory : after.inventory = before.inventory
  hooks : after.hooks = before.hooks
  calls : after.calls = before.calls
  dice : after.dice = before.dice

/-- The same people have the same names. -/
theorem ids_of_persons {before after : Encounter}
    (same : after.combatants.map Combatant.person = before.combatants.map Combatant.person) :
    after.ids = before.ids := by
  have mapped := congrArg (List.map Combatant.id) same
  simpa only [List.map_map, Function.comp_def, Combatant.person, Combatant.profile] using mapped

theorem OpensRound.ids {before after : Encounter} (opens : OpensRound before after) :
    after.ids = before.ids := ids_of_persons opens.persons

theorem openRound_opens (encounter : Encounter) (points : Count) :
    Always (fun result => OpensRound encounter result.2) (encounter.openRound points) := by
  unfold openRound
  rw [always_bind]
  refine (openAll_persons ..).mono fun opened same => ?_
  refine ⟨rfl, rfl, same, rfl, rfl, rfl, ⟨fun id => ?_, by simp, fun id inside => ?_⟩,
    rfl, rfl, rfl, rfl, rfl⟩
  · cases present : (freshQueues opened.combatants opened.afflictions points).get? id with
    | none => rfl
    | some queue => exact (freshQueues_get? present).1
  · obtain ⟨queue, present⟩ := Option.isSome_iff_exists.mp inside
    exact (freshQueues_get? present).2

end Encounter

end Fray
