import Fray.Afflictions
import Fray.Proofs.Tables

/-!
# Entries of sets of conditions

What an application, a removal and a tick do to a single entry of a set. An
application touches only the entry of its own condition, and stacks it up to its cap.
A tick counts every entry down by itself, and drops it if its rounds have run out; one
without a countdown outlasts every tick.
-/

namespace Fray

/-- Every condition of a codex is entered under its own name. -/
def Codex.Keyed (codex : Codex) : Prop :=
  ∀ id condition, codex.get? id = some condition → condition.id = id

theorem Codex.keyed_registerAll {codex : Codex} (keyed : codex.Keyed)
    (conditions : List Condition) : (codex.registerAll conditions).Keyed := by
  induction conditions generalizing codex with
  | nil => exact keyed
  | cons first rest ih =>
    refine ih fun id condition found => ?_
    rw [Codex.register, Table.get?_insert] at found
    split at found
    next same =>
      cases found
      exact same.symm
    · exact keyed id condition found

/-- The most stacks that a condition has on one combatant. -/
def Condition.cap (condition : Condition) : Count :=
  if condition.isStackable then condition.maxStacks else 1

/-! ### Single entries -/

namespace Affliction

theorem stack_new_le (condition : Condition) (stack : Count) (duration : Option Count) :
    (new condition stack duration).stack ≤ condition.cap := by
  unfold new Condition.cap
  split
  · rw [Count.le_iff, Count.toNat_min]
    exact Nat.min_le_right _ _
  · exact Nat.le_refl _

theorem stack_again_le (affliction : Affliction) (condition : Condition) (stack : Count)
    (duration : Option Count) :
    (affliction.again condition stack duration).stack ≤ condition.cap := by
  unfold again Condition.cap
  split
  · rw [Count.le_iff, Count.toNat_min]
    exact Nat.min_le_right _ _
  · exact Nat.le_refl _

/-- An application caps the stacks, which matters only to those beyond the cap. -/
theorem le_stack_again {affliction : Affliction} {condition : Condition}
    (within : affliction.stack ≤ condition.cap) (stack : Count) (duration : Option Count) :
    affliction.stack ≤ (affliction.again condition stack duration).stack := by
  simp only [Condition.cap] at within
  simp only [again]
  split
  -- The sum saturates, but not below what was there.
  next stackable =>
    have most := affliction.stack.le_greatest
    rw [if_pos stackable, Count.le_iff] at within
    rw [Count.le_iff, Count.toNat_min, Count.toNat_add]
    omega
  next single => rwa [if_neg single] at within

@[simp] theorem condition_countdown (affliction : Affliction) :
    affliction.countdown.condition = affliction.condition := by
  unfold countdown
  split <;> rfl

@[simp] theorem stack_countdown (affliction : Affliction) :
    affliction.countdown.stack = affliction.stack := by
  unfold countdown
  split <;> rfl

/-- A condition without a countdown outlasts every round, and so does one that does not end
with its rounds. -/
theorem countdown_endless {affliction : Affliction}
    (endless : affliction.condition.lasting = .rounds → affliction.left = none) :
    affliction.countdown = affliction ∧ affliction.isOver = false := by
  by_cases rounds : affliction.condition.lasting = .rounds
  · have none := endless rounds
    constructor
    · rw [countdown, if_pos rounds, none, Option.map_none, ← none]
    · simp [isOver, none]
  · simp [countdown, isOver, rounds]

end Affliction

namespace Afflictions

theorem stackOf_of_get? {set changed : Afflictions} {id : String}
    (same : changed.get? id = set.get? id) : changed.stackOf id = set.stackOf id := by
  rw [stackOf, same, stackOf]

theorem stackOf_of_entry {set : Afflictions} {id : String} {affliction : Affliction}
    (entry : set.get? id = some affliction) : set.stackOf id = affliction.stack := by
  rw [stackOf, entry, Option.map_some, Option.getD_some]

/-! ### Applications -/

theorem get?_apply (set : Afflictions) (condition : Condition) (stack : Count)
    (duration : Option Count) (id : String) :
    (set.apply condition stack duration).get? id =
      if id = condition.id then
        some (match set.get? condition.id with
          | some affliction => affliction.again condition stack duration
          | none => .new condition stack duration)
      else set.get? id :=
  Table.get?_insert ..

/-- Applying another condition does not touch this one. -/
theorem get?_applyKnown_of_ne {codex : Codex} (keyed : codex.Keyed)
    (set : Afflictions) {id other : String} (different : other ≠ id) (stack : Count) :
    (Afflictions.applyKnown set codex id stack).get? other = set.get? other := by
  unfold applyKnown
  split
  next condition found =>
    have named := keyed id condition found
    rw [get?_apply, named, if_neg different]
  · rfl

theorem get?_apply_new {set : Afflictions} {condition : Condition} {id : String}
    (named : condition.id = id) (absent : set.get? id = none) (stack : Count)
    (duration : Option Count) :
    (set.apply condition stack duration).get? id = some (.new condition stack duration) := by
  subst named
  rw [get?_apply, if_pos rfl, absent]

/-! ### Ticks -/

theorem get?_tick (set : Afflictions) (id : String) :
    set.tick.2.get? id = ((set.get? id).map Affliction.countdown).filter (!·.isOver) := by
  simp only [tick, Table.get?_filter, Table.get?_map]

theorem get?_tick_endless {set : Afflictions} {id : String}
    (endless : ∀ affliction, set.get? id = some affliction →
      affliction.condition.lasting = .rounds → affliction.left = none) :
    set.tick.2.get? id = set.get? id := by
  rw [get?_tick]
  cases found : set.get? id with
  | none => rfl
  | some affliction =>
    obtain ⟨still, lasts⟩ := Affliction.countdown_endless (endless affliction found)
    simp [still, lasts]

theorem mem_tick {set : Afflictions} {id : String} :
    id ∈ set.tick.1 ↔
      ∃ affliction, set.get? id = some affliction ∧ affliction.countdown.isOver = true := by
  have looked := Table.get?_filter (fun _ affliction => affliction.isOver)
    (Table.map Affliction.countdown set) id
  rw [Table.get?_map] at looked
  constructor
  · intro member
    obtain ⟨⟨name, counted⟩, inside, rfl⟩ := List.mem_map.mp member
    rw [Table.mem_entries.mp inside] at looked
    obtain ⟨mapped, lapsed⟩ := Option.filter_eq_some_iff.mp looked.symm
    obtain ⟨affliction, found, rfl⟩ := Option.map_eq_some_iff.mp mapped
    exact ⟨affliction, found, lapsed⟩
  · rintro ⟨affliction, found, lapsed⟩
    rw [found, Option.map_some, Option.filter_some, if_pos lapsed] at looked
    exact List.mem_map.mpr ⟨_, Table.mem_entries.mpr looked, rfl⟩

/-- Every condition either runs out or is counted down. -/
theorem get?_tick_of_mem {set : Afflictions} {id : String} (lapsed : id ∈ set.tick.1) :
    set.tick.2.get? id = none := by
  obtain ⟨affliction, found, ended⟩ := mem_tick.mp lapsed
  simp [get?_tick, found, ended]

theorem get?_tick_of_not_mem {set : Afflictions} {id : String} (lasts : id ∉ set.tick.1) :
    set.tick.2.get? id = (set.get? id).map Affliction.countdown := by
  rw [get?_tick]
  cases found : set.get? id with
  | none => rfl
  | some affliction =>
    have stays : affliction.countdown.isOver = false :=
      Bool.eq_false_iff.mpr fun ended => lasts (mem_tick.mpr ⟨affliction, found, ended⟩)
    simp [stays]

/-! ### All entries -/

/-- What holds of every entry of a set under its name. -/
def Each (property : String → Affliction → Prop) (set : Afflictions) : Prop :=
  ∀ id affliction, set.get? id = some affliction → property id affliction

section Each

variable {property : String → Affliction → Prop} {set : Afflictions}

theorem each_empty : Each property Table.empty := fun _ _ found => nomatch found

theorem Each.apply (each : set.Each property) {condition : Condition} {stack : Count}
    {duration : Option Count} (new : property condition.id (.new condition stack duration))
    (again : ∀ affliction, property condition.id affliction →
      property condition.id (affliction.again condition stack duration)) :
    (set.apply condition stack duration).Each property := by
  intro id affliction found
  rw [get?_apply] at found
  split at found
  next same =>
    subst same
    cases found
    cases present : set.get? condition.id with
    | some before => exact again before (each condition.id before present)
    | none => exact new
  · exact each id affliction found

theorem Each.erase (each : set.Each property) (id : String) :
    Each property (Table.erase set id) := by
  intro other affliction found
  rw [Table.get?_erase] at found
  split at found
  · cases found
  · exact each other affliction found

theorem Each.tick (each : set.Each property)
    (counted : ∀ id affliction, property id affliction → property id affliction.countdown) :
    Each property set.tick.2 := by
  intro id affliction found
  rw [get?_tick] at found
  obtain ⟨ticked, -⟩ := Option.filter_eq_some_iff.mp found
  obtain ⟨before, present, rfl⟩ := Option.map_eq_some_iff.mp ticked
  exact counted id before (each id before present)

end Each

end Afflictions

end Fray
