import Fray.Proofs.Afflictions.Entries
import Mathlib.Data.List.Induction

/-!
# Stacks over the history of a set

The history of a set of conditions is a row of applications, removals and ticks. Every
entry has a history of its own, which the steps about other conditions do not touch. Its
stacks are what was asked for since the condition was last absent, at least one at first,
and at most as many as the condition allows.

## Main results

`get?_after`: a step renews the entries that it is about, each by itself.
`entry_grown`: what the stacks of an entry are after any history.
`afterAll_stacks` puts both together for sets with conditions from one codex.
-/

namespace Fray

namespace Afflictions

/-! ### Histories -/

/-- What can happen to a set of conditions. -/
inductive Step where
  | apply (condition : Condition) (stack : Count) (duration : Option Count)
  | remove (id : String)
  | tick
deriving DecidableEq

namespace Step

/-- The condition that a step is about; a tick is about all of them. -/
def subject? : Step → Option String
  | apply condition _ _ => some condition.id
  | remove id => some id
  | tick => none

/-- Whether a step can change the entry of a condition. -/
def concerns (id : String) (step : Step) : Bool := step.subject?.all (· = id)

/-- The stacks that a step asks for of a condition. -/
def request? (id : String) : Step → Option Count
  | apply condition stack _ => if condition.id = id then some stack else none
  | remove _ | tick => none

/-- An application takes its condition as the codex has it. -/
def IsFrom (codex : Codex) : Step → Prop
  | apply condition _ _ => codex.get? condition.id = some condition
  | remove _ | tick => True

instance (codex : Codex) : (step : Step) → Decidable (step.IsFrom codex)
  | apply condition _ _ => inferInstanceAs (Decidable (codex.get? condition.id = some condition))
  | remove _ | tick => inferInstanceAs (Decidable True)

/-- What a step makes of an entry that it is about. -/
def renew (entry : Option Affliction) : Step → Option Affliction
  | apply condition stack duration =>
    match entry with
    | some affliction => some (affliction.again condition stack duration)
    | none => some (.new condition stack duration)
  | remove _ => none
  | tick => (entry.map Affliction.countdown).filter (!·.isOver)

theorem request?_of_not_concerns {step : Step} {id : String} (other : step.concerns id = false) :
    step.request? id = none := by
  cases step with
  | apply condition stack duration => simpa [concerns, subject?, request?] using other
  | remove _ => rfl
  | tick => rfl

end Step

/-- The set after a step. -/
def after (set : Afflictions) : Step → Afflictions
  | .apply condition stack duration => set.apply condition stack duration
  | .remove id => Table.erase set id
  | .tick => set.tick.2

def afterAll (set : Afflictions) (steps : List Step) : Afflictions := steps.foldl after set

variable {set : Afflictions} {id : String}

@[simp] theorem afterAll_nil (set : Afflictions) : set.afterAll [] = set := rfl

@[simp] theorem afterAll_cons (set : Afflictions) (step : Step) (rest : List Step) :
    set.afterAll (step :: rest) = (set.after step).afterAll rest := rfl

theorem afterAll_append (set : Afflictions) (early late : List Step) :
    set.afterAll (early ++ late) = (set.afterAll early).afterAll late :=
  List.foldl_append ..

theorem afterAll_concat (set : Afflictions) (steps : List Step) (step : Step) :
    set.afterAll (steps ++ [step]) = (set.afterAll steps).after step :=
  afterAll_append ..

/-- What holds of every new entry, and is kept by applications and countdowns, holds of all
entries after any history. -/
theorem Each.afterAll {property : String → Affliction → Prop} {steps : List Step}
    (each : set.Each property)
    (applied : ∀ condition stack duration, .apply condition stack duration ∈ steps →
      property condition.id (.new condition stack duration) ∧ ∀ affliction,
        property condition.id affliction →
          property condition.id (affliction.again condition stack duration))
    (counted : ∀ id affliction, property id affliction → property id affliction.countdown) :
    (set.afterAll steps).Each property := by
  induction steps generalizing set with
  | nil => exact each
  | cons step rest ih =>
    have later {set : Afflictions} (each : set.Each property) :=
      ih each fun condition stack duration member =>
        applied condition stack duration (List.mem_cons_of_mem _ member)
    cases step with
    | apply condition stack duration =>
      obtain ⟨new, again⟩ := applied condition stack duration List.mem_cons_self
      exact later (each.apply new again)
    | remove id => exact later (each.erase id)
    | tick => exact later (each.tick counted)

/-- A step renews the entries that it is about and leaves the others. -/
theorem get?_after (set : Afflictions) (step : Step) (id : String) :
    (set.after step).get? id
      = if step.concerns id then step.renew (set.get? id) else set.get? id := by
  cases step with
  | apply condition stack duration =>
    simp only [after, get?_apply, Step.concerns, Step.subject?, Option.all_some,
      decide_eq_true_eq, eq_comm (a := id)]
    split
    next same =>
      subst same
      cases set.get? condition.id <;> rfl
    · rfl
  | remove other =>
    simp only [after, Table.get?_erase, Step.concerns, Step.subject?, Option.all_some,
      decide_eq_true_eq, eq_comm (a := id)]
    rfl
  | tick => exact get?_tick set id

theorem get?_after_of_not_concerns {step : Step} (other : step.concerns id = false) :
    (set.after step).get? id = set.get? id := by
  rw [get?_after, other]
  rfl

theorem get?_after_of_concerns {step : Step} (own : step.concerns id = true) :
    (set.after step).get? id = step.renew (set.get? id) := by
  rw [get?_after, if_pos own]

/-- The entry of a condition depends on nothing but what it was before. -/
theorem get?_afterAll_congr {set other : Afflictions} (same : set.get? id = other.get? id)
    (steps : List Step) : (set.afterAll steps).get? id = (other.afterAll steps).get? id := by
  induction steps generalizing set other with
  | nil => exact same
  | cons step rest ih =>
    simp only [afterAll_cons]
    refine ih ?_
    rw [get?_after, get?_after, same]

/-- Steps about different conditions can be exchanged. -/
theorem after_comm (set : Afflictions) {one two : Step} {first second : String}
    (oneIs : one.subject? = some first) (twoIs : two.subject? = some second)
    (different : first ≠ second) : (set.after one).after two = (set.after two).after one := by
  refine Table.ext_get? fun id => ?_
  have only {step : Step} {subject : String} (about : step.subject? = some subject)
      (set : Afflictions) (id : String) : (set.after step).get? id
        = if subject = id then step.renew (set.get? id) else set.get? id := by
    simp only [get?_after, Step.concerns, about, Option.all_some, decide_eq_true_eq]
  simp only [only oneIs, only twoIs]
  by_cases own : first = id
  · subst own
    simp only [if_neg (Ne.symm different)]
  · simp only [if_neg own]

/-! ### Since a condition was last absent -/

/-- A condition was absent after some steps from an empty set, and never after that. -/
structure LastAbsent (id : String) (early late : List Step) : Prop where
  absent : (afterAll .empty early).has id = false
  present : ∀ part, part <+: late → part ≠ [] → (afterAll .empty (early ++ part)).has id = true

/-- The condition comes with a step. -/
theorem LastAbsent.now {early : List Step} {step : Step}
    (absent : (afterAll .empty early).has id = false)
    (present : (afterAll .empty (early ++ [step])).has id = true) :
    LastAbsent id early [step] where
  absent := absent
  present part cut some := by
    rcases List.prefix_cons_iff.mp cut with rfl | ⟨rest, rfl, nothing⟩
    · contradiction
    · rwa [List.prefix_nil.mp nothing]

/-- The condition is there for another step. -/
theorem LastAbsent.extend {early late : List Step} {step : Step}
    (last : LastAbsent id early late)
    (present : (afterAll .empty (early ++ (late ++ [step]))).has id = true) :
    LastAbsent id early (late ++ [step]) where
  absent := last.absent
  present part cut some := by
    rcases List.prefix_concat_iff.mp cut with rfl | shorter
    · exact present
    · exact last.present part shorter some

end Afflictions

/-! ### What was asked for -/

/-- The stacks of a condition of which some were asked for when it was absent, and the rest
while it was there. -/
def Condition.total (condition : Condition) (first : Count) (rest : List Count) : Nat :=
  if condition.isStackable then
    min condition.maxStacks.toNat (max 1 first.toNat + (rest.map Count.toNat).sum)
  else 1

theorem Condition.total_le_cap (condition : Condition) (first : Count) (rest : List Count) :
    condition.total first rest ≤ condition.cap.toNat := by
  unfold total cap
  split
  · exact Nat.min_le_left ..
  · exact Nat.le_refl _

namespace Affliction

open Afflictions

theorem toNat_stack_new (condition : Condition) (stack : Count) (duration : Option Count) :
    (new condition stack duration).stack.toNat = condition.total stack [] := by
  have one := Count.toNat_one
  unfold new Condition.total
  split
  · simp only [Count.toNat_min, Count.toNat_max, one, List.map_nil, List.sum_nil]
    omega
  · rfl

/-- The sum saturates only beyond the cap. -/
theorem toNat_stack_again {affliction : Affliction} {first : Count} {rest : List Count}
    (before : affliction.stack.toNat = affliction.condition.total first rest) (stack : Count)
    (duration : Option Count) :
    (affliction.again affliction.condition stack duration).stack.toNat
      = affliction.condition.total first (rest ++ [stack]) := by
  have cap := affliction.condition.maxStacks.le_greatest
  unfold Condition.total at before ⊢
  simp only [again]
  split
  next stackable =>
    rw [if_pos stackable] at before
    simp only [Count.toNat_min, Count.toNat_add, before, List.map_append, List.sum_append,
      List.map_cons, List.map_nil, List.sum_cons, List.sum_nil]
    omega
  · rfl

/-- An entry of a condition of the codex, with the stacks that were asked for since it was last
absent. -/
structure Grown (codex : Codex) (id : String) (steps : List Step) (affliction : Affliction) :
    Prop where
  named : affliction.condition.id = id
  listed : codex.get? id = some affliction.condition
  requested : ∃ early late first rest, steps = early ++ late ∧ LastAbsent id early late ∧
    late.filterMap (Step.request? id) = first :: rest ∧
    affliction.stack.toNat = affliction.condition.total first rest

section Grown

variable {codex : Codex} {id : String} {steps : List Step} {condition : Condition}

/-- The condition comes, with what is asked for first. -/
theorem grown_new (same : condition.id = id) (listed : codex.get? id = some condition)
    (absent : (afterAll .empty steps).get? id = none) (stack : Count) (duration : Option Count) :
    (new condition stack duration).Grown codex id (steps ++ [.apply condition stack duration]) := by
  have comes : (afterAll .empty (steps ++ [.apply condition stack duration])).get? id
      = some (.new condition stack duration) := by
    rw [afterAll_concat]
    exact get?_apply_new same absent stack duration
  refine ⟨same, listed, steps, _, stack, [], rfl, .now ?_ ?_, ?_, ?_⟩
  · exact congrArg Option.isSome absent
  · exact congrArg Option.isSome comes
  · simp [Step.request?, same]
  · exact toNat_stack_new condition stack duration

variable {before : Affliction}

/-- The condition is there, and more is asked for. -/
theorem Grown.again (grown : before.Grown codex id steps) (same : condition.id = id)
    (listed : codex.get? id = some condition) {stack : Count} {duration : Option Count}
    (present : (afterAll .empty (steps ++ [.apply condition stack duration])).has id = true) :
    (before.again condition stack duration).Grown codex id
      (steps ++ [.apply condition stack duration]) := by
  -- The codex has one condition of this name.
  have equal : condition = before.condition := Option.some.inj (listed.symm.trans grown.listed)
  subst equal
  obtain ⟨early, late, first, rest, rfl, last, requests, sum⟩ := grown.requested
  rw [List.append_assoc] at present ⊢
  refine ⟨grown.named, grown.listed, early, _, first, rest ++ [stack], rfl, last.extend present,
    ?_, ?_⟩
  · simp [requests, Step.request?, same]
  · exact toNat_stack_again sum stack duration

/-- A step that asks for no stacks, and keeps those there are. -/
theorem Grown.keep {step : Step} {after : Affliction} (grown : before.Grown codex id steps)
    (silent : step.request? id = none) (condition : after.condition = before.condition)
    (stack : after.stack = before.stack)
    (present : (afterAll .empty (steps ++ [step])).has id = true) :
    after.Grown codex id (steps ++ [step]) := by
  obtain ⟨early, late, first, rest, rfl, last, requests, sum⟩ := grown.requested
  rw [List.append_assoc] at present ⊢
  refine ⟨condition ▸ grown.named, condition ▸ grown.listed,
    early, late ++ [step], first, rest, rfl, last.extend present, ?_, ?_⟩
  · simp [requests, silent]
  · rw [stack, condition, sum]

end Grown

end Affliction

namespace Afflictions

open Affliction

variable {codex : Codex} {steps : List Step} {id : String} {affliction : Affliction}

/-- Whatever has happened to an empty set, with conditions of one codex, its entries have the
stacks that were asked for. -/
theorem entry_grown (known : ∀ step ∈ steps, step.IsFrom codex)
    (found : (afterAll .empty steps).get? id = some affliction) :
    affliction.Grown codex id steps := by
  -- From the end of the history, since what was asked for last is added last.
  induction steps using List.reverseRecOn generalizing affliction with
  | nil => cases found
  | append_singleton steps step ih =>
    have earlier {before : Affliction} := @ih before
      fun step member => known step (List.mem_append_left _ member)
    have present : (afterAll .empty (steps ++ [step])).has id = true :=
      congrArg Option.isSome found
    rw [afterAll_concat] at found
    by_cases own : step.concerns id = true
    · rw [get?_after_of_concerns own] at found
      cases step with
      | apply condition stack duration =>
        have same : condition.id = id := by simpa [Step.concerns, Step.subject?] using own
        have listed : codex.get? id = some condition :=
          same ▸ known _ (List.mem_append_right steps List.mem_cons_self)
        cases there : (afterAll .empty steps).get? id with
        | none =>
          simp only [there, Step.renew, Option.some.injEq] at found
          exact found ▸ grown_new same listed there stack duration
        | some before =>
          simp only [there, Step.renew, Option.some.injEq] at found
          exact found ▸ (earlier there).again same listed present
      | remove other => cases found
      | tick =>
        obtain ⟨counted, _⟩ := Option.filter_eq_some_iff.mp found
        obtain ⟨before, there, rfl⟩ := Option.map_eq_some_iff.mp counted
        exact (earlier there).keep rfl before.condition_countdown before.stack_countdown present
    · have other : step.concerns id = false := Bool.eq_false_iff.mpr own
      rw [get?_after_of_not_concerns other] at found
      exact (earlier found).keep (Step.request?_of_not_concerns other) rfl rfl present

end Afflictions

/-! ### The law of stacks -/

/-- What is known of an entry after the steps of a history. -/
structure Affliction.Stacked (codex : Codex) (id : String) (steps : List Afflictions.Step)
    (affliction : Affliction) : Prop where
  named : affliction.condition.id = id
  listed : codex.get? id = some affliction.condition
  single : affliction.condition.maxStacks = 0 → affliction.stack = 1
  /-- The first request is for at least one stack, and the cap is the only bound. -/
  summed : 0 < affliction.condition.maxStacks →
    ∃ early late first rest, steps = early ++ late ∧ Afflictions.LastAbsent id early late ∧
      late.filterMap (Afflictions.Step.request? id) = first :: rest ∧
      affliction.stack.toNat = min affliction.condition.maxStacks.toNat
        (max 1 first.toNat + (rest.map Count.toNat).sum)
  least : 1 ≤ affliction.stack
  most : affliction.stack ≤ max 1 affliction.condition.maxStacks

theorem Affliction.Grown.stacked {codex : Codex} {id : String} {steps : List Afflictions.Step}
    {affliction : Affliction} (grown : affliction.Grown codex id steps) :
    affliction.Stacked codex id steps := by
  obtain ⟨early, late, first, rest, cut, last, requests, sum⟩ := grown.requested
  have one := Count.toNat_one
  have zero : (0 : Count).toNat = 0 := rfl
  cases stackable : affliction.condition.isStackable with
  | true =>
    have capped : 0 < affliction.condition.maxStacks := by
      simpa [Condition.isStackable] using stackable
    rw [Condition.total, if_pos stackable] at sum
    rw [Count.lt_iff, zero] at capped
    refine ⟨grown.named, grown.listed, fun none => ?_,
      fun _ => ⟨early, late, first, rest, cut, last, requests, sum⟩, ?_, ?_⟩
    · rw [none] at capped
      exact absurd capped (Nat.lt_irrefl 0)
    · rw [Count.le_iff]
      omega
    · rw [Count.le_iff, Count.toNat_max]
      omega
  | false =>
    have uncapped : ¬ 0 < affliction.condition.maxStacks := by
      simpa [Condition.isStackable] using stackable
    rw [Condition.total, if_neg (by simp [stackable])] at sum
    refine ⟨grown.named, grown.listed, fun _ => Count.ext sum, fun capped => absurd capped uncapped,
      ?_, ?_⟩
    · rw [Count.le_iff]
      omega
    · rw [Count.le_iff, Count.toNat_max]
      omega

namespace Afflictions

/--
Apply conditions to an empty set, remove them and let rounds pass, in any order and number,
where all conditions are taken from one codex. Then every entry is that of a condition of the
codex under its own name. One that does not stack has one stack; any other has the stacks
that were asked for since it was last absent, at least one at first, up to its cap; so there
are always some, and no more than the cap allows. What is done about one condition never
changes the entry of another one, and steps about different conditions can be exchanged.
-/
theorem afterAll_stacks {codex : Codex} {steps : List Step}
    (known : ∀ step ∈ steps, step.IsFrom codex) :
    (∀ id affliction, (afterAll .empty steps).get? id = some affliction →
      affliction.Stacked codex id steps) ∧
    (∀ (step : Step) subject other, step.subject? = some subject → other ≠ subject →
      ((afterAll .empty steps).after step).get? other = (afterAll .empty steps).get? other) ∧
    ∀ (one two : Step) first second, one.subject? = some first → two.subject? = some second →
      first ≠ second →
        ((afterAll .empty steps).after one).after two
          = ((afterAll .empty steps).after two).after one := by
  refine ⟨fun id affliction found => (entry_grown known found).stacked, ?_, ?_⟩
  · intro step subject other about different
    apply get?_after_of_not_concerns
    simp [Step.concerns, about, Ne.symm different]
  · intro one two first second oneIs twoIs different
    exact after_comm _ oneIs twoIs different

/-- A fright that passes and comes back worse, while its victim lies on the ground for a time. -/
def sampleFrights : List Step :=
  [.apply .frightened 3 (some 1), .tick, .apply .frightened 0 (some 2), .apply .prone 7 none,
    .tick, .apply .frightened 1 none, .remove "prone", .apply .frightened 4294967295 (some 1)]

/-- The three stacks that have passed do not count, and the sum is capped only at the end. -/
theorem afterAll_stacks_sample :
    (∀ step ∈ sampleFrights, step.IsFrom .core) ∧
    (∃ affliction, (afterAll .empty sampleFrights).get? "frightened" = some affliction ∧
      affliction.stack = 4 ∧ affliction.Stacked .core "frightened" sampleFrights) ∧
    (afterAll .empty (sampleFrights.take 6)).stackOf "frightened" = 2 := by
  have known : ∀ step ∈ sampleFrights, step.IsFrom .core := by decide +kernel
  have stack : ((afterAll .empty sampleFrights).get? "frightened").map Affliction.stack
      = some 4 := by decide +kernel
  obtain ⟨affliction, found, four⟩ := Option.map_eq_some_iff.mp stack
  exact ⟨known, ⟨affliction, found, four, (afterAll_stacks known).1 _ affliction found⟩,
    by decide +kernel⟩

end Afflictions

end Fray
