import Fray.Proofs.Death
import Fray.Proofs.Dying.Chain
import Fray.Proofs.Encounter.Caps

/-!
# What an opening tells

The opening of a round tells its changes of conditions in events. A condition that
no event is about was counted down at most, and the last event about a condition is
true of the entry that it leaves: the condition is gone, or it is there with the
stacks that the event gives. Only a recovery check that fails may tell more stacks
of dying than the codex allows.

## Main results

`Opens.tells` states this for one combatant, `OpensAll.own` finds the events of one
combatant among those of all, and `Reached.openRound_truthful` puts both together.
-/

namespace Fray

open Draws

namespace ConditionEvent

/-- The events about one combatant. -/
def about (id : String) (events : List ConditionEvent) : List ConditionEvent :=
  events.filter (·.combatant = id)

/-- The last of some events about a condition of a combatant. -/
def last? (id condition : String) (events : List ConditionEvent) : Option ConditionEvent :=
  (about id events).reverse.find? (·.condition = condition)

/-- The event is true of the entry of its condition, of which only dying may be capped. -/
inductive Holds (codex : Codex) (event : ConditionEvent) (entry : Option Affliction) : Prop
  | removed (change : event.change = .removed) (gone : entry = none)
  | applied {affliction : Affliction} (change : event.change = .applied)
      (here : entry = some affliction) (stack : affliction.stack = event.stack)
  | capped {affliction : Affliction} {dying : Condition} (change : event.change = .applied)
      (here : entry = some affliction) (named : event.condition = Condition.dying.id)
      (known : codex.get? Condition.dying.id = some dying) (short : event.stack < deathStacks)
      (beyond : dying.cap < event.stack) (stack : affliction.stack = dying.cap)

theorem about_own {id : String} {events : List ConditionEvent}
    (own : ∀ event ∈ events, event.combatant = id) : about id events = events :=
  List.filter_eq_self.mpr fun event member => by simp [own event member]

theorem about_others {id : String} {events : List ConditionEvent}
    (others : ∀ event ∈ events, event.combatant ≠ id) : about id events = [] :=
  List.filter_eq_nil_iff.mpr fun event member => by simp [others event member]

theorem about_append (id : String) (early late : List ConditionEvent) :
    about id (early ++ late) = about id early ++ about id late :=
  List.filter_append ..

/-- The later events come first. -/
theorem last?_append (id condition : String) (early late : List ConditionEvent) :
    last? id condition (early ++ late)
      = (last? id condition late).or (last? id condition early) := by
  simp [last?, about, List.filter_append, List.reverse_append, List.find?_append]

/-- Events tell of a condition: the last one is true of its entry, and without one it stayed. -/
structure Tells (codex : Codex) (id condition : String) (events : List ConditionEvent)
    (before after : Option Affliction) : Prop where
  silent : last? id condition events = none → after = before
  told : ∀ event, last? id condition events = some event → event.Holds codex after

theorem Tells.append {codex : Codex} {id condition : String} {early late : List ConditionEvent}
    {first second third : Option Affliction} (one : Tells codex id condition early first second)
    (two : Tells codex id condition late second third) :
    Tells codex id condition (early ++ late) first third := by
  -- The last word belongs to the later events, unless they are silent about the condition.
  cases spoken : last? id condition late with
  | none =>
    have still : third = second := two.silent spoken
    constructor
    · rw [last?_append, spoken, Option.none_or]
      exact fun quiet => still.trans (one.silent quiet)
    · rw [last?_append, spoken, Option.none_or, still]
      exact one.told
  | some event =>
    constructor
    · rw [last?_append, spoken]
      exact fun quiet => by cases quiet
    · rw [last?_append, spoken]
      rintro last same
      cases same
      exact two.told event spoken

/-- A single event tells of its own condition only. -/
theorem Tells.single {codex : Codex} {id condition : String} {event : ConditionEvent}
    {before after : Option Affliction} (named : event.combatant = id)
    (own : condition = event.condition → event.Holds codex after)
    (others : condition ≠ event.condition → after = before) :
    Tells codex id condition [event] before after := by
  by_cases same : event.condition = condition
  · have spoken : last? id condition [event] = some event := by
      simp [last?, about, named, same]
    constructor
    · rw [spoken]
      exact fun quiet => by cases quiet
    · rw [spoken]
      rintro last equal
      cases equal
      exact own same.symm
  · have quiet : last? id condition [event] = none := by simp [last?, about, same]
    constructor
    · exact fun _ => others (Ne.symm same)
    · rw [quiet]
      exact fun _ never => by cases never

/-- Only the events about the combatant matter. -/
theorem Tells.of_about {codex : Codex} {id condition : String} {own events : List ConditionEvent}
    {before after : Option Affliction} (tells : Tells codex id condition own before after)
    (same : about id events = about id own) :
    Tells codex id condition events before after := by
  have spoken : last? id condition events = last? id condition own := by
    rw [last?, same, last?]
  exact ⟨spoken ▸ tells.silent, spoken ▸ tells.told⟩

end ConditionEvent

open ConditionEvent

/-! ### One combatant -/

/-- A condition that is new has the stacks that it is given, up to its cap. -/
theorem Affliction.stack_new (condition : Condition) {stack : Count} (some : 1 ≤ stack)
    (duration : Option Count) :
    (new condition stack duration).stack = min stack condition.cap := by
  have one := Count.toNat_one
  rw [Count.le_iff, one] at some
  ext
  unfold new Condition.cap
  split
  · simp only [Count.toNat_min, Count.toNat_max, one]
    omega
  · simp only [Count.toNat_min, one]
    omega

namespace Combatant

/-- What is told of a countdown are the conditions that run out with it. -/
theorem tick_tells (combatant : Combatant) (codex : Codex) (set : Afflictions)
    (condition : String) :
    Tells codex combatant.id condition
      (set.tick.1.map fun id => combatant.conditionEvent codex id 0 .removed)
      ((set.get? condition).map Affliction.countdown) (set.tick.2.get? condition) := by
  have ended : ∀ event ∈ set.tick.1.map fun id => combatant.conditionEvent codex id 0 .removed,
      event.change = .removed ∧ event.condition ∈ set.tick.1 := by
    intro event member
    obtain ⟨id, lapsed, rfl⟩ := List.mem_map.mp member
    exact ⟨rfl, lapsed⟩
  constructor
  · intro quiet
    refine Afflictions.get?_tick_of_not_mem fun lapsed => ?_
    have spoken := List.find?_eq_none.mp quiet (combatant.conditionEvent codex condition 0 .removed)
    refine spoken (List.mem_reverse.mpr (List.mem_filter.mpr ⟨?_, ?_⟩)) ?_
    · exact List.mem_map_of_mem lapsed
    · simp [conditionEvent]
    · simp [conditionEvent]
  · intro event spoken
    have named : event.condition = condition := by simpa using List.find?_some spoken
    have member := List.mem_of_mem_filter (List.mem_reverse.mp (List.mem_of_find?_eq_some spoken))
    obtain ⟨removed, lapsed⟩ := ended event member
    exact .removed removed (Afflictions.get?_tick_of_mem (named ▸ lapsed))

/-- A check that leaves a combatant dying tells the stack that is due, which may be capped. -/
theorem holds_worse {codex : Codex} {known : Condition}
    (entered : codex.get? Condition.dying.id = some known) (combatant : Combatant)
    {set : Afflictions}
    (few : ¬ deathStacks ≤ set.stackOf Condition.dying.id + 1) :
    Holds codex (combatant.conditionEvent codex Condition.dying.id
        (set.stackOf Condition.dying.id + 1) .applied)
      (some (.new known (set.stackOf Condition.dying.id + 1) none)) := by
  have one := Count.toNat_one
  have due := Count.toNat_add (set.stackOf Condition.dying.id) 1
  have some : 1 ≤ set.stackOf Condition.dying.id + 1 := by
    rw [Count.le_iff, due, one]
    omega
  have stack := Affliction.stack_new known some none
  -- The entry is made anew with the stack that is told, and then cut at the cap.
  by_cases fits : set.stackOf Condition.dying.id + 1 ≤ known.cap
  · refine .applied rfl rfl (stack.trans ?_)
    ext
    rw [Count.toNat_min]
    exact Nat.min_eq_left fits
  · refine .capped rfl rfl rfl entered (Nat.not_le.mp few) (Nat.not_le.mp fits) (stack.trans ?_)
    ext
    rw [Count.toNat_min]
    exact Nat.min_eq_right (Nat.le_of_not_le fits)

/-- What is told of a check is true of the conditions that it leaves. -/
theorem recover_tells {codex : Codex} (keyed : codex.Keyed)
    (dying : codex.contains Condition.dying.id = true)
    (wounded : codex.contains Condition.wounded.id = true) (combatant : Combatant)
    (set : Afflictions) (roll : Score) (condition : String) :
    Tells codex combatant.id condition (combatant.recover set codex roll).events
      (set.get? condition) ((combatant.recover set codex roll).afflictions.get? condition) := by
  obtain ⟨dyingKnown, dyingEntered⟩ := Option.isSome_iff_exists.mp dying
  obtain ⟨woundedKnown, woundedEntered⟩ := Option.isSome_iff_exists.mp wounded
  have erased : (Table.erase set Condition.dying.id).get? Condition.dying.id = none := by
    rw [Table.get?_erase, if_pos rfl]
  have kept (other : condition ≠ Condition.dying.id) :
      (Table.erase set Condition.dying.id).get? condition = set.get? condition := by
    rw [Table.get?_erase, if_neg other]
  -- Dying ends in three of the four cases.
  have ends (stack : Count) : Tells codex combatant.id condition
      [combatant.conditionEvent codex Condition.dying.id stack .removed] (set.get? condition)
      ((Table.erase set Condition.dying.id).get? condition) := by
    refine .single rfl (fun same => ?_) kept
    exact .removed rfl (same ▸ erased)
  unfold recover
  dsimp only
  split
  · exact ends 0
  · split
    -- The wound is told with the stacks that it has afterwards.
    · refine .append (ends 0) (.single rfl (fun same => ?_) fun other => ?_)
      · have entry := Afflictions.get?_apply (Table.erase set Condition.dying.id) woundedKnown 1
          none woundedKnown.id
        rw [if_pos rfl, keyed _ _ woundedEntered] at entry
        cases same
        simp only [Afflictions.applyKnown, woundedEntered]
        exact .applied rfl entry (Afflictions.stackOf_of_entry entry).symm
      · exact Afflictions.get?_applyKnown_of_ne keyed _ other 1
    · split
      · exact ends deathStacks
      -- Dying is told with the stacks that are due, before the codex caps them.
      next few =>
        refine .single rfl (fun same => ?_) fun other => ?_
        · obtain rfl : condition = Condition.dying.id := same
          simp only [Afflictions.applyKnown, dyingEntered]
          rw [Afflictions.get?_apply_new (keyed _ _ dyingEntered) erased]
          exact holds_worse dyingEntered combatant few
        · exact (Afflictions.get?_applyKnown_of_ne keyed _ other _).trans (kept other)

/-- The entry of a condition as the opening of a round finds it, counted down unless on the dead. -/
def countedDown (combatant : Combatant) (entry : Option Affliction) : Option Affliction :=
  if combatant.isDead then entry else entry.map Affliction.countdown

theorem Opens.tells {codex : Codex} (keyed : codex.Keyed)
    (dying : codex.contains Condition.dying.id = true)
    (wounded : codex.contains Condition.wounded.id = true) {combatant : Combatant}
    {set : Afflictions} {opening : Opening} (opens : combatant.Opens codex set opening)
    (condition : String) :
    Tells codex combatant.id condition opening.events (combatant.countedDown (set.get? condition))
      (opening.afflictions.get? condition) := by
  cases opens with
  | dead gone =>
    rw [countedDown, if_pos gone]
    exact ⟨fun _ => rfl, fun _ never => by cases never⟩
  | counted alive _ =>
    rw [countedDown, alive]
    exact combatant.tick_tells codex set condition
  | checked alive _ roll =>
    rw [countedDown, alive]
    exact (combatant.tick_tells codex set condition).append
      (combatant.recover_tells keyed dying wounded set.tick.2 roll condition)

end Combatant

/-! ### All combatants -/

/-- Definitions replace each other, but none is taken out. -/
theorem Codex.contains_registerAll {codex : Codex} (conditions : List Condition) {id : String}
    (inside : codex.contains id = true) : (codex.registerAll conditions).contains id = true := by
  induction conditions generalizing codex with
  | nil => exact inside
  | cons first rest ih =>
    refine ih ?_
    rw [Codex.register, Table.contains_insert, inside, Bool.or_true]

namespace Encounter

/-- Where names are distinct, what is told of a combatant comes from its own opening. -/
private theorem own_of_each {treated : Combatant → Opening → Prop}
    (names : ∀ combatant opening, treated combatant opening →
      ∀ event ∈ opening.events, event.combatant = combatant.id)
    {roster : List Combatant} {openings : List Opening}
    (each : List.Forall₂ treated roster openings)
    (distinct : (roster.map Combatant.id).Nodup) {combatant : Combatant}
    (member : combatant ∈ roster) :
    ∃ opening, treated combatant opening ∧
      about combatant.id (openings.flatMap Opening.events) = opening.events := by
  induction each with
  | nil => cases member
  | @cons first opening roster openings treats rest ih =>
    obtain ⟨fresh, distinct⟩ := List.nodup_cons.mp distinct
    rw [List.flatMap_cons]
    rcases List.mem_cons.mp member with rfl | inside
    · refine ⟨opening, treats, ?_⟩
      -- An event of a later one with this name would make two of the name.
      have apart : ∀ event ∈ openings.flatMap Opening.events, event.combatant ≠ combatant.id := by
        intro event told same
        obtain ⟨later, listed, told⟩ := List.mem_flatMap.mp told
        obtain ⟨other, seated, treated⟩ := exists_of_mem_right rest listed
        have twin : other.id = combatant.id := (names _ _ treated event told).symm.trans same
        exact fresh (List.mem_map.mpr ⟨other, seated, twin⟩)
      rw [about_append, about_own (names _ _ treats), about_others apart, List.append_nil]
    · obtain ⟨own, treated, told⟩ := ih distinct inside
      refine ⟨own, treated, ?_⟩
      have apart : ∀ event ∈ opening.events, event.combatant ≠ combatant.id := by
        intro event member same
        have twin := same.symm.trans (names _ _ treats event member)
        exact fresh (List.mem_map.mpr ⟨combatant, inside, twin⟩)
      rw [about_append, about_others apart, told, List.nil_append]

theorem OpensAll.own {codex : Codex} {roster : List Combatant} {afflictions : Table Afflictions}
    {opened : Opened} {openings : List Opening}
    (all : OpensAll codex roster afflictions opened openings)
    (distinct : (roster.map Combatant.id).Nodup) {combatant : Combatant}
    (member : combatant ∈ roster) :
    ∃ opening, combatant.Opens codex (afflictions.conditionsOf combatant.id) opening ∧
      opened.afflictions.conditionsOf combatant.id = opening.afflictions ∧
      about combatant.id opened.events = opening.events := by
  obtain ⟨opening, ⟨opens, conditions⟩, told⟩ :=
    own_of_each (fun _ _ treated => treated.1.names) all.each distinct member
  exact ⟨opening, opens, conditions, all.events ▸ told⟩

variable {encounter : Encounter}

/-- Where names are distinct, the events of an opening are true of everybody. -/
theorem openRound_tells (keyed : encounter.codex.Keyed)
    (dying : encounter.codex.contains Condition.dying.id = true)
    (wounded : encounter.codex.contains Condition.wounded.id = true)
    (distinct : encounter.ids.Nodup) (points : Count) :
    Always (fun result => ∀ combatant ∈ encounter.combatants, ∀ condition,
        Tells encounter.codex combatant.id condition result.1
          (combatant.countedDown (encounter.affliction? combatant.id condition))
          (result.2.affliction? combatant.id condition))
      (encounter.openRound points) := by
  unfold openRound
  rw [always_bind]
  refine (openAll_opens _ _ encounter.afflictions distinct).mono fun opened some => ?_
  obtain ⟨openings, all⟩ := some
  intro combatant member condition
  obtain ⟨opening, opens, conditions, told⟩ := all.own distinct member
  have tells := opens.tells keyed dying wounded condition
  rw [← conditions] at tells
  refine tells.of_about (told.trans (about_own ?_).symm)
  exact opens.names

/--
The events that open a round are true in every reachable encounter whose combatants have
distinct names, with any conditions defined over the built-in ones and for any source. A
condition that no event is about is as it was, apart from one round less on the living.
If the last event about it says that it was removed, then it is gone; if it says that it
was applied with some stacks, then it is there with exactly these. The one exception is
dying in a codex that caps it below three: after a failed check the event tells the stack
that is due, and the entry has as many as the cap allows.
-/
theorem Reached.openRound_truthful {setup : Setup} {definitions : List Condition}
    {reports : List (String × Count)}
    (codex : setup.codex = Codex.core.registerAll definitions)
    (distinct : (setup.combatants.map Combatant.id).Nodup)
    (reached : Reached setup reports encounter) (points : Count) :
    Always (fun result => ∀ combatant ∈ encounter.combatants, ∀ condition,
        Tells encounter.codex combatant.id condition result.1
          (combatant.countedDown (encounter.affliction? combatant.id condition))
          (result.2.affliction? combatant.id condition))
      (encounter.openRound points) := by
  have known : encounter.codex = Codex.core.registerAll definitions :=
    reached.same.2.trans codex
  -- The built-in conditions may be defined anew, but they stay defined.
  have dying : encounter.codex.contains Condition.dying.id = true := by
    rw [known]
    apply Codex.contains_registerAll
    exact congrArg Option.isSome Codex.core_dying
  have wounded : encounter.codex.contains Condition.wounded.id = true := by
    rw [known]
    apply Codex.contains_registerAll
    exact congrArg Option.isSome Codex.core_wounded
  have keyed : encounter.codex.Keyed := known ▸ Codex.keyed_registerAll Codex.core_keyed definitions
  exact openRound_tells keyed dying wounded (reached.distinct distinct) points

/-! ### Two patients -/

/-- A fight in which some conditions are defined anew. -/
def sampleWard (definitions : List Condition) : Setup :=
  { room := "cellar"
    zone := "house"
    combatants := [
      { id := "ann", name := "Ann", side := .player, maxHp := 6, hp := 6, armorClass := 12 },
      { id := "rat", name := "Rat", side := .npc, maxHp := 30, hp := 30, armorClass := 9 }]
    codex := Codex.core.registerAll definitions }

def sampleWounds : Condition := { Condition.wounded with maxStacks := 2 }

/-- Ann is dying with two wounds, and flat-footed for a round. -/
def sampleHarm : List Request := [.afflict "ann" "dying" 1 none, .afflict "ann" "wounded" 2 none,
  .afflict "ann" "flat_footed" 1 (some 1)]

def sampleHarmed : Encounter :=
  ((play sampleHarm (begin (sampleWard [sampleWounds]))).run (⟨15⟩ : Fixed)).1

/-- One more wound than the codex allows is told as it is stored. -/
theorem openRound_truthful_sample :
    let opened := ((sampleHarmed.openRound 3).run (⟨15⟩ : Fixed)).1
    (sampleWard [sampleWounds]).codex = Codex.core.registerAll [sampleWounds] ∧
    ((sampleWard [sampleWounds]).combatants.map Combatant.id).Nodup ∧
    (∃ reports, Reached (sampleWard [sampleWounds]) reports sampleHarmed) ∧
    (∃ ann ∈ sampleHarmed.combatants, ann.id = "ann") ∧
    opened.1.map (fun event => (event.condition, event.stack, event.change))
      = [("flat_footed", 0, .removed), ("dying", 0, .removed), ("wounded", 2, .applied)] ∧
    ∃ affliction, opened.2.affliction? "ann" "wounded" = some affliction ∧
      affliction.stack = 2 := by
  intro opened
  have distinct : ((sampleWard [sampleWounds]).combatants.map Combatant.id).Nodup := by decide
  have arrived : ∃ reports, Reached (sampleWard [sampleWounds]) reports sampleHarmed :=
    reached_play _ sampleHarm (⟨15⟩ : Fixed)
  obtain ⟨reports, reached⟩ := arrived
  have listed : ∃ ann ∈ sampleHarmed.combatants, ann.id = "ann" := by decide +kernel
  have spoken : (last? "ann" "wounded" opened.1).map
      (fun event => (event.condition, event.stack, event.change))
        = some ("wounded", 2, .applied) := by decide +kernel
  obtain ⟨event, last, facts⟩ := Option.map_eq_some_iff.mp spoken
  simp only [Prod.mk.injEq] at facts
  obtain ⟨condition, stack, applied⟩ := facts
  obtain ⟨ann, member, named⟩ := listed
  have tells := (reached.openRound_truthful rfl distinct 3).run (⟨15⟩ : Fixed) ann member "wounded"
  rw [named] at tells
  refine ⟨rfl, distinct, ⟨reports, reached⟩, ⟨ann, member, named⟩, by decide +kernel, ?_⟩
  -- A wound was applied, so of the three ways to be true only the second is left.
  cases tells.told event last with
  | removed change _ => rw [applied] at change; cases change
  | applied _ here same => exact ⟨_, here, same.trans stack⟩
  | capped _ _ dying _ _ _ _ => rw [condition] at dying; exact absurd dying (by decide)

/-- Dying that stacks twice only. -/
def sampleFaint : Condition := { Condition.dying with maxStacks := 2 }

def sampleFainted : Encounter :=
  ((play [.afflict "ann" "dying" 2 none] (begin (sampleWard [sampleFaint]))).run (⟨0⟩ : Fixed)).1

/-- A failed check tells of a third stack that the codex does not allow. -/
theorem openRound_truthful_capped :
    let opened := ((sampleFainted.openRound 3).run (⟨0⟩ : Fixed)).1
    (sampleWard [sampleFaint]).codex = Codex.core.registerAll [sampleFaint] ∧
    ((sampleWard [sampleFaint]).combatants.map Combatant.id).Nodup ∧
    (∃ reports, Reached (sampleWard [sampleFaint]) reports sampleFainted) ∧
    (last? "ann" "dying" opened.1).map (fun event => (event.change, event.stack))
      = some (.applied, 3) ∧
    (opened.2.affliction? "ann" "dying").map Affliction.stack = some 2 := by
  refine ⟨rfl, by decide, ?_, by decide +kernel, by decide +kernel⟩
  exact reached_play _ _ (⟨0⟩ : Fixed)

end Encounter

end Fray
