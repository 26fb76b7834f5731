import Fray.Round
import Mathlib.Logic.Relation

/-!
# The steps of a round

Whatever the combatants do, resolving a round changes an encounter in a few ways
only: a hook is asked, a magazine is filled or used, a living combatant is hit,
or it is hit in a melee that leaves a condition behind. A property of encounters
is kept by a round if every kind of step keeps it.

## Main results

`land_cases`: between an attack roll and its damage hooks are asked, and nothing
else happens. `Carries.reaches`: a relation that the parts of every step keep is
kept by any number of steps.
-/

namespace Fray

open Draws

/-! ### Who is where -/

namespace Encounter

/-- As many positions pass a test as elements do. -/
theorem countP_range_getElem? {α : Type} (xs : List α) (test : α → Bool) :
    (List.range xs.length).countP (fun index => (xs[index]?).any test) = xs.countP test := by
  induction xs with
  | nil => rfl
  | cons x xs ih =>
    rw [List.length_cons, List.range_succ_eq_map, List.countP_cons, List.countP_map,
      List.countP_cons, ← ih]
    rfl

theorem isDeadAt_eq_false {encounter : Encounter} {index : Nat} :
    encounter.isDeadAt index = false ↔
      ∃ combatant, encounter.combatants[index]? = some combatant ∧ combatant.isDead = false := by
  unfold isDeadAt
  cases encounter.combatants[index]? <;> simp

theorem isDeadAt_of_firstLiving {encounter : Encounter} {test : Combatant → Bool} {index : Nat}
    (found : encounter.firstLiving test = some index) : encounter.isDeadAt index = false := by
  obtain ⟨inside, passes, _⟩ := List.findIdx?_eq_some_iff_getElem.mp found
  simp only [Bool.and_eq_true, Combatant.isAlive, Bool.not_eq_true'] at passes
  exact isDeadAt_eq_false.mpr ⟨_, List.getElem?_eq_getElem inside, passes.1⟩

theorem isDeadAt_of_mem_opponents {encounter : Encounter} {actor target : Nat}
    (member : target ∈ encounter.opponents actor) : encounter.isDeadAt target = false := by
  unfold opponents at member
  split at member
  · simp at member
  · simp only [List.mem_filter, Option.any_eq_true, Bool.and_eq_true, Combatant.isAlive,
      Bool.not_eq_true'] at member
    obtain ⟨_, combatant, at_, ⟨_, alive⟩, _⟩ := member
    exact isDeadAt_eq_false.mpr ⟨combatant, at_, alive⟩

theorem nodup_opponents (encounter : Encounter) (actor : Nat) :
    (encounter.opponents actor).Nodup := by
  unfold opponents
  split
  · exact List.nodup_nil
  · exact List.nodup_range.filter _

/-! ### What conditions leave alone -/

@[simp] theorem combatants_consult (encounter : Encounter) (hook : String)
    (args : List HookValue) :
    (encounter.consult hook args).2.combatants = encounter.combatants := rfl

theorem combatants_of_afflict {encounter afflicted : Encounter} {id condition : String}
    {stack : Count} {duration : Option Count}
    (accepted : encounter.afflict id condition stack duration = .ok afflicted) :
    afflicted.combatants = encounter.combatants := by
  unfold afflict at accepted
  split at accepted
  · cases accepted
  · split at accepted
    · cases accepted
    · cases accepted
      rfl

@[simp] theorem combatants_afflictIfAllowed (encounter : Encounter) (id condition : String)
    (stack : Count) (duration : Option Count) :
    (encounter.afflictIfAllowed id condition stack duration).combatants = encounter.combatants := by
  simp only [afflictIfAllowed]
  split
  · rfl
  · split
    next afflicted accepted => exact (combatants_of_afflict accepted).trans (combatants_consult ..)
    next => rfl

@[simp] theorem combatants_beginDying (encounter : Encounter) (target : Nat) :
    (encounter.beginDying target).combatants = encounter.combatants := by
  unfold beginDying
  split
  · rfl
  · split
    · exact combatants_afflictIfAllowed ..
    · rfl

@[simp] theorem combatants_afterSwing (encounter : Encounter) (attacker target : Combatant)
    (outcome : Outcome) :
    (encounter.afterSwing attacker target outcome).combatants = encounter.combatants := by
  cases outcome with
  | criticalFailure => exact combatants_afflictIfAllowed ..
  | criticalSuccess => exact combatants_afflictIfAllowed ..
  | success => rfl
  | failure => rfl

end Encounter

namespace Scene

open Encounter

/-! ### The kinds of step -/

/-- One thing that an action does to a scene. -/
inductive Step : Scene → Scene → Prop
  | ask (scene : Scene) (hook : String) (args : List HookValue) :
      Step scene (scene.within fun encounter => (encounter.consult hook args).2)
  | reload (scene : Scene) (index : Nat) :
      Step scene (scene.within
        (·.changeAt index fun self => { self with loadout := self.loadout.reload }))
  | fire (scene : Scene) (index : Nat) :
      Step scene (scene.within
        (·.changeAt index fun self => { self with loadout := self.loadout.fire }))
  | hit {scene : Scene} {target : Nat} (damage : Score)
      (alive : scene.encounter.isDeadAt target = false) :
      Step scene ((scene.hurt target damage).within (·.beginDying target))
  | swing {scene : Scene} {actor target : Nat} {attacker defender : Combatant}
      (damage : Score) (outcome : Outcome)
      (attackerAt : scene.encounter.combatants[actor]? = some attacker)
      (defenderAt : scene.encounter.combatants[target]? = some defender)
      (alive : defender.isDead = false) :
      Step scene ((scene.hurt target damage).within fun encounter =>
        (encounter.afterSwing attacker defender outcome).beginDying target)

abbrev Reaches : Scene → Scene → Prop := Relation.ReflTransGen Step

/-- A relation that holds over each part of a step, if a guard holds before it. -/
structure Carries (guard : Encounter → Prop) (related : Encounter → Encounter → Prop) :
    Prop where
  refl : ∀ encounter, guard encounter → related encounter encounter
  trans : ∀ {first second third : Encounter},
    related first second → related second third → related first third
  guarded : ∀ {before after : Encounter}, guard before → related before after → guard after
  ask : ∀ {encounter : Encounter}, guard encounter → ∀ hook args,
    related encounter (encounter.consult hook args).2
  reload : ∀ {encounter : Encounter}, guard encounter → ∀ index,
    related encounter
      (encounter.changeAt index fun self => { self with loadout := self.loadout.reload })
  fire : ∀ {encounter : Encounter}, guard encounter → ∀ index,
    related encounter
      (encounter.changeAt index fun self => { self with loadout := self.loadout.fire })
  hurt : ∀ {scene : Scene}, guard scene.encounter → ∀ target damage,
    related scene.encounter (scene.hurt target damage).encounter
  swing : ∀ {encounter : Encounter}, guard encounter → ∀ attacker defender outcome,
    related encounter (encounter.afterSwing attacker defender outcome)
  die : ∀ {encounter : Encounter}, guard encounter → ∀ target,
    related encounter (encounter.beginDying target)

section Carries

variable {guard : Encounter → Prop} {related : Encounter → Encounter → Prop}
  {before after : Scene}

theorem Carries.step (carries : Carries guard related) (step : Step before after)
    (holds : guard before.encounter) : related before.encounter after.encounter := by
  cases step with
  | ask hook args => exact carries.ask holds hook args
  | reload index => exact carries.reload holds index
  | fire index => exact carries.fire holds index
  | @hit target damage _ =>
    have hurt := carries.hurt holds target damage
    exact carries.trans hurt (carries.die (carries.guarded holds hurt) target)
  | @swing _ target attacker defender damage outcome _ _ _ =>
    have hurt := carries.hurt holds target damage
    have left := carries.trans hurt
      (carries.swing (carries.guarded holds hurt) attacker defender outcome)
    exact carries.trans left (carries.die (carries.guarded holds left) target)

theorem Carries.reaches (carries : Carries guard related) (reached : Reaches before after)
    (holds : guard before.encounter) : related before.encounter after.encounter := by
  induction reached with
  | refl => exact carries.refl _ holds
  | tail _ step ih => exact carries.trans ih (carries.step step (carries.guarded holds ih))

/-- What leaving the conditions alone keeps, and applying one of them, is kept by rounds. They
apply no stun. -/
theorem Carries.of_conditions
    (trans : ∀ {first second third : Encounter},
      related first second → related second third → related first third)
    (guarded : ∀ {before after : Encounter}, guard before → related before after → guard after)
    (same : ∀ {before after : Encounter}, guard before → after.codex = before.codex →
      (∀ id, after.afflictionsOf id = before.afflictionsOf id) → related before after)
    (afflicted : ∀ {before after : Encounter} {id condition : String} {stack : Count}
      {duration : Option Count}, guard before → condition ≠ Condition.stunned.id →
        before.afflict id condition stack duration = .ok after → related before after) :
    Carries guard related := by
  have applied {encounter : Encounter} (holds : guard encounter) (id : String) {condition : String}
      (other : condition ≠ Condition.stunned.id) (stack : Count) (duration : Option Count) :
      related encounter (encounter.afflictIfAllowed id condition stack duration) := by
    have asked : related encounter (encounter.consult Hooks.onConditionApply
        [.text id, .text condition, .ofCount stack]).2 := same holds rfl fun _ => rfl
    simp only [afflictIfAllowed]
    split
    · exact asked
    · split
      next accepted => exact trans asked (afflicted (guarded holds asked) other accepted)
      · exact asked
  refine
    { refl := fun _ holds => same holds rfl fun _ => rfl
      trans := trans
      guarded := guarded
      ask := fun holds _ _ => same holds rfl fun _ => rfl
      reload := fun holds _ => same holds rfl fun _ => rfl
      fire := fun holds _ => same holds rfl fun _ => rfl
      hurt := fun {scene} holds target damage => ?_
      swing := fun {encounter} holds attacker defender outcome => ?_
      die := fun {encounter} holds target => ?_ }
  · unfold Scene.hurt
    split
    · exact same holds rfl fun _ => rfl
    · split
      · exact same holds rfl fun _ => rfl
      · exact same holds rfl fun _ => rfl
  · cases outcome with
    | criticalFailure => exact applied holds _ (by decide) ..
    | criticalSuccess => exact applied holds _ (by decide) ..
    | success | failure => exact same holds rfl fun _ => rfl
  · unfold beginDying
    split
    · exact same holds rfl fun _ => rfl
    · split
      · exact applied holds _ (by decide) ..
      · exact same holds rfl fun _ => rfl

end Carries

/-! ### Attacks -/

theorem attackDamage_reaches (scene : Scene) (attacker target : Combatant) (damage : Score) :
    Reaches scene (scene.attackDamage attacker target damage).2 := by
  unfold attackDamage
  split
  · exact .refl
  · exact .single (.ask scene ..)

theorem attackDamage_same (scene : Scene) (attacker target : Combatant) (damage : Score) :
    let asked := (scene.attackDamage attacker target damage).2
    asked.encounter = { scene.encounter with calls := asked.encounter.calls } ∧
      asked.damage = scene.damage := by
  unfold attackDamage
  split <;> exact ⟨rfl, rfl⟩

/-- Between an attack roll and its damage hooks are asked, and nothing else happens. -/
theorem land_cases (scene : Scene) (attacker target : Combatant) (index : Nat) (attack : Attack) :
    ∃ asked, Reaches scene asked ∧
      asked.encounter = { scene.encounter with calls := asked.encounter.calls } ∧
      asked.damage = scene.damage ∧
      (scene.land attacker target index attack).scene
        = asked.hurt index (scene.land attacker target index attack).damage := by
  have rolled : Reaches scene (scene.attackTotal attacker target attack.total).2 :=
    .single (.ask scene ..)
  refine ⟨_, rolled.trans (attackDamage_reaches ..), ?_, ?_, rfl⟩
  · exact (attackDamage_same ..).1.trans rfl
  · exact (attackDamage_same ..).2

end Scene

end Fray
