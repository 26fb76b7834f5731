import Fray.Proofs.Round.Course

/-!
# The frame of a round

Resolving a round leaves alone who fights: the combatants, apart from their hit
points and loadouts, and everything that belongs to the encounter as a whole,
its queues among it. Conditions come and go, but everybody keeps a set of them.

## Main result

`resolve_framed`: what holds of a step by `Step.framed` holds of every resolution.
-/

namespace Fray

open Draws

namespace Combatant

/-- A combatant apart from what a round changes: its hit points and the rounds that are loaded. -/
def profile (combatant : Combatant) : Combatant :=
  { combatant with
    hp := 0
    loadout := combatant.loadout.withMagazine fun magazine => { magazine with loaded := 0 } }

theorem profile_reload (combatant : Combatant) :
    profile { combatant with loadout := combatant.loadout.reload } = combatant.profile := by
  simp [profile, Loadout.reload, Loadout.withMagazine, Magazine.reload, Function.comp_def]

theorem profile_fire (combatant : Combatant) :
    profile { combatant with loadout := combatant.loadout.fire } = combatant.profile := by
  simp [profile, Loadout.fire, Loadout.withMagazine, Function.comp_def]

end Combatant

/-- The names of the combatants, in initiative order. -/
abbrev Encounter.ids (encounter : Encounter) : List String :=
  encounter.combatants.map Combatant.id

/-- Where names are distinct, two combatants of one name stand at one position. -/
theorem Encounter.index_eq_of_id {encounter : Encounter} (distinct : encounter.ids.Nodup)
    {one other : Nat} {first second : Combatant} (here : encounter.combatants[one]? = some first)
    (there : encounter.combatants[other]? = some second) (same : first.id = second.id) :
    one = other := by
  obtain ⟨inside, _⟩ := List.getElem?_eq_some_iff.mp here
  refine (List.getElem?_inj (by simpa using inside) distinct).mp ?_
  simp only [ids, List.getElem?_map, here, there, Option.map_some, same]

/-- One encounter comes from another without a change to what belongs to it as a whole. -/
structure Encounter.Framed (before after : Encounter) : Prop where
  room : after.room = before.room
  zone : after.zone = before.zone
  profiles : after.combatants.map Combatant.profile = before.combatants.map Combatant.profile
  cursor : after.cursor = before.cursor
  round : after.round = before.round
  isOver : after.isOver = before.isOver
  queues : after.queues = before.queues
  afflicted : ∀ id, after.afflictions.contains id = before.afflictions.contains id
  codex : after.codex = before.codex
  inventory : after.inventory = before.inventory
  hooks : after.hooks = before.hooks
  dice : after.dice = before.dice

namespace Encounter

theorem Framed.refl (encounter : Encounter) : Framed encounter encounter :=
  ⟨rfl, rfl, rfl, rfl, rfl, rfl, rfl, fun _ => rfl, rfl, rfl, rfl, rfl⟩

theorem Framed.trans {first second third : Encounter} (one : Framed first second)
    (two : Framed second third) : Framed first third where
  room := two.room.trans one.room
  zone := two.zone.trans one.zone
  profiles := two.profiles.trans one.profiles
  cursor := two.cursor.trans one.cursor
  round := two.round.trans one.round
  isOver := two.isOver.trans one.isOver
  queues := two.queues.trans one.queues
  afflicted id := (two.afflicted id).trans (one.afflicted id)
  codex := two.codex.trans one.codex
  inventory := two.inventory.trans one.inventory
  hooks := two.hooks.trans one.hooks
  dice := two.dice.trans one.dice

/-- The combatants keep their names for the encounter. -/
theorem Framed.ids {before after : Encounter} (framed : Framed before after) :
    after.ids = before.ids := by
  have same := congrArg (List.map Combatant.id) framed.profiles
  simpa only [List.map_map, Function.comp_def, Combatant.profile] using same

theorem Framed.profile_at {before after : Encounter} (framed : Framed before after) (index : Nat) :
    (after.combatants[index]?).map Combatant.profile
      = (before.combatants[index]?).map Combatant.profile := by
  simpa only [List.getElem?_map] using congrArg (·[index]?) framed.profiles

/-- Whoever stands somewhere stood there before, with the same profile. -/
theorem Framed.stood {before after : Encounter} (framed : Framed before after) {index : Nat}
    {combatant : Combatant} (found : after.combatants[index]? = some combatant) :
    ∃ self, before.combatants[index]? = some self ∧ self.profile = combatant.profile := by
  have place := framed.profile_at index
  rw [found] at place
  exact Option.map_eq_some_iff.mp place.symm

/-! ### Single changes -/

theorem consult_framed (encounter : Encounter) (hook : String) (args : List HookValue) :
    Framed encounter (encounter.consult hook args).2 :=
  ⟨rfl, rfl, rfl, rfl, rfl, rfl, rfl, fun _ => rfl, rfl, rfl, rfl, rfl⟩

theorem changeAt_framed (encounter : Encounter) (index : Nat) {change : Combatant → Combatant}
    (keeps : ∀ combatant, (change combatant).profile = combatant.profile) :
    Framed encounter (encounter.changeAt index change) where
  room := rfl
  zone := rfl
  profiles := by
    refine List.ext_getElem? fun position => ?_
    simp only [changeAt, List.getElem?_map, List.getElem?_modify]
    cases encounter.combatants[position]? with
    | none => rfl
    | some combatant =>
      simp only [Option.map_eq_map, Option.map_some]
      split
      · exact congrArg some (keeps combatant)
      · rfl
  cursor := rfl
  round := rfl
  isOver := rfl
  queues := rfl
  afflicted _ := rfl
  codex := rfl
  inventory := rfl
  hooks := rfl
  dice := rfl

theorem afflict_framed {encounter afflicted : Encounter} {id condition : String} {stack : Count}
    {duration : Option Count}
    (accepted : encounter.afflict id condition stack duration = .ok afflicted) :
    Framed encounter afflicted := by
  unfold afflict at accepted
  split at accepted
  · cases accepted
  · split at accepted
    · cases accepted
    next set known =>
      cases accepted
      refine { Framed.refl encounter with afflicted := fun other => ?_ }
      simp only [Table.contains, Table.get?_insert]
      split
      next same => rw [same, known]; rfl
      · rfl

theorem afflictIfAllowed_framed (encounter : Encounter) (id condition : String) (stack : Count)
    (duration : Option Count) :
    Framed encounter (encounter.afflictIfAllowed id condition stack duration) := by
  have asked := consult_framed encounter Hooks.onConditionApply
    [.text id, .text condition, .ofCount stack]
  simp only [afflictIfAllowed]
  split
  · exact asked
  · split
    next afflicted accepted => exact asked.trans (afflict_framed accepted)
    · exact asked

theorem beginDying_framed (encounter : Encounter) (target : Nat) :
    Framed encounter (encounter.beginDying target) := by
  unfold beginDying
  split
  · exact .refl _
  · split
    · exact afflictIfAllowed_framed ..
    · exact .refl _

theorem afterSwing_framed (encounter : Encounter) (attacker target : Combatant)
    (outcome : Outcome) : Framed encounter (encounter.afterSwing attacker target outcome) := by
  cases outcome with
  | criticalFailure => exact afflictIfAllowed_framed ..
  | criticalSuccess => exact afflictIfAllowed_framed ..
  | success => exact .refl _
  | failure => exact .refl _

end Encounter

namespace Scene

open Encounter

theorem hurt_framed (scene : Scene) (target : Nat) (damage : Score) :
    Framed scene.encounter (scene.hurt target damage).encounter := by
  unfold hurt
  split
  · exact .refl _
  · split
    · exact .refl _
    · exact changeAt_framed _ _ fun _ => rfl

theorem Step.framed {before after : Scene} (step : Step before after) :
    Framed before.encounter after.encounter := by
  cases step with
  | ask hook args => exact consult_framed ..
  | reload index => exact changeAt_framed _ _ Combatant.profile_reload
  | fire index => exact changeAt_framed _ _ Combatant.profile_fire
  | hit damage _ => exact (hurt_framed ..).trans (beginDying_framed ..)
  | swing damage outcome _ _ _ =>
    exact ((hurt_framed ..).trans (afterSwing_framed ..)).trans (beginDying_framed ..)

theorem Reaches.framed {before after : Scene} (reached : Reaches before after) :
    Framed before.encounter after.encounter := by
  induction reached with
  | refl => exact .refl _
  | tail _ step ih => exact ih.trans step.framed

end Scene

theorem Encounter.resolve_framed (encounter : Encounter) :
    Always (fun resolution => Framed encounter resolution.encounter) encounter.resolve :=
  encounter.resolve_reaches.mono fun _ reached => reached.framed

end Fray
