import Fray.Proofs.Dying.Hits

/-!
# What a round takes

Step by step the hit points of everybody fall or stay. Dying changes only for a
player who is down, and whoever is down stays so until the round is over. No
condition is applied before a hook was asked, so a hook that always refuses keeps
the conditions of everybody as they are.

## Main results

`resolve_ebbs` and `resolve_heeds`: what a step keeps, every resolution keeps.
-/

namespace Fray

open Draws

/-- A living player without hit points. -/
structure Combatant.IsDown (combatant : Combatant) : Prop where
  player : combatant.isPlayer = true
  alive : combatant.dead = false
  down : combatant.hp = 0

/-- Who is down stays down when nothing but hit points is taken. -/
theorem Combatant.IsDown.later {combatant left : Combatant} (down : combatant.IsDown)
    (same : left.profile = combatant.profile) (less : left.hp ≤ combatant.hp) : left.IsDown := by
  have side : left.side = combatant.side := (congrArg Combatant.side same :)
  have dead : left.dead = combatant.dead := (congrArg Combatant.dead same :)
  constructor
  · rw [isPlayer, side]
    exact down.player
  · rw [dead]
    exact down.alive
  · rw [down.down] at less
    ext
    exact Nat.le_zero.mp less

namespace Encounter

/-! ### Hit points and dying -/

/-- Everybody stands where it stood, with no more hit points, and only those who are down die. -/
structure Ebbs (before after : Encounter) : Prop where
  codex : after.codex = before.codex
  stands : ∀ (index : Nat) (combatant : Combatant), before.combatants[index]? = some combatant →
    ∃ left, after.combatants[index]? = some left ∧ left.profile = combatant.profile ∧
      left.hp ≤ combatant.hp
  dying : ∀ id,
    after.affliction? id Condition.dying.id ≠ before.affliction? id Condition.dying.id →
      ∃ combatant ∈ after.combatants, combatant.id = id ∧ combatant.IsDown

theorem Ebbs.of_same {before after : Encounter} (codex : after.codex = before.codex)
    (combatants : after.combatants = before.combatants)
    (dying : ∀ id, after.affliction? id Condition.dying.id
      = before.affliction? id Condition.dying.id) : Ebbs before after where
  codex := codex
  stands _ combatant found := ⟨combatant, combatants ▸ found, rfl, Nat.le_refl _⟩
  dying id changed := absurd (dying id) changed

theorem Ebbs.trans {first second third : Encounter} (one : Ebbs first second)
    (two : Ebbs second third) : Ebbs first third where
  codex := two.codex.trans one.codex
  stands index combatant found := by
    obtain ⟨middle, there, named, less⟩ := one.stands index combatant found
    obtain ⟨left, here, same, least⟩ := two.stands index middle there
    exact ⟨left, here, same.trans named, Nat.le_trans least less⟩
  dying id changed := by
    by_cases late : third.affliction? id Condition.dying.id
      = second.affliction? id Condition.dying.id
    -- The change came before, and its combatant has not risen since.
    · rw [late] at changed
      obtain ⟨combatant, member, named, down⟩ := one.dying id changed
      obtain ⟨index, there⟩ := List.mem_iff_getElem?.mp member
      obtain ⟨left, here, same, less⟩ := two.stands index combatant there
      have still : left.id = combatant.id := (congrArg Combatant.id same :)
      exact ⟨left, List.mem_of_getElem? here, still.trans named, down.later same less⟩
    · exact two.dying id late

theorem changeAt_ebbs (encounter : Encounter) (index : Nat) {change : Combatant → Combatant}
    (keeps : ∀ combatant, (change combatant).profile = combatant.profile)
    (falls : ∀ combatant, (change combatant).hp ≤ combatant.hp) :
    Ebbs encounter (encounter.changeAt index change) where
  codex := rfl
  stands position combatant found := by
    simp only [changeAt, List.getElem?_modify, found, Option.map_eq_map, Option.map_some,
      Option.some.injEq, exists_eq_left']
    split
    · exact ⟨keeps combatant, falls combatant⟩
    · exact ⟨rfl, Nat.le_refl _⟩
  dying id changed := absurd rfl changed

theorem beginDying_ebbs {encounter : Encounter} (keyed : encounter.codex.Keyed) (target : Nat) :
    Ebbs encounter (encounter.beginDying target) := by
  have stood := combatants_beginDying encounter target
  rcases beginDying_cases encounter target with
    ⟨same, _⟩ | ⟨self, there, player, alive, down, _, begun⟩
  · apply Ebbs.of_same
    · rw [same]
    · exact stood
    · intro id
      rw [same]
  · constructor
    · exact (beginDying_framed encounter target).codex
    · intro index combatant found
      exact ⟨combatant, stood ▸ found, rfl, Nat.le_refl _⟩
    · intro id changed
      by_cases own : id = self.id
      · subst own
        exact ⟨self, stood ▸ List.mem_of_getElem? there, rfl, player, alive, down⟩
      -- The rule applies the condition under one name only.
      · rw [begun] at changed
        exact absurd (affliction?_afflictIfAllowed keyed _ _ _ _ (.inl own)) changed

theorem afterSwing_ebbs {encounter : Encounter} (keyed : encounter.codex.Keyed)
    (attacker target : Combatant) (outcome : Outcome) :
    Ebbs encounter (encounter.afterSwing attacker target outcome) :=
  .of_same (afterSwing_framed ..).codex (combatants_afterSwing ..)
    (affliction?_afterSwing keyed attacker target outcome (by decide))

/-! ### Vetoes -/

/-- Whenever a round asked whether a condition may be applied, the answer was no. -/
def Vetoed (before after : Encounter) : Prop :=
  ∀ call earlier, call :: earlier <:+ after.calls → before.calls <:+ earlier →
    call.hook = Hooks.onConditionApply →
      (before.hooks earlier call).any HookValue.isFalse = true

/-- Calls are added to those that were made before, and vetoes are heeded. -/
structure Heeds (before after : Encounter) : Prop where
  hooks : after.hooks = before.hooks
  calls : before.calls <:+ after.calls
  vetoed : Vetoed before after → after.afflictions = before.afflictions

theorem Heeds.of_same {before after : Encounter} (hooks : after.hooks = before.hooks)
    (calls : before.calls <:+ after.calls) (same : after.afflictions = before.afflictions) :
    Heeds before after := ⟨hooks, calls, fun _ => same⟩

theorem Heeds.refl (encounter : Encounter) : Heeds encounter encounter :=
  .of_same rfl List.suffix_rfl rfl

theorem Heeds.trans {first second third : Encounter} (one : Heeds first second)
    (two : Heeds second third) : Heeds first third where
  hooks := two.hooks.trans one.hooks
  calls := one.calls.trans two.calls
  vetoed vetoed := by
    -- The calls of either part are calls of the whole, and the hooks are the same.
    have late : Vetoed second third := by
      intro call earlier made since
      rw [one.hooks]
      exact vetoed call earlier made (one.calls.trans since)
    have early : Vetoed first second := fun call earlier made =>
      vetoed call earlier (made.trans two.calls)
    exact (two.vetoed late).trans (one.vetoed early)

theorem calls_of_afflict {encounter afflicted : Encounter} {id condition : String} {stack : Count}
    {duration : Option Count}
    (accepted : encounter.afflict id condition stack duration = .ok afflicted) :
    afflicted.calls = encounter.calls := by
  unfold afflict at accepted
  split at accepted
  · cases accepted
  · split at accepted
    · cases accepted
    · cases accepted
      rfl

/-- The hook is asked once, and its veto leaves the conditions alone. -/
theorem afflictIfAllowed_heeds (encounter : Encounter) (id condition : String) (stack : Count)
    (duration : Option Count) :
    Heeds encounter (encounter.afflictIfAllowed id condition stack duration) := by
  let call : HookCall :=
    ⟨encounter.zone, Hooks.onConditionApply, [.text id, .text condition, .ofCount stack]⟩
  have asked : Heeds encounter (encounter.consult call.hook call.args).2 :=
    .of_same rfl (List.suffix_cons ..) rfl
  simp only [afflictIfAllowed]
  split
  · exact asked
  next allowed =>
    split
    next afflicted accepted =>
      have made : afflicted.calls = call :: encounter.calls := calls_of_afflict accepted
      constructor
      · exact (afflict_framed accepted).hooks
      · rw [made]
        exact List.suffix_cons ..
      -- The call was answered with leave, so not every call was refused.
      · intro vetoed
        have refused := vetoed call encounter.calls (made ▸ List.suffix_rfl) List.suffix_rfl rfl
        exact absurd refused allowed
    · exact asked

theorem beginDying_heeds (encounter : Encounter) (target : Nat) :
    Heeds encounter (encounter.beginDying target) := by
  unfold beginDying
  split
  · exact .refl _
  · split
    · exact afflictIfAllowed_heeds ..
    · exact .refl _

theorem afterSwing_heeds (encounter : Encounter) (attacker target : Combatant)
    (outcome : Outcome) : Heeds encounter (encounter.afterSwing attacker target outcome) := by
  cases outcome with
  | criticalFailure | criticalSuccess => exact afflictIfAllowed_heeds ..
  | success | failure => exact .refl _

end Encounter

/-! ### Steps -/

namespace Scene

open Encounter

theorem hurt_ebbs (scene : Scene) (target : Nat) (damage : Score) :
    Ebbs scene.encounter (scene.hurt target damage).encounter := by
  unfold hurt
  split
  · exact .of_same rfl rfl fun _ => rfl
  · split
    · exact .of_same rfl rfl fun _ => rfl
    · exact changeAt_ebbs _ _ (fun _ => rfl) fun _ => Nat.sub_le _ _

theorem hurt_heeds (scene : Scene) (target : Nat) (damage : Score) :
    Heeds scene.encounter (scene.hurt target damage).encounter := by
  unfold hurt
  split
  · exact .refl _
  · split
    · exact .refl _
    · exact .of_same rfl List.suffix_rfl rfl

theorem ebbs_carries : Carries (fun encounter => encounter.codex.Keyed) Ebbs where
  refl _ _ := .of_same rfl rfl fun _ => rfl
  trans := .trans
  guarded keyed ebbs := ebbs.codex ▸ keyed
  ask _ _ _ := .of_same rfl rfl fun _ => rfl
  reload _ index := changeAt_ebbs _ index Combatant.profile_reload fun _ => Nat.le_refl _
  fire _ index := changeAt_ebbs _ index Combatant.profile_fire fun _ => Nat.le_refl _
  hurt _ := hurt_ebbs _
  swing keyed := afterSwing_ebbs keyed
  die keyed := beginDying_ebbs keyed

/-- No guard is needed, since a veto is heeded in any encounter. -/
theorem heeds_carries : Carries (fun _ => True) Heeds where
  refl encounter _ := .refl encounter
  trans := .trans
  guarded _ _ := trivial
  ask _ _ _ := .of_same rfl (List.suffix_cons ..) rfl
  reload _ _ := .of_same rfl List.suffix_rfl rfl
  fire _ _ := .of_same rfl List.suffix_rfl rfl
  hurt _ := hurt_heeds _
  swing _ := afterSwing_heeds _
  die _ := beginDying_heeds _

end Scene

namespace Encounter

theorem resolve_ebbs {encounter : Encounter} (keyed : encounter.codex.Keyed) :
    Always (fun resolution => Ebbs encounter resolution.encounter) encounter.resolve :=
  encounter.resolve_reaches.mono fun _ reached => Scene.ebbs_carries.reaches reached keyed

theorem resolve_heeds (encounter : Encounter) :
    Always (fun resolution => Heeds encounter resolution.encounter) encounter.resolve :=
  encounter.resolve_reaches.mono fun _ reached => Scene.heeds_carries.reaches reached trivial

end Encounter

end Fray
