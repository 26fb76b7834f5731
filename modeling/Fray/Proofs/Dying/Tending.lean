import Fray.Proofs.Dying.Runs
import Fray.Proofs.Round.Ebb

/-!
# Whoever is down is dying

A living player without hit points is dying, whatever else is true of the encounter. The
only exception are players whose maximum of hit points is zero: these have none from the
beginning, though nobody has hit them, and recovery leaves them without.

## Main results

`resolve_tended` and `openRound_tended`: rounds and their openings keep it so.
-/

namespace Fray

open Draws

namespace Combatant

/-- A player who is down, and can be up, is dying; and dying does not end by itself. -/
structure Tended (combatant : Combatant) (set : Afflictions) : Prop where
  dying : combatant.IsDown → 1 ≤ combatant.maxHp → set.has Condition.dying.id = true
  endless : ∀ affliction, set.get? Condition.dying.id = some affliction → affliction.left = none

theorem Tended.of_same {combatant other : Combatant} {set changed : Afflictions}
    (tended : combatant.Tended set) (side : other.side = combatant.side)
    (hp : other.hp = combatant.hp) (dead : other.dead = combatant.dead)
    (maxHp : other.maxHp = combatant.maxHp)
    (dying : changed.get? Condition.dying.id = set.get? Condition.dying.id) :
    other.Tended changed := by
  have has : changed.has Condition.dying.id = set.has Condition.dying.id :=
    congrArg Option.isSome dying
  constructor
  · intro down able
    have player : combatant.isPlayer = true := by
      rw [isPlayer, ← side]
      exact down.player
    rw [has]
    exact tended.dying ⟨player, dead ▸ down.alive, hp ▸ down.down⟩ (maxHp ▸ able)
  · rw [dying]
    exact tended.endless

/-- Where dying is absent, nobody who can be up may be down. -/
theorem tended_of_absent {combatant : Combatant} {set : Afflictions}
    (absent : set.get? Condition.dying.id = none)
    (up : combatant.IsDown → ¬1 ≤ combatant.maxHp) : combatant.Tended set := by
  constructor
  · intro down able
    exact absurd able (up down)
  · intro affliction found
    cases absent.symm.trans found

/-! ### Opening a round -/

theorem setHp_one_up {combatant : Combatant} (down : (combatant.setHp 1).IsDown) :
    ¬1 ≤ combatant.maxHp := by
  intro able
  have none := congrArg Count.toNat down.down
  simp only [setHp, Count.toNat_min] at none
  have one := Count.toNat_one
  have nothing : (0 : Count).toNat = 0 := rfl
  have least := Count.le_iff.mp able
  omega

theorem Tended.recover {combatant : Combatant} {set : Afflictions} {codex : Codex}
    (keyed : codex.Keyed) (known : codex.contains Condition.dying.id = true) (roll : Score) :
    (combatant.recover set codex roll).combatant.Tended
      (combatant.recover set codex roll).afflictions := by
  have erased : (Table.erase set Condition.dying.id).get? Condition.dying.id = none := by
    rw [Table.get?_erase, if_pos rfl]
  -- It recovers, recovers with a wound, dies, or goes on dying.
  simp only [Combatant.recover]
  split
  · exact tended_of_absent erased setHp_one_up
  · split
    · refine tended_of_absent ?_ setHp_one_up
      rw [Afflictions.get?_applyKnown_of_ne keyed _ (by decide)]
      exact erased
    · split
      · exact tended_of_absent erased fun down => absurd down.alive (by simp)
      · obtain ⟨condition, found⟩ := Option.isSome_iff_exists.mp known
        have again := Afflictions.get?_apply_new (keyed _ _ found) erased
          (set.stackOf Condition.dying.id + 1) none
        simp only [Afflictions.applyKnown, found]
        constructor
        · intro _ _
          exact congrArg Option.isSome again
        · intro affliction present
          cases again.symm.trans present
          rfl

theorem Opens.tended {codex : Codex} {combatant : Combatant} {set : Afflictions}
    {opening : Opening} (opens : combatant.Opens codex set opening) (tended : combatant.Tended set)
    (keyed : codex.Keyed) (known : codex.contains Condition.dying.id = true) :
    opening.combatant.Tended opening.afflictions := by
  cases opens with
  | dead _ => exact tended
  | counted _ _ =>
    exact tended.of_same rfl rfl rfl rfl (Afflictions.get?_tick_endless fun affliction found _ =>
      tended.endless affliction found)
  | checked _ _ roll => exact .recover keyed known roll

end Combatant

namespace Encounter

/-- Every player who is down, and can be up, is dying. -/
def Tended (encounter : Encounter) : Prop :=
  ∀ combatant ∈ encounter.combatants, combatant.Tended (encounter.afflictionsOf combatant.id)

theorem begin_tended {setup : Setup} (whole : ∀ combatant ∈ setup.combatants,
    combatant.hp = combatant.maxHp) : (begin setup).Tended := by
  intro combatant member
  rw [afflictionsOf_begin]
  have same := whole combatant ((sortByInitiative_perm _).mem_iff.mp member)
  refine Combatant.tended_of_absent rfl fun down => ?_
  rw [← same, down.down]
  decide

theorem openRound_tended {encounter : Encounter} (ruled : encounter.Ruled)
    (tended : encounter.Tended) (points : Count) :
    Always (fun result => result.2.Tended) (encounter.openRound points) := by
  unfold openRound
  rw [always_bind]
  refine (openAll_opens encounter.codex encounter.combatants encounter.afflictions
    ruled.distinct).mono fun opened each => ?_
  obtain ⟨openings, all⟩ := each
  intro combatant member
  -- Names are distinct, so everybody is treated with its own conditions.
  obtain ⟨before, listed, opening, treated, rfl, conditions⟩ := all.of_mem member
  have still := treated.tended (tended before listed) ruled.keyed ruled.known
  rw [← conditions] at still
  exact still

/-! ### Rounds -/

/-- Nobody stops dying. -/
theorem DiesFrom.has {before after : Encounter} (dies : DiesFrom before after) {id : String}
    (dying : (before.afflictionsOf id).has Condition.dying.id = true) :
    (after.afflictionsOf id).has Condition.dying.id = true := by
  rcases dies.dying id with same | ⟨_, _, _, begun⟩
  · exact (congrArg Option.isSome same).trans dying
  · exact congrArg Option.isSome begun

theorem DiesFrom.endless {before after : Encounter} (dies : DiesFrom before after) {id : String}
    (endless : ∀ affliction, before.affliction? id Condition.dying.id = some affliction →
      affliction.left = none) :
    ∀ affliction, after.affliction? id Condition.dying.id = some affliction →
      affliction.left = none := by
  intro affliction found
  rcases dies.dying id with same | ⟨_, known, _, begun⟩
  · exact endless affliction (same ▸ found)
  · cases begun.symm.trans found
    rfl

/-- The dying rule takes care of the one combatant that was hit. -/
theorem Tended.beginDying {before hit : Encounter} {target : Nat} (tended : before.Tended)
    (ruled : hit.Ruled) (dies : DiesFrom before hit) (framed : Framed before hit)
    (others : ∀ index, index ≠ target → hit.combatants[index]? = before.combatants[index]?) :
    (hit.beginDying target).Tended := by
  have later := dies.trans (beginDying_diesFrom ruled.keyed target)
  intro combatant member
  rw [combatants_beginDying] at member
  obtain ⟨index, found⟩ := List.mem_iff_getElem?.mp member
  constructor
  · intro down able
    by_cases own : index = target
    · subst own
      rcases beginDying_cases hit index with
        ⟨same, spared⟩ | ⟨self, there, _, _, _, well, begun⟩
      · rw [same]
        exact spared combatant found down.player down.alive down.down
      · cases there.symm.trans found
        obtain ⟨known, entered⟩ := Option.isSome_iff_exists.mp ruled.known
        have entry := affliction?_afflictIfAllowed_new ruled.keyed ruled.lenient entered
          (ruled.afflicted found) well
          ((hit.afflictionsOf combatant.id).stackOf Condition.wounded.id + 1) none
        rw [begun]
        exact congrArg Option.isSome entry
    · rw [others index own] at found
      exact later.has ((tended combatant (List.mem_of_getElem? found)).dying down able)
  · obtain ⟨self, there, same⟩ := framed.stood found
    have named : self.id = combatant.id := (congrArg Combatant.id same :)
    rw [← named]
    exact later.endless (tended self (List.mem_of_getElem? there)).endless

/-- A change at one position that leaves hit points alone does not matter. -/
theorem Tended.changeAt {encounter : Encounter} (tended : encounter.Tended) (index : Nat)
    {change : Combatant → Combatant}
    (keeps : ∀ combatant, (change combatant).id = combatant.id ∧
      (change combatant).side = combatant.side ∧ (change combatant).hp = combatant.hp ∧
      (change combatant).dead = combatant.dead ∧ (change combatant).maxHp = combatant.maxHp) :
    (encounter.changeAt index change).Tended := by
  intro combatant member
  obtain ⟨position, found⟩ := List.mem_iff_getElem?.mp member
  simp only [Encounter.changeAt, List.getElem?_modify] at found
  obtain ⟨self, there, changed⟩ := Option.map_eq_some_iff.mp found
  have held := tended self (List.mem_of_getElem? there)
  split at changed
  · subst changed
    obtain ⟨id, side, hp, dead, maxHp⟩ := keeps self
    rw [id]
    exact held.of_same side hp dead maxHp rfl
  · subst changed
    exact held

end Encounter

namespace Scene

open Encounter

theorem hurt_others (scene : Scene) {target index : Nat} (damage : Score)
    (different : index ≠ target) :
    (scene.hurt target damage).encounter.combatants[index]?
      = scene.encounter.combatants[index]? := by
  unfold hurt
  split
  · rfl
  · split
    · rfl
    · exact List.getElem?_modify_ne _ _ (Ne.symm different)

theorem Step.tended {before after : Scene} (step : Step before after)
    (ruled : before.encounter.Ruled) (tended : before.encounter.Tended) :
    after.encounter.Tended := by
  cases step with
  | ask hook args => exact tended
  | reload index => exact tended.changeAt index fun _ => ⟨rfl, rfl, rfl, rfl, rfl⟩
  | fire index => exact tended.changeAt index fun _ => ⟨rfl, rfl, rfl, rfl, rfl⟩
  | @hit target damage _ =>
    have framed := hurt_framed before target damage
    exact tended.beginDying (ruled.framed framed) (hurt_diesFrom ..) framed
      fun index different => before.hurt_others damage different
  | @swing _ target attacker defender damage outcome _ _ _ =>
    have framed := hurt_framed before target damage
    have hurt := ruled.framed framed
    have dies := hurt_diesFrom before target damage
    have left := afterSwing_framed (before.hurt target damage).encounter attacker defender outcome
    refine tended.beginDying (hurt.framed left)
      (dies.trans (afterSwing_diesFrom hurt.keyed attacker defender outcome)) (framed.trans left)
      fun index different => ?_
    rw [combatants_afterSwing]
    exact before.hurt_others damage different

theorem Reaches.tended {before after : Scene} (reached : Reaches before after)
    (ruled : before.encounter.Ruled) (tended : before.encounter.Tended) :
    after.encounter.Tended := by
  induction reached with
  | refl => exact tended
  | tail early step ih => exact step.tended (ruled.framed (Reaches.framed early)) ih

end Scene

theorem Encounter.resolve_tended {encounter : Encounter} (ruled : encounter.Ruled)
    (tended : encounter.Tended) :
    Always (fun resolution => resolution.encounter.Tended) encounter.resolve :=
  encounter.resolve_reaches.mono fun _ reached => Scene.Reaches.tended reached ruled tended

end Fray
