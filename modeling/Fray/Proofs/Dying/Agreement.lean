import Fray.Proofs.Afflictions.Entries
import Fray.Proofs.Encounter.Opening

/-!
# Players at zero hit points are dying

A living player is at zero hit points just if it is dying; a dead one is at zero
and no longer dying; a non-player never is, nor is it ever marked as dead. The
rules keep this agreement between hit points and conditions by adding the
condition after every hit and taking it away in every recovery check.

## Main results

`Agrees.tick` and `Agrees.recover`: a countdown and a recovery check keep the
agreement. `Opens.agrees`: so does the opening of a round, for each combatant by
itself.
-/

namespace Fray

/-! ### Agreement -/

/-- A player is dead if it is marked as dead. -/
theorem Combatant.isDead_of_player {combatant : Combatant} (player : combatant.isPlayer = true) :
    combatant.isDead = combatant.dead := by
  have side : combatant.side = .player := by simpa [isPlayer] using player
  simp only [isDead, side]

/-- Hit points, the mark of death and the dying condition of a combatant agree. -/
structure Combatant.Agrees (combatant : Combatant) (set : Afflictions) : Prop where
  living : combatant.isPlayer = true → combatant.dead = false →
    (combatant.hp = 0 ↔ set.has Condition.dying.id = true)
  gone : combatant.isPlayer = true → combatant.dead = true →
    combatant.hp = 0 ∧ set.has Condition.dying.id = false
  nonPlayer : combatant.isPlayer = false →
    set.has Condition.dying.id = false ∧ combatant.dead = false
  able : 1 ≤ combatant.maxHp
  /-- Dying does not end by itself. -/
  endless : ∀ affliction, set.get? Condition.dying.id = some affliction → affliction.left = none

namespace Combatant

/-- Only these parts of a combatant and its conditions matter. -/
theorem Agrees.of_same {combatant other : Combatant} {set changed : Afflictions}
    (agrees : combatant.Agrees set) (side : other.side = combatant.side)
    (hp : other.hp = combatant.hp) (dead : other.dead = combatant.dead)
    (maxHp : other.maxHp = combatant.maxHp)
    (dying : changed.get? Condition.dying.id = set.get? Condition.dying.id) :
    other.Agrees changed := by
  have has : changed.has Condition.dying.id = set.has Condition.dying.id :=
    congrArg Option.isSome dying
  have player : other.isPlayer = combatant.isPlayer := by rw [isPlayer, isPlayer, side]
  constructor
  · rw [player, hp, dead, has]
    exact agrees.living
  · rw [player, hp, dead, has]
    exact agrees.gone
  · rw [player, dead, has]
    exact agrees.nonPlayer
  · rw [maxHp]
    exact agrees.able
  · rw [dying]
    exact agrees.endless

end Combatant

/-! ### Opening a round -/

namespace Combatant

theorem Agrees.tick {combatant : Combatant} {set : Afflictions} (agrees : combatant.Agrees set) :
    combatant.Agrees set.tick.2 :=
  agrees.of_same rfl rfl rfl rfl (Afflictions.get?_tick_endless fun affliction found _ =>
    agrees.endless affliction found)

/-- Only a player who is down and not dead is dying. -/
theorem Agrees.of_dying {combatant : Combatant} {set : Afflictions} (agrees : combatant.Agrees set)
    (dying : set.has Condition.dying.id = true) :
    combatant.isPlayer = true ∧ combatant.dead = false ∧ combatant.hp = 0 := by
  cases player : combatant.isPlayer with
  | false =>
    rw [(agrees.nonPlayer player).1] at dying
    cases dying
  | true =>
    cases dead : combatant.dead with
    | true =>
      rw [(agrees.gone player dead).2] at dying
      cases dying
    | false => exact ⟨rfl, rfl, (agrees.living player dead).mpr dying⟩

/-- A player who recovers has one hit point and is no longer dying. -/
theorem Agrees.recovered {combatant : Combatant} {set changed : Afflictions}
    (agrees : combatant.Agrees set) (player : combatant.isPlayer = true)
    (alive : combatant.dead = false) (well : changed.get? Condition.dying.id = none) :
    (combatant.setHp 1).Agrees changed := by
  have has : changed.has Condition.dying.id = false := congrArg Option.isSome well
  have hp : (combatant.setHp 1).hp ≠ 0 := by
    have able := Count.le_iff.mp agrees.able
    intro none
    have zero := congrArg Count.toNat none
    simp only [setHp, Count.toNat_min] at zero
    have one := Count.toNat_one
    have nothing : (0 : Count).toNat = 0 := rfl
    omega
  constructor
  · intro _ _
    exact ⟨fun none => absurd none hp, fun dying => by rw [has] at dying; cases dying⟩
  · intro _ dead
    rw [show combatant.dead = true from dead] at alive
    cases alive
  · intro other
    rw [show combatant.isPlayer = false from other] at player
    cases player
  · exact agrees.able
  · intro affliction found
    rw [well] at found
    cases found

/-- A player who is down may have the dying condition in any strength. -/
theorem agrees_of_entry {combatant : Combatant} {set : Afflictions} {affliction : Affliction}
    (able : 1 ≤ combatant.maxHp) (player : combatant.isPlayer = true)
    (alive : combatant.dead = false) (down : combatant.hp = 0)
    (entry : set.get? Condition.dying.id = some affliction)
    (endless : affliction.left = none) : combatant.Agrees set := by
  have has : set.has Condition.dying.id = true := congrArg Option.isSome entry
  constructor
  · intro _ _
    exact ⟨fun _ => has, fun _ => down⟩
  · intro _ dead
    rw [dead] at alive
    cases alive
  · intro other
    rw [other] at player
    cases player
  · exact able
  · intro found same
    cases entry.symm.trans same
    exact endless

/-- A recovery check ends the dying, with life or death, or goes on with it. -/
theorem Agrees.recover {combatant : Combatant} {set : Afflictions} {codex : Codex}
    (agrees : combatant.Agrees set) (keyed : codex.Keyed)
    (known : codex.contains Condition.dying.id = true)
    (dying : set.has Condition.dying.id = true) (roll : Score) :
    (combatant.recover set codex roll).combatant.Agrees
      (combatant.recover set codex roll).afflictions := by
  obtain ⟨player, alive, down⟩ := agrees.of_dying dying
  have erased : (Table.erase set Condition.dying.id).get? Condition.dying.id = none := by
    rw [Table.get?_erase, if_pos rfl]
  -- It recovers, recovers with a wound, dies, or goes on dying.
  simp only [Combatant.recover]
  split
  · exact agrees.recovered player alive erased
  · split
    · refine agrees.recovered player alive ?_
      rw [Afflictions.get?_applyKnown_of_ne keyed _ (by decide)]
      exact erased
    · split
      · have has := congrArg Option.isSome erased
        refine ⟨fun _ dead => ?_, fun _ _ => ⟨rfl, has⟩, fun other => ?_, agrees.able,
          fun _ found => ?_⟩
        · cases dead
        · rw [show combatant.isPlayer = false from other] at player
          cases player
        · cases erased.symm.trans found
      -- The condition is taken and applied anew, so that its stack starts from nothing.
      · obtain ⟨condition, found⟩ := Option.isSome_iff_exists.mp known
        simp only [Afflictions.applyKnown, found]
        have again := Afflictions.get?_apply_new (keyed _ _ found) erased
          (set.stackOf Condition.dying.id + 1) none
        exact agrees_of_entry agrees.able player alive down again rfl

theorem Opens.agrees {codex : Codex} {combatant : Combatant} {set : Afflictions}
    {opening : Opening} (opens : combatant.Opens codex set opening) (agrees : combatant.Agrees set)
    (keyed : codex.Keyed) (known : codex.contains Condition.dying.id = true) :
    opening.combatant.Agrees opening.afflictions := by
  cases opens with
  | dead _ => exact agrees
  | counted _ _ => exact agrees.tick
  | checked _ dying roll => exact agrees.tick.recover keyed known dying roll

end Combatant

end Fray
