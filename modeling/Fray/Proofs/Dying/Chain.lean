import Fray.Proofs.Dying.Agreement

/-!
# The dying chain

A dying combatant makes a check whenever a round is opened. With the built-in
conditions a check ends the dying, in recovery with a wound or in death, or it adds
one stack; the fourth stack of a check is death. Dying begins with one stack more
than there are wounds, and there are three wounds at most.

## Main results

`ByRule.recovers` gives the cases of a check, and `Recovers.fate` what they mean for
a combatant with some stacks and wounds when the die is an honest one.
-/

namespace Fray

/-! ### The built-in conditions -/

theorem Codex.core_keyed : Codex.core.Keyed :=
  Codex.keyed_registerAll (fun _ _ found => by cases found) _

theorem Codex.core_dying : Codex.core.get? Condition.dying.id = some Condition.dying := by
  decide +kernel

theorem Codex.core_wounded : Codex.core.get? Condition.wounded.id = some Condition.wounded := by
  decide +kernel

/-- Up to four stacks of dying are not capped. -/
theorem Affliction.toNat_stack_dying {stack : Count} (least : 1 ≤ stack.toNat)
    (most : stack.toNat ≤ 4) :
    (Affliction.new Condition.dying stack none).stack.toNat = stack.toNat := by
  have four : Condition.dying.maxStacks.toNat = 4 := rfl
  have one := Count.toNat_one
  show (min (max stack 1) Condition.dying.maxStacks).toNat = stack.toNat
  rw [Count.toNat_min, Count.toNat_max, four, one]
  omega

namespace Afflictions

/-- One more wound, of three at most. -/
theorem stackOf_wounded_again {set : Afflictions}
    (wounds : (set.stackOf Condition.wounded.id).toNat ≤ 3)
    (endless : ∀ affliction, set.get? Condition.wounded.id = some affliction →
      affliction.left = none) :
    let worse := set.apply Condition.wounded 1 none
    (worse.stackOf Condition.wounded.id).toNat
        = min 3 ((set.stackOf Condition.wounded.id).toNat + 1) ∧
      ∀ affliction, worse.get? Condition.wounded.id = some affliction → affliction.left = none := by
  have three : Condition.wounded.maxStacks.toNat = 3 := rfl
  have one := Count.toNat_one
  have entry := get?_apply set Condition.wounded 1 none Condition.wounded.id
  rw [if_pos rfl] at entry
  cases found : set.get? Condition.wounded.id with
  -- The first wound is entered as it comes, a later one is added to those that are there.
  | none =>
    rw [found] at entry
    have none : (set.stackOf Condition.wounded.id).toNat = 0 := by
      rw [stackOf, found]
      rfl
    refine ⟨?_, fun affliction same => ?_⟩
    · rw [stackOf_of_entry entry, none]
      rfl
    · cases entry.symm.trans same
      rfl
  | some affliction =>
    rw [found] at entry
    have before := stackOf_of_entry found
    refine ⟨?_, fun again same => ?_⟩
    · rw [stackOf_of_entry entry, before]
      show (min (affliction.stack + 1) Condition.wounded.maxStacks).toNat = _
      rw [before] at wounds
      rw [Count.toNat_min, Count.toNat_add, three, one]
      omega
    · cases entry.symm.trans same
      show longer affliction.left none = none
      rw [endless affliction found]
      rfl

end Afflictions

namespace Combatant

/-! ### One combatant -/

/-- What the rules make of the dying and wounded conditions of a combatant. -/
structure ByRule (combatant : Combatant) (set : Afflictions) : Prop where
  down : set.has Condition.dying.id = true →
    combatant.isPlayer = true ∧ combatant.dead = false ∧ combatant.hp = 0
  /-- One stack more than there are wounds, and checks go on to three. -/
  strength : set.has Condition.dying.id = true →
    1 + (set.stackOf Condition.wounded.id).toNat ≤ (set.stackOf Condition.dying.id).toNat ∧
    (set.stackOf Condition.dying.id).toNat ≤ max 3 (1 + (set.stackOf Condition.wounded.id).toNat)
  wounds : (set.stackOf Condition.wounded.id).toNat ≤ 3
  endless : ∀ id, id = Condition.dying.id ∨ id = Condition.wounded.id →
    ∀ affliction, set.get? id = some affliction → affliction.left = none

/-- Whoever is not dying keeps to the rules with few wounds. -/
theorem byRule_of_well {combatant : Combatant} {set : Afflictions}
    (well : set.get? Condition.dying.id = none)
    (wounds : (set.stackOf Condition.wounded.id).toNat ≤ 3)
    (endless : ∀ affliction, set.get? Condition.wounded.id = some affliction →
      affliction.left = none) : combatant.ByRule set := by
  have has : set.has Condition.dying.id = false := congrArg Option.isSome well
  refine ⟨fun dying => ?_, fun dying => ?_, wounds, ?_⟩
  · rw [has] at dying
    cases dying
  · rw [has] at dying
    cases dying
  · rintro id (rfl | rfl) affliction found
    · rw [well] at found
      cases found
    · exact endless affliction found

/-- Only these parts of a combatant and its conditions matter. -/
theorem ByRule.of_same {combatant other : Combatant} {set changed : Afflictions}
    (rule : combatant.ByRule set) (player : other.isPlayer = combatant.isPlayer)
    (dead : other.dead = combatant.dead) (hp : combatant.hp = 0 → other.hp = 0)
    (same : ∀ id, id = Condition.dying.id ∨ id = Condition.wounded.id →
      changed.get? id = set.get? id) : other.ByRule changed := by
  have dying := same Condition.dying.id (.inl rfl)
  have wounded := same Condition.wounded.id (.inr rfl)
  have has : changed.has Condition.dying.id = set.has Condition.dying.id :=
    congrArg Option.isSome dying
  constructor
  · rw [has, player, dead]
    intro fallen
    obtain ⟨one, two, three⟩ := rule.down fallen
    exact ⟨one, two, hp three⟩
  · rw [has, Afflictions.stackOf_of_get? dying, Afflictions.stackOf_of_get? wounded]
    exact rule.strength
  · rw [Afflictions.stackOf_of_get? wounded]
    exact rule.wounds
  · intro id either
    rw [same id either]
    exact rule.endless id either

theorem ByRule.tick_same {combatant : Combatant} {set : Afflictions} (rule : combatant.ByRule set)
    (id : String) (either : id = Condition.dying.id ∨ id = Condition.wounded.id) :
    set.tick.2.get? id = set.get? id :=
  Afflictions.get?_tick_endless fun affliction found _ => rule.endless id either affliction found

theorem ByRule.tick {combatant : Combatant} {set : Afflictions} (rule : combatant.ByRule set) :
    combatant.ByRule set.tick.2 :=
  rule.of_same rfl rfl (fun down => down) rule.tick_same

/-- The fourth stack is for those who go down with three wounds. -/
theorem ByRule.lastStack {combatant : Combatant} {set : Afflictions}
    (rule : combatant.ByRule set) :
    set.stackOf Condition.dying.id ≤ deathStacks ∧
    (deathStacks ≤ set.stackOf Condition.dying.id ↔
      set.has Condition.dying.id = true ∧ set.stackOf Condition.wounded.id = 3) := by
  have four : deathStacks.toNat = 4 := rfl
  have three : (3 : Count).toNat = 3 := rfl
  have wounds := rule.wounds
  rw [Count.le_iff, Count.le_iff, Count.ext_iff, four, three]
  cases dying : set.has Condition.dying.id with
  | false =>
    have none : (set.stackOf Condition.dying.id).toNat = 0 := by
      rw [Afflictions.stackOf, Option.not_isSome_iff_eq_none.mp (Bool.eq_false_iff.mp dying)]
      rfl
    simp [none]
  | true =>
    obtain ⟨least, most⟩ := rule.strength dying
    simp only [true_and]
    omega

/-- A player who is down begins to die, or goes on dying, with some number of stacks. -/
theorem ByRule.worse {combatant : Combatant} {set changed : Afflictions} {stack : Count}
    (rule : combatant.ByRule set) (player : combatant.isPlayer = true)
    (alive : combatant.dead = false) (down : combatant.hp = 0)
    (entry : changed.get? Condition.dying.id = some (.new Condition.dying stack none))
    (wounded : changed.get? Condition.wounded.id = set.get? Condition.wounded.id)
    (least : 1 + (set.stackOf Condition.wounded.id).toNat ≤ stack.toNat)
    (most : stack.toNat ≤ max 3 (1 + (set.stackOf Condition.wounded.id).toNat)) :
    combatant.ByRule changed := by
  have depth : (changed.stackOf Condition.dying.id).toNat = stack.toNat := by
    have wounds := rule.wounds
    rw [Afflictions.stackOf_of_entry entry, Affliction.toNat_stack_dying] <;> omega
  refine ⟨fun _ => ⟨player, alive, down⟩, fun _ => ?_, ?_, ?_⟩
  · rw [Afflictions.stackOf_of_get? wounded, depth]
    exact ⟨least, most⟩
  · rw [Afflictions.stackOf_of_get? wounded]
    exact rule.wounds
  · rintro id (rfl | rfl) affliction found
    · rw [entry] at found
      cases found
      rfl
    · rw [wounded] at found
      exact rule.endless _ (.inr rfl) affliction found

/-! ### Recovery checks -/

/-- What a check with a given roll makes of a dying combatant with its conditions. -/
inductive Recovers (combatant : Combatant) (set : Afflictions) (roll : Score) (opening : Opening) :
    Prop
  | well (high : fullRecovery ≤ roll) (up : opening.combatant = combatant.setHp 1)
      (ended : opening.afflictions.get? Condition.dying.id = none)
      (wounded : opening.afflictions.get? Condition.wounded.id = set.get? Condition.wounded.id)
  | wounded (high : recoveryDifficulty ≤ roll) (up : opening.combatant = combatant.setHp 1)
      (ended : opening.afflictions.get? Condition.dying.id = none)
      (wounds : (opening.afflictions.stackOf Condition.wounded.id).toNat
        = min 3 ((set.stackOf Condition.wounded.id).toNat + 1))
      (endless : ∀ affliction, opening.afflictions.get? Condition.wounded.id = some affliction →
        affliction.left = none)
  | died (low : roll < recoveryDifficulty)
      (last : 4 ≤ (set.stackOf Condition.dying.id).toNat + 1)
      (gone : opening.combatant = { combatant with hp := 0, dead := true })
      (ended : opening.afflictions.get? Condition.dying.id = none)
      (wounded : opening.afflictions.get? Condition.wounded.id = set.get? Condition.wounded.id)
  | worse (low : roll < recoveryDifficulty)
      (more : (set.stackOf Condition.dying.id).toNat + 1 < 4)
      (still : opening.combatant = combatant)
      (entry : opening.afflictions.get? Condition.dying.id
        = some (.new Condition.dying (set.stackOf Condition.dying.id + 1) none))
      (wounded : opening.afflictions.get? Condition.wounded.id = set.get? Condition.wounded.id)

/-- The cases of a check where the conditions are the built-in ones. -/
theorem ByRule.recovers {combatant : Combatant} {set : Afflictions} (rule : combatant.ByRule set)
    (roll : Score) :
    combatant.Recovers set roll (combatant.recover set Codex.core roll) := by
  have ended : (Table.erase set Condition.dying.id).get? Condition.dying.id = none := by
    rw [Table.get?_erase, if_pos rfl]
  have others : (Table.erase set Condition.dying.id).get? Condition.wounded.id
      = set.get? Condition.wounded.id := by
    rw [Table.get?_erase, if_neg (by decide)]
  have four : deathStacks.toNat = 4 := rfl
  have one := Count.toNat_one
  have bounded := (set.stackOf Condition.dying.id).le_greatest
  have still : Afflictions.stackOf (Table.erase set Condition.dying.id) Condition.wounded.id
      = set.stackOf Condition.wounded.id := Afflictions.stackOf_of_get? others
  unfold recover
  simp only
  split
  next high => exact .well high rfl ended others
  · split
    next high =>
      simp only [Afflictions.applyKnown, Codex.core_wounded]
      obtain ⟨wounds, endless⟩ := Afflictions.stackOf_wounded_again (still ▸ rule.wounds)
        (others ▸ rule.endless Condition.wounded.id (.inr rfl))
      refine .wounded high rfl ?_ (still ▸ wounds) endless
      rw [Afflictions.get?_apply, if_neg (by decide)]
      exact ended
    next low =>
      have short : roll < recoveryDifficulty := Int.not_le.mp low
      split
      next last =>
        refine .died short ?_ rfl ended others
        have full := Count.le_iff.mp last
        rw [Count.toNat_add, four, one] at full
        omega
      -- The condition is taken and applied anew, so that its stack starts from nothing.
      next more =>
        have known : Codex.core.contains Condition.dying.id = true :=
          congrArg Option.isSome Codex.core_dying
        simp only [Afflictions.applyKnown, Codex.core_dying, known, if_true]
        refine .worse short ?_ rfl (Afflictions.get?_apply_new rfl ended _ none) ?_
        · have few := mt Count.le_iff.mpr more
          rw [Count.toNat_add, four, one] at few
          omega
        · rw [Afflictions.get?_apply, if_neg (by decide)]
          exact others

theorem Recovers.byRule {combatant : Combatant} {set : Afflictions} {roll : Score}
    {opening : Opening} (recovers : combatant.Recovers set roll opening)
    (rule : combatant.ByRule set) (dying : set.has Condition.dying.id = true) :
    opening.combatant.ByRule opening.afflictions := by
  have unhurt : ∀ affliction, set.get? Condition.wounded.id = some affliction →
      affliction.left = none := rule.endless _ (.inr rfl)
  have kept {others : Afflictions}
      (wounded : others.get? Condition.wounded.id = set.get? Condition.wounded.id) :
      (others.stackOf Condition.wounded.id).toNat ≤ 3 :=
    Afflictions.stackOf_of_get? wounded ▸ rule.wounds
  cases recovers with
  | well high up ended wounded =>
    exact byRule_of_well ended (kept wounded) (wounded ▸ unhurt)
  | wounded high up ended wounds endless =>
    exact byRule_of_well ended (wounds ▸ Nat.min_le_left ..) endless
  | died low last gone ended wounded =>
    exact byRule_of_well ended (kept wounded) (wounded ▸ unhurt)
  | worse low more still entry wounded =>
    obtain ⟨player, alive, down⟩ := rule.down dying
    obtain ⟨least, _⟩ := rule.strength dying
    have one := Count.toNat_one
    have stack := Count.toNat_add (set.stackOf Condition.dying.id) 1
    rw [still]
    exact rule.worse player alive down entry wounded (by omega) (by omega)

theorem Opens.byRule {combatant : Combatant} {set : Afflictions} {opening : Opening}
    (opens : combatant.Opens Codex.core set opening) (rule : combatant.ByRule set) :
    opening.combatant.ByRule opening.afflictions := by
  cases opens with
  | dead _ => exact rule
  | counted _ _ => exact rule.tick
  | checked _ dying roll => exact (rule.tick.recovers roll).byRule rule.tick dying

/-! ### Ways through the chain -/

/-- A living combatant with some stacks of dying and some wounds. -/
structure IsDying (depth wounds : Nat) (combatant : Combatant) (set : Afflictions) : Prop where
  alive : combatant.isDead = false
  dying : set.has Condition.dying.id = true
  depth : (set.stackOf Condition.dying.id).toNat = depth
  wounds : (set.stackOf Condition.wounded.id).toNat = wounds

/-- A combatant that has recovered from dying, with one wound more than it had. -/
structure HasRecovered (wounds : Nat) (combatant : Combatant) (set : Afflictions) : Prop where
  alive : combatant.isDead = false
  hp : combatant.hp = min 1 combatant.maxHp
  well : set.has Condition.dying.id = false
  wounds : (set.stackOf Condition.wounded.id).toNat = min 3 (wounds + 1)

structure HasDied (combatant : Combatant) (set : Afflictions) : Prop where
  dead : combatant.dead = true
  gone : combatant.isDead = true
  hp : combatant.hp = 0
  well : set.has Condition.dying.id = false

/-- What has become of a dying combatant after a check with a given roll. -/
inductive Fate (roll : Score) (depth wounds : Nat) (combatant : Combatant) (set : Afflictions) :
    Prop
  | recovered (high : recoveryDifficulty ≤ roll) (recovered : combatant.HasRecovered wounds set)
  | died (low : roll < recoveryDifficulty) (last : 4 ≤ depth + 1) (died : combatant.HasDied set)
  | worse (low : roll < recoveryDifficulty) (more : depth + 1 < 4)
      (dying : combatant.IsDying (depth + 1) wounds set)

theorem IsDying.of_same {depth wounds : Nat} {combatant other : Combatant}
    {set changed : Afflictions} (is : combatant.IsDying depth wounds set)
    (alive : other.isDead = false)
    (dying : changed.get? Condition.dying.id = set.get? Condition.dying.id)
    (wounded : changed.get? Condition.wounded.id = set.get? Condition.wounded.id) :
    other.IsDying depth wounds changed where
  alive := alive
  dying := (congrArg Option.isSome dying).trans is.dying
  depth := Afflictions.stackOf_of_get? dying ▸ is.depth
  wounds := Afflictions.stackOf_of_get? wounded ▸ is.wounds

/-- No twenty-sided die brings a full recovery, so every recovery leaves a wound. -/
theorem Recovers.fate {combatant : Combatant} {set : Afflictions} {roll : Score}
    {opening : Opening} {depth wounds : Nat} (recovers : combatant.Recovers set roll opening)
    (rule : combatant.ByRule set) (is : combatant.IsDying depth wounds set) (bare : roll ≤ 20) :
    opening.combatant.Fate roll depth wounds opening.afflictions := by
  obtain ⟨player, alive, down⟩ := rule.down is.dying
  have ended {others : Afflictions} (none : others.get? Condition.dying.id = none) :
      others.has Condition.dying.id = false := congrArg Option.isSome none
  cases recovers with
  | well high => exact absurd (Int.le_trans high bare) (by decide)
  | wounded high up well more =>
    rw [up]
    have still : (combatant.setHp 1).isPlayer = true := player
    have living := (isDead_of_player still).trans alive
    exact .recovered high ⟨living, rfl, ended well, by rw [more, is.wounds]⟩
  | died low last gone well =>
    rw [is.depth] at last
    rw [gone]
    exact .died low last ⟨rfl, isDead_of_player player, rfl, ended well⟩
  | worse low more still entry wounded =>
    have one := Count.toNat_one
    have stack := Count.toNat_add (set.stackOf Condition.dying.id) 1
    have again : (opening.afflictions.stackOf Condition.dying.id).toNat
        = (set.stackOf Condition.dying.id).toNat + 1 := by
      rw [Afflictions.stackOf_of_entry entry, Affliction.toNat_stack_dying] <;> omega
    rw [is.depth] at more again
    rw [still]
    exact .worse low more ⟨is.alive, congrArg Option.isSome entry, again,
      Afflictions.stackOf_of_get? wounded ▸ is.wounds⟩

end Combatant

end Fray
