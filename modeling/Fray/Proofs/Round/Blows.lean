import Fray.Play
import Fray.Proofs.Round.Moments

/-!
# Blows

Every attack that is recorded was a swing or a shot, and the record can be derived again
from the scene in which it was dealt: its total from the die, the attacker and the
conditions as they stood, its outcome from the total, and the hit points that its target
lost from its damage. Hooks come in at two places, each time with a finite number or not
at all.

The scene of a blow is known. An action begins where the one before it has ended, and
within an action nothing but its blows changes the scene, each in the way that the rules
of attacks tell. So the marks of a first swing count for the second one.

## Main result

`resolve_blows`: every attack of a round is such a blow in its scene, under any hooks.
-/

namespace Fray

open Draws

/-- What a swing loses by coming after a number of other events of its action. -/
def Action.penaltyAfter (action : Action) (told : Nat) : Score :=
  if action.kind = .strike ∧ told = 1 then secondSwingPenalty else 0

/-- How an action can have come by its target. -/
def Action.AimsAt (attacker defender : Combatant) (action : Action) : Prop :=
  match action.kind with
  | .attack | .strike => action.target = some defender.name
  | .burst => ∃ key, action.target = some key ∧
      (Text.lower defender.name = Text.lower key ∨ Text.lower defender.id = Text.lower key)
  | .automatic => defender.side = attacker.side.opposing
  | .unknown | .pass | .reload | .throw => False

/-- What an aim depends on is in the profiles. -/
theorem Action.AimsAt.of_profiles {action : Action} {attacker defender first second : Combatant}
    (aims : action.AimsAt attacker defender) (one : first.profile = attacker.profile)
    (two : second.profile = defender.profile) : action.AimsAt first second := by
  obtain ⟨side, opposite⟩ : first.side = attacker.side ∧ second.side = defender.side :=
    ⟨(Combatant.mk.inj one).2.2.1, (Combatant.mk.inj two).2.2.1⟩
  obtain ⟨id, name, _⟩ := Combatant.mk.inj two
  unfold AimsAt at aims ⊢
  rw [side, opposite, id, name]
  exact aims

namespace Encounter

/-- The score that a hook answers, if its answer is a finite number. -/
def scoreGiven (encounter : Encounter) (hook : String) (args : List HookValue) : Option Score :=
  (encounter.consult hook args).1.bind HookValue.score?

/-- The total of an attack without hooks. Conditions and penalty count for a swing only. -/
def totalByRules (encounter : Encounter) (actor : Actor) (action : Action) (told : Nat)
    (attacker defender : Combatant) (roll : Score) : Score :=
  if action.kind.isMelee then
    roll + attacker.strength + proficiencyBonus attacker.level
      + ((encounter.afflictionsOf attacker.id).attackModifier
        - (encounter.afflictionsOf defender.id).acModifier)
      - action.penaltyAfter told
  else
    match encounter.firearm? actor.index action.weapon with
    | some _ => roll + attacker.dexterity + proficiencyBonus attacker.level
    | none => roll + attacker.strength + proficiencyBonus attacker.level

/-- With what hooks are asked about the total of an attack. -/
def rollArgs (attacker defender : Combatant) (total : Score) : List HookValue :=
  [.text attacker.id, .text defender.id, .ofScore total, .ofScore defender.armorClass]

/-- The damage that is dealt for the damage of an attack. -/
def damageDealt (encounter : Encounter) (attacker defender : Combatant) (damage : Score) : Score :=
  if 0 < damage then
    (encounter.scoreGiven Hooks.onDamageRoll
      [.text attacker.id, .text defender.id, .ofScore damage]).getD damage
  else damage

/-- Whoever stands at a position may aim an action at whoever stands at another. -/
def Aimed (encounter : Encounter) (action : Action) (actor target : Nat) : Prop :=
  ∀ attacker ∈ encounter.combatants[actor]?, ∀ defender ∈ encounter.combatants[target]?,
    action.AimsAt attacker defender

/-- The hit points of the combatant at a position. -/
def hpAt? (encounter : Encounter) (index : Nat) : Option Count :=
  (encounter.combatants[index]?).map Combatant.hp

end Encounter

namespace Encounter

theorem Aimed.framed {before after : Encounter} {action : Action} {actor target : Nat}
    (aimed : before.Aimed action actor target) (framed : Framed before after) :
    after.Aimed action actor target := by
  intro attacker attackerAt defender defenderAt
  obtain ⟨first, firstAt, one⟩ := framed.stood attackerAt
  obtain ⟨second, secondAt, two⟩ := framed.stood defenderAt
  exact (aimed first firstAt second secondAt).of_profiles one.symm two.symm

end Encounter

namespace Scene

open Encounter

/--
What an attack leaves behind, as it was rolled before hooks were asked about it: its damage,
then the marks of a swing or one round less for a shot, and a player that begins to die.
-/
def afterBlow (scene : Scene) (actor : Actor) (action : Action) (attacker defender : Combatant)
    (target : Nat) (rolled : Attack) : Scene :=
  let hit := scene.land attacker defender target rolled
  if action.kind.isMelee then
    hit.scene.within fun encounter =>
      (encounter.afterSwing attacker defender hit.attack.outcome).beginDying target
  else
    let struck := hit.scene.within (·.beginDying target)
    if (scene.encounter.firearm? actor.index action.weapon).isSome then
      struck.within (·.changeAt actor.index fun self => { self with loadout := self.loadout.fire })
    else struck

/-- An attack of an actor, recorded after a number of other events of the same action. -/
structure Blow (actor : Actor) (action : Action) (told : Nat) (attacker defender : Combatant)
    (position : Nat) (before : Scene) (attack : Attack) (after : Scene) : Prop where
  attackerAt : before.encounter.combatants[actor.index]? = some attacker
  owner : attacker.id = actor.id
  defenderAt : before.encounter.combatants[position]? = some defender
  alive : defender.isDead = false
  between : attack.IsBetween attacker defender
  aims : action.AimsAt attacker defender
  total :
    let natural := before.encounter.totalByRules actor action told attacker defender attack.roll
    attack.total = (before.encounter.scoreGiven Hooks.onAttackRoll
      (rollArgs attacker defender natural)).getD natural
  outcome : attack.outcome = .of attack.total defender.armorClass
  /-- The hooks are asked about the damage after they have been asked about the total. -/
  loses :
    let natural := before.encounter.totalByRules actor action told attacker defender attack.roll
    let asked :=
      (before.encounter.consult Hooks.onAttackRoll (rollArgs attacker defender natural)).2
    let damage := asked.damageDealt attacker defender attack.damage
    ∃ left, after.encounter.hpAt? position = some left ∧
      (left.toNat : Int)
        = defender.hp.toNat - min (defender.hp.toNat : Int) (max 0 damage.toInt)
  others : ∀ other, other ≠ position →
    after.encounter.hpAt? other = before.encounter.hpAt? other
  /-- Nothing else happens, and the attack is what the record says. -/
  leaves :
    let natural := before.encounter.totalByRules actor action told attacker defender attack.roll
    let rolled := { attack with total := natural }
    (before.land attacker defender position rolled).attack = attack ∧
      after = before.afterBlow actor action attacker defender position rolled

/--
The events of an action that follow a number of others, with the blows that they record.
Between the blows the scene stays as it is.
-/
inductive Blows (actor : Actor) (action : Action) : Nat → Scene → List RoundEvent → Scene → Prop
  | done {told : Nat} (scene : Scene) : Blows actor action told scene [] scene
  | plain {told : Nat} {before after : Scene} {event : RoundEvent} {rest : List RoundEvent}
      (plain : event.attack = none) (later : Blows actor action (told + 1) before rest after) :
      Blows actor action told before (event :: rest) after
  | blow {told : Nat} {before middle after : Scene} {event : RoundEvent}
      {rest : List RoundEvent} {attack : Attack} {attacker defender : Combatant} {position : Nat}
      (recorded : event.attack = some attack)
      (blow : Blow actor action told attacker defender position before attack middle)
      (later : Blows actor action (told + 1) middle rest after) :
      Blows actor action told before (event :: rest) after

variable {actor : Actor} {action : Action} {told : Nat}

/-- Every attack of the events is a blow, between those before it and those after it. -/
theorem Blows.find {before after : Scene} {early late : List RoundEvent} {event : RoundEvent}
    {attack : Attack} (blows : Blows actor action told before (early ++ event :: late) after)
    (recorded : event.attack = some attack) :
    ∃ one two attacker defender position, Blows actor action told before early one ∧
      Blow actor action (told + early.length) attacker defender position one attack two ∧
      Blows actor action (told + early.length + 1) two late after := by
  induction early generalizing told before with
  | nil =>
    cases blows with
    | plain plain _ => cases plain.symm.trans recorded
    | blow same blow later =>
      cases same.symm.trans recorded
      exact ⟨_, _, _, _, _, .done _, blow, later⟩
  | cons first early ih =>
    have moved : told + (first :: early).length = told + 1 + early.length := by
      simp only [List.length_cons]
      omega
    rw [moved]
    cases blows with
    | plain plain later =>
      obtain ⟨one, two, attacker, defender, position, reached, blow, rest⟩ := ih later
      exact ⟨one, two, attacker, defender, position, .plain plain reached, blow, rest⟩
    | blow same first later =>
      obtain ⟨one, two, attacker, defender, position, reached, blow, rest⟩ := ih later
      exact ⟨one, two, attacker, defender, position, .blow same first reached, blow, rest⟩

/-! ### Rolls -/

private theorem sub_range_zero (total : Score) : total - rangePenalty * max 0 0 = total := by
  have none : (rangePenalty * max 0 0).toInt = 0 := by decide
  have least := total.least_le
  have greatest := total.le_greatest
  ext
  rw [Score.toInt_sub, none]
  omega

/-- The total of a blow is that of its die. -/
theorem meleeRoll_total (attacker target : Combatant) :
    Always (fun rolled =>
        rolled.total = rolled.roll + attacker.strength + proficiencyBonus attacker.level)
      (meleeRoll attacker target) := by
  unfold meleeRoll
  rw [always_bind]
  apply always_of_forall
  intro roll
  rw [always_bind]
  exact always_of_forall (fun face => rfl) _

theorem shotRoll_total (dice : Dice.Evaluator) (attacker target : Combatant) (weapon : Weapon) :
    Always (fun rolled =>
        rolled.total = rolled.roll + attacker.dexterity + proficiencyBonus attacker.level)
      (shotRoll dice attacker target weapon 0) := by
  unfold shotRoll
  rw [always_bind]
  apply always_of_forall
  intro roll
  simp only [sub_range_zero]
  rw [always_bind]
  exact always_of_forall (fun rolled => rfl) _

/-! ### Hits -/

private theorem toNat_loss (hp : Count) (damage : Score) :
    ((hp - damage.toCount).toNat : Int)
      = hp.toNat - min (hp.toNat : Int) (max 0 damage.toInt) := by
  rw [Count.toNat_sub, Score.toNat_toCount]
  omega

theorem hpAt?_hurt (scene : Scene) (target : Nat) (damage : Score) :
    (scene.hurt target damage).encounter.hpAt? target
      = (scene.encounter.hpAt? target).map (· - damage.toCount) := by
  unfold hurt
  split
  next harmless =>
    have none : damage.toCount.toNat = 0 := by
      have zero : (0 : Score).toInt = 0 := rfl
      have := Score.le_iff.mp harmless
      rw [Score.toNat_toCount]
      omega
    have same (hp : Count) : hp - damage.toCount = hp := by
      ext
      rw [Count.toNat_sub, none]
      omega
    simp [same]
  · split
    next missing => simp [hpAt?, missing]
    next combatant found => simp [hpAt?, changeAt, found, Combatant.hurt]

theorem hpAt?_hurt_of_ne (scene : Scene) {target other : Nat} (damage : Score)
    (different : other ≠ target) :
    (scene.hurt target damage).encounter.hpAt? other = scene.encounter.hpAt? other := by
  unfold hurt
  split
  · rfl
  · split
    · rfl
    · simp only [hpAt?, changeAt, List.getElem?_modify_ne _ _ (Ne.symm different)]

theorem attackDamage_eq (scene : Scene) (attacker defender : Combatant) (damage : Score) :
    (scene.attackDamage attacker defender damage).1
      = scene.encounter.damageDealt attacker defender damage := by
  have harms : 0 < damage ↔ ¬damage ≤ 0 := Int.not_le.symm
  unfold attackDamage damageDealt
  by_cases harmless : damage ≤ 0
  · rw [if_pos harmless, if_neg (mt harms.mp (not_not.mpr harmless))]
  · rw [if_neg harmless, if_pos (harms.mpr harmless)]
    rfl

theorem hpAt?_of_combatants {before after : Encounter}
    (same : after.combatants = before.combatants) (index : Nat) :
    after.hpAt? index = before.hpAt? index := by
  rw [hpAt?, same, hpAt?]

theorem hpAt?_changeAt (encounter : Encounter) (position index : Nat)
    {change : Combatant → Combatant} (keeps : ∀ combatant, (change combatant).hp = combatant.hp) :
    (encounter.changeAt position change).hpAt? index = encounter.hpAt? index := by
  simp only [hpAt?, changeAt, List.getElem?_modify]
  cases encounter.combatants[index]? with
  | none => rfl
  | some combatant =>
    simp only [Option.map_eq_map, Option.map_some]
    split
    · exact congrArg some (keeps combatant)
    · rfl

section Landing

variable {scene : Scene} {attacker defender : Combatant} {target : Nat} {rolled : Attack}

theorem afterBlow_melee (actor : Actor) (melee : action.kind.isMelee = true) :
    scene.afterBlow actor action attacker defender target rolled
      = (scene.land attacker defender target rolled).scene.within fun encounter =>
        (encounter.afterSwing attacker defender
          (scene.land attacker defender target rolled).attack.outcome).beginDying target :=
  if_pos melee

theorem afterBlow_ranged {weapon : Option Weapon} (ranged : action.kind.isMelee = false)
    (held : scene.encounter.firearm? actor.index action.weapon = weapon) :
    scene.afterBlow actor action attacker defender target rolled =
      let struck :=
        (scene.land attacker defender target rolled).scene.within (·.beginDying target)
      if weapon.isSome then
        struck.within
          (·.changeAt actor.index fun self => { self with loadout := self.loadout.fire })
      else struck := by
  unfold afterBlow
  rw [ranged, held]
  rfl

/-- Marks, magazines and dying leave the hit points alone. -/
theorem hpAt?_afterBlow (index : Nat) :
    (scene.afterBlow actor action attacker defender target rolled).encounter.hpAt? index
      = (scene.land attacker defender target rolled).scene.encounter.hpAt? index := by
  unfold afterBlow
  split
  · exact hpAt?_of_combatants
      ((combatants_beginDying ..).trans (combatants_afterSwing ..)) index
  · have struck := hpAt?_of_combatants (combatants_beginDying
      (scene.land attacker defender target rolled).scene.encounter target) index
    simp only
    split
    · refine (hpAt?_changeAt _ _ _ ?_).trans struck
      exact fun _ => rfl
    · exact struck

theorem afterBlow_framed : Framed scene.encounter
    (scene.afterBlow actor action attacker defender target rolled).encounter := by
  have struck := (land_leaves scene attacker defender target rolled).1
  unfold afterBlow
  split
  · exact (struck.trans (afterSwing_framed ..)).trans (beginDying_framed ..)
  · have dies := struck.trans (beginDying_framed _ target)
    simp only
    split
    · exact dies.trans (changeAt_framed _ _ Combatant.profile_fire)
    · exact dies

/-- An attack that lands is a blow if its total is that of the rules until hooks are asked. -/
theorem land_blow (stands : scene.encounter.ids[actor.index]? = some actor.id)
    (attackerAt : scene.encounter.combatants[actor.index]? = some attacker)
    (defenderAt : scene.encounter.combatants[target]? = some defender)
    (alive : scene.encounter.isDeadAt target = false)
    (aimed : scene.encounter.Aimed action actor.index target)
    (between : rolled.IsBetween attacker defender)
    (natural : rolled.total
      = scene.encounter.totalByRules actor action told attacker defender rolled.roll) :
    Blow actor action told attacker defender target scene
      (scene.land attacker defender target rolled).attack
      (scene.afterBlow actor action attacker defender target rolled) := by
  obtain ⟨asked, _, same, _, landed⟩ := land_cases scene attacker defender target rolled
  -- Up to the damage only hooks were asked.
  have stood (index : Nat) : asked.encounter.hpAt? index = scene.encounter.hpAt? index := by
    rw [same]
    rfl
  have rolls : (scene.land attacker defender target rolled).attack.roll = rolled.roll := rfl
  constructor
  · exact attackerAt
  · rw [List.getElem?_map, attackerAt] at stands
    exact Option.some.inj stands
  · exact defenderAt
  · obtain ⟨living, there, breathes⟩ := isDeadAt_eq_false.mp alive
    cases there.symm.trans defenderAt
    exact breathes
  · exact between
  · exact aimed attacker attackerAt defender defenderAt
  · simp only [rolls, ← natural]
    rfl
  · rfl
  · simp only [rolls, ← natural]
    have dealt : (scene.land attacker defender target rolled).damage
        = (scene.attackTotal attacker defender rolled.total).2.encounter.damageDealt attacker
            defender (scene.land attacker defender target rolled).attack.damage :=
      attackDamage_eq ..
    have hp : scene.encounter.hpAt? target = some defender.hp := by simp [hpAt?, defenderAt]
    refine ⟨defender.hp - (scene.land attacker defender target rolled).damage.toCount, ?_, ?_⟩
    · rw [hpAt?_afterBlow, landed, hpAt?_hurt, stood, hp]
      rfl
    · rw [dealt]
      exact toNat_loss ..
  · intro other different
    rw [hpAt?_afterBlow, landed, hpAt?_hurt_of_ne _ _ different, stood]
  -- An attack is recorded with its outcome, which is not needed to land it once more.
  · simp only [rolls, ← natural]
    exact ⟨rfl, rfl⟩

end Landing

/-- A blow changes no profile. -/
theorem Blow.framed {before after : Scene} {attacker defender : Combatant} {position : Nat}
    {attack : Attack} (blow : Blow actor action told attacker defender position before attack after) :
    Framed before.encounter after.encounter := by
  obtain ⟨_, rfl⟩ := blow.leaves
  exact afterBlow_framed

theorem Blows.framed {before after : Scene} {events : List RoundEvent}
    (blows : Blows actor action told before events after) :
    Framed before.encounter after.encounter := by
  induction blows with
  | done scene => exact .refl _
  | plain _ _ ih => exact ih
  | blow _ blow _ ih => exact blow.framed.trans ih

/-- A swing is a blow of a melee action, with the penalty that its place brings. -/
theorem swing_blow {scene : Scene} {target : Nat} (told : Nat)
    (stands : scene.encounter.ids[actor.index]? = some actor.id)
    (melee : action.kind.isMelee = true) (alive : scene.encounter.isDeadAt target = false)
    (aimed : scene.encounter.Aimed action actor.index target) :
    Always (fun result => ∃ attack, result.1 = some attack ∧ ∃ attacker defender,
        Blow actor action told attacker defender target scene attack result.2)
      (scene.swing actor.index target (action.penaltyAfter told)) := by
  obtain ⟨attacker, attackerAt, _⟩ := Option.map_eq_some_iff.mp (List.getElem?_map ▸ stands)
  obtain ⟨defender, defenderAt, _⟩ := isDeadAt_eq_false.mp alive
  simp only [swing, attackerAt, defenderAt]
  rw [always_bind]
  refine ((meleeRoll_between attacker defender).and (meleeRoll_total attacker defender)).mono
    fun rolled facts => ?_
  obtain ⟨between, natural⟩ := facts
  refine ⟨_, rfl, attacker, defender, ?_⟩
  rw [← afterBlow_melee actor melee]
  refine land_blow stands attackerAt defenderAt alive aimed between ?_
  simp only [totalByRules, if_pos melee, natural]
  rfl

/-! ### Shots -/

/-- An actor is about to fire what it holds. -/
structure Fires (actor : Actor) (action : Action) (weapon : Option Weapon) (scene : Scene) :
    Prop where
  stands : scene.encounter.ids[actor.index]? = some actor.id
  ranged : action.kind.isMelee = false
  held : scene.encounter.firearm? actor.index action.weapon = weapon

/-- What is held, apart from its magazine, is in the profile. -/
theorem weapon_profile (combatant : Combatant) :
    combatant.profile.loadout.mainHand.map Held.weapon
      = combatant.loadout.mainHand.map Held.weapon := by
  simp [Combatant.profile, Loadout.withMagazine, Function.comp_def]

private theorem firearm?_eq (encounter : Encounter) (index : Nat) (named : Option String) :
    encounter.firearm? index named =
      (((encounter.combatants[index]?).map Combatant.profile).bind fun self =>
        self.loadout.mainHand.map Held.weapon).bind fun weapon =>
          if !weapon.isFirearm then none
          else if named.any fun id => !id.isEmpty && id != weapon.id then none
          else some weapon := by
  unfold firearm?
  cases encounter.combatants[index]? with
  | none => rfl
  | some self =>
    simp only [Option.map_some, Option.bind_some, weapon_profile]
    cases held : self.loadout.mainHand with
    | none => simp [held]
    | some held => simp [held]

theorem firearm?_framed {before after : Encounter} (framed : Framed before after) (index : Nat)
    (named : Option String) : after.firearm? index named = before.firearm? index named := by
  rw [firearm?_eq, framed.profile_at, ← firearm?_eq]

theorem Fires.framed {weapon : Option Weapon} {before after : Scene}
    (fires : Fires actor action weapon before) (framed : Framed before.encounter after.encounter) :
    Fires actor action weapon after where
  stands := framed.ids ▸ fires.stands
  ranged := fires.ranged
  held := (firearm?_framed framed ..).trans fires.held

/-- Without a firearm a shot is a blow with the fist, which the conditions do not touch. -/
theorem shotOrBlow_total {weapon : Option Weapon} {scene : Scene} (told : Nat)
    (fires : Fires actor action weapon scene) (attacker defender : Combatant) :
    Always (fun rolled =>
        rolled.total = scene.encounter.totalByRules actor action told attacker defender rolled.roll)
      (shotOrBlow scene.encounter.dice attacker defender weapon) := by
  simp only [totalByRules, fires.ranged, fires.held]
  cases weapon with
  | none => exact meleeRoll_total attacker defender
  | some weapon => exact shotRoll_total scene.encounter.dice attacker defender weapon

section Shots

variable {weapon : Option Weapon} {scene : Scene} {target : Nat}

theorem shoot_blow (told : Nat) (fires : Fires actor action weapon scene)
    (alive : scene.encounter.isDeadAt target = false)
    (aimed : scene.encounter.Aimed action actor.index target) :
    Always (fun result => ∃ hit, result = some hit ∧ ∃ attacker defender,
        Blow actor action told attacker defender target scene hit.attack hit.scene)
      (scene.shoot actor.index target weapon) := by
  obtain ⟨attacker, attackerAt, _⟩ :=
    Option.map_eq_some_iff.mp (List.getElem?_map ▸ fires.stands)
  obtain ⟨defender, defenderAt, _⟩ := isDeadAt_eq_false.mp alive
  simp only [shoot, attackerAt, defenderAt]
  rw [always_bind]
  have totals := shotOrBlow_total told fires attacker defender
  refine ((shotOrBlow_between ..).and totals).mono fun rolled facts => ?_
  obtain ⟨between, natural⟩ := facts
  refine ⟨_, rfl, attacker, defender, ?_⟩
  simp only
  rw [← afterBlow_ranged fires.ranged fires.held]
  exact land_blow fires.stands attackerAt defenderAt alive aimed between natural

theorem shootOn_blows (told : Nat) (name : String) (shots : Nat)
    (fires : Fires actor action weapon scene) (alive : scene.encounter.isDeadAt target = false)
    (aimed : scene.encounter.Aimed action actor.index target) :
    Always (fun result => Blows actor action told scene result.1 result.2)
      (shootOn actor target name weapon shots scene) := by
  induction shots generalizing scene told with
  | zero => exact .done scene
  | succ shots ih =>
    simp only [shootOn]
    rw [always_bind]
    refine (shoot_blow told fires alive aimed).mono fun result shot => ?_
    obtain ⟨hit, rfl, attacker, defender, blow⟩ := shot
    simp only
    split
    · exact .blow rfl blow (.done _)
    next survives =>
      rw [always_bind]
      have alive : hit.scene.encounter.isDeadAt target = false := by simpa using survives
      exact (ih (told + 1) (fires.framed blow.framed) alive (aimed.framed blow.framed)).mono
        fun rest later => .blow rfl blow later

theorem shootEach_blows (told : Nat) {targets : List Nat} (fires : Fires actor action weapon scene)
    (distinct : targets.Nodup)
    (alive : ∀ target ∈ targets, scene.encounter.isDeadAt target = false)
    (aimed : ∀ target ∈ targets, scene.encounter.Aimed action actor.index target) :
    Always (fun result => Blows actor action told scene result.1 result.2)
      (shootEach actor weapon targets scene) := by
  induction targets generalizing scene told with
  | nil => exact .done scene
  | cons target rest ih =>
    obtain ⟨fresh, distinct⟩ := List.nodup_cons.mp distinct
    obtain ⟨living, alive⟩ := List.forall_mem_cons.mp alive
    obtain ⟨sighted, aimed⟩ := List.forall_mem_cons.mp aimed
    simp only [shootEach]
    rw [always_bind]
    refine ((shoot_course scene actor.index target weapon living).and
      (shoot_blow told fires living sighted)).mono fun result shot => ?_
    obtain ⟨tells, hit, rfl, attacker, defender, blow⟩ := shot
    obtain ⟨_, others⟩ := tells hit rfl
    simp only
    rw [always_bind]
    refine (ih (told + 1) (fires.framed blow.framed) distinct ?_ ?_).mono
      fun rest later => .blow rfl blow later
    -- The shot has killed nobody but its own target.
    · intro other member
      rw [others other (fun same => fresh (same ▸ member))]
      exact alive other member
    · intro other member
      exact (aimed other member).framed blow.framed

end Shots

/-! ### Actions -/

theorem firstLiving_passes {encounter : Encounter} {test : Combatant → Bool} {target : Nat}
    (found : encounter.firstLiving test = some target) {defender : Combatant}
    (defenderAt : encounter.combatants[target]? = some defender) : test defender = true := by
  obtain ⟨inside, passes, _⟩ := List.findIdx?_eq_some_iff_getElem.mp found
  rw [List.getElem?_eq_getElem inside] at defenderAt
  cases defenderAt
  exact (Bool.and_eq_true_iff.mp passes).2

theorem aimed_of_livingNamed {encounter : Encounter} {target : Nat}
    (melee : action.kind.isMelee = true)
    (found : action.target.bind encounter.livingNamed = some target) (position : Nat) :
    encounter.Aimed action position target := by
  obtain ⟨name, named, first⟩ := Option.bind_eq_some_iff.mp found
  intro attacker _ defender defenderAt
  have same : defender.name = name := by simpa using firstLiving_passes first defenderAt
  have aims : action.target = some defender.name := by rw [named, same]
  unfold Action.AimsAt
  cases kind : action.kind with
  | attack | strike => exact aims
  | unknown | pass | reload | burst | automatic | throw =>
    rw [kind] at melee
    cases melee

theorem aimed_of_livingCalled {encounter : Encounter} {target : Nat} (burst : action.kind = .burst)
    (found : action.target.bind encounter.livingCalled = some target) (position : Nat) :
    encounter.Aimed action position target := by
  obtain ⟨key, keyed, first⟩ := Option.bind_eq_some_iff.mp found
  intro attacker _ defender defenderAt
  have called : Text.lower defender.name = Text.lower key
      ∨ Text.lower defender.id = Text.lower key := by
    simpa using firstLiving_passes first defenderAt
  unfold Action.AimsAt
  rw [burst]
  exact ⟨key, keyed, called⟩

theorem aimed_of_mem_opponents {encounter : Encounter} {position target : Nat}
    (automatic : action.kind = .automatic) (member : target ∈ encounter.opponents position) :
    encounter.Aimed action position target := by
  intro attacker attackerAt defender defenderAt
  unfold Action.AimsAt
  rw [automatic]
  rw [Option.mem_def] at attackerAt defenderAt
  rw [opponents, attackerAt] at member
  have opposed := (List.mem_filter.mp member).2
  rw [defenderAt] at opposed
  simpa using (Bool.and_eq_true_iff.mp opposed).2

section Actions

variable {scene : Scene} (stands : scene.encounter.ids[actor.index]? = some actor.id)
include stands

theorem performAttack_blows (attack : action.kind = .attack) :
    Always (fun result => Blows actor action 0 scene result.1 result.2)
      (scene.performAttack actor action) := by
  have melee : action.kind.isMelee = true := by rw [attack]; rfl
  unfold performAttack
  split
  · exact .plain rfl (.done scene)
  next target found =>
    obtain ⟨_, _, first⟩ := Option.bind_eq_some_iff.mp found
    have alive := isDeadAt_of_firstLiving first
    have swung := swing_blow 0 stands melee alive (aimed_of_livingNamed melee found _)
    have alone : action.penaltyAfter 0 = 0 := by simp [Action.penaltyAfter]
    rw [alone] at swung
    rw [always_bind]
    refine swung.mono fun result shown => ?_
    obtain ⟨attack, given, attacker, defender, blow⟩ := shown
    simp only [given, pure_eq, always_done]
    exact .blow rfl blow (.done _)

theorem performStrike_blows (strike : action.kind = .strike) :
    Always (fun result => Blows actor action 0 scene result.1 result.2)
      (scene.performStrike actor action) := by
  have melee : action.kind.isMelee = true := by rw [strike]; rfl
  unfold performStrike
  split
  -- Without a target both swings are told and neither is made.
  · exact .plain rfl (.plain rfl (.done scene))
  next target found =>
    obtain ⟨_, _, first⟩ := Option.bind_eq_some_iff.mp found
    have alive := isDeadAt_of_firstLiving first
    have aimed := aimed_of_livingNamed melee found actor.index
    have swung := swing_blow 0 stands melee alive aimed
    have early : action.penaltyAfter 0 = 0 := by simp [Action.penaltyAfter]
    have late : action.penaltyAfter 1 = secondSwingPenalty := by simp [Action.penaltyAfter, strike]
    rw [early] at swung
    rw [always_bind]
    refine swung.mono fun result shown => ?_
    obtain ⟨attack, given, attacker, defender, blow⟩ := shown
    simp only [given]
    split
    · exact .blow rfl blow (.plain rfl (.done _))
    -- The first swing has changed no profile, so the second one is aimed as well.
    next survives =>
      have alive : result.2.encounter.isDeadAt target = false := by simpa using survives
      have again := swing_blow 1 (blow.framed.ids ▸ stands) melee alive (aimed.framed blow.framed)
      rw [late] at again
      rw [always_bind]
      refine again.mono fun last shown => ?_
      obtain ⟨other, twice, striker, struck, second⟩ := shown
      simp only [twice, pure_eq, always_done]
      exact .blow rfl blow (.blow rfl second (.done _))

theorem performBurst_blows (burst : action.kind = .burst) :
    Always (fun result => Blows actor action 0 scene result.1 result.2)
      (scene.performBurst actor action) := by
  unfold performBurst
  split
  · exact .plain rfl (.done scene)
  next target found =>
    obtain ⟨_, _, first⟩ := Option.bind_eq_some_iff.mp found
    exact shootOn_blows 0 _ _ ⟨stands, by rw [burst]; rfl, rfl⟩ (isDeadAt_of_firstLiving first)
      (aimed_of_livingCalled burst found _)

theorem performAutomatic_blows (automatic : action.kind = .automatic) :
    Always (fun result => Blows actor action 0 scene result.1 result.2)
      (scene.performAutomatic actor action) := by
  simp only [performAutomatic]
  split
  · exact .plain rfl (.done scene)
  · apply shootEach_blows 0 ⟨stands, by rw [automatic]; rfl, rfl⟩
    · exact (nodup_opponents ..).sublist (List.take_sublist ..)
    · exact fun target member => isDeadAt_of_mem_opponents (List.mem_of_mem_take member)
    · exact fun target member => aimed_of_mem_opponents automatic (List.mem_of_mem_take member)

/-- An attack tells of the blows that it has come to. -/
theorem perform_blows (attacks : action.kind.isAttack = true) :
    Always (fun result => Blows actor action 0 scene result.1 result.2)
      (scene.perform actor action) := by
  unfold perform
  cases kind : action.kind with
  | attack => exact performAttack_blows stands kind
  | strike => exact performStrike_blows stands kind
  | burst => exact performBurst_blows stands kind
  | automatic => exact performAutomatic_blows stands kind
  | unknown | pass | reload | throw =>
    rw [kind] at attacks
    cases attacks

end Actions

end Scene

/-! ### Moments -/

/--
Every attack that is told in a moment was a blow. The first event tells of the scene in
which the moment began, and each further one of the scene that those before it have left.
-/
def Moment.TellsBlows (moment : Moment) (actor : Actor) : Prop :=
  ∀ early event late attack, moment.block.events = early ++ event :: late →
    event.attack = some attack → ∃ before after attacker defender position,
      Scene.Blows actor moment.block.action 0 moment.before early before ∧
      Scene.Blow actor moment.block.action early.length attacker defender position before attack
        after ∧
      Scene.Blows actor moment.block.action (early.length + 1) after late moment.after

namespace Scene

theorem Chain.tellsBlows {actor : Actor} {before after : Scene} {moments : List Moment}
    (chain : Chain actor before moments after) {moment : Moment} (member : moment ∈ moments) :
    moment.block.actor = actor.id ∧ moment.TellsBlows actor := by
  obtain ⟨owner, stands⟩ := chain.owned moment member
  obtain ⟨_, performed⟩ := chain.performs moment member
  refine ⟨owner, fun early event late attack told recorded => ?_⟩
  -- Nothing but the four kinds of attack tells of any.
  have attacks : moment.block.action.kind.isAttack = true :=
    ((performed.holds (perform_works _ stands)).1.attacks event (by simp [told]) attack recorded).1
  have blows : Blows actor moment.block.action 0 moment.before moment.block.events
      moment.after := performed.holds (perform_blows stands attacks)
  rw [told] at blows
  obtain ⟨one, two, attacker, defender, position, reached, blow, rest⟩ := blows.find recorded
  rw [Nat.zero_add] at blow rest
  exact ⟨one, two, attacker, defender, position, reached, blow, rest⟩

end Scene

namespace Encounter

/-- Whoever deals a blow in a round or takes one has been there from its start. -/
theorem resolve_attacks (encounter : Encounter) :
    Always (fun resolution => ∀ block ∈ resolution.blocks, ∀ event ∈ block.events,
        ∀ attack, event.attack = some attack →
          ∃ (actor : Actor) (before after : Scene) (told : Nat) (attacker defender : Combatant)
            (position : Nat), block.actor = actor.id ∧ Framed encounter before.encounter ∧
            Scene.Blow actor block.action told attacker defender position before attack after)
      encounter.resolve := by
  rw [resolve_watched, always_bind]
  refine encounter.watch_tour.mono fun watched tour block inside event listed attack recorded => ?_
  obtain ⟨turn, taken, performed⟩ := List.mem_flatMap.mp inside
  obtain ⟨episode, member, rfl⟩ := List.mem_map.mp taken
  obtain ⟨moment, among, rfl⟩ := List.mem_map.mp performed
  obtain ⟨_, _, _, _, chain⟩ := tour.find member
  obtain ⟨owner, tells⟩ := chain.tellsBlows among
  obtain ⟨early, late, events⟩ := List.append_of_mem listed
  obtain ⟨before, after, attacker, defender, position, reached, blow, _⟩ :=
    tells early event late attack events recorded
  have arrived := Scene.Reaches.framed (tour.performs member among).1
  exact ⟨episode.actor, before, after, early.length, attacker, defender, position, owner,
    arrived.trans reached.framed, blow⟩

/--
In every round, whatever the hooks answer and whatever is drawn. Every attack that is told
of is a blow that its actor has dealt in a known scene: the actions follow each other from
the encounter on, each from the scene that the one before it has left, and so do the blows
of an action. The record agrees with the scene just before the blow, and the scene just
after it is what the blow leaves.
-/
theorem resolve_blows (encounter : Encounter) :
    encounter.resolve = (encounter.watch >>= fun watched => pure watched.resolution) ∧
    Always (fun watched => Scene.Tour 0 ⟨encounter, []⟩ watched.episodes watched.last ∧
        ∀ episode ∈ watched.episodes, ∀ moment ∈ episode.moments,
          moment.block.actor = episode.actor.id ∧ moment.TellsBlows episode.actor)
      encounter.watch := by
  refine ⟨encounter.resolve_watched, encounter.watch_tour.mono fun watched tour => ⟨tour, ?_⟩⟩
  intro episode member moment inside
  obtain ⟨_, _, _, _, chain⟩ := tour.find member
  exact chain.tellsBlows inside

/-! ### A strike that opens its target -/

def sampleBout : Setup :=
  { room := "cellar"
    zone := "house"
    combatants := [
      { id := "ann", name := "Ann", side := .player, maxHp := 9, hp := 9, armorClass := 12 },
      { id := "rat", name := "Rat", side := .npc, maxHp := 30, hp := 30, armorClass := 8 }] }

/-- The bout before its first round is resolved. -/
def sampleStruck : Encounter :=
  ((play [.openRound 3, .commit "ann" (.strike "Rat")] (begin sampleBout)).run (⟨15⟩ : Fixed)).1

/--
The second swing is five below the first for its penalty, and two above that for the mark
that the first one has left.
-/
theorem resolve_blows_sample :
    let watched := (sampleStruck.watch.run (⟨15⟩ : Fixed)).1
    ∃ episode ∈ watched.episodes, ∃ moment ∈ episode.moments, ∃ first second one two,
      moment.block.events = [first, second] ∧ first.attack = some one ∧
      second.attack = some two ∧ one.total = 18 ∧ two.total = 15 ∧
      ∃ before attacker defender position,
        Scene.Blows episode.actor moment.block.action 0 moment.before [first] before ∧
        Scene.Blow episode.actor moment.block.action 1 attacker defender position before two
          moment.after := by
  intro watched
  have seen : watched.episodes.map (fun episode => episode.moments.map fun moment =>
      moment.block.events.map fun event => event.attack.map Attack.total)
      = [[[some 18, some 15]], []] := by decide +kernel
  obtain ⟨episode, others, episodes, first, _⟩ := List.map_eq_cons_iff.mp seen
  obtain ⟨moment, later, moments, told, _⟩ := List.map_eq_cons_iff.mp first
  have member : episode ∈ watched.episodes := episodes ▸ List.mem_cons_self
  have inside : moment ∈ episode.moments := moments ▸ List.mem_cons_self
  obtain ⟨first, rest, events, eighteen, left⟩ := List.map_eq_cons_iff.mp told
  obtain ⟨second, none, last, fifteen, gone⟩ := List.map_eq_cons_iff.mp left
  rw [last, List.map_eq_nil_iff.mp gone] at events
  obtain ⟨one, oneTold, oneTotal⟩ := Option.map_eq_some_iff.mp eighteen
  obtain ⟨two, twoTold, twoTotal⟩ := Option.map_eq_some_iff.mp fifteen
  obtain ⟨_, tells⟩ :=
    ((resolve_blows sampleStruck).2.run (⟨15⟩ : Fixed)).2 episode member moment inside
  obtain ⟨before, after, attacker, defender, position, reached, blow, rest⟩ :=
    tells [first] second [] two events twoTold
  cases rest
  exact ⟨episode, member, moment, inside, first, second, one, two, events, oneTold, twoTold,
    oneTotal, twoTotal, before, attacker, defender, position, reached, blow⟩

end Encounter

end Fray
