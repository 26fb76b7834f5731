import Fray.Proofs.Dying.Agreement
import Fray.Proofs.Round.Frame

/-!
# Hits and dying

Every hit ends with the dying rule, which restores the agreement between the hit
points of its target and the dying condition. Nothing else in a round touches
the dying and wounded conditions: a swing leaves only its own conditions behind.

## Main result

`Encounter.resolve_dying`: a round keeps the agreement, leaves those alone who are
dying already, and lets a player begin to die the worse the more it was wounded.
-/

namespace Fray

open Draws

/-! ### Entries of conditions -/

/-- The entry of a condition in the set of a combatant. -/
def Encounter.affliction? (encounter : Encounter) (id condition : String) : Option Affliction :=
  (encounter.afflictionsOf id).get? condition

/-- No condition is forbidden. -/
def Hooks.Lenient (hooks : Hooks) : Prop :=
  ∀ calls zone args, (hooks calls ⟨zone, onConditionApply, args⟩).any HookValue.isFalse = false

namespace Encounter

theorem hasCondition_eq (encounter : Encounter) (id condition : String) :
    encounter.hasCondition id condition = (encounter.affliction? id condition).isSome := rfl

theorem stackOf_eq_affliction? (encounter : Encounter) (id condition : String) :
    (encounter.afflictionsOf id).stackOf condition
      = ((encounter.affliction? id condition).map Affliction.stack).getD 0 := rfl

theorem affliction?_of_afflict {encounter afflicted : Encounter} {id condition : String}
    {stack : Count} {duration : Option Count}
    (accepted : encounter.afflict id condition stack duration = .ok afflicted) :
    ∃ known set, encounter.codex.get? condition = some known ∧
      encounter.afflictions.get? id = some set ∧
      ∀ who, afflicted.afflictionsOf who =
        if who = id then set.apply known stack duration else encounter.afflictionsOf who := by
  unfold afflict at accepted
  split at accepted
  · cases accepted
  next known found =>
    split at accepted
    · cases accepted
    next set present =>
      cases accepted
      refine ⟨known, set, found, present, fun who => ?_⟩
      simp only [afflictionsOf, Table.get?_insert]
      split <;> rfl

/-- What the application of a condition keeps of a set, it keeps of all sets. -/
theorem afflict_sets {property : Afflictions → Prop} {encounter afflicted : Encounter}
    {id condition : String} {stack : Count} {duration : Option Count}
    (accepted : encounter.afflict id condition stack duration = .ok afflicted)
    (applied : ∀ known set, encounter.codex.get? condition = some known → property set →
      property (set.apply known stack duration))
    (holds : ∀ who, property (encounter.afflictionsOf who)) (who : String) :
    property (afflicted.afflictionsOf who) := by
  obtain ⟨known, set, entered, present, sets⟩ := affliction?_of_afflict accepted
  rw [sets who]
  split
  · refine applied known set entered ?_
    have own := holds id
    rwa [afflictionsOf, present, Option.getD_some] at own
  · exact holds who

/-- An application of a condition touches the entry of this condition on one combatant only. -/
theorem affliction?_afflictIfAllowed {encounter : Encounter} (keyed : encounter.codex.Keyed)
    (id condition : String) (stack : Count) (duration : Option Count) {who other : String}
    (apart : who ≠ id ∨ other ≠ condition) :
    (encounter.afflictIfAllowed id condition stack duration).affliction? who other
      = encounter.affliction? who other := by
  simp only [afflictIfAllowed]
  split
  · rfl
  · split
    next afflicted accepted =>
      obtain ⟨known, set, found, present, sets⟩ := affliction?_of_afflict accepted
      have same : (encounter.consult Hooks.onConditionApply
          [.text id, .text condition, .ofCount stack]).2.afflictionsOf who
            = encounter.afflictionsOf who := rfl
      unfold affliction?
      rw [sets who]
      split
      next equal =>
        have different := apart.resolve_left (not_not.mpr equal)
        have named := keyed condition known found
        subst equal
        have kept : encounter.afflictionsOf who = set := by
          simp only [afflictionsOf]
          rw [show encounter.afflictions.get? who = some set from present]
          rfl
        rw [Afflictions.get?_apply, named, if_neg different, kept]
      · rw [same]
    · rfl

/-- A condition that was absent is new, if a hook or the codex does not forbid it. -/
theorem affliction?_afflictIfAllowed_absent {encounter : Encounter} (keyed : encounter.codex.Keyed)
    {id condition : String} (absent : encounter.affliction? id condition = none) (stack : Count)
    (duration : Option Count) :
    (encounter.afflictIfAllowed id condition stack duration).affliction? id condition = none ∨
    ∃ known, encounter.codex.get? condition = some known ∧
      (encounter.afflictIfAllowed id condition stack duration).affliction? id condition
        = some (.new known stack duration) := by
  simp only [afflictIfAllowed]
  split
  · exact .inl absent
  · split
    next afflicted accepted =>
      obtain ⟨known, set, found, present, sets⟩ := affliction?_of_afflict accepted
      refine .inr ⟨known, found, ?_⟩
      have kept : encounter.afflictionsOf id = set := by
        rw [afflictionsOf, show encounter.afflictions.get? id = some set from present]
        rfl
      rw [affliction?, kept] at absent
      rw [affliction?, sets id, if_pos rfl]
      exact Afflictions.get?_apply_new (keyed condition known found) absent stack duration
    · exact .inl absent

/-- Where no hook objects, a known condition is applied to a known combatant. -/
theorem affliction?_afflictIfAllowed_new {encounter : Encounter} (keyed : encounter.codex.Keyed)
    (lenient : encounter.hooks.Lenient) {id condition : String} {known : Condition}
    (found : encounter.codex.get? condition = some known)
    (present : encounter.afflictions.contains id = true)
    (absent : encounter.affliction? id condition = none) (stack : Count) (duration : Option Count) :
    (encounter.afflictIfAllowed id condition stack duration).affliction? id condition
      = some (.new known stack duration) := by
  obtain ⟨set, inside⟩ := Option.isSome_iff_exists.mp present
  have kept : encounter.afflictionsOf id = set := by
    rw [afflictionsOf, inside, Option.getD_some]
  have allowed := lenient encounter.calls encounter.zone
    [.text id, .text condition, .ofCount stack]
  simp only [afflictIfAllowed, consult, allowed, Bool.false_eq_true, if_false, afflict, found,
    inside]
  simp only [affliction?, afflictionsOf, Table.get?_insert, if_true, Option.getD_some]
  rw [affliction?, kept] at absent
  exact Afflictions.get?_apply_new (keyed condition known found) absent stack duration

/-- The dying rule does nothing, or it applies the condition to a player who is down. -/
theorem beginDying_cases (encounter : Encounter) (target : Nat) :
    (encounter.beginDying target = encounter ∧
      ∀ combatant, encounter.combatants[target]? = some combatant → combatant.isPlayer = true →
        combatant.dead = false → combatant.hp = 0 →
          (encounter.affliction? combatant.id Condition.dying.id).isSome = true) ∨
    ∃ combatant, encounter.combatants[target]? = some combatant ∧ combatant.isPlayer = true ∧
      combatant.dead = false ∧ combatant.hp = 0 ∧
      encounter.affliction? combatant.id Condition.dying.id = none ∧
      encounter.beginDying target = encounter.afflictIfAllowed combatant.id Condition.dying.id
        ((encounter.afflictionsOf combatant.id).stackOf Condition.wounded.id + 1) none := by
  unfold beginDying
  split
  next missing => exact .inl ⟨rfl, fun _ found => by rw [missing] at found; cases found⟩
  next combatant found =>
    split
    next falls =>
      simp only [Bool.and_eq_true, Bool.not_eq_true', decide_eq_true_eq] at falls
      obtain ⟨⟨⟨player, alive⟩, down⟩, well⟩ := falls
      refine .inr ⟨combatant, found, player, alive, down, ?_, rfl⟩
      simpa [affliction?, hasCondition, Afflictions.has, Table.contains] using well
    next spared =>
      refine .inl ⟨rfl, fun other there player alive down => ?_⟩
      cases found.symm.trans there
      refine Option.isSome_iff_ne_none.mpr ?_
      simpa [player, alive, down, affliction?, hasCondition, Afflictions.has, Table.contains]
        using spared

end Encounter

/-! ### A combatant that was hit -/

/-- What is left of the agreement when a living combatant has been hit. -/
structure Combatant.Falls (combatant : Combatant) (set : Afflictions) : Prop where
  living : combatant.isPlayer = true →
    combatant.dead = false ∧ (set.has Condition.dying.id = true → combatant.hp = 0)
  nonPlayer : combatant.isPlayer = false →
    set.has Condition.dying.id = false ∧ combatant.dead = false
  able : 1 ≤ combatant.maxHp
  endless : ∀ affliction, set.get? Condition.dying.id = some affliction → affliction.left = none

namespace Combatant

/-- A dead player has no hit points and is not dying, so only the living may be hit. -/
theorem Agrees.falls {combatant : Combatant} {set : Afflictions} (agrees : combatant.Agrees set)
    (alive : combatant.isDead = false) : combatant.Falls set := by
  refine ⟨fun player => ?_, agrees.nonPlayer, agrees.able, agrees.endless⟩
  have living := (isDead_of_player player).symm.trans alive
  exact ⟨living, (agrees.living player living).mpr⟩

theorem Falls.hurt {combatant : Combatant} {set : Afflictions} (falls : combatant.Falls set)
    (amount : Count) : (combatant.hurt amount).Falls set := by
  refine ⟨fun player => ?_, falls.nonPlayer, falls.able, falls.endless⟩
  obtain ⟨living, down⟩ := falls.living player
  refine ⟨living, fun dying => ?_⟩
  have none : combatant.hp = 0 := down dying
  ext
  show combatant.hp.toNat - amount.toNat = 0
  rw [none]
  exact Nat.zero_sub _

theorem Falls.of_same {combatant : Combatant} {set changed : Afflictions}
    (falls : combatant.Falls set)
    (dying : changed.get? Condition.dying.id = set.get? Condition.dying.id) :
    combatant.Falls changed := by
  have has : changed.has Condition.dying.id = set.has Condition.dying.id :=
    congrArg Option.isSome dying
  constructor
  · rw [has]
    exact falls.living
  · rw [has]
    exact falls.nonPlayer
  · exact falls.able
  · rw [dying]
    exact falls.endless

/-- Whoever is down and dying, or neither, agrees. -/
theorem Falls.agrees {combatant : Combatant} {set : Afflictions} (falls : combatant.Falls set)
    (ruled : combatant.isPlayer = true → combatant.dead = false → combatant.hp = 0 →
      (set.get? Condition.dying.id).isSome = true) : combatant.Agrees set := by
  refine ⟨fun player alive => ⟨ruled player alive, (falls.living player).2⟩, fun player dead => ?_,
    falls.nonPlayer, falls.able, falls.endless⟩
  rw [(falls.living player).1] at dead
  cases dead

/-- A player who was hit and has begun to die agrees. -/
theorem Falls.begin {combatant : Combatant} {set changed : Afflictions} {affliction : Affliction}
    (falls : combatant.Falls set) (player : combatant.isPlayer = true) (down : combatant.hp = 0)
    (entry : changed.get? Condition.dying.id = some affliction)
    (endless : affliction.left = none) : combatant.Agrees changed :=
  agrees_of_entry falls.able player (falls.living player).1 down entry endless

end Combatant

/-! ### Encounters -/

namespace Encounter

/-- The names are distinct, and the dying condition can be applied to everybody. -/
structure Ruled (encounter : Encounter) : Prop where
  distinct : encounter.ids.Nodup
  kept : ∀ id ∈ encounter.ids, encounter.afflictions.contains id = true
  keyed : encounter.codex.Keyed
  known : encounter.codex.contains Condition.dying.id = true
  lenient : encounter.hooks.Lenient

theorem Ruled.framed {before after : Encounter} (ruled : before.Ruled)
    (framed : Framed before after) : after.Ruled where
  distinct := framed.ids ▸ ruled.distinct
  kept id member := (framed.afflicted id).trans (ruled.kept id (framed.ids ▸ member))
  keyed := framed.codex ▸ ruled.keyed
  known := framed.codex ▸ ruled.known
  lenient := framed.hooks ▸ ruled.lenient

theorem Ruled.afflicted {encounter : Encounter} (ruled : encounter.Ruled) {index : Nat}
    {combatant : Combatant} (found : encounter.combatants[index]? = some combatant) :
    encounter.afflictions.contains combatant.id = true :=
  ruled.kept _ (List.mem_map_of_mem (List.mem_of_getElem? found))

/-! ### Beginning to die -/

/-- What may become of dying and wounded combatants: nothing, but that somebody begins to die. -/
structure DiesFrom (before after : Encounter) : Prop where
  codex : after.codex = before.codex
  wounds : ∀ id,
    after.affliction? id Condition.wounded.id = before.affliction? id Condition.wounded.id
  dying : ∀ id,
    after.affliction? id Condition.dying.id = before.affliction? id Condition.dying.id ∨
    before.affliction? id Condition.dying.id = none ∧
      ∃ known, before.codex.get? Condition.dying.id = some known ∧
        after.affliction? id Condition.dying.id
          = some (.new known ((before.afflictionsOf id).stackOf Condition.wounded.id + 1) none)

theorem DiesFrom.of_same {before after : Encounter} (codex : after.codex = before.codex)
    (same : ∀ id, after.afflictionsOf id = before.afflictionsOf id) : DiesFrom before after where
  codex := codex
  wounds id := by rw [affliction?, same, affliction?]
  dying id := .inl (by rw [affliction?, same, affliction?])

theorem DiesFrom.trans {first second third : Encounter} (one : DiesFrom first second)
    (two : DiesFrom second third) : DiesFrom first third where
  codex := two.codex.trans one.codex
  wounds id := (two.wounds id).trans (one.wounds id)
  dying id := by
    rcases two.dying id with still | ⟨well, known, found, begun⟩
    · rw [still]
      exact one.dying id
    -- The wounds are those from the start, so it does not matter when the dying began.
    · rcases one.dying id with before | ⟨_, _, _, already⟩
      · refine .inr ⟨before ▸ well, known, one.codex ▸ found, ?_⟩
        rw [begun, stackOf_eq_affliction?, stackOf_eq_affliction?, one.wounds]
      · rw [well] at already
        cases already

/-- What a swing leaves behind are other conditions than dying and wounded. -/
theorem affliction?_afterSwing {encounter : Encounter} (keyed : encounter.codex.Keyed)
    (attacker target : Combatant) (outcome : Outcome) {condition : String}
    (rules : condition ≠ Condition.prone.id ∧ condition ≠ Condition.flatFooted.id)
    (id : String) :
    (encounter.afterSwing attacker target outcome).affliction? id condition
      = encounter.affliction? id condition := by
  cases outcome with
  | criticalFailure => exact affliction?_afflictIfAllowed keyed _ _ _ _ (.inr rules.1)
  | criticalSuccess => exact affliction?_afflictIfAllowed keyed _ _ _ _ (.inr rules.2)
  | success => rfl
  | failure => rfl

theorem afterSwing_diesFrom {encounter : Encounter} (keyed : encounter.codex.Keyed)
    (attacker target : Combatant) (outcome : Outcome) :
    DiesFrom encounter (encounter.afterSwing attacker target outcome) where
  codex := (afterSwing_framed ..).codex
  wounds := affliction?_afterSwing keyed attacker target outcome (by decide)
  dying id := .inl (affliction?_afterSwing keyed attacker target outcome (by decide) id)

theorem beginDying_diesFrom {encounter : Encounter} (keyed : encounter.codex.Keyed) (target : Nat) :
    DiesFrom encounter (encounter.beginDying target) := by
  have framed := beginDying_framed encounter target
  rcases beginDying_cases encounter target with ⟨same, _⟩ | ⟨self, _, _, _, _, well, begun⟩
  · rw [same]
    exact .of_same rfl fun _ => rfl
  · constructor
    · exact framed.codex
    · intro id
      rw [begun]
      exact affliction?_afflictIfAllowed keyed _ _ _ _ (.inr (by decide))
    · intro id
      rw [begun]
      by_cases hit : id = self.id
      · subst hit
        rcases affliction?_afflictIfAllowed_absent keyed well
          ((encounter.afflictionsOf self.id).stackOf Condition.wounded.id + 1) none with
          still | ⟨known, entered, fresh⟩
        · exact .inl (still.trans well.symm)
        · exact .inr ⟨well, known, entered, fresh⟩
      · exact .inl (affliction?_afflictIfAllowed keyed _ _ _ _ (.inl hit))

/-! ### Agreement -/

/-- Hit points and conditions agree, for all but a combatant that was just hit. -/
structure AgreesBut (hit : Option Nat) (encounter : Encounter) : Prop where
  each : ∀ (index : Nat) (combatant : Combatant),
    encounter.combatants[index]? = some combatant → hit ≠ some index →
      combatant.Agrees (encounter.afflictionsOf combatant.id)
  struck : ∀ (index : Nat) (combatant : Combatant),
    encounter.combatants[index]? = some combatant → hit = some index →
      combatant.Falls (encounter.afflictionsOf combatant.id)

/-- Hit points and conditions agree for everybody. -/
abbrev Agrees (encounter : Encounter) : Prop := AgreesBut none encounter

theorem agrees_iff {encounter : Encounter} :
    encounter.Agrees ↔
      ∀ combatant ∈ encounter.combatants,
        combatant.Agrees (encounter.afflictionsOf combatant.id) := by
  constructor
  · intro agrees combatant member
    obtain ⟨index, found⟩ := List.mem_iff_getElem?.mp member
    exact agrees.each index combatant found (by simp)
  · intro each
    refine ⟨fun index combatant found _ => ?_, fun _ _ _ never => by cases never⟩
    exact each combatant (List.mem_of_getElem? found)

/-- Only the combatants and their dying conditions matter. -/
theorem AgreesBut.of_same {hit : Option Nat} {before after : Encounter}
    (agrees : before.AgreesBut hit) (combatants : after.combatants = before.combatants)
    (dying : ∀ id, after.affliction? id Condition.dying.id
      = before.affliction? id Condition.dying.id) : after.AgreesBut hit := by
  constructor
  · intro index combatant found others
    rw [combatants] at found
    exact (agrees.each index combatant found others).of_same rfl rfl rfl rfl (dying _)
  · intro index combatant found same
    rw [combatants] at found
    exact (agrees.struck index combatant found same).of_same (dying _)

/-- A change at one position that leaves hit points alone does not matter either. -/
theorem Agrees.changeAt {encounter : Encounter} (agrees : encounter.Agrees) (index : Nat)
    {change : Combatant → Combatant}
    (keeps : ∀ combatant, (change combatant).id = combatant.id ∧
      (change combatant).side = combatant.side ∧ (change combatant).hp = combatant.hp ∧
      (change combatant).dead = combatant.dead ∧ (change combatant).maxHp = combatant.maxHp) :
    (encounter.changeAt index change).Agrees := by
  refine ⟨fun position combatant found _ => ?_, fun _ _ _ never => by cases never⟩
  simp only [Encounter.changeAt, List.getElem?_modify] at found
  obtain ⟨self, at_, changed⟩ := Option.map_eq_some_iff.mp found
  have agreed := agrees.each position self at_ (by simp)
  split at changed
  · subst changed
    obtain ⟨id, side, hp, dead, maxHp⟩ := keeps self
    rw [id]
    exact agreed.of_same side hp dead maxHp rfl
  · subst changed
    exact agreed

/-- A hit takes hit points of a living combatant, for which the agreement may fail. -/
theorem Agrees.hurt {encounter : Encounter} (agrees : encounter.Agrees) {target : Nat}
    (alive : encounter.isDeadAt target = false) (amount : Count) :
    (encounter.changeAt target (Combatant.hurt amount)).AgreesBut (some target) := by
  constructor
  · intro index combatant found others
    have apart : target ≠ index := fun same => others (congrArg some same)
    rw [Encounter.changeAt, List.getElem?_modify_ne _ _ apart] at found
    exact agrees.each index combatant found (by simp)
  · intro index combatant found same
    cases same
    obtain ⟨self, at_, living⟩ := isDeadAt_eq_false.mp alive
    simp only [Encounter.changeAt, List.getElem?_modify_eq, at_] at found
    cases found
    exact ((agrees.each target self at_ (by simp)).falls living).hurt amount

/-- A hit without damage does not even do that. -/
theorem Agrees.unhurt {encounter : Encounter} (agrees : encounter.Agrees) {target : Nat}
    (alive : encounter.isDeadAt target = false) : encounter.AgreesBut (some target) := by
  refine ⟨fun index combatant found _ => agrees.each index combatant found (by simp), ?_⟩
  intro index combatant found same
  cases same
  obtain ⟨self, at_, living⟩ := isDeadAt_eq_false.mp alive
  cases found.symm.trans at_
  exact (agrees.each target combatant found (by simp)).falls living

/-- The dying rule restores the agreement. -/
theorem AgreesBut.beginDying {encounter : Encounter} {target : Nat} (ruled : encounter.Ruled)
    (agrees : encounter.AgreesBut (some target)) : (encounter.beginDying target).Agrees := by
  refine ⟨fun index combatant found _ => ?_, fun _ _ _ never => by cases never⟩
  rw [combatants_beginDying] at found
  rcases beginDying_cases encounter target with
    ⟨same, spared⟩ | ⟨self, at_, player, _, down, well, begun⟩
  -- Nothing happens, since the target still stands, cannot die or is dying already.
  · rw [same]
    by_cases hit : target = index
    · subst hit
      exact (agrees.struck target combatant found rfl).agrees (spared combatant found)
    · exact agrees.each index combatant found fun equal => hit (Option.some.inj equal)
  · by_cases hit : target = index
    · subst hit
      cases found.symm.trans at_
      have falls := agrees.struck target combatant found rfl
      obtain ⟨known, entered⟩ := Option.isSome_iff_exists.mp ruled.known
      have entry := affliction?_afflictIfAllowed_new ruled.keyed ruled.lenient entered
        (ruled.afflicted found) well
        ((encounter.afflictionsOf combatant.id).stackOf Condition.wounded.id + 1) none
      rw [begun]
      exact falls.begin player down entry rfl
    -- The condition goes to one name, which nobody else bears.
    · have agreed := agrees.each index combatant found fun equal => hit (Option.some.inj equal)
      have apart : combatant.id ≠ self.id := fun same =>
        hit (index_eq_of_id ruled.distinct at_ found same.symm)
      rw [begun]
      exact agreed.of_same rfl rfl rfl rfl
        (affliction?_afflictIfAllowed ruled.keyed _ _ _ _ (.inl apart))

end Encounter

/-! ### Steps -/

namespace Scene

open Encounter

theorem hurt_diesFrom (scene : Scene) (target : Nat) (damage : Score) :
    DiesFrom scene.encounter (scene.hurt target damage).encounter := by
  unfold hurt
  split
  · exact .of_same rfl fun _ => rfl
  · split
    · exact .of_same rfl fun _ => rfl
    · exact .of_same rfl fun _ => rfl

theorem hurt_agrees {scene : Scene} (agrees : scene.encounter.Agrees) {target : Nat}
    (alive : scene.encounter.isDeadAt target = false) (damage : Score) :
    (scene.hurt target damage).encounter.AgreesBut (some target) := by
  unfold hurt
  split
  · exact agrees.unhurt alive
  · split
    · exact agrees.unhurt alive
    · exact agrees.hurt alive _

theorem Step.diesFrom {before after : Scene} (step : Step before after)
    (keyed : before.encounter.codex.Keyed) : DiesFrom before.encounter after.encounter := by
  cases step with
  | ask hook args => exact .of_same rfl fun _ => rfl
  | reload index => exact .of_same rfl fun _ => rfl
  | fire index => exact .of_same rfl fun _ => rfl
  | @hit target damage _ =>
    have hurt := hurt_diesFrom before target damage
    exact hurt.trans (beginDying_diesFrom (hurt.codex ▸ keyed) target)
  | @swing _ target attacker defender damage outcome _ _ _ =>
    have hurt := hurt_diesFrom before target damage
    have left := hurt.trans (afterSwing_diesFrom (hurt.codex ▸ keyed) attacker defender outcome)
    exact left.trans (beginDying_diesFrom (left.codex ▸ keyed) target)

/-- In any number of steps dying begins by the rule, and nothing else becomes of it. -/
theorem Reaches.diesFrom {before after : Scene} (reached : Reaches before after)
    (keyed : before.encounter.codex.Keyed) : DiesFrom before.encounter after.encounter := by
  induction reached with
  | refl => exact .of_same rfl fun _ => rfl
  | tail early step ih => exact ih.trans (step.diesFrom (ih.codex ▸ keyed))

theorem Step.agrees {before after : Scene} (step : Step before after)
    (ruled : before.encounter.Ruled) (agrees : before.encounter.Agrees) :
    after.encounter.Agrees := by
  cases step with
  | ask hook args => exact agrees.of_same rfl fun _ => rfl
  | reload index => exact agrees.changeAt index fun _ => ⟨rfl, rfl, rfl, rfl, rfl⟩
  | fire index => exact agrees.changeAt index fun _ => ⟨rfl, rfl, rfl, rfl, rfl⟩
  | @hit target damage alive =>
    have hurt := ruled.framed (hurt_framed before target damage)
    exact (hurt_agrees agrees alive damage).beginDying hurt
  | @swing actor target attacker defender damage outcome _ defenderAt living =>
    have alive := isDeadAt_eq_false.mpr ⟨defender, defenderAt, living⟩
    have hurt := ruled.framed (hurt_framed before target damage)
    have swung := hurt.framed (afterSwing_framed _ attacker defender outcome)
    have left := (hurt_agrees agrees alive damage).of_same
      (combatants_afterSwing _ attacker defender outcome)
      (affliction?_afterSwing hurt.keyed attacker defender outcome (by decide))
    exact left.beginDying swung

theorem Reaches.agrees {before after : Scene} (reached : Reaches before after)
    (ruled : before.encounter.Ruled) (agrees : before.encounter.Agrees) :
    after.encounter.Agrees := by
  induction reached with
  | refl => exact agrees
  | tail early step ih => exact step.agrees (ruled.framed (Reaches.framed early)) ih

end Scene

theorem Encounter.resolve_diesFrom {encounter : Encounter} (keyed : encounter.codex.Keyed) :
    Always (fun resolution => DiesFrom encounter resolution.encounter) encounter.resolve :=
  encounter.resolve_reaches.mono fun _ reached => Scene.Reaches.diesFrom reached keyed

theorem Encounter.resolve_dying {encounter : Encounter} (ruled : encounter.Ruled)
    (agrees : encounter.Agrees) :
    Always (fun resolution => resolution.encounter.Agrees ∧ DiesFrom encounter resolution.encounter)
      encounter.resolve :=
  encounter.resolve_reaches.mono fun _ reached =>
    ⟨Scene.Reaches.agrees reached ruled agrees, Scene.Reaches.diesFrom reached ruled.keyed⟩

end Fray
