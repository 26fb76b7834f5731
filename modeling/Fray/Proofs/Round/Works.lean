import Fray.Proofs.Dying.Hits

/-!
# What an action works

An action is the work of one combatant. All attacks that are told of it are its
own, it handles no magazine but its own, and what it leaves behind depends on its
kind: only a swing makes somebody stumble or leaves an opening, and only reloading
and firing touch a magazine. How many events an action gives depends on its kind and
on the living opponents at that moment.

## Main result

`perform_works`: what holds of a swing, a shot and a blast holds of every action, and its
block has the size of its kind.
-/

namespace Fray

open Draws

namespace ActionKind

/-- The kinds that attack with what is in the hand. -/
def isAttack : ActionKind → Bool
  | attack | strike | burst | automatic => true
  | unknown | pass | reload | throw => false

def isMelee : ActionKind → Bool
  | attack | strike => true
  | unknown | pass | reload | burst | automatic | throw => false

/-- The kinds that fill a magazine or use it. -/
def handlesMagazine : ActionKind → Bool
  | reload | burst | automatic => true
  | unknown | attack | strike | pass | throw => false

theorem isAttack_of_isMelee {kind : ActionKind} (melee : kind.isMelee = true) :
    kind.isAttack = true := by
  cases kind with
  | attack | strike => rfl
  | unknown | pass | reload | burst | automatic | throw => cases melee

end ActionKind

namespace Encounter

/-! ### Sizes of blocks -/

/-- The number of living combatants on the other side of the one at a position. -/
def livingOpponents (encounter : Encounter) (index : Nat) : Nat :=
  match encounter.combatants[index]? with
  | none => 0
  | some self => encounter.combatants.countP fun other =>
      other.isAlive && other.side == self.side.opposing

/-- Whether the inventory has the explosive that an action asks for. -/
def holds (encounter : Encounter) (action : Action) : Bool :=
  encounter.inventory.any fun inventory =>
    (action.explosive.bind inventory.explosives.get?).isSome

/-- The number of events that an action of the combatant at a position can give. -/
def BlockSize (encounter : Encounter) (index : Nat) (action : Action) (size : Nat) : Prop :=
  match action.kind with
  | .unknown => size = 0
  | .pass | .attack | .reload => size = 1
  | .strike => size = 2
  | .burst => size = 1 ∨ size = 2
  | .automatic => size = max 1 (min automaticTargets (encounter.livingOpponents index))
  | .throw => size = if encounter.holds action then max 1 (encounter.livingOpponents index) else 1

/-- Nobody opposes itself, so the position of the actor need not be left out. -/
theorem length_opponents (encounter : Encounter) (index : Nat) :
    (encounter.opponents index).length = encounter.livingOpponents index := by
  unfold opponents livingOpponents
  cases here : encounter.combatants[index]? with
  | none => rfl
  | some self =>
    simp only
    rw [← countP_range_getElem?, ← List.countP_eq_length_filter]
    refine List.countP_congr fun position _ => ?_
    cases there : encounter.combatants[position]? with
    | none => rfl
    | some other =>
      by_cases same : position = index
      · subst same
        cases here.symm.trans there
        simp [Ne.symm (Side.opposing_ne self.side)]
      · simp [same]

theorem inside_of_firstLiving {encounter : Encounter} {test : Combatant → Bool} {target : Nat}
    (found : encounter.firstLiving test = some target) : target < encounter.ids.length := by
  obtain ⟨inside, _⟩ := List.findIdx?_eq_some_iff_getElem.mp found
  simpa using inside

theorem inside_of_mem_opponents {encounter : Encounter} {index target : Nat}
    (member : target ∈ encounter.opponents index) : target < encounter.ids.length := by
  obtain ⟨_, found, _⟩ := isDeadAt_eq_false.mp (isDeadAt_of_mem_opponents member)
  simpa using (List.getElem?_eq_some_iff.mp found).1

/-! ### Loadouts -/

/-- What the combatant at a position carries. -/
def loadoutAt? (encounter : Encounter) (index : Nat) : Option Loadout :=
  (encounter.combatants[index]?).map Combatant.loadout

theorem loadoutAt?_of_same {before after : Encounter}
    (combatants : after.combatants = before.combatants) (index : Nat) :
    after.loadoutAt? index = before.loadoutAt? index := by
  rw [loadoutAt?, combatants, loadoutAt?]

theorem loadoutAt?_changeAt {encounter : Encounter} {position index : Nat}
    {change : Combatant → Combatant}
    (keeps : position ≠ index ∨ ∀ combatant, (change combatant).loadout = combatant.loadout) :
    (encounter.changeAt position change).loadoutAt? index = encounter.loadoutAt? index := by
  simp only [loadoutAt?, changeAt, List.getElem?_modify]
  cases encounter.combatants[index]? with
  | none => rfl
  | some combatant =>
    simp only [Option.map_eq_map, Option.map_some]
    split
    next same => exact congrArg some ((keeps.resolve_left (not_not.mpr same)) combatant)
    · rfl

/-! ### Dying -/

/-- The dying rule leaves other conditions alone. -/
theorem affliction?_beginDying {encounter : Encounter} (keyed : encounter.codex.Keyed)
    (target : Nat) (id : String) {condition : String} (other : condition ≠ Condition.dying.id) :
    (encounter.beginDying target).affliction? id condition = encounter.affliction? id condition := by
  rcases beginDying_cases encounter target with ⟨same, _⟩ | ⟨self, _, _, _, _, _, begun⟩
  · rw [same]
  · rw [begun]
    exact affliction?_afflictIfAllowed keyed _ _ _ _ (.inr other)

end Encounter

namespace Scene

open Encounter

theorem loadoutAt?_hurt (scene : Scene) (target : Nat) (damage : Score) (index : Nat) :
    (scene.hurt target damage).encounter.loadoutAt? index = scene.encounter.loadoutAt? index := by
  unfold hurt
  split
  · rfl
  · split
    · rfl
    · exact loadoutAt?_changeAt (.inr fun _ => rfl)

theorem afflictionsOf_hurt (scene : Scene) (target : Nat) (damage : Score) (id : String) :
    (scene.hurt target damage).encounter.afflictionsOf id = scene.encounter.afflictionsOf id := by
  unfold hurt
  split
  · rfl
  · split <;> rfl

/-- An attack roll and its damage change nothing but the hit points of the target. -/
theorem land_leaves (scene : Scene) (attacker target : Combatant) (index : Nat) (attack : Attack) :
    Framed scene.encounter (scene.land attacker target index attack).scene.encounter ∧
    (∀ position, (scene.land attacker target index attack).scene.encounter.loadoutAt? position
      = scene.encounter.loadoutAt? position) ∧
    ∀ id, (scene.land attacker target index attack).scene.encounter.afflictionsOf id
      = scene.encounter.afflictionsOf id := by
  obtain ⟨asked, reached, same, _, landed⟩ := land_cases scene attacker target index attack
  rw [landed]
  refine ⟨(Reaches.framed reached).trans (hurt_framed ..), fun position => ?_, fun id => ?_⟩
  · rw [loadoutAt?_hurt, same]
    rfl
  · rw [afflictionsOf_hurt, same]
    rfl

/-! ### The work of one action -/

/-- What an actor does between two scenes with an action of some kind, as far as it is told. -/
structure Works (actor : Actor) (kind : ActionKind) (before : Scene) (events : List RoundEvent)
    (after : Scene) : Prop where
  framed : Framed before.encounter after.encounter
  attacks : ∀ event ∈ events, ∀ attack ∈ event.attack,
    kind.isAttack = true ∧ attack.attacker = actor.id
  loadouts : ∀ index, index ≠ actor.index ∨ kind.handlesMagazine = false →
    after.encounter.loadoutAt? index = before.encounter.loadoutAt? index
  /-- Without a swing nobody gets another condition than dying. -/
  marks : kind.isMelee = false → before.encounter.codex.Keyed → ∀ id condition,
    condition ≠ Condition.dying.id →
      after.encounter.affliction? id condition = before.encounter.affliction? id condition

theorem Works.trans {actor : Actor} {kind : ActionKind} {first second third : Scene}
    {early late : List RoundEvent} (one : Works actor kind first early second)
    (two : Works actor kind second late third) : Works actor kind first (early ++ late) third where
  framed := one.framed.trans two.framed
  attacks event member :=
    (List.mem_append.mp member).elim (one.attacks event) (two.attacks event)
  loadouts index apart := (two.loadouts index apart).trans (one.loadouts index apart)
  marks ranged keyed id condition other :=
    (two.marks ranged (one.framed.codex ▸ keyed) id condition other).trans
      (one.marks ranged keyed id condition other)

/-- Nothing but what is told changes. -/
theorem works_of_plain {actor : Actor} {kind : ActionKind} {scene : Scene}
    {events : List RoundEvent} (plain : ∀ event ∈ events, event.attack = none) :
    Works actor kind scene events scene where
  framed := .refl _
  attacks event member attack inside := by
    rw [plain event member] at inside
    cases inside
  loadouts _ _ := rfl
  marks _ _ _ _ _ := rfl

theorem works_event (actor : Actor) (kind told : ActionKind) (scene : Scene) (narrative : String) :
    Works actor kind scene [actor.event told narrative] scene :=
  works_of_plain fun event member => by
    cases List.mem_singleton.mp member
    rfl

theorem works_ask (actor : Actor) (kind : ActionKind) (scene : Scene) (hook : String)
    (args : List HookValue) :
    Works actor kind scene [] (scene.within fun encounter => (encounter.consult hook args).2) where
  framed := consult_framed ..
  attacks _ member := by cases member
  loadouts _ _ := rfl
  marks _ _ _ _ _ := rfl

section Attacks

variable {scene : Scene} {actor : Actor} {kind : ActionKind} {target : Nat}

/-- A swing gives an attack of the actor. -/
theorem swing_works (stands : scene.encounter.ids[actor.index]? = some actor.id)
    (inside : target < scene.encounter.ids.length) (melee : kind.isMelee = true)
    (penalty : Score) :
    Always (fun result => ∃ attack, result.1 = some attack ∧
        ∀ event : RoundEvent, event.attack = some attack →
          Works actor kind scene [event] result.2)
      (scene.swing actor.index target penalty) := by
  obtain ⟨attacker, attackerAt, named⟩ := Option.map_eq_some_iff.mp (List.getElem?_map ▸ stands)
  obtain ⟨defender, defenderAt⟩ : ∃ defender, scene.encounter.combatants[target]? = some defender :=
    ⟨_, List.getElem?_eq_getElem (by simpa using inside)⟩
  -- Both sides stand somewhere, so there is an attack for every roll.
  simp only [swing, attackerAt, defenderAt]
  rw [always_bind]
  refine (meleeRoll_between attacker defender).mono fun rolled between => ?_
  refine ⟨_, rfl, fun event told => ?_⟩
  obtain ⟨framed, loadouts, _⟩ := land_leaves scene attacker defender target { rolled with
    total := rolled.total + scene.encounter.swingModifier attacker.id defender.id - penalty }
  constructor
  · exact (framed.trans (afterSwing_framed ..)).trans (beginDying_framed ..)
  · intro only member attack among
    cases List.mem_singleton.mp member
    cases told.symm.trans among
    exact ⟨ActionKind.isAttack_of_isMelee melee, between.1.trans named⟩
  · intro index _
    refine (loadoutAt?_of_same ?_ index).trans (loadouts index)
    exact (combatants_beginDying ..).trans (combatants_afterSwing ..)
  -- A swing is the one thing that may leave marks.
  · intro ranged
    rw [melee] at ranged
    cases ranged

/-- A shot hits only its target, and uses only the magazine of the actor. -/
theorem shoot_works (stands : scene.encounter.ids[actor.index]? = some actor.id)
    (inside : target < scene.encounter.ids.length) (fires : kind = .burst ∨ kind = .automatic)
    (weapon : Option Weapon) :
    Always (fun result => ∃ hit, result = some hit ∧
        ∀ event : RoundEvent, event.attack = some hit.attack →
          Works actor kind scene [event] hit.scene)
      (scene.shoot actor.index target weapon) := by
  obtain ⟨attacker, attackerAt, named⟩ := Option.map_eq_some_iff.mp (List.getElem?_map ▸ stands)
  obtain ⟨defender, defenderAt⟩ : ∃ defender, scene.encounter.combatants[target]? = some defender :=
    ⟨_, List.getElem?_eq_getElem (by simpa using inside)⟩
  simp only [shoot, attackerAt, defenderAt]
  rw [always_bind]
  refine (shotOrBlow_between ..).mono fun rolled between => ?_
  refine ⟨_, rfl, fun event told => ?_⟩
  obtain ⟨framed, loadouts, afflictions⟩ := land_leaves scene attacker defender target rolled
  -- Up to here the shot is a hit like any other; the magazine comes last.
  have struck : Works actor kind scene [event]
      ((scene.land attacker defender target rolled).scene.within (·.beginDying target)) := by
    constructor
    · exact framed.trans (beginDying_framed ..)
    · intro only member attack among
      cases List.mem_singleton.mp member
      cases told.symm.trans among
      refine ⟨?_, between.1.trans named⟩
      rcases fires with rfl | rfl <;> rfl
    · intro index _
      exact (loadoutAt?_of_same (combatants_beginDying ..) index).trans (loadouts index)
    · intro _ keyed id condition other
      refine (affliction?_beginDying (framed.codex ▸ keyed) target id other).trans ?_
      exact congrArg (Table.get? · condition) (afflictions id)
  split
  -- The round that is used up is that of the actor.
  · have fired := changeAt_framed
      ((scene.land attacker defender target rolled).scene.encounter.beginDying target) actor.index
      Combatant.profile_fire
    refine ⟨struck.framed.trans fired, struck.attacks, fun index apart => ?_, struck.marks⟩
    have own : actor.index ≠ index := by
      rcases apart with different | unused
      · exact different.symm
      · rcases fires with rfl | rfl <;> cases unused
    exact (loadoutAt?_changeAt (.inl own)).trans (struck.loadouts index apart)
  · exact struck

end Attacks

/-! ### Actions -/

theorem performAttack_works {scene : Scene} {actor : Actor} (action : Action)
    (stands : scene.encounter.ids[actor.index]? = some actor.id) :
    Always (fun result => Works actor .attack scene result.1 result.2 ∧ result.1.length = 1)
      (scene.performAttack actor action) := by
  unfold performAttack
  split
  · exact ⟨works_event .., rfl⟩
  next target found =>
    obtain ⟨_, _, named⟩ := Option.bind_eq_some_iff.mp found
    rw [always_bind]
    have melee : ActionKind.isMelee .attack = true := rfl
    refine (swing_works stands (inside_of_firstLiving named) melee 0).mono fun result swung => ?_
    obtain ⟨attack, given, works⟩ := swung
    simp only [given, pure_eq, always_done]
    exact ⟨works _ rfl, rfl⟩

/-- A strike gives two events, whether or not its target is there and lives on. -/
theorem performStrike_works {scene : Scene} {actor : Actor} (action : Action)
    (stands : scene.encounter.ids[actor.index]? = some actor.id) :
    Always (fun result => Works actor .strike scene result.1 result.2 ∧ result.1.length = 2)
      (scene.performStrike actor action) := by
  unfold performStrike
  split
  · exact ⟨(works_event ..).trans (works_event ..), rfl⟩
  next target found =>
    obtain ⟨_, _, named⟩ := Option.bind_eq_some_iff.mp found
    have inside := inside_of_firstLiving named
    have melee : ActionKind.isMelee .strike = true := rfl
    rw [always_bind]
    refine (swing_works stands inside melee 0).mono fun result swung => ?_
    obtain ⟨attack, given, works⟩ := swung
    have first (narrative : String) := works (actor.attackEvent .strike attack narrative) rfl
    simp only [given]
    split
    · exact ⟨(first _).trans (works_event ..), rfl⟩
    -- The first swing has moved nobody, so the second one finds both sides again.
    · have ids := (first "").framed.ids
      rw [always_bind]
      refine (swing_works (ids ▸ stands) (ids ▸ inside) melee secondSwingPenalty).mono
        fun last again => ?_
      obtain ⟨other, twice, later⟩ := again
      simp only [twice, pure_eq, always_done]
      exact ⟨(first _).trans (later _ rfl), rfl⟩

theorem performReload_works (scene : Scene) (actor : Actor) (action : Action) :
    Works actor .reload scene (scene.performReload actor action).1
        (scene.performReload actor action).2 ∧
      (scene.performReload actor action).1.length = 1 := by
  have full : Works actor .reload scene [] (scene.within
      (·.changeAt actor.index fun self => { self with loadout := self.loadout.reload })) := by
    refine ⟨changeAt_framed _ _ Combatant.profile_reload, by simp, fun index apart => ?_, ?_⟩
    · have own : actor.index ≠ index := (apart.resolve_right (by decide)).symm
      exact loadoutAt?_changeAt (.inl own)
    · exact fun _ _ _ _ _ => rfl
  exact ⟨(full.trans (works_ask ..)).trans (works_event ..), rfl⟩

theorem shootOn_works {actor : Actor} {target : Nat} (name : String) (weapon : Option Weapon)
    (shots : Nat) {scene : Scene} (stands : scene.encounter.ids[actor.index]? = some actor.id)
    (inside : target < scene.encounter.ids.length) :
    Always (fun result => Works actor .burst scene result.1 result.2 ∧
        result.1.length ≤ shots ∧ (0 < shots → 0 < result.1.length))
      (shootOn actor target name weapon shots scene) := by
  induction shots generalizing scene with
  | zero => exact ⟨works_of_plain (by simp), Nat.le_refl _, fun none => absurd none (by decide)⟩
  | succ shots ih =>
    simp only [shootOn]
    rw [always_bind]
    refine (shoot_works stands inside (.inl rfl) weapon).mono fun result shot => ?_
    obtain ⟨hit, given, works⟩ := shot
    have first := works (shotEvent actor .burst name hit) rfl
    simp only [given]
    split
    -- The target is dead, and the remaining shots are not fired.
    · exact ⟨first, by simp, by simp⟩
    · have ids := first.framed.ids
      rw [always_bind]
      refine (ih (ids ▸ stands) (ids ▸ inside)).mono fun rest later => ?_
      obtain ⟨others, atMost, _⟩ := later
      exact ⟨first.trans others, Nat.succ_le_succ atMost, fun _ => Nat.succ_pos _⟩

/-- Automatic fire gives an event for every target that was chosen. -/
theorem shootEach_works {actor : Actor} (weapon : Option Weapon) {targets : List Nat}
    {scene : Scene} (stands : scene.encounter.ids[actor.index]? = some actor.id)
    (inside : ∀ target ∈ targets, target < scene.encounter.ids.length) :
    Always (fun result => Works actor .automatic scene result.1 result.2 ∧
        result.1.length = targets.length)
      (shootEach actor weapon targets scene) := by
  induction targets generalizing scene with
  | nil => exact ⟨works_of_plain (by simp), rfl⟩
  | cons target rest ih =>
    simp only [shootEach]
    rw [always_bind]
    refine (shoot_works stands (inside target List.mem_cons_self) (.inr rfl) weapon).mono
      fun result shot => ?_
    obtain ⟨hit, given, works⟩ := shot
    have first := works (shotEvent actor .automatic (scene.encounter.nameAt target) hit) rfl
    have ids := first.framed.ids
    simp only [given]
    rw [always_bind]
    refine (ih (ids ▸ stands) fun other member => ?_).mono fun others later => ?_
    · exact ids ▸ inside other (List.mem_cons_of_mem _ member)
    · exact ⟨first.trans later.1, congrArg (· + 1) later.2⟩

theorem performBurst_works {scene : Scene} {actor : Actor} (action : Action)
    (stands : scene.encounter.ids[actor.index]? = some actor.id) :
    Always (fun result => Works actor .burst scene result.1 result.2 ∧
        (result.1.length = 1 ∨ result.1.length = 2))
      (scene.performBurst actor action) := by
  unfold performBurst
  split
  · exact ⟨works_event .., .inl rfl⟩
  next target found =>
    obtain ⟨_, _, called⟩ := Option.bind_eq_some_iff.mp found
    refine (shootOn_works _ _ burstShots stands (inside_of_firstLiving called)).mono
      fun result shots => ?_
    obtain ⟨works, atMost, some⟩ := shots
    have most : result.1.length ≤ 2 := atMost
    have least : 0 < result.1.length := some (by decide)
    exact ⟨works, by omega⟩

theorem performAutomatic_works {scene : Scene} {actor : Actor} (action : Action)
    (stands : scene.encounter.ids[actor.index]? = some actor.id) :
    Always (fun result => Works actor .automatic scene result.1 result.2 ∧
        result.1.length
          = max 1 (min automaticTargets (scene.encounter.livingOpponents actor.index)))
      (scene.performAutomatic actor action) := by
  simp only [performAutomatic]
  rw [← length_opponents]
  split
  next none =>
    rw [List.isEmpty_iff.mp none]
    exact ⟨works_event .., rfl⟩
  next some =>
    have opposed : 0 < (scene.encounter.opponents actor.index).length :=
      List.length_pos_iff.mpr (by simpa using some)
    refine (shootEach_works _ stands fun target member =>
      inside_of_mem_opponents (List.mem_of_mem_take member)).mono fun result shots => ?_
    refine ⟨shots.1, ?_⟩
    rw [shots.2, List.length_take]
    have most : automaticTargets = 3 := rfl
    omega

/-! ### Explosives -/

theorem savesAgainst_length (explosive : Explosive) (damage : Score) (targets : List Combatant) :
    Always (fun blasts => blasts.length = targets.length)
      (savesAgainst explosive damage targets) := by
  induction targets with
  | nil => rfl
  | cons target rest ih =>
    simp only [savesAgainst]
    rw [always_bind]
    refine always_of_forall (fun blast => ?_) _
    rw [always_bind]
    exact ih.mono fun others same => congrArg (· + 1) same

theorem blastRoll_length (dice : Dice.Evaluator) (explosive : Explosive)
    (targets : List Combatant) :
    Always (fun blasts => blasts.length = targets.length) (blastRoll dice explosive targets) := by
  unfold blastRoll
  rw [always_bind]
  exact always_of_forall (fun rolled => savesAgainst_length explosive _ targets) _

theorem blastEach_works (actor : Actor) (explosive : Explosive) (targets : List (Nat × Blast))
    (scene : Scene) :
    Works actor .throw scene (blastEach actor explosive targets scene).1
        (blastEach actor explosive targets scene).2 ∧
      (blastEach actor explosive targets scene).1.length = targets.length := by
  induction targets generalizing scene with
  | nil => exact ⟨works_of_plain (by simp [blastEach]), rfl⟩
  | cons first rest ih =>
    obtain ⟨target, blast⟩ := first
    let struck := (scene.hurt target blast.damage).within (·.beginDying target)
    have hurt := hurt_framed scene target blast.damage
    have begun := beginDying_framed (scene.hurt target blast.damage).encounter target
    have one (event : RoundEvent) (plain : event.attack = none) :
        Works actor .throw scene [event] struck := by
      constructor
      · exact hurt.trans begun
      · intro only member attack inside
        cases List.mem_singleton.mp member
        cases plain.symm.trans inside
      · intro index _
        exact (loadoutAt?_of_same (combatants_beginDying ..) index).trans (loadoutAt?_hurt ..)
      · intro _ keyed id condition other
        refine (affliction?_beginDying (hurt.codex ▸ keyed) target id other).trans ?_
        exact congrArg (Table.get? · condition) (afflictionsOf_hurt scene target blast.damage id)
    obtain ⟨later, same⟩ := ih struck
    exact ⟨(one _ rfl).trans later, congrArg (· + 1) same⟩

/-- A throw tells of every living opponent, but never of nothing. -/
theorem performThrow_works (scene : Scene) (actor : Actor) (action : Action) :
    Always (fun result => Works actor .throw scene result.1 result.2 ∧
        result.1.length = if scene.encounter.holds action
          then max 1 (scene.encounter.livingOpponents actor.index) else 1)
      (scene.performThrow actor action) := by
  unfold performThrow
  cases stocked : scene.encounter.inventory with
  | none =>
    have empty : scene.encounter.holds action = false := by simp [holds, stocked]
    rw [empty]
    exact ⟨works_event .., rfl⟩
  | some inventory =>
    simp only
    cases found : action.explosive.bind inventory.explosives.get? with
    | none =>
      have empty : scene.encounter.holds action = false := by simp [holds, stocked, found]
      rw [empty]
      exact ⟨works_event .., rfl⟩
    | some explosive =>
      have held : scene.encounter.holds action = true := by simp [holds, stocked, found]
      simp only [held, if_true]
      rw [always_bind]
      refine (blastRoll_length ..).mono fun blasts many => ?_
      let asked := (scene.encounter.consult Hooks.onExplosiveThrow
        [.text actor.id, .text explosive.id]).2
      have count : (asked.opponents actor.index).length
          = scene.encounter.livingOpponents actor.index := length_opponents ..
      -- Every target stands somewhere, so there is one save for each of them.
      have all : ((asked.opponents actor.index).filterMap (asked.combatants[·]?)).length
          = (asked.opponents actor.index).length := by
        refine List.filterMap_length_eq_length.mpr fun target member => ?_
        have inside : target < asked.combatants.length := by
          simpa using inside_of_mem_opponents member
        simp [inside]
      obtain ⟨works, same⟩ := blastEach_works actor explosive
        ((asked.opponents actor.index).zip blasts) { scene with encounter := asked }
      have size : (blastEach actor explosive ((asked.opponents actor.index).zip blasts)
          { scene with encounter := asked }).1.length
            = scene.encounter.livingOpponents actor.index := by
        rw [same, List.length_zip, many, all, count, Nat.min_self]
      have told := (works_ask actor .throw scene Hooks.onExplosiveThrow
        [.text actor.id, .text explosive.id]).trans works
      split
      -- Without opponents the throw itself is told.
      next none =>
        rw [List.isEmpty_iff.mp none] at told size
        exact ⟨told.trans (works_event ..), by rw [← size]; rfl⟩
      next some =>
        have positive := List.length_pos_iff.mpr (by simpa using some)
        refine ⟨told, ?_⟩
        rw [← size]
        exact (Nat.max_eq_right positive).symm

/-- An action is the work of its actor alone, and its block has the size of its kind. -/
theorem perform_works {scene : Scene} {actor : Actor} (action : Action)
    (stands : scene.encounter.ids[actor.index]? = some actor.id) :
    Always (fun result => Works actor action.kind scene result.1 result.2 ∧
        scene.encounter.BlockSize actor.index action result.1.length)
      (scene.perform actor action) := by
  unfold perform BlockSize
  cases action.kind with
  | unknown => exact ⟨works_of_plain (by simp), rfl⟩
  | pass => exact ⟨works_event .., rfl⟩
  | attack => exact performAttack_works action stands
  | strike => exact performStrike_works action stands
  | reload => exact performReload_works scene actor action
  | burst => exact performBurst_works action stands
  | automatic => exact performAutomatic_works action stands
  | throw => exact performThrow_works scene actor action

end Scene

end Fray
