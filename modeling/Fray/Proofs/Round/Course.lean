import Fray.Proofs.Round.Steps

/-!
# The course of a round

A round is a row of deeds, and every deed is told by at most one event. A swing
and a shot are told by their attack; what is told of anything else holds no
attack. So the events of a round can be cut at any place, with a moment between
the earlier and the later ones.

## Main results

`resolve_course`: every resolution is a course of deeds that its events tell,
whatever is drawn. `Course.cut` finds the moments of a course, and
`resolve_reaches` forgets what is told.
-/

namespace Fray

open Draws

/-! ### Rolls -/

/-- The roll of an attack names who attacks whom. -/
def Attack.IsBetween (attacker target : Combatant) (attack : Attack) : Prop :=
  attack.attacker = attacker.id ∧ attack.target = target.id

theorem meleeRoll_between (attacker target : Combatant) :
    Always (Attack.IsBetween attacker target) (meleeRoll attacker target) := by
  unfold meleeRoll
  rw [always_bind]
  refine always_of_forall (fun roll => ?_) _
  rw [always_bind]
  exact always_of_forall (fun face => ⟨rfl, rfl⟩) _

theorem shotRoll_between (dice : Dice.Evaluator) (attacker target : Combatant) (weapon : Weapon)
    (range : Score) :
    Always (Attack.IsBetween attacker target) (shotRoll dice attacker target weapon range) := by
  unfold shotRoll
  rw [always_bind]
  refine always_of_forall (fun roll => ?_) _
  simp only
  rw [always_bind]
  exact always_of_forall (fun rolled => ⟨rfl, rfl⟩) _

theorem Scene.shotOrBlow_between (dice : Dice.Evaluator) (attacker target : Combatant)
    (weapon : Option Weapon) :
    Always (Attack.IsBetween attacker target) (shotOrBlow dice attacker target weapon) := by
  cases weapon with
  | some weapon => exact shotRoll_between dice attacker target weapon 0
  | none => exact meleeRoll_between attacker target

namespace Scene

open Encounter

/-! ### Deeds -/

/-- One thing that is done in a round, with the event that tells of it, if one does. -/
inductive Deed : Scene → Option RoundEvent → Scene → Prop
  | ask (scene : Scene) (hook : String) (args : List HookValue) :
      Deed scene none (scene.within fun encounter => (encounter.consult hook args).2)
  | reload (scene : Scene) (index : Nat) :
      Deed scene none (scene.within
        (·.changeAt index fun self => { self with loadout := self.loadout.reload }))
  | fire (scene : Scene) (index : Nat) :
      Deed scene none (scene.within
        (·.changeAt index fun self => { self with loadout := self.loadout.fire }))
  | tell (scene : Scene) {event : RoundEvent} (plain : event.attack = none) :
      Deed scene (some event) scene
  | blast {scene : Scene} {target : Nat} (damage : Score) {event : RoundEvent}
      (alive : scene.encounter.isDeadAt target = false) (thrown : event.action = .throw)
      (plain : event.attack = none) :
      Deed scene (some event) ((scene.hurt target damage).within (·.beginDying target))
  | swing {scene : Scene} {actor target : Nat} {attacker defender : Combatant} {rolled : Attack}
      {event : RoundEvent} (attackerAt : scene.encounter.combatants[actor]? = some attacker)
      (defenderAt : scene.encounter.combatants[target]? = some defender)
      (alive : defender.isDead = false) (between : rolled.IsBetween attacker defender)
      (told : event.attack = some (scene.land attacker defender target rolled).attack) :
      Deed scene (some event)
        ((scene.land attacker defender target rolled).scene.within fun encounter =>
          (encounter.afterSwing attacker defender
            (scene.land attacker defender target rolled).attack.outcome).beginDying target)
  | shot {scene : Scene} {actor target : Nat} {attacker defender : Combatant} {rolled : Attack}
      {event : RoundEvent} (attackerAt : scene.encounter.combatants[actor]? = some attacker)
      (defenderAt : scene.encounter.combatants[target]? = some defender)
      (alive : defender.isDead = false) (between : rolled.IsBetween attacker defender)
      (told : event.attack = some (scene.land attacker defender target rolled).attack) :
      Deed scene (some event)
        ((scene.land attacker defender target rolled).scene.within (·.beginDying target))

/-- Deeds one after another, with all that is told of them. -/
inductive Course : Scene → List RoundEvent → Scene → Prop
  | start (scene : Scene) : Course scene [] scene
  | deed {before middle after : Scene} {events : List RoundEvent} {event : Option RoundEvent}
      (early : Course before events middle) (last : Deed middle event after) :
      Course before (events ++ event.toList) after

theorem Deed.course {before after : Scene} {event : Option RoundEvent}
    (deed : Deed before event after) : Course before event.toList after :=
  .deed (.start before) deed

theorem Course.trans {before middle after : Scene} {early late : List RoundEvent}
    (first : Course before early middle) (second : Course middle late after) :
    Course before (early ++ late) after := by
  induction second with
  | start => rwa [List.append_nil]
  | deed _ last ih =>
    rw [← List.append_assoc]
    exact .deed ih last

private theorem Course.told {before after : Scene} {events others : List RoundEvent}
    (course : Course before events after) (same : events = others) :
    Course before others after := same ▸ course

/-- Wherever the events are cut there is a moment between them. -/
theorem Course.cut {before after : Scene} {early late : List RoundEvent}
    (course : Course before (early ++ late) after) :
    ∃ moment, Course before early moment ∧ Course moment late after := by
  generalize all : early ++ late = events at course
  induction course generalizing late with
  | start =>
    obtain ⟨rfl, rfl⟩ := List.append_eq_nil_iff.mp all
    exact ⟨before, .start before, .start before⟩
  | @deed middle after events event first last ih =>
    rcases List.append_eq_append_iff.mp all with ⟨rest, split, rfl⟩ | ⟨rest, rfl, split⟩
    · obtain ⟨moment, one, two⟩ := ih split.symm
      exact ⟨moment, one, two.deed last⟩
    -- A deed has at most one event, so the cut is before it or after it.
    · cases rest with
      | nil =>
        refine ⟨middle, by simpa using first, ?_⟩
        rw [show late = event.toList by simpa using split.symm]
        exact last.course
      | cons only others =>
        have whole := first.deed last
        cases event with
        | none => cases split
        | some event =>
          obtain ⟨rfl, none⟩ := List.cons.inj split
          obtain ⟨rfl, rfl⟩ := List.append_eq_nil_iff.mp none.symm
          exact ⟨after, whole, .start after⟩

/-! ### Forgetting what is told -/

theorem Deed.reaches {before after : Scene} {event : Option RoundEvent}
    (deed : Deed before event after) : Reaches before after := by
  cases deed with
  | ask hook args => exact .single (.ask before hook args)
  | reload index => exact .single (.reload before index)
  | fire index => exact .single (.fire before index)
  | tell plain => exact .refl
  | blast damage alive thrown plain => exact .single (.hit damage alive)
  | @swing actor target attacker defender rolled event attackerAt defenderAt alive =>
    obtain ⟨asked, reached, same, _, landed⟩ := land_cases before attacker defender target rolled
    rw [landed]
    have combatants : asked.encounter.combatants = before.encounter.combatants := by rw [same]
    exact reached.tail (.swing _ _ (combatants ▸ attackerAt) (combatants ▸ defenderAt) alive)
  | @shot actor target attacker defender rolled event _ defenderAt alive =>
    obtain ⟨asked, reached, same, _, landed⟩ := land_cases before attacker defender target rolled
    rw [landed]
    have combatants : asked.encounter.combatants = before.encounter.combatants := by rw [same]
    exact reached.tail (.hit _ (isDeadAt_eq_false.mpr ⟨defender, combatants ▸ defenderAt, alive⟩))

theorem Course.reaches {before after : Scene} {events : List RoundEvent}
    (course : Course before events after) : Reaches before after := by
  induction course with
  | start => exact .refl
  | deed _ last ih => exact ih.trans last.reaches

/-! ### Swings and shots -/

private theorem isDead_at {encounter : Encounter} {target : Nat} {defender : Combatant}
    (alive : encounter.isDeadAt target = false)
    (defenderAt : encounter.combatants[target]? = some defender) : defender.isDead = false := by
  obtain ⟨combatant, at_, living⟩ := isDeadAt_eq_false.mp alive
  cases defenderAt.symm.trans at_
  exact living

theorem swing_course (scene : Scene) (actor target : Nat) (penalty : Score)
    (alive : scene.encounter.isDeadAt target = false) :
    Always (fun result => ∀ tell : Attack → RoundEvent,
        (∀ attack, (tell attack).attack = some attack) →
          Course scene (result.1.toList.map tell) result.2)
      (scene.swing actor target penalty) := by
  unfold swing
  split
  next attacker defender attackerAt defenderAt =>
    rw [always_bind]
    refine (meleeRoll_between attacker defender).mono fun rolled between tell tells => ?_
    have adjusted : Attack.IsBetween attacker defender { rolled with
        total := rolled.total + scene.encounter.swingModifier attacker.id defender.id - penalty } :=
      between
    exact (Deed.swing attackerAt defenderAt (isDead_at alive defenderAt) adjusted (tells _)).course
  · exact fun _ _ => .start scene

theorem isDeadAt_hurt_of_ne (scene : Scene) {target other : Nat} (damage : Score)
    (different : other ≠ target) :
    (scene.hurt target damage).encounter.isDeadAt other = scene.encounter.isDeadAt other := by
  unfold hurt
  split
  · rfl
  · split
    · rfl
    · simp only [isDeadAt, changeAt, List.getElem?_modify_ne _ _ (Ne.symm different)]

theorem isDeadAt_fire (encounter : Encounter) (index other : Nat) :
    (encounter.changeAt index fun self => { self with loadout := self.loadout.fire }).isDeadAt
      other = encounter.isDeadAt other := by
  simp only [isDeadAt, changeAt, List.getElem?_modify]
  cases encounter.combatants[other]? with
  | none => rfl
  | some combatant =>
    simp only [Option.map_eq_map, Option.map_some, Option.all_some]
    split <;> rfl

/-- A shot hits its target, and nobody else dies of it. -/
theorem shoot_course (scene : Scene) (actor target : Nat) (weapon : Option Weapon)
    (alive : scene.encounter.isDeadAt target = false) :
    Always (fun result => ∀ hit ∈ result,
        (∀ event : RoundEvent, event.attack = some hit.attack → Course scene [event] hit.scene) ∧
        ∀ other, other ≠ target →
          hit.scene.encounter.isDeadAt other = scene.encounter.isDeadAt other)
      (scene.shoot actor target weapon) := by
  unfold shoot
  split
  next attacker defender attackerAt defenderAt =>
    rw [always_bind]
    refine (shotOrBlow_between ..).mono fun rolled between => ?_
    simp only [pure_eq, always_done, Option.mem_def, Option.some.injEq, forall_eq']
    have living := isDead_at alive defenderAt
    have struck (event : RoundEvent)
        (told : event.attack = some (scene.land attacker defender target rolled).attack) :
        Course scene [event]
          ((scene.land attacker defender target rolled).scene.within (·.beginDying target)) :=
      (Deed.shot attackerAt defenderAt living between told).course
    -- Only hit points of the target are lost, and conditions kill nobody.
    have others (other : Nat) (different : other ≠ target) :
        (((scene.land attacker defender target rolled).scene.within
          (·.beginDying target)).encounter).isDeadAt other = scene.encounter.isDeadAt other := by
      obtain ⟨asked, _, same, _, landed⟩ := land_cases scene attacker defender target rolled
      have unhurt := isDeadAt_hurt_of_ne asked
        (scene.land attacker defender target rolled).damage different
      rw [landed]
      simp only [isDeadAt, within, combatants_beginDying] at unhurt ⊢
      rw [unhurt, same]
    split
    · refine ⟨fun event told => ?_, fun other different => ?_⟩
      · exact (struck event told).deed (.fire _ actor)
      · exact (isDeadAt_fire ..).trans (others other different)
    · exact ⟨struck, others⟩
  · simp

theorem shootOn_course (actor : Actor) (target : Nat) (name : String) (weapon : Option Weapon)
    (shots : Nat) (scene : Scene) (alive : scene.encounter.isDeadAt target = false) :
    Always (fun result => Course scene result.1 result.2)
      (shootOn actor target name weapon shots scene) := by
  induction shots generalizing scene with
  | zero => exact .start scene
  | succ shots ih =>
    simp only [shootOn]
    rw [always_bind]
    refine (shoot_course scene actor.index target weapon alive).mono fun result shot => ?_
    cases result with
    | none => exact .start scene
    | some hit =>
      have first := (shot hit rfl).1 (shotEvent actor .burst name hit) rfl
      simp only
      split
      · exact first
      next survives =>
        rw [always_bind]
        exact (ih hit.scene (by simpa using survives)).mono fun rest later => first.trans later

/-- The targets are chosen before the first shot, and no shot kills anybody but its own. -/
theorem shootEach_course (actor : Actor) (weapon : Option Weapon) (targets : List Nat)
    (scene : Scene) (distinct : targets.Nodup)
    (alive : ∀ target ∈ targets, scene.encounter.isDeadAt target = false) :
    Always (fun result => Course scene result.1 result.2)
      (shootEach actor weapon targets scene) := by
  induction targets generalizing scene with
  | nil => exact .start scene
  | cons target rest ih =>
    obtain ⟨fresh, distinct⟩ := List.nodup_cons.mp distinct
    simp only [shootEach]
    rw [always_bind]
    refine (shoot_course scene actor.index target weapon (alive target List.mem_cons_self)).mono
      fun result shot => ?_
    cases result with
    | none =>
      exact ih scene distinct fun other member => alive other (List.mem_cons_of_mem _ member)
    | some hit =>
      -- The rest are alive still: each shot hurts its own target only, and no target comes twice.
      obtain ⟨told, others⟩ := shot hit rfl
      have first := told (shotEvent actor .automatic (scene.encounter.nameAt target) hit) rfl
      rw [always_bind]
      refine (ih hit.scene distinct fun other member => ?_).mono fun _ later => first.trans later
      rw [others other (fun same => fresh (same ▸ member))]
      exact alive other (List.mem_cons_of_mem _ member)

/-! ### Explosives -/

private theorem map_fst_zip_sublist {α β : Type} (xs : List α) (ys : List β) :
    ((xs.zip ys).map Prod.fst).Sublist xs := by
  induction xs generalizing ys with
  | nil => simp
  | cons x xs ih =>
    cases ys with
    | nil => exact List.nil_sublist _
    | cons y ys => exact (ih ys).cons_cons x

/-- A blast hits every target, and none of them dies before its turn. -/
theorem blastEach_course (actor : Actor) (explosive : Explosive) (targets : List (Nat × Blast))
    (scene : Scene) (distinct : (targets.map Prod.fst).Nodup)
    (alive : ∀ target ∈ targets, scene.encounter.isDeadAt target.1 = false) :
    Course scene (blastEach actor explosive targets scene).1
      (blastEach actor explosive targets scene).2 := by
  induction targets generalizing scene with
  | nil => exact .start scene
  | cons first rest ih =>
    obtain ⟨target, blast⟩ := first
    obtain ⟨fresh, distinct⟩ := List.nodup_cons.mp distinct
    show Course scene ([_] ++ (blastEach actor explosive rest _).1)
      (blastEach actor explosive rest _).2
    have hurt {event : RoundEvent} (thrown : event.action = .throw) (plain : event.attack = none) :=
      Deed.blast blast.damage (alive _ List.mem_cons_self) thrown plain
    refine (hurt rfl rfl).course.trans (ih _ distinct fun other member => ?_)
    -- A blast that kills its target leaves the targets after it alive.
    have different : other.1 ≠ target := fun same =>
      fresh (List.mem_map.mpr ⟨other, member, same⟩)
    have unhurt := isDeadAt_hurt_of_ne scene blast.damage different
    simp only [isDeadAt, within, combatants_beginDying] at unhurt ⊢
    rw [unhurt]
    exact alive other (List.mem_cons_of_mem _ member)

/-! ### Actions -/

private theorem course_event (scene : Scene) (actor : Actor) (kind : ActionKind)
    (narrative : String) : Course scene [actor.event kind narrative] scene :=
  (Deed.tell scene rfl).course

theorem performAttack_course (scene : Scene) (actor : Actor) (action : Action) :
    Always (fun result => Course scene result.1 result.2) (scene.performAttack actor action) := by
  unfold performAttack
  split
  · exact course_event ..
  next target found =>
    obtain ⟨_, _, named⟩ := Option.bind_eq_some_iff.mp found
    rw [always_bind]
    exact (swing_course scene actor.index target 0 (isDeadAt_of_firstLiving named)).mono
      fun result swung => swung _ fun _ => rfl

theorem performStrike_course (scene : Scene) (actor : Actor) (action : Action) :
    Always (fun result => Course scene result.1 result.2) (scene.performStrike actor action) := by
  unfold performStrike
  split
  · exact (course_event ..).trans (course_event ..)
  next target found =>
    obtain ⟨_, _, named⟩ := Option.bind_eq_some_iff.mp found
    rw [always_bind]
    refine (swing_course scene actor.index target 0 (isDeadAt_of_firstLiving named)).mono
      fun result swung => ?_
    have first := swung (fun attack => actor.attackEvent .strike attack
      (actor.name ++ " strikes " ++ scene.encounter.nameAt target ++ ": " ++ rolledText attack))
      fun _ => rfl
    simp only
    split
    · exact first.trans (course_event ..)
    next survives =>
      rw [always_bind]
      exact (swing_course result.2 actor.index target _ (by simpa using survives)).mono
        fun _ again => first.trans (again _ fun _ => rfl)

theorem performReload_course (scene : Scene) (actor : Actor) (action : Action) :
    Course scene (scene.performReload actor action).1 (scene.performReload actor action).2 := by
  have full := (Deed.reload scene actor.index).course
  exact (full.deed (.ask ..)).trans (course_event ..)

theorem performBurst_course (scene : Scene) (actor : Actor) (action : Action) :
    Always (fun result => Course scene result.1 result.2) (scene.performBurst actor action) := by
  unfold performBurst
  split
  · exact course_event ..
  next target found =>
    obtain ⟨_, _, called⟩ := Option.bind_eq_some_iff.mp found
    exact shootOn_course actor target _ _ _ scene (isDeadAt_of_firstLiving called)

theorem performAutomatic_course (scene : Scene) (actor : Actor) (action : Action) :
    Always (fun result => Course scene result.1 result.2)
      (scene.performAutomatic actor action) := by
  simp only [performAutomatic]
  split
  · exact course_event ..
  · exact shootEach_course actor _ _ scene
      ((nodup_opponents ..).sublist (List.take_sublist ..))
      fun target member => isDeadAt_of_mem_opponents (List.mem_of_mem_take member)

theorem performThrow_course (scene : Scene) (actor : Actor) (action : Action) :
    Always (fun result => Course scene result.1 result.2) (scene.performThrow actor action) := by
  unfold performThrow
  split
  · exact course_event ..
  · split
    · exact course_event ..
    next explosive _ =>
      simp only
      rw [always_bind]
      refine always_of_forall (fun blasts => ?_) _
      have asked := (Deed.ask scene Hooks.onExplosiveThrow
        [.text actor.id, .text explosive.id]).course
      have blasted := blastEach_course actor explosive _
        (scene.within fun encounter => (encounter.consult Hooks.onExplosiveThrow
          [.text actor.id, .text explosive.id]).2)
        ((nodup_opponents scene.encounter actor.index).sublist (map_fst_zip_sublist _ blasts))
        fun target member => isDeadAt_of_mem_opponents (List.of_mem_zip member).1
      have both := asked.trans blasted
      split
      next none => exact (both.told (List.isEmpty_iff.mp none)).trans (course_event ..)
      · exact both

/-- Every action is a course that its block of events tells. -/
theorem perform_course (scene : Scene) (actor : Actor) (action : Action) :
    Always (fun result => Course scene result.1 result.2) (scene.perform actor action) := by
  unfold perform
  split
  · exact .start scene
  · exact course_event ..
  · exact performAttack_course ..
  · exact performStrike_course ..
  · exact performReload_course ..
  · exact performBurst_course ..
  · exact performAutomatic_course ..
  · exact performThrow_course ..

/-! ### Turns -/

theorem performAll_course (actor : Actor) (actions : List Action) (scene : Scene) :
    Always (fun result => Course scene (result.1.flatMap Block.events) result.2)
      (performAll actor actions scene) := by
  induction actions generalizing scene with
  | nil => exact .start scene
  | cons action rest ih =>
    simp only [performAll]
    rw [always_bind]
    refine (perform_course scene actor action).mono fun first performed => ?_
    rw [always_bind]
    exact (ih first.2).mono fun _ later => performed.trans later

/-- What turns tell. -/
def eventsOf (turns : List Turn) : List RoundEvent :=
  (turns.flatMap Turn.blocks).flatMap Block.events

theorem eventsOf_append (early late : List Turn) :
    eventsOf (early ++ late) = eventsOf early ++ eventsOf late := by
  simp only [eventsOf, List.flatMap_append]

theorem takeTurn_course (index : Nat) (scene : Scene) :
    Always (fun result => Course scene (eventsOf result.1) result.2) (takeTurn index scene) := by
  unfold takeTurn
  split
  · exact .start scene
  · split
    · exact .start scene
    · split
      · exact .start scene
      · rw [always_bind]
        refine (performAll_course ..).mono fun result performed => ?_
        simpa [eventsOf] using performed

theorem takeTurns_course (indices : List Nat) (scene : Scene) :
    Always (fun result => Course scene (eventsOf result.1) result.2) (takeTurns indices scene) := by
  induction indices generalizing scene with
  | nil => exact .start scene
  | cons index rest ih =>
    simp only [takeTurns]
    rw [always_bind]
    refine (takeTurn_course index scene).mono fun first taken => ?_
    rw [always_bind]
    refine (ih first.2).mono fun others later => ?_
    simp only [pure_eq, always_done, eventsOf_append]
    exact taken.trans later

end Scene

theorem Encounter.resolve_course (encounter : Encounter) :
    Always (fun resolution =>
        Scene.Course ⟨encounter, []⟩ resolution.events ⟨resolution.encounter, resolution.damage⟩)
      encounter.resolve := by
  unfold resolve
  rw [always_bind]
  exact Scene.takeTurns_course ..

theorem Encounter.resolve_reaches (encounter : Encounter) :
    Always (fun resolution =>
        Scene.Reaches ⟨encounter, []⟩ ⟨resolution.encounter, resolution.damage⟩)
      encounter.resolve :=
  encounter.resolve_course.mono fun _ course => course.reaches

end Fray
