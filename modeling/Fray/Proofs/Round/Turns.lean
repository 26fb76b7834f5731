import Fray.Proofs.Round.Frame

/-!
# Turns

Every combatant has one turn in a round. If it is dead when the turn comes it
does nothing; otherwise it performs the actions of its queue, each of them once
and in order, and all that is told of them carries its name.

## Main result

`resolve_follows`: the turns of a resolution follow the queues of the encounter.
-/

namespace Fray

open Draws

/-- An event tells of an action of that kind by an actor. -/
def RoundEvent.IsOf (actor : Actor) (kind : ActionKind) (event : RoundEvent) : Prop :=
  event.actor = actor.id ∧ event.actorName = actor.name ∧ event.action = kind

/-- What a turn amounts to, given the queues of the round. -/
structure Turn.Follows (queues : Table Queue) (turn : Turn) : Prop where
  actions : turn.blocks.map Block.action =
    if turn.combatant.isDead then []
    else ((queues.get? turn.combatant.id).map Queue.actions).getD []
  actors : ∀ block ∈ turn.blocks, block.actor = turn.combatant.id ∧
    ∀ event ∈ block.events, event.actor = turn.combatant.id ∧
      event.actorName = turn.combatant.name ∧ event.action = block.action.kind

namespace Scene

open Encounter

/-! ### What is told of an action -/

/-- All events tell of the same action. -/
def Tells (actor : Actor) (kind : ActionKind) (events : List RoundEvent) : Prop :=
  ∀ event ∈ events, event.IsOf actor kind

private theorem tells_nil {actor : Actor} {kind : ActionKind} : Tells actor kind [] := by
  simp [Tells]

private theorem tells_event {actor : Actor} {kind : ActionKind} {narrative : String} :
    Tells actor kind [actor.event kind narrative] := by
  simp [Tells, RoundEvent.IsOf, Actor.event]

private theorem tells_attack {actor : Actor} {kind : ActionKind} (attack : Option Attack)
    {narrative : Attack → String} :
    Tells actor kind
      (attack.toList.map fun attack => actor.attackEvent kind attack (narrative attack)) := by
  intro event member
  obtain ⟨attack, _, rfl⟩ := List.mem_map.mp member
  exact ⟨rfl, rfl, rfl⟩

private theorem tells_append {actor : Actor} {kind : ActionKind} {early late : List RoundEvent}
    (first : Tells actor kind early) (second : Tells actor kind late) :
    Tells actor kind (early ++ late) := by
  intro event member
  exact (List.mem_append.mp member).elim (first event) (second event)

private theorem tells_cons {actor : Actor} {kind : ActionKind} {event : RoundEvent}
    {rest : List RoundEvent} (first : event.IsOf actor kind) (others : Tells actor kind rest) :
    Tells actor kind (event :: rest) := List.forall_mem_cons.mpr ⟨first, others⟩

theorem performAttack_tells (scene : Scene) (actor : Actor) (action : Action) :
    Always (Tells actor .attack ·.1) (scene.performAttack actor action) := by
  unfold performAttack
  split
  · exact tells_event
  · rw [always_bind]
    exact always_of_forall (fun (attack, _) => tells_attack attack) _

theorem performStrike_tells (scene : Scene) (actor : Actor) (action : Action) :
    Always (Tells actor .strike ·.1) (scene.performStrike actor action) := by
  unfold performStrike
  split
  · exact tells_cons ⟨rfl, rfl, rfl⟩ tells_event
  · rw [always_bind]
    refine always_of_forall (fun first => ?_) _
    simp only
    split
    · exact tells_append (tells_attack first.1) tells_event
    · rw [always_bind]
      exact always_of_forall
        (fun (second, _) => tells_append (tells_attack first.1) (tells_attack second)) _

theorem shootOn_tells (actor : Actor) (target : Nat) (name : String) (weapon : Option Weapon)
    (shots : Nat) (scene : Scene) :
    Always (Tells actor .burst ·.1) (shootOn actor target name weapon shots scene) := by
  induction shots generalizing scene with
  | zero => exact tells_nil
  | succ shots ih =>
    simp only [shootOn]
    rw [always_bind]
    refine always_of_forall (fun result => ?_) _
    cases result with
    | none => exact tells_nil
    | some hit =>
      simp only
      split
      · exact tells_cons ⟨rfl, rfl, rfl⟩ tells_nil
      · rw [always_bind]
        exact (ih hit.scene).mono fun rest told => tells_cons ⟨rfl, rfl, rfl⟩ told

theorem shootEach_tells (actor : Actor) (weapon : Option Weapon) (targets : List Nat)
    (scene : Scene) :
    Always (Tells actor .automatic ·.1) (shootEach actor weapon targets scene) := by
  induction targets generalizing scene with
  | nil => exact tells_nil
  | cons target rest ih =>
    simp only [shootEach]
    rw [always_bind]
    refine always_of_forall (fun result => ?_) _
    cases result with
    | none => exact ih scene
    | some hit =>
      rw [always_bind]
      exact (ih hit.scene).mono fun rest told => tells_cons ⟨rfl, rfl, rfl⟩ told

theorem blastEach_tells (actor : Actor) (explosive : Explosive) (targets : List (Nat × Blast))
    (scene : Scene) : Tells actor .throw (blastEach actor explosive targets scene).1 := by
  induction targets generalizing scene with
  | nil => exact tells_nil
  | cons first rest ih => exact tells_cons ⟨rfl, rfl, rfl⟩ (ih _)

theorem performThrow_tells (scene : Scene) (actor : Actor) (action : Action) :
    Always (Tells actor .throw ·.1) (scene.performThrow actor action) := by
  unfold performThrow
  split
  · exact tells_event
  · split
    · exact tells_event
    · simp only
      rw [always_bind]
      refine always_of_forall (fun blasts => ?_) _
      split
      · exact tells_event
      · exact blastEach_tells _ _ _ _

/-- Every event of an action carries the actor and the kind of the action. -/
theorem perform_tells (scene : Scene) (actor : Actor) (action : Action) :
    Always (Tells actor action.kind ·.1) (scene.perform actor action) := by
  unfold perform
  split
  next => exact tells_nil
  next kind => rw [kind]; exact tells_event
  next kind => rw [kind]; exact performAttack_tells ..
  next kind => rw [kind]; exact performStrike_tells ..
  next kind => rw [kind]; exact tells_event
  next kind =>
    rw [kind]
    unfold performBurst
    split
    · exact tells_event
    · exact shootOn_tells ..
  next kind =>
    rw [kind]
    simp only [performAutomatic]
    split
    · exact tells_event
    · exact shootEach_tells ..
  next kind => rw [kind]; exact performThrow_tells ..

/-! ### Turns -/

/-- Actions give one block each, in order. -/
theorem performAll_blocks (actor : Actor) (actions : List Action) (scene : Scene) :
    Always (fun result => result.1.map Block.action = actions ∧
        ∀ block ∈ result.1, block.actor = actor.id ∧
          ∀ event ∈ block.events, event.IsOf actor block.action.kind)
      (performAll actor actions scene) := by
  induction actions generalizing scene with
  | nil => simp [performAll]
  | cons action rest ih =>
    simp only [performAll]
    rw [always_bind]
    refine (perform_tells scene actor action).mono fun first told => ?_
    rw [always_bind]
    refine (ih first.2).mono fun others later => ?_
    obtain ⟨same, tells⟩ := later
    exact ⟨congrArg (action :: ·) same, List.forall_mem_cons.mpr ⟨⟨rfl, told⟩, tells⟩⟩

theorem takeTurn_follows (index : Nat) (scene : Scene) :
    Always (fun result =>
        result.1.map (·.combatant) = (scene.encounter.combatants[index]?).toList ∧
        ∀ turn ∈ result.1, turn.Follows scene.encounter.queues)
      (takeTurn index scene) := by
  unfold takeTurn
  split
  next missing => simp [missing]
  next combatant found =>
    split
    next dead =>
      simp only [pure_eq, always_done, found, Option.toList_some, List.map_cons, List.map_nil,
        List.mem_singleton, forall_eq, true_and]
      exact ⟨by simp [dead], by simp⟩
    next alive =>
      split
      next missing =>
        simp only [pure_eq, always_done, found, Option.toList_some, List.map_cons, List.map_nil,
          List.mem_singleton, forall_eq, true_and]
        exact ⟨by simp [missing], by simp⟩
      next queue present =>
        rw [always_bind]
        refine (performAll_blocks _ queue.actions scene).mono fun result performed => ?_
        simp only [pure_eq, always_done, found, Option.toList_some, List.map_cons, List.map_nil,
          List.mem_singleton, forall_eq, true_and]
        exact ⟨by simpa [alive, present] using performed.1, performed.2⟩

/-- The turns of a row of positions, each at the profile that stands there. -/
theorem takeTurns_follow (indices : List Nat) (scene : Scene) :
    Always (fun result =>
        result.1.map (·.combatant.profile)
          = indices.flatMap (fun index =>
              ((scene.encounter.combatants.map Combatant.profile)[index]?).toList) ∧
        ∀ turn ∈ result.1, turn.Follows scene.encounter.queues)
      (takeTurns indices scene) := by
  induction indices generalizing scene with
  | nil => simp [takeTurns]
  | cons index rest ih =>
    simp only [takeTurns]
    rw [always_bind]
    refine ((takeTurn_course index scene).and (takeTurn_follows index scene)).mono
      fun first both => ?_
    obtain ⟨course, stood, follows⟩ := both
    have framed := course.reaches.framed
    rw [always_bind]
    refine (ih first.2).mono fun others later => ?_
    obtain ⟨profiles, following⟩ := later
    -- What earlier turns change is in no profile, and they leave the queues alone.
    rw [framed.profiles] at profiles
    rw [framed.queues] at following
    refine ⟨?_, fun turn member => ?_⟩
    · have one : first.1.map (·.combatant.profile)
          = ((scene.encounter.combatants.map Combatant.profile)[index]?).toList := by
        have mapped := congrArg (List.map Combatant.profile) stood
        rw [List.map_map] at mapped
        rw [List.getElem?_map]
        refine Eq.trans mapped ?_
        cases scene.encounter.combatants[index]? <;> rfl
      simp only [List.map_append, List.flatMap_cons, one, profiles]
    · rcases List.mem_append.mp member with early | late
      · exact follows turn early
      · exact following turn late

private theorem flatMap_range_getElem? {α : Type} (xs : List α) :
    (List.range xs.length).flatMap (fun index => (xs[index]?).toList) = xs := by
  induction xs with
  | nil => rfl
  | cons x xs ih =>
    rw [List.length_cons, List.range_succ_eq_map, List.flatMap_cons, List.flatMap_map]
    exact congrArg (x :: ·) ih

end Scene

/-- Every combatant has one turn, in order, and the turns follow the queues. -/
theorem Encounter.resolve_follows (encounter : Encounter) :
    Always (fun resolution =>
        resolution.turns.map (·.combatant.profile) = encounter.combatants.map Combatant.profile ∧
        ∀ turn ∈ resolution.turns, turn.Follows encounter.queues)
      encounter.resolve := by
  unfold resolve
  rw [always_bind]
  refine (Scene.takeTurns_follow _ _).mono fun result taken => ?_
  obtain ⟨profiles, follows⟩ := taken
  refine ⟨?_, follows⟩
  simp only [profiles]
  have size : encounter.combatants.length = (encounter.combatants.map Combatant.profile).length :=
    (List.length_map _).symm
  rw [size]
  exact Scene.flatMap_range_getElem? _

/-- Events are of the kinds of the committed actions. -/
theorem Resolution.committed_of_mem_events {queues : Table Queue} {resolution : Resolution}
    (follows : ∀ turn ∈ resolution.turns, turn.Follows queues) {event : RoundEvent}
    (member : event ∈ resolution.events) :
    ∃ queue, queues.get? event.actor = some queue ∧
      ∃ action ∈ queue.actions, event.action = action.kind := by
  obtain ⟨block, inside, told⟩ := List.mem_flatMap.mp member
  obtain ⟨turn, taken, performed⟩ := List.mem_flatMap.mp inside
  have following := follows turn taken
  obtain ⟨_, events⟩ := following.actors block performed
  obtain ⟨actor, _, kind⟩ := events event told
  have listed : block.action ∈ turn.blocks.map Block.action := List.mem_map_of_mem performed
  rw [following.actions] at listed
  split at listed
  · cases listed
  · cases present : queues.get? turn.combatant.id with
    | none =>
      rw [present] at listed
      cases listed
    | some queue =>
      rw [present] at listed
      exact ⟨queue, actor ▸ present, block.action, listed, kind⟩

end Fray
