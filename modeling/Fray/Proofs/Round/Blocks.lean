import Fray.Proofs.Encounter.Submitted
import Fray.Proofs.Round.Turns
import Fray.Proofs.Round.Works

/-!
# The blocks of a round

A round goes once through the combatants in initiative order. Whoever is alive when its
turn comes performs the actions that it has submitted, one after another, each from where
the one before has left off. So the events of a round fall into blocks, one for every
action that was performed.

## Main result

`resolve_lap`: every resolution is such a lap, and its queues are the plan of it.
-/

namespace Fray

open Draws

namespace Scene

open Encounter

/-- What one action comes to, with the block of events that tells of it. -/
structure Fulfils (actor : Actor) (before : Scene) (block : Block) (after : Scene) : Prop where
  owner : block.actor = actor.id
  course : Course before block.events after
  works : Works actor block.action.kind before block.events after
  tells : Tells actor block.action.kind block.events
  size : before.encounter.BlockSize actor.index block.action block.events.length

/-- The actions of one turn, each in the scene that the one before has left. -/
inductive Acts (actor : Actor) : Scene → List Block → Scene → Prop
  | none (scene : Scene) : Acts actor scene [] scene
  | act {before middle after : Scene} {block : Block} {rest : List Block}
      (fulfils : Fulfils actor before block middle) (others : Acts actor middle rest after) :
      Acts actor before (block :: rest) after

/-- The turns from a position on, given what everybody plans to do. -/
inductive Lap (plan : String → List Action) : Nat → Scene → List Turn → Scene → Prop
  | finished {position : Nat} {scene : Scene}
      (past : scene.encounter.combatants.length ≤ position) : Lap plan position scene [] scene
  | turn {position : Nat} {before middle after : Scene} {turn : Turn} {rest : List Turn}
      (here : before.encounter.combatants[position]? = some turn.combatant)
      (actions : turn.blocks.map Block.action =
        if turn.combatant.isDead then [] else plan turn.combatant.id)
      (acts : Acts ⟨position, turn.combatant.id, turn.combatant.name⟩ before turn.blocks middle)
      (others : Lap plan (position + 1) middle rest after) :
      Lap plan position before (turn :: rest) after

theorem Acts.framed {actor : Actor} {before after : Scene} {blocks : List Block}
    (acts : Acts actor before blocks after) : Framed before.encounter after.encounter := by
  induction acts with
  | none => exact .refl _
  | act fulfils _ ih => exact fulfils.works.framed.trans ih

/-! ### Turns -/

theorem perform_fulfils {scene : Scene} {actor : Actor} (action : Action)
    (stands : scene.encounter.ids[actor.index]? = some actor.id) :
    Always (fun result => Fulfils actor scene ⟨actor.id, action, result.1⟩ result.2)
      (scene.perform actor action) := by
  have told := (perform_course scene actor action).and (perform_tells scene actor action)
  refine (told.and (perform_works action stands)).mono fun result all => ?_
  obtain ⟨⟨course, tells⟩, works, size⟩ := all
  exact ⟨rfl, course, works, tells, size⟩

theorem performAll_acts (actor : Actor) {scene : Scene} (actions : List Action)
    (stands : scene.encounter.ids[actor.index]? = some actor.id) :
    Always (fun result =>
        Acts actor scene result.1 result.2 ∧ result.1.map Block.action = actions)
      (performAll actor actions scene) := by
  induction actions generalizing scene with
  | nil => exact ⟨.none scene, rfl⟩
  | cons action rest ih =>
    simp only [performAll]
    rw [always_bind]
    refine (perform_fulfils action stands).mono fun first fulfils => ?_
    have ids := fulfils.works.framed.ids
    rw [always_bind]
    refine (ih (ids ▸ stands)).mono fun others later => ?_
    exact ⟨.act fulfils later.1, congrArg (action :: ·) later.2⟩

/-- What the queues hold for a name. -/
def planned (queues : Table Queue) (id : String) : List Action :=
  ((queues.get? id).map Queue.actions).getD []

theorem takeTurn_acts {scene : Scene} {position : Nat} {combatant : Combatant}
    (here : scene.encounter.combatants[position]? = some combatant) :
    Always (fun result => ∃ blocks, result.1 = [⟨combatant, blocks⟩] ∧
        blocks.map Block.action =
          (if combatant.isDead then [] else planned scene.encounter.queues combatant.id) ∧
        Acts ⟨position, combatant.id, combatant.name⟩ scene blocks result.2)
      (takeTurn position scene) := by
  have stands : scene.encounter.ids[position]? = some combatant.id := by simp [here]
  simp only [takeTurn, here]
  split
  -- Whoever is dead by now does nothing, whatever it has planned.
  · exact ⟨[], rfl, rfl, .none scene⟩
  · simp only [planned]
    split
    next missing => exact ⟨[], rfl, by rw [missing]; rfl, .none scene⟩
    next queue present =>
      rw [always_bind]
      refine (performAll_acts ⟨position, combatant.id, combatant.name⟩ queue.actions stands).mono
        fun result performed => ?_
      obtain ⟨acts, actions⟩ := performed
      exact ⟨result.1, rfl, by rw [actions, present]; rfl, acts⟩

/-! ### Rounds -/

theorem takeTurns_lap (count position : Nat) (scene : Scene)
    (all : scene.encounter.combatants.length = position + count) :
    Always (fun result =>
        Lap (planned scene.encounter.queues) position scene result.1 result.2)
      (takeTurns (List.range' position count) scene) := by
  induction count generalizing position scene with
  | zero => exact .finished (Nat.le_of_eq all)
  | succ count ih =>
    have inside : position < scene.encounter.combatants.length := by omega
    simp only [List.range'_succ, takeTurns]
    rw [always_bind]
    refine (takeTurn_acts (List.getElem?_eq_getElem inside)).mono fun first taken => ?_
    obtain ⟨blocks, told, actions, acts⟩ := taken
    -- The turn has moved nobody and changed no queue, so the lap goes on by the same plan.
    have framed := acts.framed
    have size : first.2.encounter.combatants.length = position + 1 + count := by
      have same := congrArg List.length framed.ids
      simp only [List.length_map] at same
      omega
    rw [always_bind]
    refine (ih (position + 1) first.2 size).mono fun others later => ?_
    rw [framed.queues] at later
    simp only [told, pure_eq, always_done]
    exact .turn (List.getElem?_eq_getElem inside) actions acts later

end Scene

namespace Encounter

theorem resolve_lap (encounter : Encounter) :
    Always (fun resolution => Scene.Lap (Scene.planned encounter.queues) 0 ⟨encounter, []⟩
        resolution.turns ⟨resolution.encounter, resolution.damage⟩)
      encounter.resolve := by
  unfold resolve
  rw [always_bind, List.range_eq_range']
  exact Scene.takeTurns_lap _ 0 ⟨encounter, []⟩ (Nat.zero_add _).symm

/--
The events of a round are the blocks of a lap through the combatants in initiative
order. Whoever is alive when its turn comes gives a block for every action that it has
submitted since the round was opened, in the order of submission; whoever is dead by
then gives none. A block carries the name and the kind of its action, has the size of
that kind, and holds attacks of its actor only.
-/
theorem Reached.resolve_blocks {setup : Setup} {reports : List (String × Count)}
    {encounter : Encounter} (reached : Reached setup reports encounter) :
    ∃ commits, Submitted setup commits encounter ∧
      (∀ commit ∈ commits, commit.action.kind ≠ .unknown) ∧
      (encounter.combatants.Pairwise fun early late => late.initiative ≤ early.initiative) ∧
      Always (fun resolution =>
          resolution.events = (resolution.turns.flatMap Turn.blocks).flatMap Block.events ∧
          Scene.Lap (fun id => Commit.actionsOf id commits) 0 ⟨encounter, []⟩ resolution.turns
            ⟨resolution.encounter, resolution.damage⟩)
        encounter.resolve := by
  obtain ⟨commits, submitted⟩ := reached.submitted
  refine ⟨commits, submitted, submitted.chosen, reached.inOrder, ?_⟩
  have plan : Scene.planned encounter.queues = fun id => Commit.actionsOf id commits :=
    funext submitted.keeps.actions
  exact encounter.resolve_lap.mono fun resolution lap => ⟨rfl, plan ▸ lap⟩

/-! ### A turn that comes too late -/

def sampleAmbush : Setup :=
  { room := "cellar"
    zone := "house"
    combatants := [
      { id := "ann", name := "Ann", side := .player, maxHp := 9, hp := 9, armorClass := 12 },
      { id := "rat", name := "Rat", side := .npc, maxHp := 3, hp := 3, armorClass := 9 }] }

def sampleOrders : List Request :=
  [.openRound 3, .commit "rat" (.attack "Ann"), .commit "ann" (.strike "Rat")]

/-- The ambush before its first round is resolved. -/
def sampleAmbushed : Encounter := ((play sampleOrders (begin sampleAmbush)).run (⟨15⟩ : Fixed)).1

/-- The rat is killed by the first swing, so its attack gives no block. -/
theorem resolve_blocks_sample :
    let resolution := (sampleAmbushed.resolve.run (⟨15⟩ : Fixed)).1
    (∃ reports, Reached sampleAmbush reports sampleAmbushed) ∧
    (∃ commits, Submitted sampleAmbush commits sampleAmbushed ∧
      Scene.Lap (fun id => Commit.actionsOf id commits) 0 ⟨sampleAmbushed, []⟩ resolution.turns
        ⟨resolution.encounter, resolution.damage⟩) ∧
    resolution.turns.map (fun turn => (turn.combatant.id, turn.combatant.isDead))
      = [("ann", false), ("rat", true)] ∧
    resolution.turns.map (fun turn => turn.blocks.map fun block => block.events.length)
      = [[2], []] := by
  have arrived : ∃ reports, Reached sampleAmbush reports sampleAmbushed :=
    reached_play sampleAmbush sampleOrders (⟨15⟩ : Fixed)
  obtain ⟨reports, reached⟩ := arrived
  obtain ⟨commits, submitted, _, _, always⟩ := reached.resolve_blocks
  have lap := (always.run (⟨15⟩ : Fixed)).2
  exact ⟨⟨reports, reached⟩, ⟨commits, submitted, lap⟩, by decide +kernel, by decide +kernel⟩

end Encounter

end Fray
