import Fray.Proofs.Round.Works

/-!
# The moments of a round

A resolution says what everybody did but not how things stood when an action began. The
same round can be watched: every action is kept with the scene before it and the scene
after it, and nothing else is done. To forget the scenes gives the resolution back.

## Main results

`resolve_watched`: a resolution is what a watched round leaves when the scenes are
forgotten. `watch_tour`: every scene that was watched is the one in which its action was
performed, from the first position to the last. `resolve_enacts` says both of a resolution.
-/

namespace Fray

open Draws

/-! ### Watching -/

/-- One action that was performed, with the scenes before and after it. -/
structure Moment where
  before : Scene
  block : Block
  after : Scene

/-- A turn with its moments. -/
structure Episode where
  position : Nat
  /-- As it stood when the turn came. -/
  combatant : Combatant
  moments : List Moment

namespace Episode

def actor (episode : Episode) : Actor :=
  ⟨episode.position, episode.combatant.id, episode.combatant.name⟩

/-- What is left of a turn when its scenes are forgotten. -/
def turn (episode : Episode) : Turn := ⟨episode.combatant, episode.moments.map Moment.block⟩

end Episode

namespace Scene

def watchAll (actor : Actor) : List Action → Scene → Draws (List Moment × Scene)
  | [], scene => return ([], scene)
  | action :: rest, scene => do
    let (events, next) ← scene.perform actor action
    let (moments, last) ← watchAll actor rest next
    return (⟨scene, ⟨actor.id, action, events⟩, next⟩ :: moments, last)

def watchTurn (index : Nat) (scene : Scene) : Draws (List Episode × Scene) :=
  match scene.encounter.combatants[index]? with
  | none => return ([], scene)
  | some combatant =>
    if combatant.isDead then return ([⟨index, combatant, []⟩], scene)
    else
      match scene.encounter.queues.get? combatant.id with
      | none => return ([⟨index, combatant, []⟩], scene)
      | some queue => do
        let (moments, scene) ←
          watchAll ⟨index, combatant.id, combatant.name⟩ queue.actions scene
        return ([⟨index, combatant, moments⟩], scene)

def watchTurns : List Nat → Scene → Draws (List Episode × Scene)
  | [], scene => return ([], scene)
  | index :: rest, scene => do
    let (first, scene) ← watchTurn index scene
    let (others, scene) ← watchTurns rest scene
    return (first ++ others, scene)

end Scene

/-- A round that was watched, with the scene at its end. -/
structure Watched where
  episodes : List Episode
  last : Scene

namespace Watched

def moments (watched : Watched) : List Moment := watched.episodes.flatMap Episode.moments

/-- What is left of a round when its scenes are forgotten. -/
def resolution (watched : Watched) : Resolution :=
  ⟨watched.episodes.map Episode.turn, watched.last.damage, watched.last.encounter⟩

end Watched

/-- Resolve a round and keep all scenes. -/
def Encounter.watch (encounter : Encounter) : Draws Watched := do
  let (episodes, last) ←
    Scene.watchTurns (List.range encounter.combatants.length) ⟨encounter, []⟩
  return ⟨episodes, last⟩

namespace Scene

theorem performAll_watched (actor : Actor) (actions : List Action) (scene : Scene) :
    performAll actor actions scene
      = watchAll actor actions scene >>= fun seen =>
          pure (seen.1.map Moment.block, seen.2) := by
  induction actions generalizing scene with
  | nil => rfl
  | cons action rest ih =>
    -- Both sides perform the action first, and then differ in what they keep of it.
    simp only [performAll, watchAll, ih, Draws.bind_assoc]
    rfl

theorem takeTurn_watched (index : Nat) (scene : Scene) :
    takeTurn index scene
      = watchTurn index scene >>= fun seen => pure (seen.1.map Episode.turn, seen.2) := by
  unfold takeTurn watchTurn
  cases scene.encounter.combatants[index]? with
  | none => rfl
  | some combatant =>
    cases gone : combatant.isDead with
    | true =>
      simp only [gone, if_true, pure_eq, bind_done, List.map_cons, List.map_nil, Episode.turn]
    | false =>
      simp only [gone, Bool.false_eq_true, if_false]
      cases scene.encounter.queues.get? combatant.id with
      | none => rfl
      | some queue =>
        simp only [performAll_watched, Draws.bind_assoc]
        rfl

theorem takeTurns_watched (indices : List Nat) (scene : Scene) :
    takeTurns indices scene
      = watchTurns indices scene >>= fun seen => pure (seen.1.map Episode.turn, seen.2) := by
  induction indices generalizing scene with
  | nil => rfl
  | cons index rest ih =>
    simp only [takeTurns, watchTurns, takeTurn_watched, ih, Draws.bind_assoc]
    simp only [pure_eq, bind_done, List.map_append]

end Scene

/-- Watching changes nothing. -/
theorem Encounter.resolve_watched (encounter : Encounter) :
    encounter.resolve = encounter.watch >>= fun watched => pure watched.resolution := by
  unfold Encounter.resolve Encounter.watch
  rw [Scene.takeTurns_watched, Draws.bind_assoc, Draws.bind_assoc]
  rfl

/-! ### What is watched -/

namespace Scene

open Encounter

/-- Moments that follow each other, each of an action of the same actor. -/
inductive Chain (actor : Actor) : Scene → List Moment → Scene → Prop
  | none (scene : Scene) : Chain actor scene [] scene
  | act {moment : Moment} {rest : List Moment} {after : Scene}
      (owner : moment.block.actor = actor.id)
      (stands : moment.before.encounter.ids[actor.index]? = some actor.id)
      (performed : (moment.before.perform actor moment.block.action).Yields
        (moment.block.events, moment.after))
      (later : Chain actor moment.after rest after) :
      Chain actor moment.before (moment :: rest) after

/-- Episodes that follow each other from a position on. -/
inductive Tour : Nat → Scene → List Episode → Scene → Prop
  | finished {position : Nat} {scene : Scene}
      (past : scene.encounter.combatants.length ≤ position) : Tour position scene [] scene
  | episode {before middle after : Scene} {episode : Episode} {rest : List Episode}
      (stood : before.encounter.combatants[episode.position]? = some episode.combatant)
      (alive : episode.moments ≠ [] → episode.combatant.isDead = false)
      (chain : Chain episode.actor before episode.moments middle)
      (later : Tour (episode.position + 1) middle rest after) :
      Tour episode.position before (episode :: rest) after

section Chain

variable {actor : Actor} {before after : Scene} {moments : List Moment}

theorem Chain.framed (chain : Chain actor before moments after) :
    Framed before.encounter after.encounter := by
  induction chain with
  | none => exact .refl _
  | act _ stands performed _ ih =>
    exact (performed.holds (perform_works _ stands)).1.framed.trans ih

theorem Chain.reaches (chain : Chain actor before moments after) : Reaches before after := by
  induction chain with
  | none => exact .refl
  | act _ _ performed _ ih => exact (performed.holds (perform_course ..)).reaches.trans ih

/-- Every moment of a chain comes about from its start, and its action is performed there. -/
theorem Chain.performs (chain : Chain actor before moments after) :
    ∀ moment ∈ moments, Reaches before moment.before ∧
      (moment.before.perform actor moment.block.action).Yields
        (moment.block.events, moment.after) := by
  induction chain with
  | none => exact fun _ member => absurd member List.not_mem_nil
  | act _ _ performed _ ih =>
    refine List.forall_mem_cons.mpr ⟨⟨.refl, performed⟩, fun moment member => ?_⟩
    have first := (performed.holds (perform_course ..)).reaches
    exact ⟨first.trans (ih moment member).1, (ih moment member).2⟩

/-- The moments of a chain belong to its actor, who stands in its place in all of them. -/
theorem Chain.owned (chain : Chain actor before moments after) :
    ∀ moment ∈ moments, moment.block.actor = actor.id ∧
      moment.before.encounter.ids[actor.index]? = some actor.id := by
  induction chain with
  | none => exact fun _ member => absurd member List.not_mem_nil
  | act owner stands _ _ ih => exact List.forall_mem_cons.mpr ⟨⟨owner, stands⟩, ih⟩

theorem watchAll_chain (actor : Actor) (actions : List Action) {scene : Scene}
    (stands : scene.encounter.ids[actor.index]? = some actor.id) :
    Always (fun seen => Chain actor scene seen.1 seen.2) (watchAll actor actions scene) := by
  induction actions generalizing scene with
  | nil => exact .none scene
  | cons action rest ih =>
    simp only [watchAll]
    rw [always_bind]
    refine (always_yields _).mono fun first performed => ?_
    -- Nobody changes places, so the actor still stands where it stood.
    have ids := (performed.holds (perform_works action stands)).1.framed.ids
    rw [always_bind]
    refine (ih (ids ▸ stands)).mono fun others later => ?_
    let moment : Moment := ⟨scene, ⟨actor.id, action, first.1⟩, first.2⟩
    exact @Chain.act actor moment others.1 others.2 rfl stands performed later

/-- A moment of a chain comes after those before it, and its action is performed in its scene. -/
theorem Chain.find {early late : List Moment} {moment : Moment}
    (chain : Chain actor before (early ++ moment :: late) after) :
    Chain actor before early moment.before ∧ Chain actor moment.before (moment :: late) after := by
  induction early generalizing before with
  | nil =>
    cases chain with
    | act owner stands performed later =>
      exact ⟨.none moment.before, .act owner stands performed later⟩
  | cons first early ih =>
    cases chain with
    | act owner stands performed later =>
      obtain ⟨reached, rest⟩ := ih later
      exact ⟨.act owner stands performed reached, rest⟩

end Chain

theorem Tour.performs {position : Nat} {before after : Scene} {episodes : List Episode}
    (tour : Tour position before episodes after) {episode : Episode} {moment : Moment}
    (member : episode ∈ episodes) (inside : moment ∈ episode.moments) :
    Reaches before moment.before ∧
      (moment.before.perform episode.actor moment.block.action).Yields
        (moment.block.events, moment.after) := by
  induction tour with
  | finished => cases member
  | @episode before middle after current rest _ _ chain _ ih =>
    rcases List.mem_cons.mp member with rfl | later
    · exact chain.performs moment inside
    · obtain ⟨reached, performed⟩ := ih later
      exact ⟨chain.reaches.trans reached, performed⟩

/-- Every episode of a tour begins where its combatant stands. -/
theorem Tour.find {position : Nat} {before after : Scene} {episodes : List Episode}
    (tour : Tour position before episodes after) {episode : Episode}
    (member : episode ∈ episodes) :
    ∃ first last, first.encounter.combatants[episode.position]? = some episode.combatant ∧
      (episode.moments ≠ [] → episode.combatant.isDead = false) ∧
      Chain episode.actor first episode.moments last := by
  induction tour with
  | finished => cases member
  | @episode before middle after current rest stood alive chain _ ih =>
    rcases List.mem_cons.mp member with rfl | later
    · exact ⟨before, middle, stood, alive, chain⟩
    · exact ih later

theorem watchTurn_episode {scene : Scene} {position : Nat} {combatant : Combatant}
    (here : scene.encounter.combatants[position]? = some combatant) :
    Always (fun seen => ∃ moments, seen.1 = [⟨position, combatant, moments⟩] ∧
        (moments ≠ [] → combatant.isDead = false) ∧
        Chain ⟨position, combatant.id, combatant.name⟩ scene moments seen.2)
      (watchTurn position scene) := by
  have stands : scene.encounter.ids[position]? = some combatant.id := by simp [here]
  simp only [watchTurn, here]
  split
  -- The dead and those without a queue have a turn without moments.
  · exact ⟨[], rfl, fun some => absurd rfl some, .none scene⟩
  next breathes =>
    split
    · exact ⟨[], rfl, fun some => absurd rfl some, .none scene⟩
    next queue _ =>
      rw [always_bind]
      refine (watchAll_chain ⟨position, combatant.id, combatant.name⟩ queue.actions stands).mono
        fun seen chain => ?_
      exact ⟨seen.1, rfl, fun _ => by simpa using breathes, chain⟩

theorem watchTurns_tour (count position : Nat) (scene : Scene)
    (all : scene.encounter.combatants.length = position + count) :
    Always (fun seen => Tour position scene seen.1 seen.2)
      (watchTurns (List.range' position count) scene) := by
  induction count generalizing position scene with
  | zero => exact .finished (Nat.le_of_eq all)
  | succ count ih =>
    have inside : position < scene.encounter.combatants.length := by omega
    have here := List.getElem?_eq_getElem inside
    simp only [List.range'_succ, watchTurns]
    rw [always_bind]
    refine (watchTurn_episode here).mono fun first taken => ?_
    obtain ⟨moments, told, alive, chain⟩ := taken
    -- The positions that are left are still all that follow.
    have size : first.2.encounter.combatants.length = position + 1 + count := by
      have same := congrArg List.length chain.framed.ids
      simp only [List.length_map] at same
      omega
    rw [always_bind]
    refine (ih (position + 1) first.2 size).mono fun others later => ?_
    simp only [told, pure_eq, always_done]
    exact @Tour.episode scene first.2 others.2 ⟨position, _, moments⟩ others.1 here alive chain
      later

end Scene

theorem Encounter.watch_tour (encounter : Encounter) :
    Always (fun watched => Scene.Tour 0 ⟨encounter, []⟩ watched.episodes watched.last)
      encounter.watch := by
  unfold watch
  rw [always_bind, List.range_eq_range']
  exact Scene.watchTurns_tour _ 0 ⟨encounter, []⟩ (Nat.zero_add _).symm

/--
A resolution enacts what an encounter has queued: the blocks of its turns are performances,
each from the scene that the one before it has left, the first from the encounter itself.
-/
def Resolution.Enacts (resolution : Resolution) (before : Encounter) : Prop :=
  ∃ watched : Watched, Scene.Tour 0 ⟨before, []⟩ watched.episodes watched.last ∧
    watched.resolution = resolution

theorem Encounter.resolve_enacts (encounter : Encounter) :
    Always (fun resolution => resolution.Enacts encounter) encounter.resolve := by
  rw [resolve_watched, always_bind]
  exact encounter.watch_tour.mono fun watched tour => ⟨watched, tour, rfl⟩

end Fray
