import Fray.Proofs.Round.Blocks
import Fray.Proofs.Round.Blows

/-!
# The fallen

Whoever is dead when its turn comes does nothing. During a turn the dead are not looked
for again, and an action that calls its target by name may find its own actor. So the
actions of the dead are those of a non-player that has killed itself earlier in its turn,
and there is no other way to act after death.

## Main results

`perform_selfHit`: an action takes hit points from its actor only by an attack of the actor
on itself. `watch_fallen`: whose actions begin after its death, in any round.
-/

namespace Fray

open Draws

namespace Scene

open Encounter

variable {actor : Actor} {action : Action}

/-! ### Blows on a combatant -/

/-- One of some events records a blow on the combatant at a position. -/
def HitAt (actor : Actor) (action : Action) (index : Nat) (before : Scene)
    (events : List RoundEvent) : Prop :=
  ∃ event ∈ events, ∃ attack ∈ event.attack, ∃ one two told attacker defender,
    Framed before.encounter one.encounter ∧
    Blow actor action told attacker defender index one attack two

theorem HitAt.earlier {index : Nat} {before middle : Scene} {rest : List RoundEvent}
    (hit : HitAt actor action index middle rest)
    (framed : Framed before.encounter middle.encounter) (event : RoundEvent) :
    HitAt actor action index before (event :: rest) := by
  obtain ⟨later, member, attack, recorded, one, two, told, attacker, defender, reached, blow⟩ := hit
  exact ⟨later, List.mem_cons_of_mem _ member, attack, recorded, one, two, told, attacker,
    defender, framed.trans reached, blow⟩

/-- Whoever has other hit points after some blows was hit by one of them. -/
theorem Blows.hitAt {told : Nat} {before after : Scene} {events : List RoundEvent}
    (blows : Blows actor action told before events after) {index : Nat}
    (changed : after.encounter.hpAt? index ≠ before.encounter.hpAt? index) :
    HitAt actor action index before events := by
  induction blows with
  | done scene => exact absurd rfl changed
  | @plain _ before _ event rest plain _ ih => exact (ih changed).earlier (.refl _) event
  | @blow count before middle _ event rest attack attacker defender position recorded blow _ ih =>
    by_cases here : index = position
    · subst here
      exact ⟨event, List.mem_cons_self, attack, recorded, before, middle, count, attacker,
        defender, .refl _, blow⟩
    -- The blow was on somebody else, so a later one has hit.
    · rw [← blow.others index here] at changed
      exact (ih changed).earlier blow.framed event

/-! ### Hits on oneself -/

theorem blastEach_still (actor : Actor) (explosive : Explosive) {targets : List (Nat × Blast)}
    {index : Nat} (apart : ∀ pair ∈ targets, index ≠ pair.1) (scene : Scene) :
    (blastEach actor explosive targets scene).2.encounter.hpAt? index
      = scene.encounter.hpAt? index := by
  induction targets generalizing scene with
  | nil => rfl
  | cons first rest ih =>
    obtain ⟨target, blast⟩ := first
    obtain ⟨other, apart⟩ := List.forall_mem_cons.mp apart
    refine (ih apart _).trans ?_
    exact (hpAt?_of_combatants (combatants_beginDying ..) index).trans
      (hpAt?_hurt_of_ne scene blast.damage other)

/-- Nobody throws at itself. -/
theorem performThrow_still (scene : Scene) (actor : Actor) (action : Action) :
    Always (fun result =>
        result.2.encounter.hpAt? actor.index = scene.encounter.hpAt? actor.index)
      (scene.performThrow actor action) := by
  unfold performThrow
  split
  · rfl
  · split
    · rfl
    next explosive _ =>
      simp only
      rw [always_bind]
      refine always_of_forall (fun blasts => ?_) _
      let asked := (scene.encounter.consult Hooks.onExplosiveThrow
        [.text actor.id, .text explosive.id]).2
      -- A blast is for a position among the opponents, and these are not of the actor's side.
      have apart : ∀ pair ∈ (asked.opponents actor.index).zip blasts, actor.index ≠ pair.1 := by
        intro pair member same
        have opposed := (List.of_mem_zip member).1
        rw [← same, opponents] at opposed
        split at opposed
        · cases opposed
        · simp at opposed
      have still := blastEach_still actor explosive apart { scene with encounter := asked }
      split
      · exact still
      · exact still

/-- What is no attack leaves the hit points of its actor alone. -/
theorem perform_still (scene : Scene) (actor : Actor) {action : Action}
    (quiet : action.kind.isAttack = false) :
    Always (fun result =>
        result.2.encounter.hpAt? actor.index = scene.encounter.hpAt? actor.index)
      (scene.perform actor action) := by
  unfold perform
  cases kind : action.kind with
  | unknown | pass => rfl
  | reload => exact hpAt?_changeAt _ _ _ fun _ => rfl
  | throw => exact performThrow_still scene actor action
  | attack | strike | burst | automatic =>
    rw [kind] at quiet
    cases quiet

theorem perform_selfHit {scene : Scene} {combatant : Combatant}
    (here : scene.encounter.combatants[actor.index]? = some combatant)
    (named : combatant.id = actor.id) :
    Always (fun result =>
        result.2.encounter.hpAt? actor.index ≠ scene.encounter.hpAt? actor.index →
          action.AimsAt combatant combatant ∧
          ∃ event ∈ result.1, ∃ attack ∈ event.attack,
            attack.attacker = combatant.id ∧ attack.target = combatant.id)
      (scene.perform actor action) := by
  have stands : scene.encounter.ids[actor.index]? = some actor.id := by simp [here, named]
  cases attacks : action.kind.isAttack with
  | false =>
    exact (perform_still scene actor attacks).mono fun result still changed =>
      absurd still changed
  | true =>
    refine (perform_blows stands attacks).mono fun result blows changed => ?_
    obtain ⟨event, member, attack, recorded, one, two, count, attacker, defender, framed, blow⟩ :=
      blows.hitAt changed
    -- Both sides of the blow stand where the actor stands.
    cases blow.attackerAt.symm.trans blow.defenderAt
    obtain ⟨self, there, same⟩ := framed.stood blow.attackerAt
    cases here.symm.trans there
    have id : attacker.id = combatant.id := (congrArg Combatant.id same :).symm
    refine ⟨blow.aims.of_profiles same same, event, member, attack, recorded, ?_⟩
    exact ⟨blow.between.1.trans id, blow.between.2.trans id⟩

end Scene

/-! ### Deaths in one's own turn -/

namespace Encounter

/-- Who is killed by anything but the opening of a round is a non-player that was hit. -/
theorem Framed.fallen {before after : Encounter} (framed : Framed before after) {index : Nat}
    {combatant : Combatant} (stood : before.combatants[index]? = some combatant)
    (alive : combatant.isDead = false) (dead : after.isDeadAt index = true) :
    combatant.isPlayer = false ∧ after.hpAt? index ≠ before.hpAt? index := by
  have place := framed.profile_at index
  rw [stood] at place
  obtain ⟨left, there, same⟩ := Option.map_eq_some_iff.mp place
  have side : left.side = combatant.side := (congrArg Combatant.side same :)
  have mark : left.dead = combatant.dead := (congrArg Combatant.dead same :)
  have gone : left.isDead = true := by simpa [isDeadAt, there] using dead
  -- The mark that kills a player belongs to its profile, the hit points of a non-player do not.
  unfold Combatant.isDead at alive gone
  rw [side] at gone
  cases fights : combatant.side with
  | player =>
    rw [fights] at alive gone
    exact absurd (gone.symm.trans (mark.trans alive)) (by decide)
  | npc =>
    rw [fights] at alive gone
    refine ⟨by simp [Combatant.isPlayer, fights], fun still => ?_⟩
    simp only [hpAt?, there, stood, Option.map_some, Option.some.injEq] at still
    rw [still] at gone
    exact absurd (gone.symm.trans alive) (by decide)

end Encounter

/-- An action by which its actor has hit and killed itself. -/
structure Moment.Fells (moment : Moment) (episode : Episode) : Prop where
  breathed : moment.before.encounter.isDeadAt episode.position = false
  fallen : moment.after.encounter.isDeadAt episode.position = true
  aims : moment.block.action.AimsAt episode.combatant episode.combatant
  hit : ∃ event ∈ moment.block.events, ∃ attack ∈ event.attack,
    attack.attacker = episode.combatant.id ∧ attack.target = episode.combatant.id

namespace Scene

open Encounter

theorem Chain.fallen {episode : Episode} {before after : Scene} {moments : List Moment}
    (chain : Chain episode.actor before moments after) {combatant : Combatant}
    (stood : before.encounter.combatants[episode.position]? = some combatant)
    (same : combatant.profile = episode.combatant.profile) (alive : combatant.isDead = false)
    (dead : after.encounter.isDeadAt episode.position = true) :
    episode.combatant.isPlayer = false ∧ ∃ moment ∈ moments, moment.Fells episode := by
  induction chain generalizing combatant with
  | none scene =>
    have breathes := isDeadAt_eq_false.mpr ⟨combatant, stood, alive⟩
    exact absurd (breathes.symm.trans dead) (by decide)
  | @act moment rest after owner stands performed later ih =>
    have framed := (performed.holds (perform_works _ stands)).1.framed
    cases gone : moment.after.encounter.isDeadAt episode.position with
    -- The actor lives on, so it was a later action.
    | false =>
      obtain ⟨next, there, breathes⟩ := isDeadAt_eq_false.mp gone
      obtain ⟨self, here, kept⟩ := framed.stood there
      cases stood.symm.trans here
      obtain ⟨npc, past, member, fells⟩ := ih there (kept.symm.trans same) breathes dead
      exact ⟨npc, past, List.mem_cons_of_mem _ member, fells⟩
    -- It fell by this one, which took its hit points.
    | true =>
      obtain ⟨npc, changed⟩ := framed.fallen stood alive gone
      have id : combatant.id = episode.combatant.id := (congrArg Combatant.id same :)
      have side : combatant.side = episode.combatant.side := (congrArg Combatant.side same :)
      obtain ⟨aims, event, told, attack, recorded, hit⟩ :=
        performed.holds (perform_selfHit stood id) changed
      rw [id] at hit
      refine ⟨?_, moment, List.mem_cons_self, ?_⟩
      · rw [Combatant.isPlayer, ← side]
        exact npc
      · exact ⟨isDeadAt_eq_false.mpr ⟨combatant, stood, alive⟩, gone,
          aims.of_profiles same.symm same.symm, event, told, attack, recorded, hit⟩

end Scene

/-! ### Rounds -/

namespace Encounter

/-- The turns that were watched are those of the combatants, and follow the queues. -/
theorem watch_follows (encounter : Encounter) :
    Always (fun watched => ∀ episode ∈ watched.episodes,
        (∃ combatant ∈ encounter.combatants, combatant.profile = episode.combatant.profile) ∧
        episode.turn.Follows encounter.queues)
      encounter.watch := by
  have follows := encounter.resolve_follows
  rw [resolve_watched, always_bind] at follows
  refine follows.mono fun watched facts episode member => ?_
  obtain ⟨profiles, following⟩ := facts
  have listed : episode.turn ∈ watched.resolution.turns := List.mem_map_of_mem member
  have known : episode.combatant.profile ∈ encounter.combatants.map Combatant.profile :=
    profiles ▸ List.mem_map.mpr ⟨episode.turn, listed, rfl⟩
  obtain ⟨combatant, inside, same⟩ := List.mem_map.mp known
  exact ⟨⟨combatant, inside, same⟩, following episode.turn listed⟩

/-- What is done in a turn after the death of its combatant. -/
structure FallenActs (episode : Episode) : Prop where
  owned : ∀ moment ∈ episode.moments, ∀ event ∈ moment.block.events,
    event.actor = episode.combatant.id
  silent : episode.combatant.isDead = true → episode.moments = []
  late : ∀ early moment rest, episode.moments = early ++ moment :: rest →
    moment.before.encounter.isDeadAt episode.position = true →
      episode.combatant.isPlayer = false ∧ ∃ past ∈ early, past.Fells episode

theorem watch_acts (encounter : Encounter) :
    Always (fun watched => ∀ episode ∈ watched.episodes, FallenActs episode) encounter.watch := by
  refine (encounter.watch_tour.and encounter.watch_follows).mono
    fun watched both episode member => ?_
  obtain ⟨tour, follows⟩ := both
  obtain ⟨first, last, stood, alive, chain⟩ := tour.find member
  obtain ⟨_, following⟩ := follows episode member
  constructor
  · intro moment inside event told
    exact ((following.actors moment.block (List.mem_map_of_mem inside)).2 event told).1
  · intro dead
    by_contra some
    exact absurd ((alive some).symm.trans dead) (by decide)
  · intro early moment rest cut dead
    have breathes := alive (by simp [cut])
    rw [cut] at chain
    exact chain.find.1.fallen stood rfl breathes dead

/--
To watch a round changes nothing, and shows for each action how things stood when it began.
Everything that is told in a turn is told of its combatant; whoever is dead when its turn
comes does nothing at all; and whoever is dead when an action of its turn begins is a
non-player that has killed itself earlier in this turn, by an attack of its own on itself
with an action that could mean its own actor. So where no committed action can do so,
everybody is alive at the beginning of each of its actions.
-/
theorem watch_fallen (encounter : Encounter) :
    encounter.resolve = (encounter.watch >>= fun watched => pure watched.resolution) ∧
    Always (fun watched => ∀ episode ∈ watched.episodes, FallenActs episode) encounter.watch ∧
    ((∀ combatant ∈ encounter.combatants,
        ∀ action ∈ Scene.planned encounter.queues combatant.id,
          ¬ action.AimsAt combatant combatant) →
      Always (fun watched => ∀ episode ∈ watched.episodes, ∀ moment ∈ episode.moments,
          moment.before.encounter.isDeadAt episode.position = false)
        encounter.watch) := by
  refine ⟨encounter.resolve_watched, encounter.watch_acts, fun apart => ?_⟩
  refine (encounter.watch_acts.and encounter.watch_follows).mono
    fun watched both episode member moment inside => ?_
  obtain ⟨acts, follows⟩ := both
  obtain ⟨⟨combatant, listed, same⟩, following⟩ := follows episode member
  by_contra dead
  obtain ⟨early, rest, cut⟩ := List.append_of_mem inside
  obtain ⟨_, past, before, fells⟩ :=
    (acts episode member).late early moment rest cut (by simpa using dead)
  -- The action that has killed its actor was committed by it.
  have done : past.block.action ∈ episode.turn.blocks.map Block.action := by
    have among : past ∈ episode.moments := by
      rw [cut]
      exact List.mem_append_left _ before
    exact List.mem_map_of_mem (List.mem_map_of_mem among)
  rw [following.actions] at done
  have id : episode.combatant.id = combatant.id := (congrArg Combatant.id same :).symm
  split at done
  · cases done
  · refine apart combatant listed past.block.action ?_ (fells.aims.of_profiles same same)
    rw [← id]
    exact done

/-! ### A rat that bites itself -/

def sampleFrenzy : Setup :=
  { room := "cellar"
    zone := "house"
    combatants := [
      { id := "rat", name := "Rat", side := .npc, maxHp := 3, hp := 3, armorClass := 9 },
      { id := "ann", name := "Ann", side := .player, maxHp := 9, hp := 9, armorClass := 12 }] }

def sampleBites : List Request :=
  [.openRound 3, .commit "rat" (.attack "Rat"), .commit "rat" (.attack "Ann")]

/-- The frenzy before its first round is resolved. -/
def sampleFrantic : Encounter := ((play sampleBites (begin sampleFrenzy)).run (⟨15⟩ : Fixed)).1

/-- The rat is dead after its first attack, and yet it attacks Ann. -/
theorem watch_fallen_bites :
    (∃ reports, Reached sampleFrenzy reports sampleFrantic) ∧
    ((sampleFrantic.watch.run (⟨15⟩ : Fixed)).1.moments.map fun moment =>
        (moment.before.encounter.isDeadAt 0, moment.block.events.map fun event =>
          (event.actor, event.attack.map Attack.target)))
      = [(false, [("rat", some "rat")]), (true, [("rat", some "ann")])] :=
  ⟨reached_play sampleFrenzy sampleBites (⟨15⟩ : Fixed), by decide +kernel⟩

end Encounter

end Fray
