import Fray.Proofs.Encounter.Opening
import Fray.Proofs.Initiative
import Fray.Proofs.Round.Turns
import Fray.Warden

/-!
# Closing a round

A warden leaves the rules of a round to its encounters: it only begins them and
closes their rounds. What it relies on is that a round performs the actions that
were accepted in it, and that the encounter afterwards either is decided or has
a next round with fresh queues.

## Main results

`closeRound_closes` and `firstRound_begins` state this for every draw, `closeRound_played`
tells the steps by which a round was closed, and `Performs.events_of` tells the events of
one combatant apart.
-/

namespace Fray

open Draws

/-- What is told of a turn. -/
def Turn.events (turn : Turn) : List RoundEvent := turn.blocks.flatMap Block.events

/-! ### Performing the accepted actions -/

namespace Resolution

/-- A resolution performs the accepted actions of a round, each combatant's in its turn. -/
structure Performs (resolution : Resolution) (ids : List String) (commits : List Commit) :
    Prop where
  turns : resolution.turns.map (·.combatant.id) = ids
  known : ∀ commit ∈ commits, commit.combatant ∈ ids
  actions : ∀ turn ∈ resolution.turns, turn.blocks.map Block.action =
    if turn.combatant.isDead then [] else Commit.actionsOf turn.combatant.id commits
  actors : ∀ turn ∈ resolution.turns, ∀ block ∈ turn.blocks, ∀ event ∈ block.events,
    event.actor = turn.combatant.id

private theorem filter_turn {turn : Turn} (id : String)
    (actors : ∀ block ∈ turn.blocks, ∀ event ∈ block.events, event.actor = turn.combatant.id) :
    turn.events.filter (·.actor = id) = if turn.combatant.id = id then turn.events else [] := by
  have named : ∀ event ∈ turn.events, event.actor = turn.combatant.id := by
    intro event member
    obtain ⟨block, inside, told⟩ := List.mem_flatMap.mp member
    exact actors block inside event told
  split
  next same =>
    refine List.filter_eq_self.mpr fun event member => ?_
    simpa [← same] using named event member
  next different =>
    refine List.filter_eq_nil_iff.mpr fun event member => ?_
    simpa [named event member] using different

private theorem flatMap_of_distinct {turns : List Turn} {turn : Turn}
    (distinct : (turns.map (·.combatant.id)).Nodup) (member : turn ∈ turns) :
    turns.flatMap (fun other => if other.combatant.id = turn.combatant.id then other.events else [])
      = turn.events := by
  induction turns with
  | nil => cases member
  | cons first rest ih =>
    obtain ⟨fresh, distinct⟩ := List.nodup_cons.mp distinct
    rw [List.flatMap_cons]
    rcases List.mem_cons.mp member with rfl | inside
    · have others : rest.flatMap (fun other =>
          if other.combatant.id = turn.combatant.id then other.events else []) = [] := by
        refine List.flatMap_eq_nil_iff.mpr fun other inside => ?_
        have different : other.combatant.id ≠ turn.combatant.id := by
          intro same
          exact fresh (List.mem_map.mpr ⟨other, inside, same⟩)
        exact if_neg different
      rw [if_pos rfl, others, List.append_nil]
    · have different : first.combatant.id ≠ turn.combatant.id := by
        intro same
        exact fresh (List.mem_map.mpr ⟨turn, inside, same.symm⟩)
      rw [if_neg different, List.nil_append]
      exact ih distinct inside

/-- Where names are distinct, what is told of a combatant is what its turn gave. -/
theorem Performs.events_of {resolution : Resolution} {ids : List String} {commits : List Commit}
    (performs : resolution.Performs ids commits) (distinct : ids.Nodup) {turn : Turn}
    (member : turn ∈ resolution.turns) :
    resolution.events.filter (·.actor = turn.combatant.id) = turn.events := by
  have whole : resolution.events = resolution.turns.flatMap Turn.events := by
    simp only [events, blocks, List.flatMap_assoc]
    rfl
  rw [whole, List.filter_flatMap]
  -- Every event carries the name of its turn, so a turn passes the filter whole or not at all.
  have each : ∀ other ∈ resolution.turns, other.events.filter (·.actor = turn.combatant.id)
      = if other.combatant.id = turn.combatant.id then other.events else [] :=
    fun other inside => filter_turn _ (performs.actors other inside)
  rw [List.flatMap_congr each]
  exact flatMap_of_distinct (performs.turns ▸ distinct) member

end Resolution

/-- A resolution performs what the queues of its encounter keep. -/
theorem Encounter.resolve_performs {encounter : Encounter} {commits : List Commit}
    (keeps : encounter.Keeps commits) :
    Always (fun resolution => resolution.Performs encounter.ids commits) encounter.resolve := by
  refine encounter.resolve_follows.mono fun resolution both => ?_
  obtain ⟨profiles, follows⟩ := both
  constructor
  · have same := congrArg (List.map Combatant.id) profiles
    simpa only [List.map_map, Function.comp_def, Combatant.profile] using same
  · intro commit member
    exact keeps.known _ (keeps.queued commit member)
  · intro turn member
    rw [(follows turn member).actions, keeps.actions]
  · intro turn member block inside event told
    exact ((follows turn member).actors block inside).2 event told |>.1

/-! ### After the resolution -/

namespace Closing

/-- What a closed round leaves: an encounter that is decided, or one with the next round open. -/
structure Closes (closing : Closing) (before : Encounter) (commits : List Commit) : Prop where
  performs : closing.resolution.Performs before.ids commits
  room : closing.encounter.room = before.room
  ids : closing.encounter.ids = before.ids
  aftermath : match closing.aftermath with
    | .ended standing => standing ≠ .ongoing
    | .lapsed _ standing => standing ≠ .ongoing ∧ closing.encounter.round = before.round + 1
    | .next _ commits => closing.encounter.round = before.round + 1 ∧
      closing.encounter.isOver = before.isOver ∧ closing.encounter.Keeps commits

end Closing

namespace Tactics

theorem muster_ids (tactics : Tactics) (encounter : Encounter) :
    (tactics.muster encounter).encounter.ids = encounter.ids := by
  rw [muster_encounter]

/-- The actions of the tactics do not change who lives. -/
theorem standing_muster {tactics : Tactics} {encounter : Encounter} :
    (tactics.muster encounter).encounter.standing = encounter.standing := by
  rw [muster_encounter]
  rfl

end Tactics

/-- The steps by which a round is closed: it is resolved, and where both sides stand, the next one
is opened. Where they stand still, the tactics commit their actions. -/
inductive Closing.Played (before : Encounter) (tactics : Tactics) (points : Count) :
    Closing → Prop
  | ended {resolution : Resolution} (resolves : before.resolve.Yields resolution)
      (decided : resolution.encounter.standing ≠ .ongoing) :
      Played before tactics points ⟨resolution, .ended resolution.encounter.standing,
        resolution.encounter.markOver⟩
  | lapsed {resolution : Resolution} {events : List ConditionEvent} {opened : Encounter}
      (resolves : before.resolve.Yields resolution)
      (ongoing : resolution.encounter.standing = .ongoing)
      (opens : (resolution.encounter.openRound points).Yields (events, opened))
      (decided : opened.standing ≠ .ongoing) :
      Played before tactics points ⟨resolution, .lapsed events opened.standing, opened.markOver⟩
  | next {resolution : Resolution} {events : List ConditionEvent} {opened : Encounter}
      (resolves : before.resolve.Yields resolution)
      (ongoing : resolution.encounter.standing = .ongoing)
      (opens : (resolution.encounter.openRound points).Yields (events, opened))
      (undecided : opened.standing = .ongoing) :
      Played before tactics points ⟨resolution, .next events (tactics.muster opened).commits,
        (tactics.muster opened).encounter⟩

namespace Encounter

theorem closeRound_played {encounter : Encounter} {tactics : Tactics} {points : Count}
    {closing : Closing} (played : (encounter.closeRound tactics points).Yields closing) :
    Closing.Played encounter tactics points closing := by
  unfold closeRound at played
  obtain ⟨resolution, resolves, played⟩ := yields_bind.mp played
  split at played
  next ongoing =>
    obtain ⟨⟨events, opened⟩, opens, played⟩ := yields_bind.mp played
    simp only at played
    split at played
    next undecided =>
      cases yields_done.mp played
      exact .next resolves ongoing opens undecided
    next decided =>
      cases yields_done.mp played
      exact .lapsed resolves ongoing opens decided
  next decided =>
    cases yields_done.mp played
    exact .ended resolves decided

/-- What holds after these steps holds of every closed round. -/
theorem closeRound_always {encounter : Encounter} {tactics : Tactics} {points : Count}
    {property : Closing → Prop}
    (steps : ∀ closing, Closing.Played encounter tactics points closing → property closing) :
    Always property (encounter.closeRound tactics points) :=
  (always_yields _).mono fun closing played => steps closing (closeRound_played played)

theorem closeRound_closes {encounter : Encounter} {commits : List Commit}
    (keeps : encounter.Keeps commits) (tactics : Tactics) (points : Count) :
    Always (fun closing => closing.Closes encounter commits)
      (encounter.closeRound tactics points) := by
  refine closeRound_always fun closing played => ?_
  have performs {resolution : Resolution} (resolves : encounter.resolve.Yields resolution) :=
    resolves.holds ((resolve_performs keeps).and encounter.resolve_framed)
  cases played with
  | ended resolves decided =>
    obtain ⟨performs, framed⟩ := performs resolves
    exact ⟨performs, framed.room, framed.ids, decided⟩
  | @lapsed resolution _ opened resolves _ opens decided =>
    obtain ⟨performs, framed⟩ := performs resolves
    have opens := opens.holds (openRound_opens resolution.encounter points)
    have round : opened.round = encounter.round + 1 := by rw [opens.round, framed.round]
    exact ⟨performs, opens.room.trans framed.room, opens.ids.trans framed.ids, decided, round⟩
  | @next resolution _ opened resolves _ opens _ =>
    obtain ⟨performs, framed⟩ := performs resolves
    have opens := opens.holds (openRound_opens resolution.encounter points)
    have same := tactics.muster_encounter opened
    refine ⟨performs, ?room, ?ids, ?round, ?isOver, tactics.muster_keeps opens.keeps⟩
    case room =>
      rw [same]
      exact opens.room.trans framed.room
    case ids => exact (tactics.muster_ids opened).trans (opens.ids.trans framed.ids)
    case round =>
      rw [same, ← framed.round]
      exact opens.round
    case isOver =>
      rw [same]
      exact opens.isOver.trans framed.isOver

end Encounter

/-- Whatever the closing of a round comes to closes it. -/
theorem Closing.closes_of_played {closing : Closing} {encounter : Encounter} {tactics : Tactics}
    {points : Count} (played : (encounter.closeRound tactics points).Yields closing)
    (commits : List Commit) (keeps : encounter.Keeps commits) :
    closing.Closes encounter commits :=
  played.holds (Encounter.closeRound_closes keeps tactics points)

/-! ### The first round -/

/-- What an encounter starts with: its first round, and the actions accepted from the tactics. -/
structure Muster.Begins (muster : Muster) (setup : Setup) : Prop where
  room : muster.encounter.room = setup.room
  ids : muster.encounter.ids.Perm (setup.combatants.map Combatant.id)
  round : muster.encounter.round = 1
  isOver : muster.encounter.isOver = false
  keeps : muster.encounter.Keeps muster.commits

/-- The steps by which an encounter was begun. -/
theorem Warden.firstRound_played {setup : Setup} {tactics : Tactics} {points : Count}
    {events : List ConditionEvent} {muster : Muster}
    (played : (firstRound setup tactics points).Yields (events, muster)) :
    ∃ combatants opened, (rollInitiative setup.combatants).Yields combatants ∧
      ((Encounter.begin { setup with combatants := combatants }).openRound points).Yields
        (events, opened) ∧
      muster = tactics.muster opened := by
  unfold firstRound at played
  obtain ⟨combatants, rolls, played⟩ := yields_bind.mp played
  obtain ⟨⟨events, opened⟩, opens, played⟩ := yields_bind.mp played
  cases yields_done.mp played
  exact ⟨combatants, opened, rolls, opens, rfl⟩

theorem Warden.firstRound_begins (setup : Setup) (tactics : Tactics) (points : Count) :
    Always (fun result => result.2.Begins setup) (firstRound setup tactics points) := by
  refine (always_yields _).mono fun (events, muster) played => ?_
  obtain ⟨rolled, opened, rolls, opens, rfl⟩ := firstRound_played played
  have same := rolls.holds (rollInitiative_ids setup.combatants)
  have opens := opens.holds (Encounter.openRound_opens _ points)
  have steered := tactics.muster_encounter opened
  constructor
  · rw [steered]
    exact opens.room
  · rw [tactics.muster_ids, ← same]
    have ids : opened.ids = (sortByInitiative rolled).map Combatant.id := opens.ids
    rw [ids]
    exact (sortByInitiative_perm rolled).map Combatant.id
  · rw [steered]
    exact opens.round
  · rw [steered]
    exact opens.isOver
  · exact tactics.muster_keeps opens.keeps

/-- Whatever the first round comes to begins the encounter. -/
theorem Muster.begins_of_played {setup : Setup} {tactics : Tactics} {points : Count}
    {events : List ConditionEvent} {muster : Muster}
    (played : (Warden.firstRound setup tactics points).Yields (events, muster)) :
    muster.Begins setup :=
  played.holds (Warden.firstRound_begins setup tactics points)

end Fray
