import Fray.Proofs.Simulation.Limits

/-!
# Fights without an end

In a fight whose players are all down without dying, nobody does anything: whoever is down
passes, and nobody attacks those who are down. A round leaves such a fight as it was, so that
no round decides it. What ends it is the limit, except for the greatest number: the rounds
that follow the round of this number have it too, and so none of them is beyond it.

## Main results

`followCourse_stalled`: however many rounds are followed, all of them are resolved, and the
fight goes on. `simulation_endless` says so of a simulation from its beginning, and
`Invocation.report_endless` of a program whose settings are valid and have a limit.
-/

namespace Fray

open Draws

/-! ### Rounds in which everybody passes -/

namespace Scene

theorem performAll_passes (actor : Actor) {actions : List Action}
    (passes : ∀ action ∈ actions, action.kind = .pass) (scene : Scene) :
    Always (fun result => result.2 = scene) (performAll actor actions scene) := by
  induction actions with
  | nil => rfl
  | cons action rest ih =>
    obtain ⟨first, others⟩ := List.forall_mem_cons.mp passes
    simp only [performAll, perform, first, pure_eq, bind_done, always_bind]
    exact ih others

/-- Nobody has committed anything but passes. -/
def Passes (queues : Table Queue) : Prop :=
  ∀ id, ∀ action ∈ planned queues id, action.kind = .pass

variable {scene : Scene}

theorem takeTurn_passes (passes : Passes scene.encounter.queues) (index : Nat) :
    Always (fun result => result.2 = scene) (takeTurn index scene) := by
  unfold takeTurn
  split
  · rfl
  next combatant _ =>
    split
    · rfl
    · split
      · rfl
      next queue present =>
        rw [always_bind]
        refine performAll_passes _ (fun action listed => passes combatant.id action ?_) scene
        simpa [planned, present] using listed

theorem takeTurns_passes (passes : Passes scene.encounter.queues) (indices : List Nat) :
    Always (fun result => result.2 = scene) (takeTurns indices scene) := by
  induction indices with
  | nil => rfl
  | cons index rest ih =>
    rw [takeTurns, always_bind]
    refine (takeTurn_passes passes index).mono fun result same => ?_
    rw [always_bind, same]
    exact ih

end Scene

theorem Encounter.resolve_passes {encounter : Encounter}
    (passes : Scene.Passes encounter.queues) :
    Always (fun resolution => resolution.encounter = encounter) encounter.resolve := by
  unfold resolve
  rw [always_bind]
  refine (Scene.takeTurns_passes passes _).mono fun (turns, scene) same => ?_
  exact congrArg Scene.encounter same

/-! ### Openings without anybody dying -/

/-- Nobody who is not dying makes a check, and to count conditions down adds none. -/
theorem Combatant.Opens.calm {codex : Codex} {combatant : Combatant} {set : Afflictions}
    {opening : Opening} (opens : combatant.Opens codex set opening)
    (calm : set.has Condition.dying.id = false) :
    opening.combatant = combatant ∧ opening.afflictions.has Condition.dying.id = false := by
  cases opens with
  | dead gone => exact ⟨rfl, calm⟩
  | counted alive well => exact ⟨rfl, well⟩
  | checked alive dying roll =>
    have absent : set.get? Condition.dying.id = none := by
      simpa [Afflictions.has, Table.contains] using calm
    have still : set.tick.2.get? Condition.dying.id = none := by
      rw [Afflictions.get?_tick, absent]
      rfl
    rw [Afflictions.has, Table.contains, still] at dying
    cases dying

namespace Encounter

/-- A fight whose players are all down without dying, while both sides live. -/
structure IsStalled (encounter : Encounter) : Prop where
  ongoing : encounter.standing = .ongoing
  down : ∀ player ∈ encounter.combatants, player.isPlayer = true → player.hp = 0
  calm : ∀ id, encounter.hasCondition id Condition.dying.id = false

variable {encounter : Encounter}

/-- Only the combatants and their conditions matter. -/
theorem IsStalled.of_same {after : Encounter} (stalled : encounter.IsStalled)
    (combatants : after.combatants = encounter.combatants)
    (calm : ∀ id, after.hasCondition id Condition.dying.id = false) : after.IsStalled where
  ongoing := by
    rw [← stalled.ongoing]
    unfold standing hasLivingPlayers hasLivingNpcs living
    rw [combatants]
  down := combatants ▸ stalled.down
  calm := calm

theorem openRound_stalled (stalled : encounter.IsStalled) (points : Count) :
    Always (fun result => result.2.IsStalled ∧ result.2.Keeps []) (encounter.openRound points) := by
  have opened := openAll_carries id (fun set => set.has Condition.dying.id = false)
    (fun combatant set opening (opens : combatant.Opens encounter.codex set opening) calm =>
      opens.calm calm) encounter.combatants stalled.calm
  have opens := openRound_opens encounter points
  unfold openRound at opens ⊢
  rw [always_bind] at opens ⊢
  refine (opens.and opened).mono fun opened both => ⟨stalled.of_same ?_ both.2.2, both.1.keeps⟩
  simpa using both.2.1

end Encounter

/-! ### Plans of a stalled fight -/

namespace Tactics

variable {encounter : Encounter}

theorem plan_stalled (stalled : encounter.IsStalled) {actor : Combatant}
    (living : actor ∈ encounter.living) :
    (plan encounter actor).action = .pass ∧ (plan encounter actor).fallback = none := by
  by_cases down : actor.hp = 0
  · simp [plan, choose, down]
  -- Whoever stands is no player, and its opponents are players.
  · have side : actor.side = .npc := by
      cases same : actor.side with
      | npc => rfl
      | player =>
        have isPlayer : actor.isPlayer = true := by simp [Combatant.isPlayer, same]
        exact absurd (stalled.down actor (List.mem_of_mem_filter living) isPlayer) down
    have alone : standingOpponent encounter actor = none := by
      refine List.find?_eq_none.mpr fun other listed stands => ?_
      obtain ⟨opposed, up⟩ := by simpa [side] using stands
      have isPlayer : other.isPlayer = true := by
        cases same : other.side with
        | npc => exact absurd same opposed
        | player => simp [Combatant.isPlayer, same]
      have none := stalled.down other (List.mem_of_mem_filter listed) isPlayer
      rw [none] at up
      exact absurd up (by decide)
    simp [plan, choose, alone]

/-- The tactics commit nothing but passes. -/
theorem muster_stalled (tactics : Tactics) (stalled : encounter.IsStalled)
    (keeps : encounter.Keeps []) :
    (tactics.muster encounter).encounter.IsStalled ∧
      Scene.Passes (tactics.muster encounter).encounter.queues := by
  constructor
  · rw [muster_encounter]
    exact stalled.of_same rfl stalled.calm
  · intro id action listed
    rw [Scene.planned, (tactics.muster_keeps keeps).actions] at listed
    obtain ⟨commit, member, rfl⟩ := List.mem_map.mp listed
    obtain ⟨actor, living, follows⟩ :=
      tactics.muster_commits encounter commit (List.mem_of_mem_filter member)
    obtain ⟨passes, alone⟩ := plan_stalled stalled living
    rcases follows with rfl | ⟨target, fallback, rfl⟩ | rfl
    · rw [passes]
      rfl
    · cases alone.symm.trans fallback
    · rfl

end Tactics

/-- A stalled fight is as stalled after a round, and the next one is open. -/
theorem Encounter.closeRound_stalled {encounter : Encounter} (stalled : encounter.IsStalled)
    (passes : Scene.Passes encounter.queues) (tactics : Tactics) (points : Count) :
    Always (fun closing => (∃ events commits, closing.aftermath = .next events commits) ∧
        closing.encounter.isOver = encounter.isOver ∧ closing.encounter.IsStalled ∧
        Scene.Passes closing.encounter.queues)
      (encounter.closeRound tactics points) := by
  refine closeRound_always fun closing played => ?_
  -- The round changes nothing, so what the next one opens with is the stalled fight itself.
  have same {resolution : Resolution} (resolves : encounter.resolve.Yields resolution) :
      resolution.encounter = encounter := resolves.holds (resolve_passes passes)
  cases played with
  | ended resolves decided => exact absurd (same resolves ▸ stalled.ongoing) decided
  | @lapsed resolution _ _ resolves _ opens decided =>
    obtain ⟨still, _⟩ := opens.holds (openRound_stalled (same resolves ▸ stalled) points)
    exact absurd still.ongoing decided
  | @next resolution events opened resolves _ opens _ =>
    obtain ⟨still, keeps⟩ := opens.holds (openRound_stalled (same resolves ▸ stalled) points)
    have isOver : (tactics.muster opened).encounter.isOver = encounter.isOver := by
      rw [tactics.muster_encounter, ← same resolves]
      exact (opens.holds (openRound_opens resolution.encounter points)).isOver
    exact ⟨⟨events, _, rfl⟩, isOver, tactics.muster_stalled still keeps⟩

/-! ### Following a stalled fight -/

/-- No round is beyond the limit: there is none, or it is the greatest number of a round. -/
def Pace.IsUnlimited (pace : Pace) : Prop :=
  pace.maxRounds = 0 ∨ pace.maxRounds.toNat = 2 ^ 32 - 1

theorem Pace.IsUnlimited.within {pace : Pace} (unlimited : pace.IsUnlimited) (round : Count) :
    pace.maxRounds = 0 ∨ round ≤ pace.maxRounds := by
  refine unlimited.imp id fun greatest => ?_
  have counted := round.le_greatest
  rw [Count.le_iff]
  omega

variable {σ : Type}

/-- A course that was followed for so many rounds, and has not come to its end. -/
structure Course.GoesOn (course : Course σ) (rounds : Nat) : Prop where
  endless : course.finish = .endless
  resolved : (course.notices.filterMap Notice.resolvedRound?).length = rounds

variable [RandomSource σ]

/-- All rounds of a stalled fight are resolved, and it goes on. -/
theorem followCourse_stalled {pace : Pace} (unlimited : pace.IsUnlimited)
    (lasting : 1 ≤ pace.duration) {room : String} {warden : Warden σ} {encounter : Encounter}
    (hosts : warden.Hosts room encounter) (settings : warden.settings = pace.rounds)
    (stalled : encounter.IsStalled) (passes : Scene.Passes encounter.queues)
    (changes : List ConditionEvent) (rounds : Nat) :
    (followCourse pace room rounds warden
      [.roundStarted 0 room encounter.round changes]).GoesOn rounds := by
  induction rounds generalizing warden encounter changes with
  | zero =>
    have within := unlimited.within encounter.round
    rw [followCourse, finishAmong_plain (Notice.roundStarted_plain within)]
    exact ⟨rfl, rfl⟩
  | succ rounds ih =>
    obtain ⟨passed, kept, _, _, stays, course⟩ :=
      hosts.close settings lasting (unlimited.within encounter.round) rounds
    obtain ⟨⟨events, commits, next⟩, isOver, still, passing⟩ :=
      (encounter.closeRound_stalled stalled passes warden.tactics pace.points).run warden.source
    have later := ih (stays events commits next (isOver.trans hosts.going))
      (kept.trans settings) still passing events
    rw [course, Closing.lastHeard, next]
    refine ⟨later.endless, ?_⟩
    rw [List.filterMap_append, Bout.resolvedRounds_notices, List.length_append, later.resolved]
    exact Nat.add_comm 1 rounds

/-! ### From the beginning -/

namespace Setup

/-- Players who are down, and somebody alive on either side. -/
structure Stalls (setup : Setup) : Prop where
  down : ∀ player ∈ setup.combatants, player.isPlayer = true → player.hp = 0
  player : ∃ player ∈ setup.combatants, player.isAlive = true ∧ player.isPlayer = true
  rival : ∃ rival ∈ setup.combatants, rival.isAlive = true ∧ rival.isPlayer = false

variable {setup : Setup}

theorem Stalls.rollInitiative (stalls : setup.Stalls) :
    Always (fun rolled => Stalls { setup with combatants := rolled })
      (rollInitiative setup.combatants) := by
  refine (rollInitiative_maps Combatant.unrolled (fun _ _ => rfl) setup.combatants).mono
    fun rolled same => ?_
  have came {ready : Combatant} (member : ready ∈ rolled) :
      ∃ combatant ∈ setup.combatants, combatant.unrolled = ready.unrolled :=
    List.mem_map.mp (same ▸ List.mem_map_of_mem member)
  have rolls {combatant : Combatant} (listed : combatant ∈ setup.combatants) :
      ∃ ready ∈ rolled, ready.unrolled = combatant.unrolled :=
    List.mem_map.mp (same ▸ List.mem_map_of_mem listed)
  constructor
  case down =>
    intro ready member isPlayer
    obtain ⟨player, listed, alike⟩ := came member
    have side : player.isPlayer = ready.isPlayer := (congrArg Combatant.isPlayer alike :)
    have hp : player.hp = ready.hp := (congrArg Combatant.hp alike :)
    exact hp.symm.trans (stalls.down player listed (side.trans isPlayer))
  case player =>
    obtain ⟨player, listed, alive, isPlayer⟩ := stalls.player
    obtain ⟨ready, member, alike⟩ := rolls listed
    exact ⟨ready, member, (congrArg Combatant.isAlive alike :).trans alive,
      (congrArg Combatant.isPlayer alike :).trans isPlayer⟩
  case rival =>
    obtain ⟨rival, listed, alive, opposes⟩ := stalls.rival
    obtain ⟨ready, member, alike⟩ := rolls listed
    exact ⟨ready, member, (congrArg Combatant.isAlive alike :).trans alive,
      (congrArg Combatant.isPlayer alike :).trans opposes⟩

theorem Stalls.begin (stalls : setup.Stalls) : (Encounter.begin setup).IsStalled where
  ongoing := by
    obtain ⟨player, listed, alive, isPlayer⟩ := stalls.player
    obtain ⟨rival, present, lives, opposes⟩ := stalls.rival
    have sorted := sortByInitiative_perm setup.combatants
    refine Encounter.standing_eq_ongoing.mpr ⟨List.any_eq_true.mpr ⟨player, ?_, isPlayer⟩,
      List.any_eq_true.mpr ⟨rival, ?_, by simp [opposes]⟩⟩
    · exact List.mem_filter.mpr ⟨sorted.mem_iff.mpr listed, alive⟩
    · exact List.mem_filter.mpr ⟨sorted.mem_iff.mpr present, lives⟩
  down player member := stalls.down player ((sortByInitiative_perm _).mem_iff.mp member)
  calm id := by
    rw [Encounter.hasCondition, Encounter.afflictionsOf_begin]
    rfl

end Setup

/-- A stalled fight without a limit goes on for ever, whatever is drawn. -/
theorem simulation_endless {pace : Pace} (unlimited : pace.IsUnlimited)
    (lasting : 1 ≤ pace.duration) {setup : Setup} (stalls : setup.Stalls) (source : σ) :
    ∃ number told begun,
      (Warden.new pace.rounds .everyone source).begin setup = .ok (number, told, begun) ∧
      ∀ rounds, (followCourse pace setup.room rounds begun told).GoesOn rounds := by
  obtain ⟨begun, started, settings, _, _, hosts⟩ :=
    Warden.begin_hosts pace.rounds .everyone source setup
  have opens : Always (fun result => ∃ next : Encounter, (next.IsStalled ∧ next.Keeps []) ∧
      result.2 = Tactics.everyone.muster next) (Warden.firstRound setup .everyone pace.points) :=
    Warden.firstRound_leaves .everyone pace.points stalls.rollInitiative
      fun _ ready => Encounter.openRound_stalled ready.begin pace.points
  obtain ⟨next, ⟨stalled, keeps⟩, steered⟩ := opens.run source
  obtain ⟨still, passes⟩ := Tactics.everyone.muster_stalled stalled keeps
  rw [← steered] at still passes
  exact ⟨0, _, begun, started, fun rounds =>
    followCourse_stalled unlimited lasting hosts settings still passes _ rounds⟩

/-! ### A program without an end -/

/-- A program that is asked for as many rounds as can be counted, of a fight whose only player
has no hit points. -/
def Invocation.sampleEndless : Invocation where
  files := ⟨fun path => if path = usualSettings then some (.text
    ("round:\n  max_rounds: 4294967295\nsimulation:\n  combatants:\n"
      ++ "    - id: p1\n      name: Alice\n      allegiance: player\n      hp: 0\n      ac: 10\n"
      ++ "    - id: g1\n      name: Goblin\n      allegiance: npc\n      hp: 30\n      ac: 9\n"))
    else none⟩
  arguments := []
  root := none
  seed := 1

def Settings.sampleEndless : Settings :=
  { Warden.sampleDuel 0 with pace := { maxRounds := 4294967295 } }

/-- The settings are valid and have a limit, and yet no number of rounds is enough. -/
theorem Invocation.report_endless :
    let settings := Settings.sampleEndless
    let setup := Warden.sampleDuelSetup 0
    sampleEndless.settings = .ok settings ∧ settings.validate = .ok () ∧
    1 ≤ settings.pace.maxRounds ∧ settings.loadCodex sampleEndless.files = .ok .core ∧
    settings.loadInventory sampleEndless.files = .ok .empty ∧
    settings.scenario.roster.mapM (·.combatant .empty) = .ok setup.combatants ∧
    setup = settings.scenario.setup setup.combatants .core .empty ∧
    ∀ seed, ∃ number told begun,
      (Warden.new settings.pace.rounds .everyone (Seeded.ofSeed seed)).begin setup
        = .ok (number, told, begun) ∧
      ∀ rounds, (followCourse settings.pace setup.room rounds begun told).GoesOn rounds := by
  intro settings setup
  have given : sampleEndless.settings = .ok settings := by decide +kernel
  have stalls : setup.Stalls := ⟨by decide, by decide, by decide⟩
  refine ⟨given, rfl, by decide, rfl, rfl, rfl, rfl, fun seed => ?_⟩
  exact simulation_endless (.inr rfl) (by decide) stalls (Seeded.ofSeed seed)

end Fray
