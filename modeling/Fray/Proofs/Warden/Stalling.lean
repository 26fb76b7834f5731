import Fray.Proofs.Death
import Fray.Proofs.Dying.Tending
import Fray.Proofs.Encounter.Mild
import Fray.Proofs.Round.Blocks
import Fray.Proofs.Warden.Steering
import Fray.Simulation

/-!
# Fights that go on

In a fight that the tactics steer on both sides, and that is not decided, something is
going on in every round: somebody is going to act, or somebody is dying. Whoever stands
finds an opponent who stands, and one point suffices to attack it.

This takes a living player who can have hit points. Players with a maximum of zero live
without any and are not dying, so that nobody attacks them and they attack nobody: where
no other player is left, the fight goes on for ever with everybody passing.

## Main result

`run_lively`: what is said above, for every fight of settings that are valid.
-/

namespace Fray

open Draws

namespace Encounter

/-- Somebody alive has committed an action other than a pass, or is dying. -/
def Lively (encounter : Encounter) : Prop :=
  ∃ combatant ∈ encounter.living,
    (∃ action ∈ Scene.planned encounter.queues combatant.id, action.kind ≠ .pass) ∨
    encounter.hasCondition combatant.id Condition.dying.id = true

instance (encounter : Encounter) : Decidable encounter.Lively :=
  inferInstanceAs (Decidable (∃ combatant ∈ encounter.living, (∃ action ∈ _, _) ∨ _))

/-- A living player who can have hit points. -/
def HasAblePlayer (encounter : Encounter) : Prop :=
  ∃ player ∈ encounter.living, player.isPlayer = true ∧ 1 ≤ player.maxHp

instance (encounter : Encounter) : Decidable encounter.HasAblePlayer :=
  inferInstanceAs (Decidable (∃ player ∈ encounter.living, _ ∧ _))

end Encounter

/-! ### One plan -/

namespace Muster

/-- Somebody has committed an action other than a pass. -/
def HasActed (id : String) (muster : Muster) : Prop :=
  ∃ action ∈ Scene.planned muster.encounter.queues id, action.kind ≠ .pass

theorem hasActed_of_commit {muster : Muster} {committed : Encounter} {id : String}
    {action : Action} (accepted : muster.encounter.commit id action = .ok committed)
    (acts : action.kind ≠ .pass) (commits : List Commit) : HasActed id ⟨committed, commits⟩ := by
  obtain ⟨queue, longer, _, _, enqueued, rfl⟩ := Encounter.commit_cases accepted
  refine ⟨action, ?_, acts⟩
  simp [Scene.planned, Table.get?_insert, Queue.enqueue_actions enqueued]

theorem hasActed_stable (id : String) : Stable (HasActed id) := by
  rintro muster committed other action accepted ⟨before, listed, acts⟩
  obtain ⟨queue, longer, present, _, enqueued, rfl⟩ := Encounter.commit_cases accepted
  refine ⟨before, ?_, acts⟩
  simp only [Scene.planned, Table.get?_insert]
  split
  next same =>
    subst same
    rw [Scene.planned, present] at listed
    simp only [Option.map_some, Option.getD_some, Queue.enqueue_actions enqueued] at listed ⊢
    exact List.mem_append_left _ listed
  · exact listed

/-- The conditions and the queue of somebody are as in an encounter. -/
structure Untouched (id : String) (encounter : Encounter) (muster : Muster) : Prop where
  queue : muster.encounter.queues.get? id = encounter.queues.get? id
  afflictions : muster.encounter.afflictions = encounter.afflictions

variable {encounter : Encounter} {muster : Muster} {id other : String}

theorem Untouched.commit {committed : Encounter} {action : Action}
    (untouched : muster.Untouched id encounter) (different : id ≠ other)
    (accepted : muster.encounter.commit other action = .ok committed) (commits : List Commit) :
    Untouched id encounter ⟨committed, commits⟩ := by
  obtain ⟨queue, longer, _, _, _, rfl⟩ := Encounter.commit_cases accepted
  refine ⟨?_, untouched.afflictions⟩
  simp only [Table.get?_insert, if_neg different]
  exact untouched.queue

theorem Untouched.attempt (untouched : muster.Untouched id encounter) (different : id ≠ other)
    (action : Action) : (muster.attempt other action).Untouched id encounter := by
  unfold Muster.attempt
  split
  next accepted => exact untouched.commit different accepted _
  · exact untouched

theorem Untouched.carryOut {plan : Tactics.Plan} (untouched : muster.Untouched id encounter)
    (different : id ≠ plan.combatant) : (muster.carryOut plan).Untouched id encounter := by
  apply Untouched.attempt _ different
  split
  next accepted => exact untouched.commit different accepted _
  · exact untouched.attempt different _
  · exact untouched

end Muster

theorem Tactics.kind_chooseAgainst (actor opponent : Combatant) :
    (chooseAgainst actor opponent).kind ≠ .pass := by
  unfold chooseAgainst
  split
  · nofun
  · split
    · nofun
    · split
      · nofun
      · split <;> nofun

/-- A single attack costs one point. -/
theorem Encounter.commit_attack {encounter : Encounter} {id : String} {queue : Queue}
    (present : encounter.queues.get? id = some queue) (points : 1 ≤ queue.left)
    (mild : (encounter.afflictionsOf id).Mild) (target : String) :
    ∃ committed, encounter.commit id (.attack target) = .ok committed := by
  have affordable : ActionKind.attack.cost ≤ queue.left := points
  unfold commit
  simp only [present, mild.restriction?_eq_none, Queue.enqueue, Action.attack, if_pos affordable]
  exact ⟨_, rfl⟩

/-- Whoever has a point and an opponent before it acts. -/
theorem Muster.carryOut_acts {encounter : Encounter} {muster : Muster} {actor opponent : Combatant}
    {queue : Queue} (untouched : muster.Untouched actor.id encounter)
    (present : encounter.queues.get? actor.id = some queue) (points : 1 ≤ queue.left)
    (mild : (encounter.afflictionsOf actor.id).Mild) (up : actor.hp ≠ 0)
    (found : Tactics.standingOpponent encounter actor = some opponent) :
    (muster.carryOut (Tactics.plan encounter actor)).HasActed actor.id := by
  have chosen : Tactics.choose encounter actor = Tactics.chooseAgainst actor opponent := by
    rw [Tactics.choose, if_neg up, found]
  have fallback : (Tactics.plan encounter actor).fallback = some opponent.name := by
    simp only [Tactics.plan, if_neg up, found, Option.map_some]
  apply attempt_keeps (hasActed_stable actor.id)
  rw [fallback]
  cases planned : muster.encounter.commit (Tactics.plan encounter actor).combatant
      (Tactics.plan encounter actor).action with
  | ok committed =>
    refine hasActed_of_commit planned ?_ _
    show (Tactics.choose encounter actor).kind ≠ .pass
    rw [chosen]
    exact Tactics.kind_chooseAgainst actor opponent
  -- The fallback is affordable whatever the choice was refused for.
  | error refusal =>
    have own : (muster.encounter.afflictionsOf actor.id).Mild := by
      rw [Encounter.afflictionsOf, untouched.afflictions]
      exact mild
    obtain ⟨committed, accepted⟩ :=
      Encounter.commit_attack (untouched.queue.trans present) points own opponent.name
    have attempted : muster.attempt actor.id (.attack opponent.name)
        = ⟨committed, muster.commits ++ [⟨actor.id, .attack opponent.name⟩]⟩ := by
      simp only [attempt, accepted]
    show HasActed actor.id (muster.attempt actor.id (.attack opponent.name))
    rw [attempted]
    exact hasActed_of_commit accepted (fun same => by cases same) _

/-! ### All plans -/

namespace Tactics

variable {tactics : Tactics} {encounter : Encounter}

theorem living_muster : (tactics.muster encounter).encounter.living = encounter.living := by
  rw [muster_encounter]
  rfl

theorem hasCondition_muster (id condition : String) :
    (tactics.muster encounter).encounter.hasCondition id condition
      = encounter.hasCondition id condition := by
  rw [muster_encounter]
  rfl

theorem muster_acts {actor opponent : Combatant} {queue : Queue} (distinct : encounter.ids.Nodup)
    (living : actor ∈ encounter.living) (steered : tactics.steers actor = true)
    (present : encounter.queues.get? actor.id = some queue) (points : 1 ≤ queue.left)
    (mild : (encounter.afflictionsOf actor.id).Mild) (up : actor.hp ≠ 0)
    (found : standingOpponent encounter actor = some opponent) :
    (tactics.muster encounter).HasActed actor.id := by
  have member : actor ∈ encounter.living.filter tactics.steers :=
    List.mem_filter.mpr ⟨living, steered⟩
  have apart : ((encounter.living.filter tactics.steers).map Combatant.id).Nodup :=
    (List.filter_sublist.trans List.filter_sublist).map Combatant.id |>.nodup distinct
  have start : (⟨encounter, []⟩ : Muster).Untouched actor.id encounter := ⟨rfl, rfl⟩
  unfold muster
  generalize encounter.living.filter tactics.steers = actors at member apart
  generalize (⟨encounter, []⟩ : Muster) = initial at start
  -- The plans before that of the actor do not touch it, and those after it keep what it did.
  induction actors generalizing initial with
  | nil => cases member
  | cons first rest ih =>
    obtain ⟨fresh, apart⟩ := List.nodup_cons.mp apart
    rcases List.mem_cons.mp member with rfl | later
    · have acted := Muster.carryOut_acts start present points mild up found
      exact Muster.foldl_keeps (Muster.hasActed_stable _) (rest.map (plan encounter)) acted
    · have different : actor.id ≠ first.id := fun same => fresh (same ▸ List.mem_map_of_mem later)
      exact ih later apart _ (start.carryOut different)

end Tactics

/-! ### Encounters -/

namespace Encounter

/-- Everybody is kept by the rules: whoever is down is dying, and no condition forbids to act. -/
structure IsWell (encounter : Encounter) : Prop where
  ruled : encounter.Ruled
  tended : encounter.Tended
  mild : encounter.Mild

/-- The queues do not matter, nor whether the encounter is over. -/
theorem IsWell.of_same {before after : Encounter} (well : before.IsWell)
    (same : after = { before with queues := after.queues, isOver := after.isOver }) :
    after.IsWell := by
  rw [same]
  constructor
  · exact ⟨well.ruled.distinct, well.ruled.kept, well.ruled.keyed, well.ruled.known,
      well.ruled.lenient⟩
  · exact well.tended
  · exact ⟨well.mild.keyed, well.mild.known, well.mild.sets⟩

theorem resolve_well {encounter : Encounter} (well : encounter.IsWell) :
    Always (fun resolution => resolution.encounter.IsWell) encounter.resolve := by
  refine (encounter.resolve_framed.and ((resolve_tended well.ruled well.tended).and
    (resolve_mild well.mild))).mono fun resolution each => ?_
  obtain ⟨framed, tended, mild⟩ := each
  exact ⟨well.ruled.framed framed, tended, mild⟩

/-- An encounter whose round was just opened, with so many points for everybody. -/
structure IsOpened (points : Count) (encounter : Encounter) : Prop extends encounter.IsWell where
  fresh : encounter.queues = freshQueues encounter.combatants encounter.afflictions points

theorem openRound_opened {encounter : Encounter} (well : encounter.IsWell) (points : Count) :
    Always (fun result => result.2.IsOpened points) (encounter.openRound points) := by
  have fresh : Always (fun result => result.2.queues
      = freshQueues result.2.combatants result.2.afflictions points)
      (encounter.openRound points) := by
    unfold openRound
    rw [always_bind]
    exact always_of_forall (fun _ => rfl) _
  refine ((openRound_ruled well.ruled points).and ((openRound_tended well.ruled well.tended
    points).and ((openRound_mild well.mild points).and fresh))).mono fun result each => ?_
  obtain ⟨ruled, tended, mild, fresh⟩ := each
  exact ⟨⟨ruled, tended, mild⟩, fresh⟩

/-- Everybody alive has all the points of the round. -/
theorem IsOpened.queue {encounter : Encounter} {points : Count} (opened : encounter.IsOpened points)
    {combatant : Combatant} (living : combatant ∈ encounter.living) :
    ∃ queue, encounter.queues.get? combatant.id = some queue ∧ queue.left = points := by
  obtain ⟨member, alive⟩ := List.mem_filter.mp living
  refine ⟨_, opened.fresh ▸ freshQueues_living member alive, ?_⟩
  have mild := (opened.mild.sets combatant.id).lostPoints_eq_zero
  have lost : ((encounter.afflictions.get? combatant.id).map Afflictions.lostPoints).getD 0 = 0 := by
    unfold afflictionsOf at mild
    cases present : encounter.afflictions.get? combatant.id with
    | none => rfl
    | some set =>
      rw [present] at mild
      exact mild
  show points - _ = points
  rw [lost]
  rfl

end Encounter

/-- What the tactics leave behind of a round that was just opened. -/
theorem Tactics.muster_lively {encounter : Encounter} {points : Count}
    (opened : encounter.IsOpened points) (enough : 1 ≤ points)
    (ongoing : encounter.standing = .ongoing) (able : encounter.HasAblePlayer) :
    (everyone.muster encounter).encounter.Lively := by
  obtain ⟨player, stands, isPlayer, most⟩ := able
  obtain ⟨member, alive⟩ := List.mem_filter.mp stands
  by_cases down : player.hp = 0
  · have spared : player.dead = false := by
      rw [← Combatant.isDead_of_player isPlayer]
      simpa [Combatant.isAlive] using alive
    have dying := (opened.tended player member).dying ⟨isPlayer, spared, down⟩ most
    refine ⟨player, living_muster.symm ▸ stands, .inr ?_⟩
    rw [hasCondition_muster]
    exact dying
  -- The player stands, so a living opponent of it has somebody to attack.
  · obtain ⟨rival, living, opposes⟩ :=
      List.any_eq_true.mp (Encounter.standing_eq_ongoing.mp ongoing).2
    have side : player.side = .player := by simpa [Combatant.isPlayer] using isPlayer
    have other : rival.side = .npc := by
      cases same : rival.side with
      | npc => rfl
      | player => simp [Combatant.isPlayer, same] at opposes
    have up : rival.hp ≠ 0 := by
      have breathes := (List.mem_filter.mp living).2
      simpa [Combatant.isAlive, Combatant.isDead, other] using breathes
    have found : (standingOpponent encounter rival).isSome = true := by
      have positive : 0 < player.hp := Nat.pos_of_ne_zero fun none => down (Count.ext none)
      refine List.find?_isSome.mpr ⟨player, stands, ?_⟩
      simp [side, other, positive]
    obtain ⟨opponent, found⟩ := Option.isSome_iff_exists.mp found
    obtain ⟨queue, present, left⟩ := opened.queue living
    obtain ⟨action, listed, acts⟩ : (everyone.muster encounter).HasActed rival.id :=
      muster_acts opened.ruled.distinct living rfl present (left ▸ enough)
        (opened.mild.sets rival.id) up found
    exact ⟨rival, living_muster.symm ▸ living, .inl ⟨action, listed, acts⟩⟩

/-! ### Left to the tactics -/

/-- An encounter as the rules have it: nobody hit and nobody afflicted yet. -/
structure Setup.IsPlain (setup : Setup) : Prop where
  codex : setup.codex = .core
  lenient : setup.hooks.Lenient
  distinct : (setup.combatants.map Combatant.id).Nodup
  whole : ∀ combatant ∈ setup.combatants, combatant.hp = combatant.maxHp

theorem Setup.IsPlain.begin_well {setup : Setup} (plain : setup.IsPlain) :
    (Encounter.begin setup).IsWell where
  ruled := by
    refine Encounter.begin_ruled plain.distinct ?_ ?_ plain.lenient
    · rw [plain.codex]
      exact Codex.core_keyed
    · rw [plain.codex]
      exact congrArg Option.isSome Codex.core_dying
  tended := Encounter.begin_tended plain.whole
  mild := Encounter.begin_mild plain.codex

theorem Setup.IsPlain.rollInitiative {setup : Setup} (plain : setup.IsPlain) :
    Always (fun rolled => Setup.IsPlain { setup with combatants := rolled })
      (rollInitiative setup.combatants) := by
  refine ((rollInitiative_ids _).and (rollInitiative_members _)).mono fun rolled both => ?_
  obtain ⟨ids, come⟩ := both
  refine ⟨plain.codex, plain.lenient, ?_, fun ready member => ?_⟩
  · rw [ids]
    exact plain.distinct
  · obtain ⟨combatant, listed, _, rfl⟩ := come ready member
    exact plain.whole combatant listed

namespace Encounter

/-- Something is going on in the fight, as long as a player can stand. -/
structure GoesOn (encounter : Encounter) : Prop extends encounter.IsWell where
  lively : encounter.standing = .ongoing → encounter.HasAblePlayer → encounter.Lively

theorem muster_goesOn {encounter : Encounter} {points : Count} (opened : encounter.IsOpened points)
    (enough : 1 ≤ points) : (Tactics.everyone.muster encounter).encounter.GoesOn := by
  refine ⟨opened.toIsWell.of_same ?_, fun ongoing able => ?_⟩
  · rw [Tactics.muster_encounter]
  · rw [Tactics.standing_muster] at ongoing
    rw [HasAblePlayer, Tactics.living_muster] at able
    exact Tactics.muster_lively opened enough ongoing able

theorem decided_goesOn {encounter : Encounter} (well : encounter.IsWell)
    (decided : encounter.standing ≠ .ongoing) : encounter.markOver.GoesOn :=
  ⟨well.of_same rfl, fun ongoing => absurd ongoing decided⟩

theorem closeRound_goesOn {encounter : Encounter} (goesOn : encounter.GoesOn) {points : Count}
    (enough : 1 ≤ points) :
    Always (fun closing => closing.encounter.GoesOn)
      (encounter.closeRound .everyone points) := by
  have leaves := closeRound_leaves .everyone points (resolve_well goesOn.toIsWell)
    fun resolution well => openRound_opened well points
  refine leaves.mono fun closing both => ?_
  obtain ⟨well, leaves⟩ := both
  cases leaves with
  | ended decided marked =>
    rw [marked]
    exact decided_goesOn well decided
  | lapsed opened decided marked =>
    rw [marked]
    exact decided_goesOn opened.toIsWell decided
  | next opened steered =>
    rw [steered]
    exact muster_goesOn opened enough

end Encounter

theorem Steered.goesOn {σ : Type} [RandomSource σ] {admits : Setup → Prop} {points : Count}
    {encounter : Encounter} {rounds : List (List RoundEvent)}
    (steered : Steered σ admits .everyone points encounter rounds) (enough : 1 ≤ points)
    (plain : ∀ setup, admits setup → setup.IsPlain) : encounter.GoesOn := by
  refine steered.induction (fun encounter _ => encounter.GoesOn) ?start ?close ?mark
  case start =>
    intro setup admitted
    have opens := Warden.firstRound_leaves .everyone points (plain setup admitted).rollInitiative
      fun combatants ready => Encounter.openRound_opened ready.begin_well points
    refine opens.mono fun result left => ?_
    obtain ⟨next, opened, steered⟩ := left
    rw [steered]
    exact Encounter.muster_goesOn opened enough
  case close =>
    intro current _ goesOn _
    exact Encounter.closeRound_goesOn goesOn enough
  case mark =>
    intro current _ goesOn
    exact ⟨goesOn.toIsWell.of_same rfl, goesOn.lively⟩

/-! ### Settings -/

theorem Settings.nodup_of_firstDuplicate {seen names : List String}
    (none : firstDuplicate seen names = none) : names.Nodup ∧ ∀ name ∈ names, name ∉ seen := by
  induction names generalizing seen with
  | nil => exact ⟨.nil, fun _ member => nomatch member⟩
  | cons first rest ih =>
    unfold firstDuplicate at none
    split at none
    · cases none
    next fresh =>
      obtain ⟨distinct, unseen⟩ := ih none
      refine ⟨List.nodup_cons.mpr ⟨fun again => ?_, distinct⟩, fun name member inside => ?_⟩
      · exact unseen first again List.mem_cons_self
      · rcases List.mem_cons.mp member with rfl | later
        · exact fresh (List.contains_iff_mem.mpr inside)
        · exact unseen name later (List.mem_cons_of_mem _ inside)

theorem Settings.validate_ok {settings : Settings} (valid : settings.validate = .ok ()) :
    1 ≤ settings.pace.points ∧ (settings.scenario.roster.map RosterEntry.id).Nodup := by
  have usable : settings.unusable? = none := by
    unfold validate at valid
    split at valid
    · cases valid
    · assumption
  unfold unusable? at usable
  simp only at usable
  split at usable
  · cases usable
  next some =>
    have positive : settings.pace.points.toNat ≠ 0 := fun none => some (Count.ext none)
    refine ⟨Nat.pos_of_ne_zero positive, ?_⟩
    split at usable
    · cases usable
    · split at usable
      · cases usable
      · exact (nodup_of_firstDuplicate (Option.map_eq_none_iff.mp usable)).1

theorem RosterEntry.combatant_ok {entry : RosterEntry} {inventory : Inventory}
    {combatant : Combatant} (built : entry.combatant inventory = .ok combatant) :
    combatant.id = entry.id ∧ combatant.hp = combatant.maxHp := by
  unfold RosterEntry.combatant at built
  split at built
  · cases built
    exact ⟨rfl, rfl⟩
  · split at built
    · cases built
    · split at built
      · cases built
      · cases built
        exact ⟨rfl, rfl⟩

theorem RosterEntry.mapM_combatant_ok {inventory : Inventory} {roster : List RosterEntry}
    {combatants : List Combatant}
    (built : roster.mapM (·.combatant inventory) = .ok combatants) :
    combatants.map Combatant.id = roster.map RosterEntry.id ∧
    ∀ combatant ∈ combatants, combatant.hp = combatant.maxHp := by
  induction roster generalizing combatants with
  | nil =>
    cases built
    exact ⟨rfl, fun _ member => nomatch member⟩
  | cons entry rest ih =>
    rw [List.mapM_cons] at built
    cases first : entry.combatant inventory with
    | error fault =>
      rw [first] at built
      cases built
    | ok combatant =>
      cases later : rest.mapM (·.combatant inventory) with
      | error fault =>
        rw [first, later] at built
        cases built
      | ok others =>
        rw [first, later] at built
        cases built
        obtain ⟨id, whole⟩ := combatant_ok first
        obtain ⟨ids, allWhole⟩ := ih later
        refine ⟨?_, List.forall_mem_cons.mpr ⟨whole, allWhole⟩⟩
        rw [List.map_cons, List.map_cons, id, ids]

theorem Scenario.setup_plain {settings : Settings} {inventory : Inventory}
    {combatants : List Combatant} (valid : settings.validate = .ok ())
    (built : settings.scenario.roster.mapM (·.combatant inventory) = .ok combatants) :
    (settings.scenario.setup combatants .core inventory).IsPlain := by
  obtain ⟨ids, whole⟩ := RosterEntry.mapM_combatant_ok built
  refine ⟨rfl, fun _ _ _ => rfl, ?_, whole⟩
  show (combatants.map Combatant.id).Nodup
  rw [ids]
  exact (Settings.validate_ok valid).2

/-! ### Runs -/

namespace Warden

/--
In every run that the tactics have to themselves, of any encounters of one valid scenario:
while a fight is ongoing and a living player can have hit points, somebody alive has
committed an action other than a pass, or is dying.
-/
theorem run_lively {σ : Type} [RandomSource σ] {settings : Settings} {inventory : Inventory}
    {combatants : List Combatant} (valid : settings.validate = .ok ())
    (built : settings.scenario.roster.mapM (·.combatant inventory) = .ok combatants) (source : σ)
    {orders : List Order}
    (unattended : Unattended (· = settings.scenario.setup combatants .core inventory) orders) :
    ∀ encounter ∈ ((new settings.pace.rounds .everyone source).run orders).2.encounters,
      encounter.standing = .ongoing → encounter.HasAblePlayer → encounter.Lively := by
  intro encounter begun
  obtain ⟨number, present⟩ := List.mem_iff_getElem?.mp begun
  have steered := (run_steered settings.pace.rounds .everyone source unattended).1 number encounter
    present
  have plain := Scenario.setup_plain valid built
  exact (steered.goesOn (Settings.validate_ok valid).1 fun _ same => same ▸ plain).lively

/-! ### A player without hit points -/

/-- A player with some hit points, and a goblin. -/
def sampleDuel (hp : Count) : Settings :=
  { scenario := { roster := [
      { id := "p1", name := "Alice", side := .player, hp := hp, armorClass := 10 },
      { id := "g1", name := "Goblin", side := .npc, hp := 30, armorClass := 9 }] } }

def sampleDuelSetup (hp : Count) : Setup :=
  let settings := sampleDuel hp
  settings.scenario.setup (settings.scenario.roster.map RosterEntry.unarmed) .core .empty

/-- Two rounds of the duel. -/
def sampleDuelOrders (hp : Count) : List Order :=
  [.begin (sampleDuelSetup hp), .pass (sampleDuel hp).pace.duration,
    .pass (sampleDuel hp).pace.duration]

theorem sampleDuelOrders_unattended (hp : Count) :
    Unattended (· = sampleDuelSetup hp) (sampleDuelOrders hp) := by
  constructor
  · intro room id action
    simp [sampleDuelOrders]
  · intro setup member
    simpa [sampleDuelOrders] using member

theorem run_lively_sample :
    (sampleDuel 4).validate = .ok () ∧
    (sampleDuel 4).scenario.roster.mapM (·.combatant .empty) = .ok (sampleDuelSetup 4).combatants ∧
    Unattended (· = sampleDuelSetup 4) (sampleDuelOrders 4) ∧
    let result := (new (sampleDuel 4).pace.rounds .everyone (⟨10⟩ : Fixed)).run (sampleDuelOrders 4)
    (∀ encounter ∈ result.2.encounters,
      encounter.standing = .ongoing ∧ encounter.HasAblePlayer ∧ encounter.Lively) := by
  have unattended := sampleDuelOrders_unattended 4
  refine ⟨rfl, rfl, unattended, ?_⟩
  intro result encounter begun
  have fights : ∀ encounter ∈ result.2.encounters,
      encounter.standing = .ongoing ∧ encounter.HasAblePlayer := by decide +kernel
  obtain ⟨ongoing, able⟩ := fights encounter begun
  exact ⟨ongoing, able, run_lively rfl rfl (⟨10⟩ : Fixed) unattended encounter begun ongoing able⟩

/-- A player with a maximum of zero is alive and not dying, and everybody passes. -/
theorem run_lively_stalled :
    (sampleDuel 0).validate = .ok () ∧
    (sampleDuel 0).scenario.roster.mapM (·.combatant .empty) = .ok (sampleDuelSetup 0).combatants ∧
    let result := (new (sampleDuel 0).pace.rounds .everyone (⟨10⟩ : Fixed)).run (sampleDuelOrders 0)
    ∃ encounter ∈ result.2.encounters,
      encounter.standing = .ongoing ∧ encounter.round = 3 ∧ ¬encounter.Lively := by
  decide +kernel

end Warden

end Fray
