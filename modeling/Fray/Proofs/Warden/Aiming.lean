import Fray.Proofs.Encounter.Playing
import Fray.Proofs.Round.Blows
import Fray.Proofs.Warden.Steering

/-!
# Whom the tactics attack

The tactics choose an opponent, but an action carries only a name: melee is aimed at a
display name, a burst at a name or an id in whatever case. When the action is performed,
the first living combatant that is so called is attacked, whichever side it is on.

## Main result

`run_aims`: in every run without submissions the target of an attack is somebody who
passes for an opponent of the attacker, so that it is an opponent itself unless two
combatants of different sides can be taken for each other.
-/

namespace Fray

open Draws

/-! ### What the tactics commit -/

/-- An action of the tactics does not attack, or it names an opponent as its kind expects. -/
inductive Action.Serves (combatants : List Combatant) (actor : Combatant) (action : Action) : Prop
  | peaceful (peace : action.kind.isAttack = false)
  | melee {opponent : Combatant} (listed : opponent ∈ combatants)
      (opposed : opponent.side = actor.side.opposing) (melee : action.kind.isMelee = true)
      (named : action.target = some opponent.name)
  | burst {opponent : Combatant} (listed : opponent ∈ combatants)
      (opposed : opponent.side = actor.side.opposing) (burst : action.kind = .burst)
      (called : action.target = some opponent.id)

theorem Side.eq_opposing_of_ne {one other : Side} (different : one ≠ other) :
    one = other.opposing := by
  cases one with
  | player =>
    cases other with
    | player => exact absurd rfl different
    | npc => rfl
  | npc =>
    cases other with
    | player => rfl
    | npc => exact absurd rfl different

/-- A commit of somebody who fights, in the service of its side. -/
def Commit.Serves (combatants : List Combatant) (commit : Commit) : Prop :=
  ∃ actor ∈ combatants, actor.id = commit.combatant ∧ commit.action.Serves combatants actor

namespace Tactics

theorem standingOpponent_opposed {encounter : Encounter} {actor opponent : Combatant}
    (found : standingOpponent encounter actor = some opponent) :
    opponent ∈ encounter.combatants ∧ opponent.side = actor.side.opposing := by
  have passes := List.find?_some found
  simp only [Bool.and_eq_true, bne_iff_ne, ne_eq] at passes
  constructor
  · exact List.mem_of_mem_filter (List.mem_of_find?_eq_some found)
  · exact Side.eq_opposing_of_ne passes.1

theorem chooseAgainst_serves {combatants : List Combatant} {actor opponent : Combatant}
    (listed : opponent ∈ combatants) (opposed : opponent.side = actor.side.opposing) :
    (chooseAgainst actor opponent).Serves combatants actor := by
  unfold chooseAgainst
  split
  · exact .melee listed opposed rfl rfl
  next held _ =>
    split
    · exact .melee listed opposed rfl rfl
    · split
      · exact .peaceful rfl
      · split
        · exact .burst listed opposed rfl rfl
        · exact .melee listed opposed rfl rfl

theorem choose_serves (encounter : Encounter) (actor : Combatant) :
    (choose encounter actor).Serves encounter.combatants actor := by
  unfold choose
  split
  · exact .peaceful rfl
  · split
    · exact .peaceful rfl
    next opponent found =>
      obtain ⟨listed, opposed⟩ := standingOpponent_opposed found
      exact chooseAgainst_serves listed opposed

end Tactics

theorem Tactics.muster_serves (tactics : Tactics) (encounter : Encounter) :
    ∀ commit ∈ (tactics.muster encounter).commits, commit.Serves encounter.combatants := by
  intro commit member
  obtain ⟨actor, living, follows⟩ := tactics.muster_commits encounter commit member
  have listed : actor ∈ encounter.combatants := List.mem_of_mem_filter living
  rcases follows with rfl | ⟨target, fallback, rfl⟩ | rfl
  · exact ⟨actor, listed, rfl, choose_serves encounter actor⟩
  -- The fallback is a single attack on the same opponent.
  · refine ⟨actor, listed, rfl, ?_⟩
    simp only [plan] at fallback
    split at fallback
    · cases fallback
    · obtain ⟨opponent, found, rfl⟩ := Option.map_eq_some_iff.mp fallback
      obtain ⟨present, opposed⟩ := standingOpponent_opposed found
      exact .melee present opposed rfl rfl
  · exact ⟨actor, listed, rfl, .peaceful rfl⟩

/-! ### Who is taken for whom -/

/-- A combatant that an action aimed at an opponent may hit. -/
def Combatant.PassesFor (combatant opponent : Combatant) : Prop :=
  combatant.name = opponent.name ∨
  Text.lower combatant.name = Text.lower opponent.id ∨
  Text.lower combatant.id = Text.lower opponent.id

instance (combatant opponent : Combatant) : Decidable (combatant.PassesFor opponent) :=
  inferInstanceAs (Decidable (_ ∨ _ ∨ _))

/-- Nobody is taken for somebody of the other side. -/
def Combatant.Distinguished (combatants : List Combatant) : Prop :=
  ∀ one ∈ combatants, ∀ other ∈ combatants, one.PassesFor other → one.side = other.side

instance (combatants : List Combatant) : Decidable (Combatant.Distinguished combatants) :=
  inferInstanceAs (Decidable (∀ one ∈ combatants, ∀ other ∈ combatants, _ → _))

theorem Action.Serves.passes {combatants : List Combatant} {actor attacker defender : Combatant}
    {action : Action} (serves : action.Serves combatants actor)
    (aims : action.AimsAt attacker defender) :
    ∃ opponent ∈ combatants, opponent.side = actor.side.opposing ∧
      defender.PassesFor opponent := by
  unfold AimsAt at aims
  cases serves with
  | peaceful peace =>
    cases kind : action.kind with
    | unknown | pass | reload | throw =>
      rw [kind] at aims
      exact aims.elim
    | attack | strike | burst | automatic =>
      rw [kind] at peace
      cases peace
  | @melee opponent listed opposed melee named =>
    refine ⟨opponent, listed, opposed, .inl ?_⟩
    cases kind : action.kind with
    | attack | strike =>
      rw [kind, named] at aims
      exact (Option.some.inj aims).symm
    | unknown | pass | reload | burst | automatic | throw =>
      rw [kind] at melee
      cases melee
  | @burst opponent listed opposed burst called =>
    rw [burst] at aims
    obtain ⟨key, keyed, same⟩ := aims
    cases called.symm.trans keyed
    exact ⟨opponent, listed, opposed, .inr same⟩

/-- An attack on somebody who passes for an opponent of the attacker. -/
structure Attack.IsMeant (combatants : List Combatant) (attack : Attack)
    (attacker target opponent : Combatant) : Prop where
  strikes : attacker ∈ combatants ∧ attacker.id = attack.attacker
  struck : target ∈ combatants ∧ target.id = attack.target
  opposes : opponent ∈ combatants ∧ opponent.side = attacker.side.opposing
  passes : target.PassesFor opponent

theorem Attack.IsMeant.opposed {combatants : List Combatant} {attack : Attack}
    {attacker target opponent : Combatant} (meant : attack.IsMeant combatants attacker target opponent)
    (distinguished : Combatant.Distinguished combatants) :
    target.side = attacker.side.opposing :=
  (distinguished target meant.struck.1 opponent meant.opposes.1 meant.passes).trans
    meant.opposes.2

/-- All attacks of some events are meant for opponents. -/
def RoundEvent.AllMeant (combatants : List Combatant) (events : List RoundEvent) : Prop :=
  ∀ event ∈ events, ∀ attack, event.attack = some attack →
    ∃ attacker target opponent, attack.IsMeant combatants attacker target opponent

/-- People stay who they are, so what is meant for them stays so as well. -/
theorem RoundEvent.AllMeant.of_persons {before after : List Combatant} {events : List RoundEvent}
    (meant : AllMeant before events)
    (same : after.map Combatant.person = before.map Combatant.person) : AllMeant after events := by
  have stays {combatant : Combatant} (member : combatant ∈ before) :
      ∃ later ∈ after, later.id = combatant.id ∧ later.name = combatant.name ∧
        later.side = combatant.side := by
    have listed : combatant.person ∈ after.map Combatant.person :=
      same ▸ List.mem_map_of_mem member
    obtain ⟨later, inside, person⟩ := List.mem_map.mp listed
    obtain ⟨id, name, side, _⟩ := Combatant.mk.inj person
    exact ⟨later, inside, id, name, side⟩
  intro event member attack recorded
  obtain ⟨attacker, target, opponent, meant⟩ := meant event member attack recorded
  obtain ⟨striker, striking, strikerId, _, strikerSide⟩ := stays meant.strikes.1
  obtain ⟨struck, hit, struckId, struckName, _⟩ := stays meant.struck.1
  obtain ⟨foe, listed, foeId, foeName, foeSide⟩ := stays meant.opposes.1
  refine ⟨striker, struck, foe, ⟨striking, strikerId.trans meant.strikes.2⟩,
    ⟨hit, struckId.trans meant.struck.2⟩, ⟨listed, ?_⟩, ?_⟩
  · rw [foeSide, strikerSide]
    exact meant.opposes.2
  · unfold Combatant.PassesFor
    rw [struckId, struckName, foeId, foeName]
    exact meant.passes

/-! ### Rounds -/

namespace Encounter

/-- What is committed in the service of the sides hits who passes for an opponent. -/
theorem resolve_meant {encounter : Encounter} {commits : List Commit}
    (distinct : encounter.ids.Nodup) (keeps : encounter.Keeps commits)
    (serve : ∀ commit ∈ commits, commit.Serves encounter.combatants) :
    Always (fun resolution => RoundEvent.AllMeant encounter.combatants resolution.events)
      encounter.resolve := by
  refine (encounter.resolve_follows.and encounter.resolve_attacks).mono fun resolution both => ?_
  obtain ⟨⟨_, follows⟩, blows⟩ := both
  intro event told attack recorded
  obtain ⟨block, inside, listed⟩ := List.mem_flatMap.mp told
  obtain ⟨turn, taken, performed⟩ := List.mem_flatMap.mp inside
  -- The action of the block was committed by its actor.
  have owner := ((follows turn taken).actors block performed).1
  have queued : block.action ∈ Commit.actionsOf turn.combatant.id commits := by
    have action : block.action ∈ turn.blocks.map Block.action := List.mem_map_of_mem performed
    rw [(follows turn taken).actions, keeps.actions] at action
    split at action
    · cases action
    · exact action
  obtain ⟨commit, chosen, same⟩ := List.mem_map.mp queued
  obtain ⟨committed, own⟩ := List.mem_filter.mp chosen
  obtain ⟨self, present, named, serves⟩ := serve commit committed
  rw [same] at serves
  -- The attack is a blow, whose attacker and target stood there from the start.
  obtain ⟨actor, before, after, count, attacker, defender, position, acting, framed, blow⟩ :=
    blows block inside event listed attack recorded
  obtain ⟨first, firstAt, firstSame⟩ := framed.stood blow.attackerAt
  obtain ⟨second, secondAt, secondSame⟩ := framed.stood blow.defenderAt
  have firstId : first.id = attacker.id := (congrArg Combatant.id firstSame :)
  have secondId : second.id = defender.id := (congrArg Combatant.id secondSame :)
  have mine : first = self := by
    obtain ⟨index, selfAt⟩ := List.mem_iff_getElem?.mp present
    have ids : first.id = self.id := by
      have owned : commit.combatant = turn.combatant.id := by simpa using own
      rw [firstId, blow.owner, ← acting, owner, named, owned]
    cases index_eq_of_id distinct firstAt selfAt ids
    exact Option.some.inj (firstAt.symm.trans selfAt)
  subst mine
  obtain ⟨opponent, enemy, opposed, passes⟩ :=
    serves.passes (blow.aims.of_profiles firstSame secondSame)
  exact ⟨first, second, opponent, ⟨present, firstId.trans blow.between.1.symm⟩,
    ⟨List.mem_of_getElem? secondAt, secondId.trans blow.between.2.symm⟩, ⟨enemy, opposed⟩, passes⟩

end Encounter

/-! ### Encounters that are left to the tactics -/

/-- The open round serves the sides, and the rounds before it have been meant for opponents. -/
structure Encounter.Serves (encounter : Encounter) (rounds : List (List RoundEvent)) : Prop where
  distinct : encounter.ids.Nodup
  queued : encounter.isOver = false →
    ∃ commits, encounter.Keeps commits ∧ ∀ commit ∈ commits, commit.Serves encounter.combatants
  meant : ∀ events ∈ rounds, RoundEvent.AllMeant encounter.combatants events

/-- Rounds go on with the same people, and with a queue of the tactics unless they are over. -/
theorem Encounter.Serves.next {before after : Encounter} {rounds : List (List RoundEvent)}
    {events : List RoundEvent} (serves : before.Serves rounds)
    (same : after.combatants.map Combatant.person = before.combatants.map Combatant.person)
    (queued : after.isOver = false →
      ∃ commits, after.Keeps commits ∧ ∀ commit ∈ commits, commit.Serves after.combatants)
    (meant : RoundEvent.AllMeant before.combatants events) : after.Serves (rounds ++ [events]) := by
  have ids : after.ids = before.ids := ids_of_persons same
  refine ⟨ids ▸ serves.distinct, queued, fun told member => ?_⟩
  rcases List.mem_append.mp member with old | new
  · exact (serves.meant told old).of_persons same
  · cases List.mem_singleton.mp new
    exact meant.of_persons same

theorem Tactics.muster_queued (tactics : Tactics) {encounter : Encounter}
    (keeps : encounter.Keeps []) :
    ∃ commits, (tactics.muster encounter).encounter.Keeps commits ∧
      ∀ commit ∈ commits, commit.Serves (tactics.muster encounter).encounter.combatants := by
  refine ⟨_, tactics.muster_keeps keeps, ?_⟩
  rw [muster_encounter]
  exact tactics.muster_serves encounter

/-- Closing a round keeps this up. -/
theorem Encounter.closeRound_serves {encounter : Encounter} {rounds : List (List RoundEvent)}
    (serves : encounter.Serves rounds) (going : encounter.isOver = false) (tactics : Tactics)
    (points : Count) :
    Always (fun closing => closing.encounter.Serves (rounds ++ [closing.resolution.events]))
      (encounter.closeRound tactics points) := by
  obtain ⟨commits, keeps, serve⟩ := serves.queued going
  have resolves := encounter.resolve_framed.and (resolve_meant serves.distinct keeps serve)
  have leaves := closeRound_leaves tactics points resolves fun resolution _ =>
    openRound_opens resolution.encounter points
  refine leaves.mono fun closing both => ?_
  obtain ⟨⟨framed, meant⟩, leaves⟩ := both
  have resolved := framed.sameFight.persons
  cases leaves with
  | ended _ marked =>
    rw [marked]
    exact serves.next resolved (fun stands => by cases stands) meant
  | lapsed opens _ marked =>
    rw [marked]
    exact serves.next (opens.persons.trans resolved) (fun stands => by cases stands) meant
  | @next next opens steered =>
    rw [steered]
    refine serves.next ?_ (fun _ => tactics.muster_queued opens.keeps) meant
    rw [tactics.muster_encounter]
    exact opens.persons.trans resolved

theorem Steered.serves {σ : Type} [RandomSource σ] {admits : Setup → Prop} {tactics : Tactics}
    {points : Count} {encounter : Encounter} {rounds : List (List RoundEvent)}
    (steered : Steered σ admits tactics points encounter rounds)
    (distinct : ∀ setup, admits setup → (setup.combatants.map Combatant.id).Nodup) :
    encounter.Serves rounds := by
  refine steered.induction _ ?start ?close ?mark
  case start =>
    intro setup admitted
    have opens : Always
        (fun result => ∃ next : Encounter, next.Keeps [] ∧ result.2 = tactics.muster next)
        (Warden.firstRound setup tactics points) :=
      Warden.firstRound_leaves tactics points (rollInitiative_ids setup.combatants)
        fun combatants _ => (Encounter.openRound_opens _ points).mono fun _ opens => opens.keeps
    have begins := Warden.firstRound_begins setup tactics points
    refine (begins.and opens).mono fun result both => ?_
    obtain ⟨begins, next, opened, same⟩ := both
    refine ⟨begins.ids.nodup_iff.mpr (distinct setup admitted), fun _ => ?_, ?_⟩
    · rw [same]
      exact tactics.muster_queued opened
    · intro events member
      cases member
  case close =>
    intro current rounds serves going
    exact Encounter.closeRound_serves serves going tactics points
  case mark =>
    intro current rounds serves
    exact ⟨serves.distinct, (fun stands => by cases stands), serves.meant⟩

namespace Warden

/-- The names of the combatants that an encounter is begun with are distinct. -/
abbrev HasDistinctIds (setup : Setup) : Prop := (setup.combatants.map Combatant.id).Nodup

/--
In every run without submissions whose encounters have combatants of distinct ids, every
attack that is heard of is one by a combatant of its encounter on somebody who passes for
an opponent of it. It is an opponent itself if nobody in the encounter can be taken for
somebody of the other side; else it may be anybody, even the attacker.
-/
theorem run_aims {σ : Type} [RandomSource σ] (settings : RoundSettings) (tactics : Tactics)
    (source : σ) {orders : List Order} (unattended : Unattended HasDistinctIds orders) :
    let result := (new settings tactics source).run orders
    ∀ (number : Nat) (room : String) (round : Count) (events : List RoundEvent),
      .roundResolved number room round events ∈ result.1 →
      ∃ encounter, result.2.encounters[number]? = some encounter ∧ encounter.ids.Nodup ∧
        ∀ event ∈ events, ∀ attack, event.attack = some attack →
          ∃ attacker target opponent,
            attack.IsMeant encounter.combatants attacker target opponent ∧
            (Combatant.Distinguished encounter.combatants →
              target.side = attacker.side.opposing) := by
  intro result number room round events told
  obtain ⟨steered, heard⟩ := run_steered settings tactics source unattended
  obtain ⟨encounter, present, listed⟩ := heard number room round events told
  have serves := (steered number encounter present).serves fun _ distinct => distinct
  refine ⟨encounter, present, serves.distinct, fun event member attack recorded => ?_⟩
  obtain ⟨attacker, target, opponent, meant⟩ := serves.meant events listed event member attack recorded
  exact ⟨attacker, target, opponent, meant, meant.opposed⟩

/-! ### A player and a non-player of one name -/

/-- Attacker and target of every attack that is heard of. -/
def attacksHeard (notices : List Notice) : List (String × String) :=
  notices.flatMap fun
    | .roundResolved _ _ _ events =>
      events.filterMap fun event => event.attack.map fun attack => (attack.attacker, attack.target)
    | _ => []

/-- A player called Twin, and a non-player of some name. -/
def samplePair (rival : String) : Setup :=
  { room := "cellar"
    zone := "house"
    combatants := [
      { id := "a", name := "Twin", side := .player, maxHp := 30, hp := 30, armorClass := 9 },
      { id := "b", name := rival, side := .npc, maxHp := 30, hp := 30, armorClass := 9 }] }

def samplePairOrders (rival : String) : List Order :=
  [.begin (samplePair rival), .resolve "cellar" 1]

theorem samplePairOrders_unattended (rival : String) :
    Unattended HasDistinctIds (samplePairOrders rival) := by
  constructor
  · intro room id action
    simp [samplePairOrders]
  · intro setup member
    have same : setup = samplePair rival := by simpa [samplePairOrders] using member
    subst same
    show ["a", "b"].Nodup
    decide

theorem run_aims_sample :
    let result := (new {} .everyone (⟨10⟩ : Fixed)).run (samplePairOrders "Rival")
    Unattended HasDistinctIds (samplePairOrders "Rival") ∧
    attacksHeard result.1 = [("a", "b"), ("a", "b"), ("b", "a"), ("b", "a")] ∧
    ∀ (number : Nat) (room : String) (round : Count) (events : List RoundEvent),
      .roundResolved number room round events ∈ result.1 →
      ∀ event ∈ events, ∀ attack, event.attack = some attack →
        ∃ encounter ∈ result.2.encounters, ∃ attacker target opponent,
          attack.IsMeant encounter.combatants attacker target opponent ∧
          target.side = attacker.side.opposing := by
  intro result
  have unattended := samplePairOrders_unattended "Rival"
  refine ⟨unattended, by decide +kernel, fun number room round events told event member attack
    recorded => ?_⟩
  have distinguished : ∀ encounter ∈ result.2.encounters,
      Combatant.Distinguished encounter.combatants := by decide +kernel
  obtain ⟨encounter, present, _, meant⟩ :=
    run_aims {} .everyone (⟨10⟩ : Fixed) unattended number room round events told
  obtain ⟨attacker, target, opponent, meant, opposed⟩ := meant event member attack recorded
  have begun := List.mem_of_getElem? present
  exact ⟨encounter, begun, attacker, target, opponent, meant, opposed (distinguished encounter begun)⟩

/-- Where both are called Twin, the player attacks itself. -/
theorem run_aims_astray :
    let result := (new {} .everyone (⟨10⟩ : Fixed)).run (samplePairOrders "Twin")
    attacksHeard result.1 = [("a", "a"), ("a", "a"), ("b", "a"), ("b", "a")] ∧
    ∀ encounter ∈ result.2.encounters, encounter.ids = ["a", "b"] := by
  decide +kernel

end Warden

end Fray
