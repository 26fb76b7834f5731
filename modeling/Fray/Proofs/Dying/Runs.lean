import Fray.Proofs.Dying.Hits
import Fray.Proofs.Encounter.Playing

/-!
# Dying in every run

The agreement between hit points and the dying condition holds when an encounter
begins with healthy combatants of distinct names, and opening rounds, committing
actions and resolving rounds keep it, in whatever order and with whatever luck.

## Main result

`play_dying`: in every run, who is dying and how a resolution changes it.
-/

namespace Fray

open Draws

/-- A combatant at the beginning: not dead, and with some of its hit points. -/
structure Combatant.IsFit (combatant : Combatant) : Prop where
  alive : combatant.dead = false
  standing : 1 ≤ combatant.hp
  bounded : combatant.hp ≤ combatant.maxHp

theorem Combatant.IsFit.agrees {combatant : Combatant} (fit : combatant.IsFit) :
    combatant.Agrees Table.empty := by
  have up : combatant.hp ≠ 0 := by
    intro down
    have standing := fit.standing
    rw [down] at standing
    exact absurd standing (by decide)
  constructor
  · intro _ _
    exact ⟨fun down => absurd down up, fun dying => by cases dying⟩
  · intro _ dead
    rw [fit.alive] at dead
    cases dead
  · intro _
    exact ⟨rfl, fit.alive⟩
  · exact Nat.le_trans fit.standing fit.bounded
  · intro _ found
    cases found

namespace Encounter

/-! ### The beginning -/

theorem begin_ruled {setup : Setup} (distinct : (setup.combatants.map Combatant.id).Nodup)
    (keyed : setup.codex.Keyed) (known : setup.codex.contains Condition.dying.id = true)
    (lenient : setup.hooks.Lenient) : (begin setup).Ruled where
  distinct := nodup_ids_begin distinct
  kept _ := contains_begin setup
  keyed := keyed
  known := known
  lenient := lenient

theorem begin_agrees {setup : Setup} (fit : ∀ combatant ∈ setup.combatants, combatant.IsFit) :
    (begin setup).Agrees := by
  refine agrees_iff.mpr fun combatant member => ?_
  rw [afflictionsOf_begin]
  exact (fit combatant ((sortByInitiative_perm _).mem_iff.mp member)).agrees

/-! ### Requests of the rounds -/

theorem openRound_ruled {encounter : Encounter} (ruled : encounter.Ruled) (points : Count) :
    Always (fun result => result.2.Ruled) (encounter.openRound points) := by
  have opens := openRound_opens encounter points
  unfold openRound at opens ⊢
  rw [always_bind] at opens ⊢
  have all := openAll_opens encounter.codex encounter.combatants encounter.afflictions
    ruled.distinct
  refine (opens.and all).mono fun opened both => ?_
  obtain ⟨opens, openings, all⟩ := both
  refine ⟨opens.ids ▸ ruled.distinct, fun id member => ?_, ruled.keyed, ruled.known,
    ruled.lenient⟩
  exact all.contains id (ruled.kept id (opens.ids ▸ member))

theorem openRound_dying {encounter : Encounter} (ruled : encounter.Ruled)
    (agrees : encounter.Agrees) (points : Count) :
    Always (fun result => result.2.Ruled ∧ result.2.Agrees) (encounter.openRound points) := by
  refine (openRound_ruled ruled points).and ?_
  unfold openRound
  rw [always_bind]
  refine (openAll_opens encounter.codex encounter.combatants encounter.afflictions
    ruled.distinct).mono fun opened each => ?_
  obtain ⟨openings, all⟩ := each
  refine agrees_iff.mpr fun combatant member => ?_
  -- Names are distinct, so everybody is treated with its own conditions.
  obtain ⟨before, listed, opening, treated, rfl, conditions⟩ := all.of_mem member
  have agreed := treated.agrees (agrees_iff.mp agrees before listed) ruled.keyed ruled.known
  rw [← conditions] at agreed
  exact agreed

theorem answer_dying {encounter : Encounter} (ruled : encounter.Ruled) (agrees : encounter.Agrees)
    {request : Request} (ofRounds : request.isOfRounds = true) :
    Always (fun after => after.Ruled ∧ after.Agrees ∧ after.codex = encounter.codex)
      (encounter.answer request) := by
  refine answer_frame request (fun points _ => ?opens) (fun _ => ?resolves)
    (fun _ _ _ queues => ?queued) (fun intervenes => ?afflicted) (fun about => ?turned)
  case opens =>
    have opens := (openRound_opens encounter points).and (openRound_dying ruled agrees points)
    exact opens.mono fun result both => ⟨both.2.1, both.2.2, both.1.codex⟩
  case resolves =>
    have resolves := (resolve_framed encounter).and (resolve_dying ruled agrees)
    exact resolves.mono fun resolution both => ⟨ruled.framed both.1, both.2.1, both.2.2.codex⟩
  case queued =>
    exact ⟨⟨ruled.distinct, ruled.kept, ruled.keyed, ruled.known, ruled.lenient⟩,
      agrees.of_same rfl fun _ => rfl, rfl⟩
  case afflicted =>
    rw [(Request.of_isOfRounds ofRounds).1] at intervenes
    cases intervenes
  case turned =>
    rw [(Request.of_isOfRounds ofRounds).2] at about
    cases about

/-- Any number of requests of the rounds keeps the agreement. -/
theorem play_keeps {encounter : Encounter} (ruled : encounter.Ruled) (agrees : encounter.Agrees)
    {requests : List Request} (ofRounds : ∀ request ∈ requests, request.isOfRounds = true) :
    Always (fun after => after.Ruled ∧ after.Agrees ∧ after.codex = encounter.codex)
      (play requests encounter) := by
  refine play_induction (fun request member current holds => ?_) ⟨ruled, agrees, rfl⟩
  obtain ⟨still, agreed, same⟩ := holds
  -- The codex is carried along: the stacks of dying are looked up in that of the setup.
  exact (answer_dying still agreed (ofRounds request member)).mono fun after facts =>
    ⟨facts.1, facts.2.1, facts.2.2.trans same⟩

/-! ### Who is dying -/

/-- The stacks with which dying begins after a number of wounds. -/
def startOfDying (dying : Condition) (wounds : Count) : Nat :=
  if dying.isStackable then min (1 + wounds.toNat) dying.maxStacks.toNat else 1

theorem toNat_stack_new (dying : Condition) (wounds : Count) :
    (Affliction.new dying (wounds + 1) none).stack.toNat = startOfDying dying wounds := by
  have bounded := dying.maxStacks.le_greatest
  have one := Count.toNat_one
  unfold startOfDying Affliction.new
  split
  · simp only [Count.toNat_min, Count.toNat_max, Count.toNat_add, one]
    omega
  · rfl

/--
A resolution makes nobody stop dying and changes nothing for those who are dying
already. Whoever begins to die does it with one stack more than it has wounds, as
far as the condition allows.
-/
theorem DiesFrom.strength {before after : Encounter} (dies : DiesFrom before after) (id : String) :
    (before.hasCondition id Condition.dying.id = true →
      (after.afflictionsOf id).get? Condition.dying.id
        = (before.afflictionsOf id).get? Condition.dying.id) ∧
    (before.hasCondition id Condition.dying.id = false →
      after.hasCondition id Condition.dying.id = true →
        ∃ dying, before.codex.get? Condition.dying.id = some dying ∧
          ((after.afflictionsOf id).stackOf Condition.dying.id).toNat
            = startOfDying dying ((before.afflictionsOf id).stackOf Condition.wounded.id)) := by
  constructor
  · intro already
    rcases dies.dying id with same | ⟨well, _⟩
    · exact same
    · rw [hasCondition_eq, well] at already
      cases already
  · intro well dying
    rcases dies.dying id with same | ⟨_, known, entered, begun⟩
    · rw [hasCondition_eq, same, ← hasCondition_eq, well] at dying
      cases dying
    · refine ⟨known, entered, ?_⟩
      rw [stackOf_eq_affliction?, begun]
      exact toNat_stack_new known _

/--
In every run of rounds that begins with fit combatants of distinct names, knows the
dying condition and has no hook that forbids a condition: a living player has no hit
points left just if it is dying, a dead one has none and is not dying, and no
non-player is ever dying or marked as dead. A resolution leaves the dying condition
of those alone who have it already, and gives it to others with one stack more than
they have wounds, as far as the condition allows.
-/
theorem play_dying {σ : Type} [RandomSource σ] {setup : Setup} {conditions : List Condition}
    {requests : List Request} (distinct : (setup.combatants.map Combatant.id).Nodup)
    (fit : ∀ combatant ∈ setup.combatants, combatant.IsFit)
    (codex : setup.codex = Codex.registerAll Table.empty conditions)
    (known : setup.codex.contains Condition.dying.id = true) (lenient : setup.hooks.Lenient)
    (ofRounds : ∀ request ∈ requests, request.isOfRounds = true) (source : σ) :
    let encounter := ((play requests (begin setup)).run source).1
    (∀ combatant ∈ encounter.combatants,
      (combatant.isPlayer = true → combatant.dead = false →
        (combatant.hp = 0 ↔ encounter.hasCondition combatant.id Condition.dying.id = true)) ∧
      (combatant.isPlayer = true → combatant.dead = true →
        combatant.hp = 0 ∧ encounter.hasCondition combatant.id Condition.dying.id = false) ∧
      (combatant.isPlayer = false →
        encounter.hasCondition combatant.id Condition.dying.id = false ∧
        combatant.dead = false)) ∧
    ∀ (later : σ) (id : String),
      let resolved := (encounter.resolve.run later).1.encounter
      (encounter.hasCondition id Condition.dying.id = true →
        (resolved.afflictionsOf id).get? Condition.dying.id
          = (encounter.afflictionsOf id).get? Condition.dying.id) ∧
      (encounter.hasCondition id Condition.dying.id = false →
        resolved.hasCondition id Condition.dying.id = true →
        ∃ dying, setup.codex.get? Condition.dying.id = some dying ∧
          ((resolved.afflictionsOf id).stackOf Condition.dying.id).toNat
            = startOfDying dying ((encounter.afflictionsOf id).stackOf Condition.wounded.id)) := by
  have keyed : setup.codex.Keyed := by
    rw [codex]
    exact Codex.keyed_registerAll (fun _ _ found => by cases found) conditions
  have ruled := begin_ruled distinct keyed known lenient
  obtain ⟨still, agrees, same⟩ :=
    (play_keeps ruled (begin_agrees fit) ofRounds).run source
  intro encounter
  constructor
  · intro combatant member
    have agreed := agrees_iff.mp agrees combatant member
    exact ⟨agreed.living, agreed.gone, agreed.nonPlayer⟩
  · intro later id resolved
    obtain ⟨_, dies⟩ := (resolve_dying still agrees).run later
    have strength := dies.strength id
    rw [same] at strength
    exact strength

/-! ### A short run -/

def sampleFight : Setup :=
  { room := "cellar"
    zone := "house"
    combatants := [
      { id := "ann", name := "Ann", side := .player, maxHp := 9, hp := 1, armorClass := 12 },
      { id := "rat", name := "Rat", side := .npc, maxHp := 30, hp := 30, armorClass := 9 }] }

/-- A player goes down, recovers with a wound and is attacked again. -/
def sampleRounds : List Request :=
  [.openRound 3, .commit "rat" (.attack "Ann"), .resolve,
    .openRound 3, .commit "rat" (.attack "Ann")]

/-- The second time the player begins to die, it does so with two stacks. -/
theorem play_dying_sample :
    let encounter := ((play sampleRounds (begin sampleFight)).run (⟨15⟩ : Fixed)).1
    let resolved := (encounter.resolve.run (⟨15⟩ : Fixed)).1.encounter
    (sampleFight.combatants.map Combatant.id).Nodup ∧
    (∀ combatant ∈ sampleFight.combatants, combatant.IsFit) ∧
    sampleFight.codex.contains Condition.dying.id = true ∧ sampleFight.hooks.Lenient ∧
    (∀ request ∈ sampleRounds, request.isOfRounds = true) ∧
    startOfDying .dying ((encounter.afflictionsOf "ann").stackOf Condition.wounded.id) = 2 ∧
    ∃ dying, sampleFight.codex.get? Condition.dying.id = some dying ∧
      ((resolved.afflictionsOf "ann").stackOf Condition.dying.id).toNat
        = startOfDying dying ((encounter.afflictionsOf "ann").stackOf Condition.wounded.id) := by
  have distinct : (sampleFight.combatants.map Combatant.id).Nodup := by decide
  have fit : ∀ combatant ∈ sampleFight.combatants, combatant.IsFit := by
    intro combatant member
    simp only [sampleFight, List.mem_cons, List.not_mem_nil, or_false] at member
    rcases member with rfl | rfl
    · exact ⟨rfl, by decide, by decide⟩
    · exact ⟨rfl, by decide, by decide⟩
  have known : sampleFight.codex.contains Condition.dying.id = true := by decide +kernel
  have lenient : sampleFight.hooks.Lenient := fun _ _ _ => rfl
  have ofRounds : ∀ request ∈ sampleRounds, request.isOfRounds = true := by decide
  have ruled := play_dying distinct fit rfl known lenient ofRounds (⟨15⟩ : Fixed)
  have begun := (ruled.2 ⟨15⟩ "ann").2 (by decide +kernel) (by decide +kernel)
  exact ⟨distinct, fit, known, lenient, ofRounds, by decide +kernel, begun⟩

end Encounter

end Fray
