import Fray.Proofs.Afflictions.Expiry
import Fray.Proofs.Dying.Chain
import Fray.Proofs.Encounter.Coverage
import Fray.Proofs.Encounter.Histories
import Mathlib.Data.List.Nodup

/-!
# Stunned combatants

A stun takes action points when the next round is opened. But the opening counts its rounds
down first, once for each of the living who share the name, and the points are given out
after that. So a stun costs its stacks if it is still there then, and nothing if not: a stun
of one round passes without any effect on the points.

## Main results

`OpensInTurn.get?_of_other`: for all conditions but dying and wounded, the opening of a round
is so many ticks of their set.
`Reached.openRound_stunned`: what a stun costs at the next opening.
-/

namespace Fray

open Draws

/-! ### Conditions that are only counted down -/

/-- The rules change nothing but dying and wounded when a round is opened. -/
theorem Combatant.Opens.get?_of_other {codex : Codex} {combatant : Combatant} {set : Afflictions}
    {opening : Opening} (opens : combatant.Opens codex set opening)
    (alive : combatant.isDead = false) (keyed : codex.Keyed) {id : String}
    (notDying : id ≠ Condition.dying.id) (notWounded : id ≠ Condition.wounded.id) :
    opening.afflictions.get? id = set.tick.2.get? id := by
  cases opens with
  | dead gone => exact absurd (gone.symm.trans alive) nofun
  | counted _ _ => rfl
  | checked _ _ roll =>
    -- The check comes after the countdown and is about dying and wounded alone.
    have erased (later : Afflictions) (same : later.get? id = set.tick.2.get? id) :
        Table.get? (Table.erase later Condition.dying.id) id = set.tick.2.get? id := by
      rw [Table.get?_erase, if_neg notDying, same]
    have applied (later : Afflictions) (other : String) (stack : Count)
        (rule : other = Condition.dying.id ∨ other = Condition.wounded.id)
        (same : later.get? id = set.tick.2.get? id) :
        (later.applyKnown codex other stack).get? id = set.tick.2.get? id := by
      rw [Afflictions.get?_applyKnown_of_ne keyed later _ stack, same]
      rcases rule with rfl | rfl
      · exact notDying
      · exact notWounded
    exact Combatant.recover_keeps erased applied rfl roll

namespace Encounter

/-- How often the conditions of a name are counted down when a round is opened. -/
def countdowns (encounter : Encounter) (id : String) : Nat :=
  (namesakes encounter.combatants id).length

theorem OpensInTurn.get?_of_other {codex : Codex} {combatants : List Combatant}
    {set last : Afflictions} (inTurn : OpensInTurn codex combatants set last)
    (keyed : codex.Keyed) {id : String} (notDying : id ≠ Condition.dying.id)
    (notWounded : id ≠ Condition.wounded.id) :
    last.get? id = (set.afterAll (Afflictions.idle combatants.length)).get? id := by
  induction inTurn with
  | done set => rfl
  | next alive opens later ih =>
    rw [ih]
    exact Afflictions.get?_afterAll_congr (opens.get?_of_other alive keyed notDying notWounded) _

theorem countdowns_of_distinct {encounter : Encounter} (distinct : encounter.ids.Nodup)
    {combatant : Combatant} (living : combatant ∈ encounter.living) :
    encounter.countdowns combatant.id = 1 := by
  obtain ⟨member, alive⟩ := List.mem_filter.mp living
  have least : 0 < encounter.countdowns combatant.id :=
    List.length_pos_of_mem (List.mem_filter.mpr ⟨member, by simp [alive]⟩)
  have most : encounter.countdowns combatant.id ≤ encounter.ids.count combatant.id := by
    rw [countdowns, namesakes, ← List.countP_eq_length_filter, ids, List.count, List.countP_map]
    exact List.countP_mono_left fun other _ both => (Bool.and_eq_true_iff.mp both).2
  have once := List.nodup_iff_count_le_one.mp distinct combatant.id
  omega

/-- The stacks that the opening of a round leaves of a condition that it only counts down. -/
theorem openRound_stackOf {encounter : Encounter} (keyed : encounter.codex.Keyed) (points : Count)
    {id condition : String} (notDying : condition ≠ Condition.dying.id)
    (notWounded : condition ≠ Condition.wounded.id) {affliction : Affliction}
    (found : encounter.affliction? id condition = some affliction) :
    Always (fun result => (result.2.afflictionsOf id).stackOf condition
        = if affliction.outlasts (encounter.countdowns id) then affliction.stack else 0)
      (encounter.openRound points) := by
  have opened := openAll_inTurn encounter.codex encounter.combatants encounter.afflictions
  unfold openRound
  rw [always_bind]
  refine opened.mono fun opened inTurn => ?_
  rw [← Afflictions.stackOf_afterAll_idle found]
  exact Afflictions.stackOf_of_get? ((inTurn id).get?_of_other keyed notDying notWounded)

/-! ### The cost of a stun -/

theorem affliction?_afflict {encounter afflicted : Encounter} (keyed : encounter.codex.Keyed)
    {id condition : String} {stack : Count} {duration : Option Count}
    (accepted : encounter.afflict id condition stack duration = .ok afflicted) :
    ∃ affliction, afflicted.affliction? id condition = some affliction ∧
      affliction.left
        = longer ((encounter.affliction? id condition).bind Affliction.left) duration := by
  obtain ⟨known, set, entered, present, sets⟩ := affliction?_of_afflict accepted
  have own : encounter.afflictionsOf id = set := by
    rw [afflictionsOf, present, Option.getD_some]
  have named := keyed condition known entered
  subst named
  simp only [affliction?, sets id, if_pos, own]
  cases before : set.get? known.id with
  | none =>
    exact ⟨_, Afflictions.get?_apply_new rfl before stack duration, rfl⟩
  | some affliction =>
    exact ⟨_, Afflictions.get?_apply_again before stack duration, rfl⟩

/--
Somebody alive is stunned in an encounter with the built-in conditions. The stun then has the
longer of its countdowns, and it has stacks. When the next round is opened, it takes its
stacks from the points of those who are still alive, if it outlasts the countdown of the
opening, and nothing otherwise. The countdown is one round where the names are distinct.
-/
theorem Reached.openRound_stunned {setup : Setup} {reports : List (String × Count)}
    {encounter afflicted : Encounter} (reached : Reached setup reports encounter)
    (core : setup.codex = .core) {combatant : Combatant} (living : combatant ∈ encounter.living)
    {stack : Count} {duration : Option Count}
    (accepted : encounter.afflict combatant.id Condition.stunned.id stack duration = .ok afflicted)
    (points : Count) :
    ∃ stun, afflicted.affliction? combatant.id Condition.stunned.id = some stun ∧
      stun.condition = .stunned ∧ 1 ≤ stun.stack ∧
      stun.left = longer ((encounter.affliction? combatant.id Condition.stunned.id).bind
        Affliction.left) duration ∧
      ((setup.combatants.map Combatant.id).Nodup → afflicted.countdowns combatant.id = 1) ∧
      Always (fun result => ∀ survivor ∈ result.2.living, survivor.id = combatant.id →
          result.2.queues.get? combatant.id = some (.fresh combatant.id
            (points - if stun.outlasts (afflicted.countdowns combatant.id) then stun.stack else 0)))
        (afflicted.openRound points) := by
  have arises := reached.arises (core ▸ Codex.core_keyed)
  have combatants := combatants_of_afflict accepted
  obtain ⟨stun, found, left⟩ := affliction?_afflict arises.keyed accepted
  have codex : afflicted.codex = .core :=
    (afflict_framed accepted).codex.trans (reached.same.2.trans core)
  -- An earlier stun stays the one that is there, but it came from the same codex.
  obtain ⟨steps, stacked⟩ := (arises.afflict accepted).stacked found
  have listed : Codex.core.get? Condition.stunned.id = some .stunned := by decide +kernel
  have condition : stun.condition = .stunned := by
    have same := stacked.listed
    rw [codex, listed] at same
    exact (Option.some.inj same).symm
  refine ⟨stun, found, condition, stacked.least, left, fun distinct => ?_, ?_⟩
  · have once := countdowns_of_distinct (reached.distinct distinct) living
    rwa [countdowns, combatants]
  · have keyed := (arises.afflict accepted).keyed
    have cost := openRound_stackOf keyed points (by decide) (by decide) found
    refine (cost.and (openRound_fresh afflicted points)).mono fun result both => ?_
    obtain ⟨cost, fresh⟩ := both
    intro survivor alive named
    obtain ⟨member, stands⟩ := List.mem_filter.mp alive
    exact fresh.iff.mpr ⟨⟨survivor, member, stands, named⟩, by rw [cost]⟩

def sampleJolt : Setup :=
  { room := "yard"
    zone := "house"
    combatants := [
      { id := "ann", name := "Ann", side := .player, maxHp := 9, hp := 9, armorClass := 12 },
      { id := "rat", name := "Rat", side := .npc, maxHp := 3, hp := 3, armorClass := 9 }] }

/-- Its first round is open. -/
def sampleReady : Encounter := ((play [.openRound 3] (begin sampleJolt)).run (⟨10⟩ : Fixed)).1

/-- Ann is stunned twice, for some rounds. -/
def sampleReeling (rounds : Count) : Encounter :=
  sampleReady.orKeep (sampleReady.afflict "ann" Condition.stunned.id 2 (some rounds))

theorem sampleReeling_accepted (rounds : Count) :
    sampleReady.afflict "ann" Condition.stunned.id 2 (some rounds) = .ok (sampleReeling rounds) :=
  rfl

/-- A stun of two rounds takes two of three points. -/
theorem openRound_stunned_sample :
    (∃ reports, Reached sampleJolt reports sampleReady) ∧
    Always (fun result => ∀ survivor ∈ result.2.living, survivor.id = "ann" →
        result.2.queues.get? "ann" = some (.fresh "ann" 1))
      ((sampleReeling 2).openRound 3) := by
  obtain ⟨reports, reached⟩ := reached_play sampleJolt [.openRound 3] (⟨10⟩ : Fixed)
  have stands : (sampleReady.living.find? (·.id = "ann")).isSome = true := by decide +kernel
  obtain ⟨ann, found⟩ := Option.isSome_iff_exists.mp stands
  have named : ann.id = "ann" := by simpa using List.find?_some found
  obtain ⟨stun, entry, _, _, _, once, queues⟩ := reached.openRound_stunned rfl
    (List.mem_of_find?_eq_some found) (named ▸ sampleReeling_accepted 2) 3
  have reeling : (sampleReeling 2).affliction? "ann" Condition.stunned.id
      = some ⟨.stunned, 2, some 2⟩ := by decide +kernel
  rw [named] at entry once queues
  cases reeling.symm.trans entry
  refine ⟨⟨reports, reached⟩, queues.mono fun result queue survivor living called => ?_⟩
  rw [queue survivor living called, once (by decide +kernel)]
  decide +kernel

/-- A stun of one round takes none of them. -/
theorem openRound_stunned_spared :
    (∃ reports, Reached sampleJolt reports sampleReady) ∧
    sampleReady.afflict "ann" Condition.stunned.id 2 (some 1) = .ok (sampleReeling 1) ∧
    ((sampleReeling 1).afflictionsOf "ann").stackOf Condition.stunned.id = 2 ∧
    (((sampleReeling 1).openRound 3).run (⟨10⟩ : Fixed)).1.2.queues.get? "ann"
      = some (.fresh "ann" 3) :=
  ⟨reached_play sampleJolt [.openRound 3] (⟨10⟩ : Fixed), sampleReeling_accepted 1,
    by decide +kernel, by decide +kernel⟩

end Encounter

end Fray
