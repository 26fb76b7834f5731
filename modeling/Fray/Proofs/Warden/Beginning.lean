import Fray.Proofs.Encounter.Playing
import Fray.Proofs.Initiative
import Fray.Proofs.Warden.Changes

/-!
# Beginning an encounter

When an encounter begins, every combatant rolls for initiative, and nothing else is drawn:
nobody has a condition yet, so there are no recovery checks, and nobody is changed before the
first actions.

## Main results

`firstRound_throws`: the dice of a first round, and how its combatants stand.
`begin_ranks`: the encounter that a warden enters.
-/

namespace Fray

open Draws

/-! ### The first round -/

namespace Encounter

theorem openCombatant_unafflicted (codex : Codex) (combatant : Combatant) :
    openCombatant codex combatant Table.empty = pure ⟨combatant, Table.empty, []⟩ := rfl

/-- Where nobody has a condition, opening changes nobody and draws nothing. -/
theorem openAll_unafflicted (codex : Codex) (combatants : List Combatant)
    {afflictions : Table Afflictions} (none : ∀ id, afflictions.conditionsOf id = Table.empty) :
    ∃ kept, openAll codex combatants afflictions = pure ⟨combatants, kept, []⟩ := by
  induction combatants generalizing afflictions with
  | nil => exact ⟨afflictions, rfl⟩
  | cons first rest ih =>
    simp only [openAll]
    split
    · obtain ⟨kept, same⟩ := ih none
      exact ⟨kept, by rw [same]; rfl⟩
    · -- The set that is counted down and put back is empty as before.
      have still (id : String) :
          (afflictions.insert first.id Table.empty).conditionsOf id = Table.empty := by
        rw [Table.conditionsOf, Table.get?_insert]
        split
        · rfl
        · exact none id
      obtain ⟨kept, same⟩ := ih still
      have empty := none first.id
      rw [Table.conditionsOf] at empty
      refine ⟨kept, ?_⟩
      rw [empty, openCombatant_unafflicted, pure_eq, bind_done, same]
      rfl

theorem openRound_begin (setup : Setup) (points : Count) :
    ∃ opened, (begin setup).openRound points = pure ([], opened) ∧
      opened.combatants = (begin setup).combatants := by
  have none : ∀ id, (begin setup).afflictions.conditionsOf id = Table.empty :=
    afflictionsOf_begin setup
  obtain ⟨kept, same⟩ := openAll_unafflicted (begin setup).codex (begin setup).combatants none
  unfold openRound
  rw [same, pure_eq, bind_done]
  exact ⟨_, rfl, rfl⟩

end Encounter

/-- A first round throws a die for every combatant and draws nothing else. -/
theorem Warden.firstRound_throws (setup : Setup) (tactics : Tactics) (points : Count) :
    ∃ opens : List Score → List ConditionEvent × Muster,
      firstRound setup tactics points
        = Dice.throwDice checkDie setup.combatants.length [] >>= (fun faces =>
            pure (opens faces)) ∧
      ∀ faces, (opens faces).2.encounter.combatants
        = sortByInitiative (List.zipWith Combatant.withRoll setup.combatants faces) := by
  have fresh (faces : List Score) := Encounter.openRound_begin
    { setup with combatants := List.zipWith Combatant.withRoll setup.combatants faces } points
  choose opened opens same using fresh
  refine ⟨fun faces => ([], tactics.muster (opened faces)), ?_, fun faces => ?_⟩
  · unfold firstRound
    rw [rollInitiative_throws, bind_assoc]
    congr 1
    funext faces
    rw [pure_eq, bind_done, opens]
    rfl
  · rw [Tactics.muster_encounter]
    exact same faces

namespace Warden

/-- The encounter that is entered is the active one of its room. -/
theorem enter_encounter? {σ : Type} (warden : Warden σ) (room : String)
    (events : List ConditionEvent) (muster : Muster) :
    (warden.enter room events muster).2.encounter? room
      = some (warden.encounters.length, muster.encounter) := by
  refine encounter?_eq_some.mpr ⟨?_, ?_⟩
  · show (Table.insert warden.rooms room warden.encounters.length).get? room = _
    rw [Table.get?_insert, if_pos rfl]
  · show (warden.encounters ++ [muster.encounter])[warden.encounters.length]? = _
    simp

variable {σ : Type} [RandomSource σ]

/-- The dice that a first round asks for are one for every combatant. -/
theorem firstRound_bounds (setup : Setup) (tactics : Tactics) (points : Count) (source : σ) :
    ((firstRound setup tactics points).run (⟨source, []⟩ : Recorded σ)).2.bounds
      = List.replicate setup.combatants.length checkDie := by
  obtain ⟨opens, throws, _⟩ := firstRound_throws setup tactics points
  rw [throws, run_bind]
  exact (Dice.bounds_throwDice ..).trans (List.append_nil _)

/-- In a free room an encounter begins with one die for every combatant, in the order given,
and with no other draw. Its combatants are the given ones, each with the face of its die and its
dexterity for an initiative, and they stand in the one order that ranks them. -/
theorem begin_ranks (warden : Warden σ) {setup : Setup}
    (free : warden.rooms.contains setup.room = false) :
    let dice := setup.combatants.length
    let rolled := List.zipWith Combatant.withRoll setup.combatants
      (Dice.facesFrom checkDie dice warden.source)
    ((firstRound setup warden.tactics warden.settings.points).run
        (⟨warden.source, []⟩ : Recorded σ)).2.bounds = List.replicate dice checkDie ∧
    ∃ number told begun encounter,
      warden.begin setup = .ok (number, told, begun) ∧
      begun.encounter? setup.room = some (number, encounter) ∧
      begun.source = Dice.afterDice checkDie dice warden.source ∧
      Ranked rolled encounter.combatants ∧
      ∀ other, Ranked rolled other → other = encounter.combatants := by
  intro dice rolled
  refine ⟨firstRound_bounds .., ?_⟩
  obtain ⟨opens, throws, same⟩ :=
    firstRound_throws setup warden.tactics warden.settings.points
  let faces := Dice.facesFrom checkDie dice warden.source
  have played : warden.play (firstRound setup warden.tactics warden.settings.points)
      = (opens faces, { warden with source := Dice.afterDice checkDie dice warden.source }) := by
    rw [play, throws, run_bind, Dice.run_throwDice]
    rfl
  have ranked : Ranked rolled (opens faces).2.encounter.combatants := by
    rw [same]
    exact sortByInitiative_ranked rolled
  have begun : warden.begin setup = .ok (warden.encounters.length,
      { warden with source := Dice.afterDice checkDie dice warden.source }.enter setup.room
        (opens faces).1 (opens faces).2) := by
    rw [begin, if_neg (by simp [free]), played]
  exact ⟨_, _, _, _, begun, enter_encounter? .., rfl, ranked, fun other also => also.unique ranked⟩

/-! ### Equals and extremes -/

def sampleTies : Setup :=
  { room := "cellar"
    zone := "house"
    combatants := [
      { id := "ann", name := "Ann", side := .player, maxHp := 6, hp := 6, armorClass := 12,
        dexterity := 2 },
      { id := "rat", name := "Rat", side := .npc, maxHp := 3, hp := 3, armorClass := 9 },
      { id := "cat", name := "Cat", side := .npc, maxHp := 9, hp := 9, armorClass := 9,
        dexterity := 2147483647 },
      { id := "bat", name := "Bat", side := .npc, maxHp := 2, hp := 2, armorClass := 9 }] }

/-- Ann and the rat come to the same initiative, and the sum of the cat saturates. -/
theorem begin_ranks_sample :
    let warden := new {} .npcsOnly (⟨[4, 6, 9, 19], 0⟩ : Cycle)
    warden.rooms.contains "cellar" = false ∧
    ∃ number told begun encounter,
      warden.begin sampleTies = .ok (number, told, begun) ∧
      begun.encounter? "cellar" = some (number, encounter) ∧
      encounter.combatants.map (fun one => (one.id, one.initiative))
        = [("cat", 2147483647), ("bat", 20), ("ann", 7), ("rat", 7)] := by
  intro warden
  have free : warden.rooms.contains sampleTies.room = false := by decide +kernel
  obtain ⟨_, number, told, begun, encounter, accepted, active, _, ranked, unique⟩ :=
    warden.begin_ranks free
  refine ⟨free, number, told, begun, encounter, accepted, active, ?_⟩
  rw [← unique _ (sortByInitiative_ranked _)]
  decide +kernel

end Warden

end Fray
