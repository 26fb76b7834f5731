import Fray.Proofs.Encounter.Opening
import Fray.Proofs.Random.Sources

/-!
# Recovery checks

When a round is opened, the dying roll their checks one after another in
initiative order, and nobody else rolls anything. So the check of a combatant is
the one that comes after as many others as there are dying combatants before it.

## Main results

`openRound_rolls`: how many checks the opening of a round takes from the source, and
which of them is whose.
-/

namespace Fray

open Draws

section Sources

variable {σ : Type} [RandomSource σ]

/-- A source whose twenty-sided die has the faces from one to twenty. -/
def FairChecks (σ : Type) [RandomSource σ] : Prop :=
  ∀ source : σ, 1 ≤ (rollDie checkDie source).1 ∧ (rollDie checkDie source).1 ≤ 20

theorem KeepsBounds.fairChecks (keeps : KeepsBounds σ) : FairChecks σ := by
  intro source
  have below : (draw checkDie source).1 < checkDie := keeps checkDie source (by decide)
  exact ⟨one_le_faceOf _, (faceOf_le below).trans (by decide)⟩

theorem Fixed.fairChecks : FairChecks Fixed := Fixed.keepsBounds.fairChecks

/-- A source after a number of checks. -/
def afterChecks : Nat → σ → σ
  | 0, source => source
  | checks + 1, source => afterChecks checks (rollDie checkDie source).2

theorem afterChecks_add (first second : Nat) (source : σ) :
    afterChecks (first + second) source = afterChecks second (afterChecks first source) := by
  induction first generalizing source with
  | zero => rw [Nat.zero_add]; rfl
  | succ first ih =>
    rw [Nat.succ_add]
    exact ih _

end Sources

/-! ### Who makes a check -/

/-- Whether a combatant makes a check when its round is opened. -/
def Combatant.isChecked (combatant : Combatant) (set : Afflictions) : Bool :=
  combatant.isAlive && set.tick.2.has Condition.dying.id

/-- How many combatants of a list make a check. -/
def checksOf (combatants : List Combatant) (afflictions : Table Afflictions) : Nat :=
  combatants.countP fun combatant => combatant.isChecked (afflictions.conditionsOf combatant.id)

theorem checksOf_cons (first : Combatant) (rest : List Combatant)
    (afflictions : Table Afflictions) :
    checksOf (first :: rest) afflictions = checksOf rest afflictions +
      if first.isChecked (afflictions.conditionsOf first.id) then 1 else 0 :=
  List.countP_cons

/-- The conditions of others do not matter. -/
theorem checksOf_insert {combatants : List Combatant} {id : String}
    (absent : id ∉ combatants.map Combatant.id) (afflictions : Table Afflictions)
    (set : Afflictions) :
    checksOf combatants (afflictions.insert id set) = checksOf combatants afflictions := by
  refine List.countP_congr fun combatant member => ?_
  have apart : combatant.id ≠ id := fun same => absent (same ▸ List.mem_map_of_mem member)
  rw [Table.conditionsOf, Table.get?_insert, if_neg apart]

namespace Encounter

variable {σ : Type} [RandomSource σ]

/-! ### One combatant -/

/-- A dying combatant takes one check from the source, and any other none. -/
theorem openCombatant_rolls (codex : Codex) {combatant : Combatant}
    (alive : combatant.isAlive = true) (set : Afflictions) (source : σ) :
    let opening := (openCombatant codex combatant set).run source
    opening.2 = afterChecks (if combatant.isChecked set then 1 else 0) source ∧
    (combatant.isChecked set = true →
      let recovered := combatant.recover set.tick.2 codex (rollDie checkDie source).1
      opening.1.combatant = recovered.combatant ∧
        opening.1.afflictions = recovered.afflictions) := by
  simp only [openCombatant, Combatant.recoveryCheck, Combatant.isChecked, alive, Bool.true_and]
  cases set.tick.2.has Condition.dying.id with
  | true => exact ⟨rfl, fun _ => ⟨rfl, rfl⟩⟩
  | false => exact ⟨rfl, fun never => by cases never⟩

/-! ### All combatants -/

/--
The source answers as many checks as there are dying combatants, and each of them
is treated by the check that comes after those of the dying combatants before it.
-/
theorem openAll_rolls (codex : Codex) (combatants : List Combatant)
    (afflictions : Table Afflictions) (distinct : (combatants.map Combatant.id).Nodup)
    (source : σ) :
    let opened := (openAll codex combatants afflictions).run source
    opened.2 = afterChecks (checksOf combatants afflictions) source ∧
    ∀ (index : Nat) (combatant : Combatant), combatants[index]? = some combatant →
      combatant.isChecked (afflictions.conditionsOf combatant.id) = true →
      let before := checksOf (combatants.take index) afflictions
      let recovered := combatant.recover (afflictions.conditionsOf combatant.id).tick.2 codex
        (rollDie checkDie (afterChecks before source)).1
      opened.1.combatants[index]? = some recovered.combatant ∧
        opened.1.afflictions.conditionsOf combatant.id = recovered.afflictions := by
  induction combatants generalizing afflictions source with
  | nil => exact ⟨rfl, fun _ _ found => by cases found⟩
  | cons first rest ih =>
    obtain ⟨fresh, distinct⟩ := List.nodup_cons.mp distinct
    simp only [openAll]
    split
    next gone =>
      have unchecked : first.isChecked (afflictions.conditionsOf first.id) = false := by
        simp [Combatant.isChecked, Combatant.isAlive, gone]
      obtain ⟨last, each⟩ := ih afflictions distinct source
      rw [run_bind]
      refine ⟨?_, fun index combatant found checked => ?_⟩
      · rw [checksOf_cons, unchecked]
        exact last
      · cases index with
        | zero =>
          cases found
          rw [unchecked] at checked
          cases checked
        | succ index =>
          simp only [List.take_succ_cons, checksOf_cons, unchecked]
          exact each index combatant found checked
    next living =>
      have alive : first.isAlive = true := by simpa [Combatant.isAlive] using living
      obtain ⟨taken, treated⟩ :=
        openCombatant_rolls codex alive (afflictions.conditionsOf first.id) source
      rw [run_bind, run_bind]
      generalize (openCombatant codex first (afflictions.conditionsOf first.id)).run source
        = opening at taken treated
      have pass (others : List Combatant) : afterChecks (checksOf others afflictions) opening.2
          = afterChecks (checksOf (first :: others) afflictions) source := by
        rw [taken, ← afterChecks_add, checksOf_cons, Nat.add_comm]
      -- The conditions of the first are entered before the rest are treated.
      obtain ⟨_, all⟩ := (openAll_opens codex rest
        (afflictions.insert first.id opening.1.afflictions) distinct).run opening.2
      obtain ⟨last, each⟩ :=
        ih (afflictions.insert first.id opening.1.afflictions) distinct opening.2
      generalize (openAll codex rest
        (afflictions.insert first.id opening.1.afflictions)).run opening.2 = later at all last each
      refine ⟨?_, fun index combatant found checked => ?_⟩
      · rw [checksOf_insert fresh, pass] at last
        exact last
      · cases index with
        | zero =>
          cases found
          obtain ⟨same, conditions⟩ := treated checked
          refine ⟨congrArg some same, Eq.trans ?_ conditions⟩
          show later.1.afflictions.conditionsOf first.id = opening.1.afflictions
          rw [Table.conditionsOf, all.others first.id fresh, Table.get?_insert, if_pos rfl,
            Option.getD_some]
        | succ index =>
          have apart : combatant.id ≠ first.id := fun same =>
            fresh (same ▸ List.mem_map_of_mem (List.mem_of_getElem? found))
          have own : (afflictions.insert first.id opening.1.afflictions).conditionsOf combatant.id
              = afflictions.conditionsOf combatant.id := by
            rw [Table.conditionsOf, Table.get?_insert, if_neg apart]
          have absent : first.id ∉ (rest.take index).map Combatant.id := fun member =>
            fresh (((List.take_sublist index rest).map Combatant.id).mem member)
          have treated := each index combatant found
          simp only [own, checksOf_insert absent, pass] at treated
          exact treated checked

/-! ### Opening a round -/

/-- How many combatants in front of a position make a check. -/
def checksBefore (encounter : Encounter) (index : Nat) : Nat :=
  checksOf (encounter.combatants.take index) encounter.afflictions

/-- A combatant that makes a check makes one. -/
theorem checksBefore_succ {encounter : Encounter} {index : Nat} {combatant : Combatant}
    (found : encounter.combatants[index]? = some combatant)
    (checked : combatant.isChecked (encounter.afflictionsOf combatant.id) = true) :
    encounter.checksBefore (index + 1) = encounter.checksBefore index + 1 := by
  have own : combatant.isChecked (encounter.afflictions.conditionsOf combatant.id) = true := checked
  simp only [checksBefore, checksOf, List.take_add_one, found, Option.toList_some,
    List.countP_append, List.countP_singleton, own, if_true]

/--
The opening of a round takes one check from the source for every dying combatant,
in initiative order, and nothing else.
-/
theorem openRound_rolls {encounter : Encounter} (distinct : encounter.ids.Nodup) (points : Count)
    (source : σ) :
    let opened := (encounter.openRound points).run source
    opened.2 = afterChecks (encounter.checksBefore encounter.combatants.length) source ∧
    ∀ (index : Nat) (combatant : Combatant), encounter.combatants[index]? = some combatant →
      combatant.isChecked (encounter.afflictionsOf combatant.id) = true →
      let roll := (rollDie checkDie (afterChecks (encounter.checksBefore index) source)).1
      let recovered :=
        combatant.recover (encounter.afflictionsOf combatant.id).tick.2 encounter.codex roll
      opened.1.2.combatants[index]? = some recovered.combatant ∧
        opened.1.2.afflictionsOf combatant.id = recovered.afflictions := by
  have rolls := openAll_rolls encounter.codex encounter.combatants encounter.afflictions distinct
    source
  unfold openRound checksBefore
  rw [run_bind, List.take_length]
  exact rolls

end Encounter

end Fray
