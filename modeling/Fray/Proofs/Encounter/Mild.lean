import Fray.Proofs.Dying.Chain
import Fray.Proofs.Dying.Hits
import Fray.Proofs.Encounter.Playing

/-!
# Mild conditions

The rules themselves apply conditions that forbid nothing and take no points, if the codex
has the built-in ones under their names. So where nobody else applies a condition, every
action is allowed, and every round is opened with all its points.

## Main results

`resolve_mild` and `openRound_mild`: rounds and their openings leave conditions mild.
`restriction?_eq_none` and `lostPoints_eq_zero` say what that means.
-/

namespace Fray

open Draws

/-! ### Sets of conditions -/

/-- No condition of a codex forbids an action. -/
def Codex.Mild (codex : Codex) : Prop :=
  ∀ id condition, codex.get? id = some condition → condition.restricted = []

theorem Codex.core_mild : Codex.core.Mild := by
  have entries : ∀ entry ∈ Codex.core.entries, entry.2.restricted = [] := by decide +kernel
  intro id condition found
  exact entries (id, condition) (Table.mem_entries.mpr found)

/-- Nobody is stunned, and no condition forbids an action. -/
def Afflictions.Mild (set : Afflictions) : Prop :=
  ∀ id affliction, set.get? id = some affliction →
    id ≠ Condition.stunned.id ∧ affliction.condition.restricted = []

namespace Afflictions

theorem Mild.restriction?_eq_none {set : Afflictions} (mild : set.Mild) (kind : ActionKind) :
    set.restriction? kind = none := by
  unfold restriction?
  refine Option.map_eq_none_iff.mpr (List.find?_eq_none.mpr fun affliction member => ?_)
  obtain ⟨entry, inside, rfl⟩ := List.mem_map.mp member
  have free := (mild entry.1 entry.2 (Table.mem_entries.mp inside)).2
  simp [Condition.restricts, free]

theorem Mild.lostPoints_eq_zero {set : Afflictions} (mild : set.Mild) : set.lostPoints = 0 := by
  unfold lostPoints stackOf
  cases found : set.get? Condition.stunned.id with
  | none => rfl
  | some affliction => exact absurd rfl (mild _ affliction found).1

theorem Mild.apply {set : Afflictions} (mild : set.Mild) {condition : Condition}
    (other : condition.id ≠ Condition.stunned.id) (free : condition.restricted = [])
    (stack : Count) (duration : Option Count) : (set.apply condition stack duration).Mild :=
  Each.apply mild ⟨other, free⟩ fun _ before => before

theorem Mild.applyKnown {codex : Codex} {set : Afflictions} (mild : set.Mild) (keyed : codex.Keyed)
    (known : codex.Mild) {id : String} (other : id ≠ Condition.stunned.id) (stack : Count) :
    (set.applyKnown codex id stack).Mild := by
  unfold Afflictions.applyKnown
  split
  next condition found =>
    exact mild.apply ((keyed id condition found).trans_ne other) (known id condition found) stack none
  · exact mild

theorem Mild.erase {set : Afflictions} (mild : set.Mild) (id : String) :
    Mild (Table.erase set id) :=
  Each.erase mild id

theorem Mild.tick {set : Afflictions} (mild : set.Mild) : Mild set.tick.2 :=
  Each.tick mild fun _ before free => before.condition_countdown.symm ▸ free

end Afflictions

theorem Combatant.Opens.mild {codex : Codex} {combatant : Combatant} {set : Afflictions}
    {opening : Opening} (opens : combatant.Opens codex set opening) (mild : set.Mild)
    (keyed : codex.Keyed) (known : codex.Mild) : opening.afflictions.Mild := by
  refine opens.keeps (fun _ mild => mild.erase _) (fun set id stack rule mild => ?_)
    (fun _ mild => mild.tick) mild
  rcases rule with rfl | rfl
  · exact mild.applyKnown keyed known (by decide) stack
  · exact mild.applyKnown keyed known (by decide) stack

/-! ### Encounters -/

namespace Encounter

/-- All conditions are mild, those that can be applied as well as those that were. -/
structure Mild (encounter : Encounter) : Prop where
  keyed : encounter.codex.Keyed
  known : encounter.codex.Mild
  sets : ∀ id, (encounter.afflictionsOf id).Mild

theorem Mild.of_same {before after : Encounter} (mild : before.Mild)
    (codex : after.codex = before.codex)
    (same : ∀ id, after.afflictionsOf id = before.afflictionsOf id) : after.Mild where
  keyed := codex ▸ mild.keyed
  known := codex ▸ mild.known
  sets id := same id ▸ mild.sets id

theorem begin_mild {setup : Setup} (core : setup.codex = .core) : (begin setup).Mild where
  keyed := by
    show setup.codex.Keyed
    rw [core]
    exact Codex.core_keyed
  known := by
    show setup.codex.Mild
    rw [core]
    exact Codex.core_mild
  sets id := by
    rw [afflictionsOf_begin]
    exact Afflictions.each_empty

variable {encounter : Encounter}

theorem Mild.afflict (mild : encounter.Mild) {id condition : String} {stack : Count}
    {duration : Option Count} {afflicted : Encounter} (other : condition ≠ Condition.stunned.id)
    (accepted : encounter.afflict id condition stack duration = .ok afflicted) :
    afflicted.Mild := by
  have codex := (afflict_framed accepted).codex
  refine ⟨codex ▸ mild.keyed, codex ▸ mild.known, afflict_sets accepted ?_ mild.sets⟩
  exact fun known set entered held => held.apply
    ((mild.keyed condition known entered).trans_ne other) (mild.known condition known entered)
    stack duration

end Encounter

theorem Scene.mild_carries : Carries Encounter.Mild fun _ after => after.Mild :=
  .of_conditions (fun _ mild => mild) (fun _ mild => mild) (fun mild => mild.of_same)
    fun mild => mild.afflict

namespace Encounter

variable {encounter : Encounter}

theorem resolve_mild (mild : encounter.Mild) :
    Always (fun resolution => resolution.encounter.Mild) encounter.resolve :=
  encounter.resolve_reaches.mono fun _ reached => Scene.mild_carries.reaches reached mild

theorem openRound_mild (mild : encounter.Mild) (points : Count) :
    Always (fun result => result.2.Mild) (encounter.openRound points) := by
  have opened := openAll_sets (fun combatant set opening opens held =>
    opens.mild held mild.keyed mild.known) encounter.combatants mild.sets
  unfold openRound
  rw [always_bind]
  exact opened.mono fun _ sets => ⟨mild.keyed, mild.known, sets⟩

end Encounter

end Fray
