import Fray.Proofs.Afflictions.Stacks
import Fray.Proofs.Dying.Hits
import Fray.Proofs.Encounter.Reached

/-!
# Histories of conditions

Whatever happens in an encounter, the conditions of everybody come about from none by
applications of conditions of the codex, removals and ticks. So what holds of sets with such
a history holds of every set in a reachable encounter.

## Main results

`Reached.arises`: every set of a reachable encounter has a history.
-/

namespace Fray

open Draws

/-! ### Sets of conditions -/

/-- A set that comes about from the empty one by steps with conditions of a codex. -/
def Afflictions.Arises (codex : Codex) (set : Afflictions) : Prop :=
  ∃ steps, (∀ step ∈ steps, Afflictions.Step.IsFrom codex step) ∧
    set = Afflictions.afterAll .empty steps

namespace Afflictions

variable {codex : Codex} {set : Afflictions}

theorem arises_empty (codex : Codex) : Arises codex Table.empty :=
  ⟨[], fun _ member => absurd member List.not_mem_nil, rfl⟩

theorem Arises.after (arises : set.Arises codex) {step : Step} (known : step.IsFrom codex) :
    (set.after step).Arises codex := by
  obtain ⟨steps, before, rfl⟩ := arises
  refine ⟨steps ++ [step], fun other member => ?_, (afterAll_concat ..).symm⟩
  rcases List.mem_append.mp member with earlier | last
  · exact before other earlier
  · exact List.mem_singleton.mp last ▸ known

theorem Arises.apply (arises : set.Arises codex) (keyed : codex.Keyed) {id : String}
    {condition : Condition} (entered : codex.get? id = some condition) (stack : Count)
    (duration : Option Count) : (set.apply condition stack duration).Arises codex := by
  have known : (Step.apply condition stack duration).IsFrom codex := by
    rw [Step.IsFrom, keyed id condition entered, entered]
  exact arises.after known

theorem Arises.applyKnown (arises : set.Arises codex) (keyed : codex.Keyed) (id : String)
    (stack : Count) : (set.applyKnown codex id stack).Arises codex := by
  unfold Afflictions.applyKnown
  split
  next known entered => exact arises.apply keyed entered stack none
  · exact arises

theorem Arises.erase (arises : set.Arises codex) (id : String) :
    Arises codex (Table.erase set id) := by
  have known : (Step.remove id).IsFrom codex := trivial
  exact arises.after known

theorem Arises.tick (arises : set.Arises codex) : Arises codex set.tick.2 := by
  have known : Step.tick.IsFrom codex := trivial
  exact arises.after known

end Afflictions

theorem Combatant.Opens.arises {codex : Codex} {combatant : Combatant} {set : Afflictions}
    {opening : Opening} (opens : combatant.Opens codex set opening) (keyed : codex.Keyed)
    (arises : set.Arises codex) : opening.afflictions.Arises codex :=
  opens.keeps (fun _ arises => arises.erase _)
    (fun _ id stack _ arises => arises.applyKnown keyed id stack) (fun _ arises => arises.tick)
    arises

/-! ### Encounters -/

namespace Encounter

/-- All sets of conditions have a history. -/
structure Arises (encounter : Encounter) : Prop where
  keyed : encounter.codex.Keyed
  sets : ∀ id, (encounter.afflictionsOf id).Arises encounter.codex

theorem Arises.of_same {before after : Encounter} (arises : before.Arises)
    (codex : after.codex = before.codex)
    (same : ∀ id, after.afflictionsOf id = before.afflictionsOf id) : after.Arises where
  keyed := codex ▸ arises.keyed
  sets id := same id ▸ codex ▸ arises.sets id

theorem begin_arises {setup : Setup} (keyed : setup.codex.Keyed) : (begin setup).Arises where
  keyed := keyed
  sets id := by
    rw [afflictionsOf_begin]
    exact Afflictions.arises_empty _

variable {encounter : Encounter}

/-- So the law of stacks holds of every entry. -/
theorem Arises.stacked (arises : encounter.Arises) {id condition : String} {affliction : Affliction}
    (found : encounter.affliction? id condition = some affliction) :
    ∃ steps, affliction.Stacked encounter.codex condition steps := by
  obtain ⟨steps, known, same⟩ := arises.sets id
  rw [affliction?, same] at found
  exact ⟨steps, (Afflictions.entry_grown known found).stacked⟩

theorem Arises.afflict (arises : encounter.Arises) {id condition : String} {stack : Count}
    {duration : Option Count} {afflicted : Encounter}
    (accepted : encounter.afflict id condition stack duration = .ok afflicted) :
    afflicted.Arises := by
  have codex := (afflict_framed accepted).codex
  refine ⟨codex ▸ arises.keyed, codex ▸ afflict_sets accepted ?_ arises.sets⟩
  exact fun known set entered held => held.apply arises.keyed entered stack duration

theorem Arises.relieve (arises : encounter.Arises) {id condition : String} {relieved : Encounter}
    (accepted : encounter.relieve id condition = .ok relieved) : relieved.Arises := by
  unfold Encounter.relieve at accepted
  split at accepted
  · cases accepted
  next set present =>
    cases accepted
    refine ⟨arises.keyed, fun who => ?_⟩
    simp only [afflictionsOf, Table.get?_insert]
    split
    · have own := arises.sets id
      rw [afflictionsOf, present, Option.getD_some] at own
      exact own.erase condition
    · exact arises.sets who

theorem Arises.openRound (arises : encounter.Arises) (points : Count) :
    Always (fun result => result.2.Arises) (encounter.openRound points) := by
  have opened := openAll_sets (fun combatant set opening opens held =>
    opens.arises arises.keyed held) encounter.combatants arises.sets
  unfold Encounter.openRound
  rw [always_bind]
  exact opened.mono fun _ sets => ⟨arises.keyed, sets⟩

end Encounter

/-! ### Rounds -/

theorem Scene.arises_carries : Carries Encounter.Arises fun _ after => after.Arises :=
  .of_conditions (fun _ arises => arises) (fun _ arises => arises) (fun arises => arises.of_same)
    fun arises _ => arises.afflict

namespace Encounter

variable {encounter : Encounter}

theorem Arises.resolve (arises : encounter.Arises) :
    Always (fun resolution => resolution.encounter.Arises) encounter.resolve :=
  encounter.resolve_reaches.mono fun _ reached => Scene.arises_carries.reaches reached arises

/-! ### Reachable encounters -/

theorem Arises.answer (arises : encounter.Arises) (request : Request) :
    Always Arises (encounter.answer request) := by
  cases request with
  | openRound points =>
    simp only [Encounter.answer]
    rw [always_bind]
    exact arises.openRound points
  | commit id action =>
    show Arises (encounter.orKeep _)
    rw [orKeep_commit]
    exact arises.of_same rfl fun _ => rfl
  | resolve =>
    simp only [Encounter.answer]
    rw [always_bind]
    exact arises.resolve
  | afflict id condition stack duration =>
    show Arises (encounter.orKeep _)
    cases answered : encounter.afflict id condition stack duration with
    | error refusal => exact arises
    | ok afflicted => exact arises.afflict answered
  | relieve id condition =>
    show Arises (encounter.orKeep _)
    cases answered : encounter.relieve id condition with
    | error refusal => exact arises
    | ok relieved => exact arises.relieve answered
  | currentTurn =>
    show Arises (seekTurn _ encounter).2
    rw [seekTurn_same]
    exact arises.of_same rfl fun _ => rfl
  | advanceTurn => exact arises.of_same rfl fun _ => rfl

/-- Every set of a reachable encounter has a history. -/
theorem Reached.arises {setup : Setup} {reports : List (String × Count)}
    (reached : Reached setup reports encounter) (keyed : setup.codex.Keyed) : encounter.Arises :=
  Reached.induction Arises reached (begin_arises keyed)
    (fun _ request arises => arises.answer request) fun _ arises => arises.of_same rfl fun _ => rfl

end Encounter

end Fray
