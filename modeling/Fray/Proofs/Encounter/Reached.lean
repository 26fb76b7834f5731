import Fray.Proofs.Encounter.Playing

/-!
# Reachable encounters

An encounter is reachable if it comes about from its beginning by requests, each
of them played with a source of its own, and by being marked as over. What every
request keeps holds of every reachable encounter.

## Main results

`Reached.induction` carries a property from the beginning to every reachable
encounter, and `reached_play` says that runs lead to such encounters.
-/

namespace Fray

open Draws

namespace Encounter

/-- An encounter that a setup can come to, with all damage that its rounds have reported. -/
inductive Reached (setup : Setup) : List (String × Count) → Encounter → Prop
  | begun : Reached setup [] (begin setup)
  | resolved {reports : List (String × Count)} {encounter : Encounter}
      (reached : Reached setup reports encounter) {σ : Type} [RandomSource σ] (source : σ) :
      Reached setup (reports ++ (encounter.resolve.run source).1.damage)
        (encounter.resolve.run source).1.encounter
  | answered {reports : List (String × Count)} {encounter : Encounter}
      (reached : Reached setup reports encounter) {request : Request}
      (other : request ≠ .resolve) {σ : Type} [RandomSource σ] (source : σ) :
      Reached setup reports ((encounter.answer request).run source).1
  | markedOver {reports : List (String × Count)} {encounter : Encounter}
      (reached : Reached setup reports encounter) : Reached setup reports encounter.markOver

variable {setup : Setup} {reports : List (String × Count)} {encounter : Encounter}

theorem run_answer_resolve {σ : Type} [RandomSource σ] (encounter : Encounter) (source : σ) :
    ((encounter.answer .resolve).run source).1 = (encounter.resolve.run source).1.encounter := by
  simp only [answer]
  rw [run_bind]
  rfl

/-- Every request leads from a reachable encounter to another one. -/
theorem Reached.answer {σ : Type} [RandomSource σ] (reached : Reached setup reports encounter)
    (request : Request) (source : σ) :
    ∃ told, Reached setup told ((encounter.answer request).run source).1 := by
  by_cases resolves : request = .resolve
  · subst resolves
    rw [run_answer_resolve]
    exact ⟨_, reached.resolved source⟩
  · exact ⟨reports, reached.answered resolves source⟩

theorem Reached.play {σ : Type} [RandomSource σ] (reached : Reached setup reports encounter)
    (requests : List Request) (source : σ) :
    ∃ told, Reached setup told ((Encounter.play requests encounter).run source).1 := by
  induction requests generalizing reports encounter source with
  | nil => exact ⟨reports, reached⟩
  | cons request rest ih =>
    obtain ⟨told, answered⟩ := reached.answer request source
    simp only [Encounter.play]
    rw [run_bind]
    exact ih answered _

/-- Runs lead to reachable encounters. -/
theorem reached_play {σ : Type} [RandomSource σ] (setup : Setup) (requests : List Request)
    (source : σ) :
    ∃ told, Reached setup told ((Encounter.play requests (begin setup)).run source).1 :=
  Reached.begun.play requests source

/-- What the answers to all requests keep, and the mark as well, holds wherever they lead. -/
theorem Reached.induction (property : Encounter → Prop)
    (reached : Reached setup reports encounter) (start : property (begin setup))
    (step : ∀ current request, property current → Always property (current.answer request))
    (mark : ∀ current, property current → property current.markOver) : property encounter := by
  induction reached with
  | begun => exact start
  | @resolved reports current reached σ _ source ih =>
    have answered := (step current .resolve ih).run source
    rwa [run_answer_resolve] at answered
  | answered reached other source ih => exact (step _ _ ih).run source
  | markedOver reached ih => exact mark _ ih

/-- Nobody comes or goes, and the rules stay the same. -/
theorem Reached.same (reached : Reached setup reports encounter) :
    encounter.combatants.map Combatant.person = (begin setup).combatants.map Combatant.person ∧
      encounter.codex = setup.codex := by
  refine Reached.induction (fun current =>
    current.combatants.map Combatant.person = (begin setup).combatants.map Combatant.person ∧
      current.codex = setup.codex)
    reached ⟨rfl, rfl⟩ (fun current request holds => ?_) fun _ holds => holds
  obtain ⟨persons, codex⟩ := holds
  refine (answer_same current request).mono fun after same => ?_
  exact ⟨same.persons.trans persons, same.codex.trans codex⟩

theorem Reached.hooks (reached : Reached setup reports encounter) :
    encounter.hooks = setup.hooks :=
  Reached.induction (·.hooks = setup.hooks) reached rfl
    (fun current request holds =>
      (answer_same current request).mono fun _ same => same.hooks.trans holds)
    fun _ holds => holds

/-- Everybody has a set of conditions, whether or not names are distinct. -/
theorem Reached.kept (reached : Reached setup reports encounter) :
    ∀ id ∈ encounter.ids, encounter.afflictions.contains id = true := by
  refine Reached.induction (fun current =>
    ∀ id ∈ current.ids, current.afflictions.contains id = true) reached
    (fun id => contains_begin setup) (fun current request kept => ?_) fun _ kept => kept
  refine ((answer_same current request).and (answer_contains current request)).mono
    fun after both id member => both.2 id (kept id ?_)
  rwa [← both.1.ids]

/-- The names stay distinct. -/
theorem Reached.distinct (reached : Reached setup reports encounter)
    (distinct : (setup.combatants.map Combatant.id).Nodup) : encounter.ids.Nodup := by
  have ids : encounter.ids = (begin setup).ids := ids_of_persons reached.same.1
  rw [ids]
  exact nodup_ids_begin distinct

end Encounter

end Fray
