import Fray.Proofs.Encounter.Reached

/-!
# Submitted actions

The actions that an encounter has accepted since its round was opened, in the order of
their submission. They are what its queues hold, and no action of the unknown kind is
among them.

## Main results

`Reached.submitted`: every reachable encounter has such a list, and `Submitted.keeps`
ties it to the queues.
-/

namespace Fray

open Draws

namespace Encounter

/-- Whether a request changes the queues. -/
def Request.fillsQueues : Request → Bool
  | openRound _ | commit _ _ => true
  | resolve | afflict _ _ _ _ | relieve _ _ | currentTurn | advanceTurn => false

/-- The actions that were accepted in the open round of an encounter, in order. -/
inductive Submitted (setup : Setup) : List Commit → Encounter → Prop
  | begun : Submitted setup [] (begin setup)
  | opened {commits : List Commit} {encounter : Encounter}
      (submitted : Submitted setup commits encounter) (points : Count) {σ : Type}
      [RandomSource σ] (source : σ) :
      Submitted setup [] ((encounter.openRound points).run source).1.2
  | accepted {commits : List Commit} {encounter committed : Encounter} {id : String}
      {action : Action} (submitted : Submitted setup commits encounter)
      (accepts : encounter.commit id action = .ok committed) :
      Submitted setup (commits ++ [⟨id, action⟩]) committed
  | answered {commits : List Commit} {encounter : Encounter}
      (submitted : Submitted setup commits encounter) {request : Request}
      (aside : request.fillsQueues = false) {σ : Type} [RandomSource σ] (source : σ) :
      Submitted setup commits ((encounter.answer request).run source).1
  | markedOver {commits : List Commit} {encounter : Encounter}
      (submitted : Submitted setup commits encounter) : Submitted setup commits encounter.markOver

variable {setup : Setup} {encounter : Encounter}

/-- A refused action leaves the list as it is. -/
theorem Submitted.orKeep {commits : List Commit} (submitted : Submitted setup commits encounter)
    (id : String) (action : Action) :
    ∃ longer, Submitted setup longer (encounter.orKeep (encounter.commit id action)) := by
  cases answered : encounter.commit id action with
  | error refusal => exact ⟨commits, submitted⟩
  | ok committed => exact ⟨_, submitted.accepted answered⟩

theorem Reached.submitted {reports : List (String × Count)}
    (reached : Reached setup reports encounter) :
    ∃ commits, Submitted setup commits encounter := by
  induction reached with
  | begun => exact ⟨[], .begun⟩
  -- A resolution leaves the queues for the next opening to replace.
  | @resolved reports current reached σ _ source ih =>
    obtain ⟨commits, submitted⟩ := ih
    have aside : Request.fillsQueues .resolve = false := rfl
    have resolved := submitted.answered aside source
    rw [run_answer_resolve] at resolved
    exact ⟨commits, resolved⟩
  | @answered reports current reached request other σ _ source ih =>
    obtain ⟨commits, submitted⟩ := ih
    cases request with
    | openRound points =>
      have opened := submitted.opened points source
      refine ⟨[], ?_⟩
      simp only [Encounter.answer]
      rw [run_bind]
      exact opened
    | commit id action => exact submitted.orKeep id action
    | resolve | afflict | relieve | currentTurn | advanceTurn =>
      exact ⟨commits, submitted.answered rfl source⟩
  | markedOver reached ih =>
    obtain ⟨commits, submitted⟩ := ih
    exact ⟨commits, submitted.markedOver⟩

/-! ### Queues -/

theorem Keeps.of_same {before after : Encounter} {commits : List Commit}
    (keeps : before.Keeps commits) (queues : after.queues = before.queues)
    (ids : after.ids = before.ids) : after.Keeps commits where
  actions id := queues ▸ keeps.actions id
  queued commit member := queues ▸ keeps.queued commit member
  known id inside := by
    have listed : id ∈ before.ids := keeps.known id (queues ▸ inside)
    show id ∈ after.ids
    rwa [ids]

theorem answer_queues (encounter : Encounter) {request : Request}
    (aside : request.fillsQueues = false) :
    Always (fun after => after.queues = encounter.queues) (encounter.answer request) := by
  refine answer_frame request (fun points opens => ?_)
    (fun _ => encounter.resolve_framed.mono fun _ framed => framed.queues)
    (fun id action commits => ?_) (fun _ _ => rfl) (fun _ _ => rfl)
  · subst opens
    cases aside
  · subst commits
    cases aside

/-- The queues hold the submitted actions, each under the name of its combatant. -/
theorem Submitted.keeps {commits : List Commit} (submitted : Submitted setup commits encounter) :
    encounter.Keeps commits := by
  induction submitted with
  | begun => exact ⟨fun _ => rfl, by simp, fun _ inside => by cases inside⟩
  | @opened commits current submitted points σ _ source ih =>
    exact ((openRound_opens current points).run source).keeps
  | accepted submitted accepts ih => exact ih.commit accepts
  | @answered commits current submitted request aside σ _ source ih =>
    have same := (answer_same current request).run source
    exact ih.of_same ((answer_queues current aside).run source) same.ids
  | markedOver submitted ih => exact ih.of_same rfl rfl

theorem kind_of_enqueue {action : Action} {queue longer : Queue}
    (accepted : queue.enqueue action = .ok longer) : action.kind ≠ .unknown := by
  intro unknown
  rw [Queue.enqueue, unknown] at accepted
  cases accepted

/-- Every submitted action has been chosen. -/
theorem Submitted.chosen {commits : List Commit} (submitted : Submitted setup commits encounter) :
    ∀ commit ∈ commits, commit.action.kind ≠ .unknown := by
  induction submitted with
  | begun => simp
  | opened => simp
  | accepted submitted accepts ih =>
    obtain ⟨_, _, _, _, enqueued, _⟩ := commit_cases accepts
    intro commit member
    rcases List.mem_append.mp member with old | new
    · exact ih commit old
    · cases List.mem_singleton.mp new
      exact kind_of_enqueue enqueued
  | answered submitted aside source ih => exact ih
  | markedOver submitted ih => exact ih

/-! ### Order -/

/-- The combatants stay in the order of their initiative. -/
theorem Reached.inOrder {reports : List (String × Count)}
    (reached : Reached setup reports encounter) :
    encounter.combatants.Pairwise fun early late => late.initiative ≤ early.initiative := by
  have same := congrArg (List.map Combatant.initiative) reached.same.1
  have initiatives : encounter.combatants.map (·.initiative)
      = (begin setup).combatants.map (·.initiative) := by
    simpa only [List.map_map, Function.comp_def, Combatant.person, Combatant.profile] using same
  have sorted : ((begin setup).combatants.map (·.initiative)).Pairwise
      fun early late => late ≤ early :=
    List.pairwise_map.mpr (pairwise_sortByInitiative setup.combatants)
  rw [← initiatives] at sorted
  exact List.pairwise_map.mp sorted

end Encounter

end Fray
