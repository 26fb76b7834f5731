import Fray.Proofs.Encounter.Coverage
import Fray.Proofs.Encounter.Interleaving
import Mathlib.Data.List.Find

/-!
# What the tactics leave of an open round

Each plan is carried out on the queue of its own combatant: the first of its calls that is
accepted, then a pass. Calls are refused for want of points and by conditions; a pass costs
nothing, so it is only a condition that can keep a queue open.

## Main result

`openRound_shut`: the queues of a round that was just opened, after the tactics.
-/

namespace Fray

open Draws

/-! ### Calls -/

namespace Encounter

variable {encounter : Encounter} {call : Commit} {calls : List Commit} {queue : Queue}
  {id : String}

/-- Whether a call is accepted. -/
def takes (encounter : Encounter) (call : Commit) : Bool := (encounter.answerTo call).isNone

/-- What an encounter is after the first of some calls that is accepted. -/
def afterPick (encounter : Encounter) (calls : List Commit) : Encounter :=
  (calls.find? encounter.takes).elim encounter encounter.afterCall

/-- No condition that somebody has forbids to pass. -/
def MayPass (encounter : Encounter) (id : String) : Prop :=
  (encounter.afflictionsOf id).restriction? .pass = none

instance (encounter : Encounter) (id : String) : Decidable (encounter.MayPass id) :=
  inferInstanceAs (Decidable (_ = none))

theorem takes_eq_true : encounter.takes call = true ↔
    ∃ committed, encounter.commit call.combatant call.action = .ok committed := by
  unfold takes answerTo
  cases encounter.commit call.combatant call.action <;> simp

theorem afterCall_refused (refused : ¬encounter.takes call = true) :
    encounter.afterCall call = encounter := by
  unfold afterCall
  cases answered : encounter.commit call.combatant call.action with
  | ok committed => exact absurd (takes_eq_true.mpr ⟨committed, answered⟩) refused
  | error refusal => rfl

/-- An accepted call puts its action at the end of the queue. -/
theorem afterCall_taken (present : encounter.queues.get? call.combatant = some queue)
    (taken : encounter.takes call = true) :
    (encounter.afflictionsOf call.combatant).restriction? call.action.kind = none ∧
      ∃ longer, queue.enqueue call.action = .ok longer ∧
        (encounter.afterCall call).queues.get? call.combatant = some longer := by
  obtain ⟨committed, accepted⟩ := takes_eq_true.mp taken
  have after : encounter.afterCall call = committed := by simp only [afterCall, accepted, orKeep]
  obtain ⟨before, longer, found, free, enqueued, same⟩ := commit_cases accepted
  cases found.symm.trans present
  refine ⟨free, longer, enqueued, ?_⟩
  rw [after, same]
  exact (Table.get?_insert ..).trans (if_pos rfl)

theorem afflictionsOf_afterCall (encounter : Encounter) (call : Commit) (id : String) :
    (encounter.afterCall call).afflictionsOf id = encounter.afflictionsOf id := by
  rw [afterCall_same]
  rfl

/-- Nothing but a condition keeps anybody with a queue from passing. -/
theorem takes_pass (present : encounter.queues.get? id = some queue) :
    encounter.takes ⟨id, .pass⟩ = true ↔ encounter.MayPass id := by
  rw [takes_eq_true, commit_eq, MayPass]
  simp only [present, lengthen, Action.pass]
  cases (encounter.afflictionsOf id).restriction? .pass with
  | some condition => simp [Except.map]
  | none => simp [Except.map, Queue.enqueue]

/-- A pass closes the queue. -/
theorem afterCall_pass (present : encounter.queues.get? id = some queue)
    (mayPass : encounter.MayPass id) :
    ∃ longer, (encounter.afterCall ⟨id, .pass⟩).queues.get? id = some longer ∧
      longer.actions = queue.actions ++ [.pass] ∧ longer.left = 0 := by
  have taken : encounter.takes ⟨id, .pass⟩ = true := (takes_pass present).mpr mayPass
  obtain ⟨_, longer, enqueued, found⟩ := afterCall_taken present taken
  exact ⟨longer, found, Queue.enqueue_actions enqueued, by rw [Queue.enqueue_eq enqueued]; rfl⟩

/-! ### The first of several calls -/

theorem SameFor.find?_takes {left right : Encounter} (same : SameFor id left right)
    (own : ∀ call ∈ calls, call.combatant = id) :
    calls.find? left.takes = calls.find? right.takes := by
  refine List.find?_congr fun call member => ?_
  have alike : SameFor call.combatant left right := own call member ▸ same
  exact congrArg Option.isNone alike.call.1

theorem sameFor_afterPick (encounter : Encounter) (others : ∀ call ∈ calls, id ≠ call.combatant) :
    SameFor id (encounter.afterPick calls) encounter := by
  unfold afterPick
  cases found : calls.find? encounter.takes with
  | none => exact .refl ..
  | some call =>
    exact sameFor_afterCall _ _ (others call (List.mem_of_find?_eq_some found))

theorem afflictionsOf_afterPick (encounter : Encounter) (calls : List Commit) (id : String) :
    (encounter.afterPick calls).afflictionsOf id = encounter.afflictionsOf id := by
  unfold afterPick
  cases calls.find? encounter.takes with
  | none => rfl
  | some call => exact afflictionsOf_afterCall ..

/-- At most one action of the calls comes into the queue, and no condition forbids it. -/
theorem afterPick_queue (own : ∀ call ∈ calls, call.combatant = id)
    (present : encounter.queues.get? id = some queue) :
    let picked := (calls.find? encounter.takes).map Commit.action
    (∀ action ∈ picked, (encounter.afflictionsOf id).restriction? action.kind = none) ∧
      ∃ longer, (encounter.afterPick calls).queues.get? id = some longer ∧
        longer.actions = queue.actions ++ picked.toList := by
  unfold afterPick
  cases found : calls.find? encounter.takes with
  | none => exact ⟨nofun, queue, present, (List.append_nil _).symm⟩
  | some call =>
    have named := own call (List.mem_of_find?_eq_some found)
    subst named
    obtain ⟨free, longer, enqueued, after⟩ :=
      afterCall_taken present (List.find?_some found)
    refine ⟨?_, longer, after, Queue.enqueue_actions enqueued⟩
    rintro action ⟨⟩
    exact free

end Encounter

/-! ### One plan -/

namespace Tactics

/-- What a plan calls for, one after the other. -/
def Plan.calls (plan : Plan) : List Commit :=
  ⟨plan.combatant, plan.action⟩ :: (plan.fallback.map (⟨plan.combatant, .attack ·⟩)).toList

theorem Plan.combatant_of_calls {plan : Plan} {call : Commit} (member : call ∈ plan.calls) :
    call.combatant = plan.combatant := by
  rcases List.mem_cons.mp member with rfl | fallback
  · rfl
  · obtain ⟨target, _, rfl⟩ := Option.map_eq_some_iff.mp (Option.mem_toList.mp fallback)
    rfl

/-- The first action of its plan that is accepted from a combatant. -/
def pick (encounter : Encounter) (actor : Combatant) : Option Action :=
  ((plan encounter actor).calls.find? encounter.takes).map Commit.action

end Tactics

namespace Muster

variable {muster : Muster} {encounter : Encounter} {actor : Combatant} {queue : Queue}
  {id : String}

open Encounter (SameFor)

theorem encounter_attempt (muster : Muster) (id : String) (action : Action) :
    (muster.attempt id action).encounter = muster.encounter.afterCall ⟨id, action⟩ := by
  unfold attempt Encounter.afterCall
  split
  next accepted => simp only [accepted, Encounter.orKeep]
  next refused => simp only [refused, Encounter.orKeep]

/-- A plan that is carried out comes to one of its calls at most, and a pass. -/
theorem encounter_carryOut (muster : Muster) (plan : Tactics.Plan) :
    (muster.carryOut plan).encounter
      = (muster.encounter.afterPick plan.calls).afterCall ⟨plan.combatant, .pass⟩ := by
  rw [carryOut, encounter_attempt]
  congr 1
  unfold Encounter.afterPick Tactics.Plan.calls
  cases planned : muster.encounter.commit plan.combatant plan.action with
  | ok committed =>
    have taken : muster.encounter.takes ⟨plan.combatant, plan.action⟩ = true :=
      Encounter.takes_eq_true.mpr ⟨committed, planned⟩
    rw [List.find?_cons_of_pos taken]
    simp only [Option.elim_some, Encounter.afterCall, planned, Encounter.orKeep]
  | error refusal =>
    have refused : ¬muster.encounter.takes ⟨plan.combatant, plan.action⟩ = true := by
      simp [Encounter.takes, Encounter.answerTo, planned]
    rw [List.find?_cons_of_neg refused]
    cases plan.fallback with
    | none => rfl
    | some target =>
      simp only [encounter_attempt, Option.map_some, Option.toList_some]
      by_cases taken : muster.encounter.takes ⟨plan.combatant, .attack target⟩ = true
      · rw [List.find?_cons_of_pos taken]
        rfl
      · rw [List.find?_cons_of_neg taken, Encounter.afterCall_refused taken]
        rfl

/-- Nobody else notices. -/
theorem carryOut_sameFor {plan : Tactics.Plan} (other : id ≠ plan.combatant) :
    SameFor id (muster.carryOut plan).encounter muster.encounter := by
  rw [encounter_carryOut]
  refine (Encounter.sameFor_afterCall _ _ other).trans (Encounter.sameFor_afterPick _ ?_)
  exact fun call member same => other (same.trans (Tactics.Plan.combatant_of_calls member))

theorem foldl_sameFor {plans : List Tactics.Plan} (others : ∀ plan ∈ plans, id ≠ plan.combatant) :
    SameFor id (plans.foldl carryOut muster).encounter muster.encounter := by
  induction plans generalizing muster with
  | nil => exact .refl ..
  | cons plan rest ih =>
    refine (ih fun other member => others other (List.mem_cons_of_mem _ member)).trans ?_
    exact carryOut_sameFor (others plan List.mem_cons_self)

/-- A queue after its plan: what was picked, and a pass unless a condition forbids it. -/
structure Shut (encounter : Encounter) (actor : Combatant) (queue : Queue) : Prop where
  passed : encounter.MayPass actor.id →
    queue.actions = (Tactics.pick encounter actor).toList ++ [.pass] ∧ queue.left = 0 ∧
      queue.isSubmitted = true
  barred : ¬encounter.MayPass actor.id →
    queue.actions = (Tactics.pick encounter actor).toList ∧
      ∀ action ∈ queue.actions, action.kind ≠ .pass

/-- A fresh queue after its plan, in an encounter that is for its combatant as was planned for. -/
theorem carryOut_shut (same : SameFor actor.id muster.encounter encounter)
    (present : encounter.queues.get? actor.id = some queue) (fresh : queue.actions = []) :
    ∃ longer, (muster.carryOut (Tactics.plan encounter actor)).encounter.queues.get? actor.id
        = some longer ∧ Shut encounter actor longer := by
  have own : ∀ call ∈ (Tactics.plan encounter actor).calls, call.combatant = actor.id :=
    fun call member => Tactics.Plan.combatant_of_calls member
  have pick : ((Tactics.plan encounter actor).calls.find? muster.encounter.takes).map Commit.action
      = Tactics.pick encounter actor := congrArg _ (same.find?_takes own)
  obtain ⟨free, acted, before, actions⟩ :=
    Encounter.afterPick_queue own (same.queue.trans present)
  rw [pick, same.afflictions] at free
  rw [pick, fresh, List.nil_append] at actions
  have may : (muster.encounter.afterPick (Tactics.plan encounter actor).calls).MayPass actor.id
      ↔ encounter.MayPass actor.id := by
    rw [Encounter.MayPass, Encounter.afflictionsOf_afterPick, same.afflictions, Encounter.MayPass]
  rw [encounter_carryOut]
  by_cases mayPass : encounter.MayPass actor.id
  · obtain ⟨longer, after, passed, none⟩ := Encounter.afterCall_pass before (may.mpr mayPass)
    rw [actions] at passed
    refine ⟨longer, after, fun _ => ⟨passed, none, ?_⟩, absurd mayPass⟩
    simp [Queue.isSubmitted, none]
  · have refused := mt (Encounter.takes_pass before).mp (mt may.mp mayPass)
    refine ⟨acted, ?_, fun may => absurd may mayPass, fun _ => ⟨actions, fun action member => ?_⟩⟩
    · have unchanged := Encounter.afterCall_refused refused
      exact (congrArg (·.queues.get? actor.id) unchanged).trans before
    -- Whoever must not pass cannot have picked a pass either.
    · rw [actions] at member
      have allowed := free action (Option.mem_toList.mp member)
      intro passes
      rw [passes] at allowed
      exact mayPass allowed

/-- The plans of the others are carried out before and after, and do not matter. -/
theorem foldl_shut {actors : List Combatant} (distinct : (actors.map Combatant.id).Nodup)
    (member : actor ∈ actors) (same : SameFor actor.id muster.encounter encounter)
    (present : encounter.queues.get? actor.id = some queue) (fresh : queue.actions = []) :
    ∃ longer, ((actors.map (Tactics.plan encounter)).foldl carryOut muster).encounter.queues.get?
        actor.id = some longer ∧ Shut encounter actor longer := by
  induction actors generalizing muster with
  | nil => cases member
  | cons first rest ih =>
    obtain ⟨unlisted, distinct⟩ := List.nodup_cons.mp distinct
    rcases List.mem_cons.mp member with rfl | later
    · obtain ⟨longer, found, shut⟩ := carryOut_shut same present fresh
      refine ⟨longer, ?_, shut⟩
      rw [List.map_cons, List.foldl_cons, (foldl_sameFor fun plan listed => ?_).queue]
      · exact found
      · obtain ⟨other, inside, rfl⟩ := List.mem_map.mp listed
        exact fun named => unlisted (List.mem_map.mpr ⟨other, inside, named.symm⟩)
    · have different : actor.id ≠ first.id :=
        fun named => unlisted (named ▸ List.mem_map_of_mem later)
      exact ih distinct later ((carryOut_sameFor different).trans same)

end Muster

/-! ### All plans -/

namespace Tactics

/-- What the tactics leave of an open round: they shut the queues that they steer. -/
structure Shuts (tactics : Tactics) (opened steered : Encounter) : Prop where
  same : steered = { opened with queues := steered.queues }
  others : ∀ id, (∀ actor ∈ opened.living, tactics.steers actor = true → actor.id ≠ id) →
    steered.queues.get? id = opened.queues.get? id
  each : ∀ actor ∈ opened.living, tactics.steers actor = true →
    ∃ queue, steered.queues.get? actor.id = some queue ∧ Muster.Shut opened actor queue

theorem queueAll_shuts (tactics : Tactics) {opened : Encounter} {points : Count}
    (fresh : Encounter.Fresh points opened) (distinct : opened.ids.Nodup) :
    tactics.Shuts opened (tactics.queueAll opened) := by
  refine ⟨tactics.muster_encounter opened, fun id apart => ?_, fun actor living steers => ?_⟩
  · refine (Muster.foldl_sameFor fun plan member => ?_).queue
    obtain ⟨actor, listed, rfl⟩ := List.mem_map.mp member
    obtain ⟨living, steers⟩ := List.mem_filter.mp listed
    exact (apart actor living steers).symm
  · obtain ⟨member, alive⟩ := List.mem_filter.mp living
    have present := fresh.iff.mpr ⟨⟨actor, member, alive, rfl⟩, rfl⟩
    have apart : ((opened.living.filter tactics.steers).map Combatant.id).Nodup :=
      (List.filter_sublist.trans List.filter_sublist).map Combatant.id |>.nodup distinct
    exact Muster.foldl_shut apart (List.mem_filter.mpr ⟨living, steers⟩) (.refl ..) present rfl

end Tactics

/--
Open a round in any encounter whose combatants have distinct names, then leave it to the
tactics: everything is as it was but the queues of the living that they steer.
-/
theorem Encounter.openRound_shut (tactics : Tactics) {before : Encounter}
    (distinct : before.ids.Nodup) (points : Count) :
    Always (fun result => tactics.Shuts result.2 (tactics.queueAll result.2))
      (before.openRound points) := by
  refine ((openRound_opens before points).and (openRound_fresh before points)).mono
    fun result both => ?_
  obtain ⟨opens, fresh⟩ := both
  exact tactics.queueAll_shuts fresh (opens.ids ▸ distinct)

end Fray
