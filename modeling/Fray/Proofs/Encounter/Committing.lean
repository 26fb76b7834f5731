import Fray.Tactics

/-!
# Committing actions

An accepted action goes to the end of the queue of its combatant, and nothing
else changes. So the queues of an open round tell exactly which actions were
accepted since it was opened, for every combatant in the order of acceptance.

## Main results

`commit_cases` says what acceptance means, `Keeps.commit` that the queues keep
the list of accepted actions, and `muster_keeps` that the tactics add to both.
-/

namespace Fray

/-! ### One action -/

/-- An accepted action takes its cost from the points left, and a pass takes them all. -/
theorem Queue.enqueue_eq {action : Action} {queue longer : Queue}
    (accepted : queue.enqueue action = .ok longer) :
    longer = { queue with
      left := if action.kind = .pass then 0 else queue.left - action.kind.cost
      actions := queue.actions ++ [action] } := by
  unfold enqueue at accepted
  split at accepted
  · cases accepted
  next passes =>
    cases accepted
    rw [if_pos passes]
  next acts =>
    split at accepted
    · cases accepted
      exact congrArg (Queue.mk _ _ · _) (if_neg acts).symm
    · cases accepted

/-- An accepted action is of a known kind and goes to the end of the queue. -/
theorem Queue.enqueue_actions {action : Action} {queue longer : Queue}
    (accepted : queue.enqueue action = .ok longer) :
    longer.actions = queue.actions ++ [action] := by
  rw [enqueue_eq accepted]

/-- A queue refuses actions that were never chosen, and those that cost too much. -/
theorem Queue.enqueue_error {queue : Queue} {action : Action} {refusal : Refusal} :
    queue.enqueue action = .error refusal ↔
      (action.kind = .unknown ∧ refusal = .invalidAction queue.combatant) ∨
      (action.kind ≠ .unknown ∧ action.kind ≠ .pass ∧ ¬ action.kind.cost ≤ queue.left ∧
        refusal = .insufficientPoints action.kind.cost queue.left) := by
  unfold enqueue
  split
  next unchosen => simp [unchosen, eq_comm]
  next passes => simp [passes]
  next kind chosen acts =>
    have chosen : action.kind ≠ .unknown := chosen
    have acts : action.kind ≠ .pass := acts
    by_cases affordable : action.kind.cost ≤ queue.left
    · simp [affordable, chosen]
    · simp only [affordable, chosen, acts, if_false, Except.error.injEq, false_and, false_or, ne_eq,
        not_false_eq_true, true_and]
      exact eq_comm

/-- An encounter accepts an action if its combatant has a queue that accepts it. -/
theorem Encounter.commit_cases {encounter committed : Encounter} {id : String} {action : Action}
    (accepted : encounter.commit id action = .ok committed) :
    ∃ queue longer, encounter.queues.get? id = some queue ∧
      (encounter.afflictionsOf id).restriction? action.kind = none ∧
      queue.enqueue action = .ok longer ∧
      committed = { encounter with queues := encounter.queues.insert id longer } := by
  unfold commit at accepted
  split at accepted
  · cases accepted
  next queue present =>
    split at accepted
    · cases accepted
    next free =>
      cases enqueued : queue.enqueue action with
      | error refusal =>
        rw [enqueued] at accepted
        cases accepted
      | ok longer =>
        rw [enqueued] at accepted
        cases accepted
        exact ⟨queue, longer, present, free, enqueued, rfl⟩

/-! ### Accepted actions and queues -/

/-- The accepted actions of one combatant, in order. -/
def Commit.actionsOf (id : String) (commits : List Commit) : List Action :=
  (commits.filter (·.combatant = id)).map Commit.action

theorem Commit.actionsOf_append (id : String) (early late : List Commit) :
    actionsOf id (early ++ late) = actionsOf id early ++ actionsOf id late := by
  simp [actionsOf]

namespace Encounter

/-- The queues keep exactly the accepted actions, and only combatants have a queue. -/
structure Keeps (encounter : Encounter) (commits : List Commit) : Prop where
  actions : ∀ id, ((encounter.queues.get? id).map Queue.actions).getD []
    = Commit.actionsOf id commits
  queued : ∀ commit ∈ commits, encounter.queues.contains commit.combatant = true
  known : ∀ id, encounter.queues.contains id = true →
    id ∈ encounter.combatants.map Combatant.id

theorem Keeps.commit {encounter committed : Encounter} {commits : List Commit} {id : String}
    {action : Action} (keeps : encounter.Keeps commits)
    (accepted : encounter.commit id action = .ok committed) :
    committed.Keeps (commits ++ [⟨id, action⟩]) := by
  obtain ⟨queue, longer, present, _, enqueued, rfl⟩ := commit_cases accepted
  have contained : encounter.queues.contains id = true := by simp [Table.contains, present]
  constructor
  · intro other
    rw [Commit.actionsOf_append, ← keeps.actions other]
    simp only [Table.get?_insert]
    by_cases same : other = id
    · subst same
      simp [present, Queue.enqueue_actions enqueued, Commit.actionsOf]
    · simp [same, Ne.symm same, Commit.actionsOf]
  · intro commit member
    simp only [Table.contains, Table.get?_insert]
    split
    · rfl
    next different =>
      rcases List.mem_append.mp member with old | new
      · exact keeps.queued commit old
      · cases List.mem_singleton.mp new
        exact absurd rfl different
  · intro other inside
    simp only [Table.contains, Table.get?_insert] at inside
    split at inside
    next same => exact same ▸ keeps.known id contained
    · exact keeps.known other inside

end Encounter

/-! ### Tactics -/

/-- An accepted action carries out a plan: it is the action planned, the fallback or the pass. -/
def Commit.Follows (commit : Commit) (plan : Tactics.Plan) : Prop :=
  commit = ⟨plan.combatant, plan.action⟩ ∨
  (∃ target, plan.fallback = some target ∧ commit = ⟨plan.combatant, .attack target⟩) ∨
  commit = ⟨plan.combatant, .pass⟩

namespace Muster

/-- A property that every accepted action keeps. -/
def Stable (property : Muster → Prop) : Prop :=
  ∀ muster committed id action, muster.encounter.commit id action = .ok committed →
    property muster → property ⟨committed, muster.commits ++ [⟨id, action⟩]⟩

theorem attempt_keeps {property : Muster → Prop} (stable : Stable property) (muster : Muster)
    (id : String) (action : Action) (holds : property muster) :
    property (muster.attempt id action) := by
  unfold attempt
  split
  next committed accepted => exact stable _ _ _ _ accepted holds
  · exact holds

theorem carryOut_keeps {property : Muster → Prop} (stable : Stable property) (muster : Muster)
    (plan : Tactics.Plan) (holds : property muster) : property (muster.carryOut plan) := by
  refine attempt_keeps stable _ _ _ ?_
  split
  next committed accepted => exact stable _ _ _ _ accepted holds
  · exact attempt_keeps stable _ _ _ holds
  · exact holds

theorem foldl_keeps {property : Muster → Prop} (stable : Stable property)
    (plans : List Tactics.Plan) {muster : Muster} (holds : property muster) :
    property (plans.foldl carryOut muster) := by
  induction plans generalizing muster with
  | nil => exact holds
  | cons plan rest ih => exact ih (muster.carryOut_keeps stable plan holds)

theorem attempt_commits (muster : Muster) (id : String) (action : Action) :
    ∀ commit ∈ (muster.attempt id action).commits,
      commit ∈ muster.commits ∨ commit = ⟨id, action⟩ := by
  intro commit member
  unfold attempt at member
  split at member
  · simpa using member
  · exact .inl member

theorem carryOut_commits (muster : Muster) (plan : Tactics.Plan) :
    ∀ commit ∈ (muster.carryOut plan).commits, commit ∈ muster.commits ∨ commit.Follows plan := by
  intro commit member
  rcases attempt_commits _ _ _ commit member with acted | passed
  · split at acted
    · rcases List.mem_append.mp acted with old | new
      · exact .inl old
      · exact .inr (.inl (List.mem_singleton.mp new))
    next target _ fallback =>
      rcases attempt_commits _ _ _ commit acted with old | new
      · exact .inl old
      · exact .inr (.inr (.inl ⟨target, fallback, new⟩))
    · exact .inl acted
  · exact .inr (.inr (.inr passed))

end Muster

namespace Tactics

/-- Steering changes an encounter by accepted actions only. -/
theorem muster_induction (property : Muster → Prop) (stable : Muster.Stable property)
    (tactics : Tactics) (encounter : Encounter) (start : property ⟨encounter, []⟩) :
    property (tactics.muster encounter) :=
  Muster.foldl_keeps stable _ start

/-- Whatever the tactics commit carries out the plan of somebody alive. -/
theorem muster_commits (tactics : Tactics) (encounter : Encounter) :
    ∀ commit ∈ (tactics.muster encounter).commits,
      ∃ actor ∈ encounter.living, commit.Follows (plan encounter actor) := by
  have living : ∀ actor ∈ encounter.living.filter tactics.steers, actor ∈ encounter.living :=
    fun actor member => (List.mem_filter.mp member).1
  have start : ∀ commit ∈ (⟨encounter, []⟩ : Muster).commits,
      ∃ actor ∈ encounter.living, commit.Follows (plan encounter actor) :=
    fun _ member => nomatch member
  unfold muster
  generalize encounter.living.filter tactics.steers = actors at living
  generalize (⟨encounter, []⟩ : Muster) = initial at start
  induction actors generalizing initial with
  | nil => exact start
  | cons actor rest ih =>
    obtain ⟨alive, others⟩ := List.forall_mem_cons.mp living
    refine ih others _ fun commit member => ?_
    rcases Muster.carryOut_commits _ _ commit member with old | follows
    · exact start commit old
    · exact ⟨actor, alive, follows⟩

/-- Steering changes nothing but the queues. -/
theorem muster_encounter (tactics : Tactics) (encounter : Encounter) :
    (tactics.muster encounter).encounter
      = { encounter with queues := (tactics.muster encounter).encounter.queues } := by
  refine muster_induction
    (fun muster => muster.encounter = { encounter with queues := muster.encounter.queues })
    ?_ tactics encounter rfl
  intro muster committed id action accepted same
  obtain ⟨_, _, _, _, _, rfl⟩ := Encounter.commit_cases accepted
  rw [same]

/-- What the tactics commit is what the encounter accepts, one action after another. -/
theorem muster_replays (tactics : Tactics) (encounter : Encounter) :
    (tactics.muster encounter).commits.foldlM
        (fun current commit => current.commit commit.combatant commit.action) encounter
      = .ok (tactics.muster encounter).encounter := by
  refine muster_induction (fun muster => muster.commits.foldlM
    (fun current commit => current.commit commit.combatant commit.action) encounter
      = .ok muster.encounter) ?_ tactics encounter rfl
  intro muster committed id action accepted replayed
  rw [List.foldlM_append, replayed]
  show (muster.encounter.commit id action >>= pure) = .ok committed
  rw [accepted]
  rfl

theorem muster_keeps (tactics : Tactics) {encounter : Encounter} (keeps : encounter.Keeps []) :
    (tactics.muster encounter).encounter.Keeps (tactics.muster encounter).commits :=
  muster_induction (fun muster => muster.encounter.Keeps muster.commits)
    (fun _ _ _ _ accepted keeps => keeps.commit accepted) tactics encounter keeps

end Tactics

end Fray
