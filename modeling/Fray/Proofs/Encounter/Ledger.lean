import Fray.Proofs.Encounter.Coverage

/-!
# Queues as ledgers of action points

A queue is two views of the same round, the points that are left and the actions that
were accepted, and both change with every accepted action. From a fresh queue on they
stay in step, whatever is attempted: as long as nobody passed the points left are those
of the queue less the costs of its actions, and after a pass there are none.

## Main results

`InStep.enqueue`: an accepted action keeps both views in step. `attemptAll_settles`: what
a fresh queue has accepted and what it will refuse, after any row of attempts.
-/

namespace Fray

/-- Every chosen kind but a pass takes points. -/
theorem ActionKind.cost_pos {kind : ActionKind} (chosen : kind ≠ .unknown)
    (acts : kind ≠ .pass) : 0 < kind.cost.toNat := by
  cases kind with
  | unknown => contradiction
  | pass => contradiction
  | attack | strike | reload | burst | automatic | throw => decide

namespace Queue

/-! ### Attempts -/

/-- The queue after an attempt to commit an action; a refused one leaves it as it is. -/
def attempt (queue : Queue) (action : Action) : Queue :=
  match queue.enqueue action with
  | .ok longer => longer
  | .error _ => queue

def attemptAll (queue : Queue) (attempts : List Action) : Queue := attempts.foldl attempt queue

/-- Those of a row of attempts that are accepted, in order. -/
def acceptedOf (queue : Queue) : List Action → List Action
  | [] => []
  | action :: rest =>
    match queue.enqueue action with
    | .ok longer => action :: longer.acceptedOf rest
    | .error _ => queue.acceptedOf rest

/-- Why a queue refuses an action. -/
def Declines (queue : Queue) (action : Action) : Prop :=
  action.kind = .unknown ∨ action.kind ≠ .pass ∧ queue.left < action.kind.cost

variable {queue longer : Queue} {action : Action}

theorem attempt_of_ok (accepted : queue.enqueue action = .ok longer) :
    queue.attempt action = longer := by
  simp only [attempt, accepted]

theorem attempt_of_error {refusal : Refusal} (refused : queue.enqueue action = .error refusal) :
    queue.attempt action = queue := by
  simp only [attempt, refused]

theorem declines_iff :
    queue.Declines action ↔ ∃ refusal, queue.enqueue action = .error refusal := by
  simp only [Declines, enqueue_error, Count.lt_iff, Count.le_iff, Nat.not_le]
  constructor
  · rintro (unchosen | ⟨acts, dear⟩)
    · exact ⟨_, .inl ⟨unchosen, rfl⟩⟩
    · refine ⟨_, .inr ⟨fun unchosen => ?_, acts, dear, rfl⟩⟩
      -- The unknown kind costs nothing.
      rw [unchosen] at dear
      exact absurd dear (Nat.not_lt_zero _)
  · rintro ⟨refusal, ⟨unchosen, _⟩ | ⟨_, acts, dear, _⟩⟩
    · exact .inl unchosen
    · exact .inr ⟨acts, dear⟩

/-- A refused attempt changes nothing, and an accepted one adds its action. -/
theorem declines_iff_attempt : queue.Declines action ↔ queue.attempt action = queue := by
  rw [declines_iff]
  constructor
  · rintro ⟨refusal, refused⟩
    exact attempt_of_error refused
  · intro same
    cases answered : queue.enqueue action with
    | error refusal => exact ⟨refusal, rfl⟩
    | ok longer =>
      rw [attempt_of_ok answered] at same
      have added := enqueue_actions answered
      rw [same] at added
      exact absurd (congrArg List.length added) (by simp)

/-- The queue has its actions and those of the attempts that it accepted. -/
theorem attemptAll_actions (queue : Queue) (attempts : List Action) :
    (queue.attemptAll attempts).actions = queue.actions ++ queue.acceptedOf attempts := by
  induction attempts generalizing queue with
  | nil => simp [attemptAll, acceptedOf]
  | cons action rest ih =>
    simp only [attemptAll, List.foldl_cons] at ih ⊢
    rw [ih, acceptedOf]
    cases answered : queue.enqueue action with
    | ok longer =>
      rw [attempt_of_ok answered, enqueue_actions answered, List.append_assoc]
      rfl
    | error refusal => rw [attempt_of_error answered]

/-! ### Points and actions in step -/

/-- The points left and the actions of a queue tell the same story. -/
structure InStep (queue : Queue) : Prop where
  balanced : queue.Balanced
  chosen : ∀ action ∈ queue.actions, action.kind ≠ .unknown
  exact : (∀ action ∈ queue.actions, action.kind ≠ .pass) →
    queue.left.toNat + queue.spent = queue.points.toNat
  final : ∀ early pass late, queue.actions = early ++ pass :: late → pass.kind = .pass →
    ∀ action ∈ late, action.kind = .pass

theorem inStep_fresh (combatant : String) (points : Count) : (fresh combatant points).InStep where
  balanced := balanced_fresh combatant points
  chosen := by simp [fresh]
  exact := by simp [fresh, spent]
  final := by simp [fresh]

/-- Whoever has passed has no points left, and all that comes after it is a pass again. -/
theorem InStep.closed (inStep : queue.InStep) {early late : List Action} {pass : Action}
    (actions : queue.actions = early ++ pass :: late) (passes : pass.kind = .pass) :
    queue.left = 0 := by
  apply inStep.balanced.closed pass _ passes
  rw [actions]
  exact List.mem_append_right early List.mem_cons_self

/-- An action that is accepted after a pass is a pass. -/
theorem InStep.passes_of_closed (inStep : queue.InStep)
    (accepted : queue.enqueue action = .ok longer) {early late : List Action} {pass : Action}
    (actions : queue.actions = early ++ pass :: late) (passes : pass.kind = .pass) :
    action.kind = .pass := by
  by_contra acts
  have declines : ¬ queue.Declines action := by
    rw [declines_iff, accepted]
    simp
  have chosen : action.kind ≠ .unknown := fun unchosen => declines (.inl unchosen)
  have dear : queue.left < action.kind.cost := by
    rw [inStep.closed actions passes]
    exact ActionKind.cost_pos chosen acts
  exact declines (.inr ⟨acts, dear⟩)

/-- An accepted action is paid for exactly, and only passes follow a pass. -/
theorem InStep.enqueue (inStep : queue.InStep) (accepted : queue.enqueue action = .ok longer) :
    longer.InStep := by
  have added := enqueue_actions accepted
  have declines : ¬ queue.Declines action := by
    rw [declines_iff, accepted]
    simp
  obtain ⟨balanced, points⟩ := inStep.balanced.enqueue accepted
  constructor
  · exact balanced
  · rw [added]
    intro other member
    rcases List.mem_append.mp member with old | new
    · exact inStep.chosen other old
    · cases List.mem_singleton.mp new
      exact fun unchosen => declines (.inl unchosen)
  · rw [added, points]
    intro acts
    have actsNow := acts action (List.mem_append_right _ List.mem_cons_self)
    have before := inStep.exact fun other old => acts other (List.mem_append_left _ old)
    have affordable : action.kind.cost.toNat ≤ queue.left.toNat :=
      Nat.not_lt.mp fun dear => declines (.inr ⟨actsNow, dear⟩)
    rw [enqueue_eq accepted, spent_append, if_neg actsNow, Count.toNat_sub]
    omega
  · intro early pass late actions passes
    rw [added] at actions
    -- The new action is the last one, so what was there before it is a shorter queue.
    rcases List.eq_nil_or_concat late with rfl | ⟨shorter, last, rfl⟩
    · simp
    · rw [List.concat_eq_append, ← List.cons_append, ← List.append_assoc] at actions
      obtain ⟨before, same⟩ := List.append_inj' actions rfl
      cases same
      intro other member
      rw [List.concat_eq_append] at member
      rcases List.mem_append.mp member with old | new
      · exact inStep.final early pass shorter before passes other old
      · cases List.mem_singleton.mp new
        exact inStep.passes_of_closed accepted before passes

/-- Whatever is attempted, points and actions stay in step, and the queue is its owner's. -/
theorem InStep.attemptAll (inStep : queue.InStep) (attempts : List Action) :
    (queue.attemptAll attempts).InStep ∧ (queue.attemptAll attempts).combatant = queue.combatant ∧
      (queue.attemptAll attempts).points = queue.points := by
  induction attempts generalizing queue with
  | nil => exact ⟨inStep, rfl, rfl⟩
  | cons action rest ih =>
    simp only [Queue.attemptAll, List.foldl_cons] at ih ⊢
    cases answered : queue.enqueue action with
    | error refusal =>
      rw [attempt_of_error answered]
      exact ih inStep
    | ok longer =>
      rw [attempt_of_ok answered]
      obtain ⟨still, owner, points⟩ := ih (inStep.enqueue answered)
      have same := enqueue_eq answered
      refine ⟨still, owner.trans ?_, points.trans ?_⟩
      · rw [same]
      · rw [same]

/-! ### Whole rows of attempts -/

/-- What is known of a queue with a budget of points that has accepted some actions. -/
structure Settles (combatant : String) (budget : Count) (accepted : List Action)
    (queue : Queue) : Prop where
  combatant : queue.combatant = combatant
  points : queue.points = budget
  actions : queue.actions = accepted
  chosen : ∀ action ∈ accepted, action.kind ≠ .unknown
  exact : (∀ action ∈ accepted, action.kind ≠ .pass) →
    queue.left.toNat + (accepted.map fun action => action.kind.cost.toNat).sum = budget.toNat
  final : ∀ early pass late, accepted = early ++ pass :: late → pass.kind = .pass →
    queue.left = 0 ∧ (accepted.map fun action => action.kind.cost.toNat).sum ≤ budget.toNat ∧
      ∀ action ∈ late, action.kind = .pass
  refuses : ∀ action, (∃ refusal, queue.enqueue action = .error refusal) ↔
    action.kind = .unknown ∨ action.kind ≠ .pass ∧ queue.left < action.kind.cost
  unchanged : ∀ action, queue.attempt action = queue ↔
    action.kind = .unknown ∨ action.kind ≠ .pass ∧ queue.left < action.kind.cost
  submitted : queue.isSubmitted = true ↔ queue.left = 0
  exhausted : queue.hasPoints = false ↔ queue.left = 0

/-- Points that are left can still be spent. -/
theorem InStep.hasPoints_iff (inStep : queue.InStep) :
    queue.hasPoints = false ↔ queue.left = 0 := by
  have submitted := inStep.balanced.isSubmitted_iff
  rw [hasPoints, Bool.and_eq_false_iff, Bool.not_eq_false', submitted, decide_eq_false_iff_not]
  refine ⟨fun either => ?_, .inr⟩
  rcases either with few | none
  · rw [Count.lt_iff] at few
    exact Count.ext (Nat.eq_zero_of_not_pos few)
  · exact none

theorem InStep.settles (inStep : queue.InStep) :
    queue.Settles queue.combatant queue.points queue.actions where
  combatant := rfl
  points := rfl
  actions := rfl
  chosen := inStep.chosen
  exact := inStep.exact
  final early pass late cut passes := by
    have costs : queue.spent ≤ queue.points.toNat :=
      Nat.le_trans (Nat.le_add_right _ _) inStep.balanced.paid
    exact ⟨inStep.closed cut passes, costs, inStep.final early pass late cut passes⟩
  refuses _ := declines_iff.symm
  unchanged _ := declines_iff_attempt.symm
  submitted := inStep.balanced.isSubmitted_iff
  exhausted := inStep.hasPoints_iff

/--
Attempt any actions, one after the other, on a fresh queue with a budget of points. Then
its actions are those that were accepted, in order, and none of them was never chosen.
Without a pass the points left and the costs of the actions make up the budget. With one
there are no points left, the costs are no more than the budget, and only passes come
after the first pass. What is refused next, with no change to the queue, is exactly what
was never chosen or is no pass and costs more than is left. The queue is submitted just if
it has no points left, and has points just if it is not submitted.
-/
theorem attemptAll_settles (combatant : String) (budget : Count) (attempts : List Action) :
    ((fresh combatant budget).attemptAll attempts).Settles combatant budget
      ((fresh combatant budget).acceptedOf attempts) := by
  obtain ⟨inStep, owner, points⟩ := (inStep_fresh combatant budget).attemptAll attempts
  have actions : _ = (fresh combatant budget).acceptedOf attempts :=
    attemptAll_actions (fresh combatant budget) attempts
  have settles := inStep.settles
  rwa [owner, points, actions] at settles

end Queue

end Fray
