import Fray.Proofs.Death
import Fray.Proofs.Dying.Hits
import Fray.Proofs.Encounter.Submitted
import Fray.Proofs.Tables

/-!
# Queues of an open round

From the opening of a round to the next one, exactly those have a queue who were alive
when it was opened. A queue has the points of the opening, less those that stunned
stacks took at that time; what it has accepted costs no more than these, and none of it
was forbidden by a condition when it was accepted.

## Main results

`Queue.Balanced.enqueue`: an accepted action is paid for. `Since.queues_cover` puts all that
is known of the queues of an open round together, for any of its later states: after any
requests but another opening, whether or not an action is accepted.
-/

namespace Fray

open Draws

/-! ### Single queues -/

namespace Queue

/-- What the actions of a queue cost. -/
def spent (queue : Queue) : Nat := (queue.actions.map fun action => action.kind.cost.toNat).sum

/-- The actions and the points left make up no more than all points, and a pass leaves none. -/
structure Balanced (queue : Queue) : Prop where
  paid : queue.spent + queue.left.toNat ≤ queue.points.toNat
  closed : ∀ action ∈ queue.actions, action.kind = .pass → queue.left = 0

theorem balanced_fresh (combatant : String) (points : Count) :
    (fresh combatant points).Balanced where
  paid := by simp [fresh, spent]
  closed := by simp [fresh]

theorem spent_append (queue : Queue) (left : Count) (action : Action) :
    spent { queue with left := left, actions := queue.actions ++ [action] }
      = queue.spent + action.kind.cost.toNat := by
  simp [spent]

theorem Balanced.enqueue {queue longer : Queue} {action : Action} (balanced : queue.Balanced)
    (accepted : queue.enqueue action = .ok longer) :
    longer.Balanced ∧ longer.points = queue.points := by
  have paid := balanced.paid
  have free : ActionKind.pass.cost.toNat = 0 := rfl
  have none : (0 : Count).toNat = 0 := rfl
  unfold Queue.enqueue at accepted
  split at accepted
  · cases accepted
  next passes =>
    cases accepted
    refine ⟨⟨?_, fun _ _ _ => rfl⟩, rfl⟩
    rw [spent_append, passes, free]
    show _ + (0 : Count).toNat ≤ queue.points.toNat
    omega
  next passesNot =>
    split at accepted
    next affordable =>
      cases accepted
      refine ⟨⟨?_, fun other member pass => ?_⟩, rfl⟩
      · rw [spent_append]
        show _ + (queue.left - action.kind.cost).toNat ≤ queue.points.toNat
        rw [Count.le_iff] at affordable
        rw [Count.toNat_sub]
        omega
      · rcases List.mem_append.mp member with old | new
        -- After a pass there is nothing left that could be taken.
        · have left := balanced.closed other old pass
          ext
          show (queue.left - action.kind.cost).toNat = 0
          rw [Count.toNat_sub, left, none]
          omega
        · cases List.mem_singleton.mp new
          exact absurd pass passesNot
    · cases accepted

theorem Balanced.isSubmitted_iff {queue : Queue} (balanced : queue.Balanced) :
    queue.isSubmitted = true ↔ queue.left = 0 := by
  simp only [isSubmitted, Bool.or_eq_true, decide_eq_true_eq, List.any_eq_true]
  refine ⟨fun either => ?_, Or.inl⟩
  rcases either with none | ⟨action, member, pass⟩
  · exact none
  · exact balanced.closed action member pass

end Queue

/-- No condition of the set forbids a kind of action that is not restricted. -/
theorem Afflictions.restricts_of_restriction? {set : Afflictions} {kind : ActionKind}
    (free : set.restriction? kind = none) {id : String} {affliction : Affliction}
    (found : set.get? id = some affliction) : affliction.condition.restricts kind = false := by
  have absent := Option.map_eq_none_iff.mp free
  have member : affliction ∈ set.values :=
    List.mem_map.mpr ⟨_, Table.mem_entries.mpr found, rfl⟩
  simpa using List.find?_eq_none.mp absent affliction member

namespace Encounter

/-! ### Open rounds -/

/-- An action with the encounter by which it was accepted. -/
structure Acceptance where
  encounter : Encounter
  commit : Commit

/-- What comes after the opening of a round and before the next, with what was accepted. -/
inductive Since (opened : Encounter) : List Acceptance → Encounter → Prop
  | opened : Since opened [] opened
  | accepted {history : List Acceptance} {current committed : Encounter} {id : String}
      {action : Action} (since : Since opened history current)
      (accepts : current.commit id action = .ok committed) :
      Since opened (history ++ [⟨current, ⟨id, action⟩⟩]) committed
  | refused {history : List Acceptance} {current : Encounter} {id : String} {action : Action}
      {refusal : Refusal} (since : Since opened history current)
      (refuses : current.commit id action = .error refusal) : Since opened history current
  | answered {history : List Acceptance} {current : Encounter}
      (since : Since opened history current) {request : Request}
      (aside : request.fillsQueues = false) {σ : Type} [RandomSource σ] (source : σ) :
      Since opened history ((current.answer request).run source).1
  | markedOver {history : List Acceptance} {current : Encounter}
      (since : Since opened history current) : Since opened history current.markOver

variable {opened encounter : Encounter} {history : List Acceptance}

/-- What accepted actions keep, and everything else that leaves the queues, lasts for the round. -/
theorem Since.induction (since : Since opened history encounter)
    (property : List Acceptance → Encounter → Prop) (start : property [] opened)
    (accept : ∀ earlier current committed id action, current.commit id action = .ok committed →
      property earlier current → property (earlier ++ [⟨current, ⟨id, action⟩⟩]) committed)
    (leave : ∀ earlier current after,
      after.combatants.map Combatant.person = current.combatants.map Combatant.person →
        KeepsDead current after → after.queues = current.queues →
          property earlier current → property earlier after) :
    property history encounter := by
  induction since with
  | opened => exact start
  | accepted since accepts ih => exact accept _ _ _ _ _ accepts ih
  | refused since refuses ih => exact ih
  | @answered earlier current since request aside σ _ source ih =>
    apply leave earlier current _ _ _ _ ih
    · exact ((answer_same current request).run source).persons
    · exact (answer_keepsDead current request).run source
    · exact (answer_queues current aside).run source
  | @markedOver earlier current since ih => exact leave earlier current _ rfl (.of_same rfl) rfl ih

/-- Nobody comes back to life in an open round. -/
theorem Since.stands (since : Since opened history encounter) :
    encounter.combatants.map Combatant.person = opened.combatants.map Combatant.person ∧
      KeepsDead opened encounter := by
  apply since.induction (fun _ current =>
    current.combatants.map Combatant.person = opened.combatants.map Combatant.person ∧
      KeepsDead opened current)
  · exact ⟨rfl, .refl opened⟩
  · intro _ current committed id action accepts stands
    obtain ⟨_, _, _, _, _, rfl⟩ := commit_cases accepts
    exact stands
  · intro _ current after persons keeps _ stands
    exact ⟨persons.trans stands.1, stands.2.trans keeps⟩

/-- The queues are those of the opening, with their points, and everything in them is paid for. -/
theorem Since.queues (since : Since opened history encounter)
    (start : ∀ id queue, opened.queues.get? id = some queue → queue.Balanced) (id : String) :
    (encounter.queues.get? id).map Queue.points = (opened.queues.get? id).map Queue.points ∧
      ∀ queue, encounter.queues.get? id = some queue → queue.Balanced := by
  apply since.induction (fun _ current =>
    (current.queues.get? id).map Queue.points = (opened.queues.get? id).map Queue.points ∧
      ∀ queue, current.queues.get? id = some queue → queue.Balanced)
  · exact ⟨rfl, start id⟩
  · intro _ current committed name action accepts known
    obtain ⟨queue, longer, present, _, enqueued, rfl⟩ := commit_cases accepts
    simp only [Table.get?_insert]
    split
    -- Only the queue of the action is another one now.
    next same =>
      subst same
      obtain ⟨points, balanced⟩ := known
      obtain ⟨still, full⟩ := (balanced queue present).enqueue enqueued
      rw [present, Option.map_some] at points
      refine ⟨?_, fun other equal => ?_⟩
      · rw [Option.map_some, full, points]
      · cases equal
        exact still
    · exact known
  · intro _ current after _ _ queues known
    rw [queues]
    exact known

/-- The queues hold what was accepted. -/
theorem Since.keeps (since : Since opened history encounter) (start : opened.Keeps []) :
    encounter.Keeps (history.map Acceptance.commit) := by
  apply since.induction (fun earlier current =>
    current.Keeps (earlier.map Acceptance.commit))
  · exact start
  -- The new action is the last one both of its queue and of the history.
  · intro earlier current committed id action accepts keeps
    rw [List.map_append]
    exact keeps.commit accepts
  · intro earlier current after persons _ queues keeps
    exact keeps.of_same queues (ids_of_persons persons)

/-- Nothing was accepted that a condition forbade at the time. -/
theorem Since.free (since : Since opened history encounter) :
    ∀ acceptance ∈ history, ∀ condition affliction,
      acceptance.encounter.affliction? acceptance.commit.combatant condition = some affliction →
        affliction.condition.restricts acceptance.commit.action.kind = false := by
  apply since.induction (fun earlier _ => ∀ acceptance ∈ earlier,
    ∀ condition affliction,
      acceptance.encounter.affliction? acceptance.commit.combatant condition = some affliction →
        affliction.condition.restricts acceptance.commit.action.kind = false)
  · simp
  · intro earlier current committed id action accepts free acceptance member
    rcases List.mem_append.mp member with old | new
    · exact free acceptance old
    -- The conditions were looked up in the encounter that accepted the action.
    · cases List.mem_singleton.mp new
      obtain ⟨_, _, _, allowed, _, _⟩ := commit_cases accepts
      intro condition affliction found
      exact Afflictions.restricts_of_restriction? allowed found
  · intro _ _ _ _ _ _ free
    exact free

/-! ### Openings -/

/-- A fresh queue belongs to somebody alive and has the points that stunned stacks leave. -/
theorem freshQueues_iff {combatants : List Combatant} {afflictions : Table Afflictions}
    {points : Count} {id : String} {queue : Queue} :
    (freshQueues combatants afflictions points).get? id = some queue ↔
      (∃ combatant ∈ combatants, combatant.isAlive = true ∧ combatant.id = id) ∧
        queue = .fresh id
          (points - (afflictions.conditionsOf id).stackOf Condition.stunned.id) := by
  have lost (name : String) : ((afflictions.get? name).map Afflictions.lostPoints).getD 0
      = (afflictions.conditionsOf name).stackOf Condition.stunned.id := by
    unfold Table.conditionsOf
    cases afflictions.get? name <;> rfl
  constructor
  · intro present
    obtain ⟨combatant, listed, entry⟩ := List.mem_map.mp (Table.mem_of_get?_ofList present)
    obtain ⟨member, alive⟩ := List.mem_filter.mp listed
    obtain ⟨rfl, rfl⟩ := Prod.mk.inj entry
    exact ⟨⟨combatant, member, alive, rfl⟩, by rw [lost]⟩
  · rintro ⟨⟨combatant, member, alive, rfl⟩, rfl⟩
    rw [freshQueues_living member alive, lost]

/-- The queues are as an opening with some points leaves them. -/
structure Fresh (points : Count) (opened : Encounter) : Prop where
  keeps : opened.Keeps []
  queues : opened.queues = freshQueues opened.combatants opened.afflictions points

theorem openRound_fresh (before : Encounter) (points : Count) :
    Always (fun result => Fresh points result.2) (before.openRound points) := by
  have opens := openRound_opens before points
  unfold openRound at opens ⊢
  rw [always_bind] at opens ⊢
  exact opens.mono fun _ opens => ⟨opens.keeps, rfl⟩

section Fresh

variable {points : Count}

theorem Fresh.iff (fresh : Fresh points opened) {id : String} {queue : Queue} :
    opened.queues.get? id = some queue ↔
      (∃ combatant ∈ opened.combatants, combatant.isAlive = true ∧ combatant.id = id) ∧
        queue = .fresh id (points - (opened.afflictionsOf id).stackOf Condition.stunned.id) := by
  rw [fresh.queues]
  exact freshQueues_iff

theorem Fresh.balanced (fresh : Fresh points opened) (id : String) (queue : Queue)
    (present : opened.queues.get? id = some queue) : queue.Balanced := by
  obtain ⟨_, rfl⟩ := fresh.iff.mp present
  exact Queue.balanced_fresh ..

/-- Exactly those have a queue who were alive right after the opening. -/
theorem Since.queued (since : Since opened history encounter) (fresh : Fresh points opened)
    (id : String) :
    encounter.queues.contains id = true ↔
      ∃ combatant ∈ opened.combatants, combatant.isAlive = true ∧ combatant.id = id := by
  have same := congrArg Option.isSome (since.queues fresh.balanced id).1
  rw [Option.isSome_map, Option.isSome_map] at same
  rw [Table.contains, same, Option.isSome_iff_exists]
  simp only [fresh.iff, exists_and_left, exists_eq, and_true]

/-- Whoever is alive now was alive at the opening, under the same name. -/
theorem Since.living (since : Since opened history encounter) (fresh : Fresh points opened)
    {combatant : Combatant} (member : combatant ∈ encounter.combatants)
    (alive : combatant.isAlive = true) : encounter.queues.contains combatant.id = true := by
  obtain ⟨persons, keeps⟩ := since.stands
  have listed : encounter.living.any (·.id = combatant.id) = true :=
    List.any_eq_true.mpr ⟨combatant, List.mem_filter.mpr ⟨member, alive⟩, by simp⟩
  -- Nobody was dead at the opening who lives now.
  have before := keeps.any_living persons (fun _ => rfl) listed
  obtain ⟨old, inside, named⟩ := List.any_eq_true.mp before
  obtain ⟨there, stood⟩ := List.mem_filter.mp inside
  exact (since.queued fresh combatant.id).mpr ⟨old, there, stood, by simpa using named⟩

theorem Since.lessStunned (since : Since opened history encounter) (fresh : Fresh points opened)
    {id : String} {queue : Queue} (present : encounter.queues.get? id = some queue) :
    queue.points = points - (opened.afflictionsOf id).stackOf Condition.stunned.id := by
  have same := (since.queues fresh.balanced id).1
  rw [present, Option.map_some] at same
  obtain ⟨first, there, equal⟩ := Option.map_eq_some_iff.mp same.symm
  obtain ⟨_, rfl⟩ := fresh.iff.mp there
  exact equal.symm

/-- A combatant has submitted just if its queue has no points left. -/
theorem Since.allSubmitted_iff (since : Since opened history encounter)
    (fresh : Fresh points opened) :
    encounter.allSubmitted = true ↔
      ∀ combatant ∈ encounter.combatants, combatant.isAlive = true →
        ∃ queue, encounter.queues.get? combatant.id = some queue ∧ queue.left = 0 := by
  have balanced (id : String) := (since.queues fresh.balanced id).2
  rw [allSubmitted, List.all_eq_true]
  constructor
  · intro all combatant member alive
    have submitted := all combatant (List.mem_filter.mpr ⟨member, alive⟩)
    cases present : encounter.queues.get? combatant.id with
    | none => simp [present] at submitted
    | some queue =>
      rw [present, Option.any_some] at submitted
      exact ⟨queue, rfl, (balanced _ queue present).isSubmitted_iff.mp submitted⟩
  · intro all combatant listed
    obtain ⟨member, alive⟩ := List.mem_filter.mp listed
    obtain ⟨queue, present, none⟩ := all combatant member alive
    rw [present, Option.any_some]
    exact (balanced _ queue present).isSubmitted_iff.mpr none

end Fresh

/-- What is known of the queues of a round that was opened with some points. -/
structure Covers (points : Count) (opened : Encounter) (history : List Acceptance)
    (encounter : Encounter) : Prop where
  living : ∀ combatant ∈ encounter.combatants, combatant.isAlive = true →
    encounter.queues.contains combatant.id = true
  queued : ∀ id, encounter.queues.contains id = true ↔
    ∃ combatant ∈ opened.combatants, combatant.isAlive = true ∧ combatant.id = id
  points : ∀ id queue, encounter.queues.get? id = some queue →
    queue.points.toNat
      = points.toNat - ((opened.afflictionsOf id).stackOf Condition.stunned.id).toNat
  costs : ∀ id queue, encounter.queues.get? id = some queue →
    (queue.actions.map fun action => action.kind.cost.toNat).sum ≤ queue.points.toNat
  actions : ∀ id queue, encounter.queues.get? id = some queue →
    queue.actions = Commit.actionsOf id (history.map Acceptance.commit)
  free : ∀ acceptance ∈ history, ∀ condition affliction,
    acceptance.encounter.affliction? acceptance.commit.combatant condition = some affliction →
      affliction.condition.restricts acceptance.commit.action.kind = false
  submitted : encounter.allSubmitted = true ↔
    ∀ combatant ∈ encounter.combatants, combatant.isAlive = true →
      ∃ queue, encounter.queues.get? combatant.id = some queue ∧ queue.left = 0

/--
Open a round with some points, in any encounter and with any source, and let anything
happen but the opening of another. Then everybody alive has a queue, and exactly those
have one who were alive right after the opening. The points of a queue are those of the
opening less the stunned stacks that its combatant had then, and its actions cost no
more than these; they are the ones that were accepted, and when they were, no condition
of the combatant restricted their kind. Everybody has submitted just if everybody alive
has no points left.
-/
theorem Since.queues_cover {before : Encounter} {points : Count} {σ : Type} [RandomSource σ]
    {source : σ}
    (since : Since ((before.openRound points).run source).1.2 history encounter) :
    Covers points ((before.openRound points).run source).1.2 history encounter := by
  have fresh := (openRound_fresh before points).run source
  constructor
  · exact fun combatant member alive => since.living fresh member alive
  · exact since.queued fresh
  · intro id queue present
    rw [since.lessStunned fresh present, Count.toNat_sub]
  · intro id queue present
    have paid := ((since.queues fresh.balanced id).2 queue present).paid
    exact Nat.le_trans (Nat.le_add_right _ _) paid
  · intro id queue present
    have kept := (since.keeps fresh.keeps).actions id
    rwa [present, Option.map_some, Option.getD_some] at kept
  · exact since.free
  · exact since.allSubmitted_iff fresh

/-! ### A dazed player -/

def sampleStreet : Setup :=
  { room := "cellar"
    zone := "house"
    combatants := [
      { id := "ann", name := "Ann", side := .player, maxHp := 6, hp := 6, armorClass := 12 },
      { id := "rat", name := "Rat", side := .npc, maxHp := 3, hp := 3, armorClass := 9 }] }

/-- Ann is stunned before the first round. -/
def sampleDazed : Encounter :=
  ((play [.afflict "ann" "stunned" 1 (some 5)] (begin sampleStreet)).run (⟨15⟩ : Fixed)).1

/-- The round of a dazed Ann. -/
def sampleMorning : Encounter := ((sampleDazed.openRound 3).run (⟨15⟩ : Fixed)).1.2

def sampleSwung : Encounter :=
  sampleMorning.orKeep (sampleMorning.commit "ann" (.strike "Rat"))

def sampleFelled : Encounter := ((sampleSwung.answer .resolve).run (⟨15⟩ : Fixed)).1

theorem sampleFelled_since :
    Since sampleMorning [⟨sampleMorning, ⟨"ann", .strike "Rat"⟩⟩] sampleFelled := by
  have accepted : (sampleMorning.commit "ann" (.strike "Rat")).isOk = true := by decide +kernel
  have accepts : sampleMorning.commit "ann" (.strike "Rat") = .ok sampleSwung := by
    unfold sampleSwung
    cases answered : sampleMorning.commit "ann" (.strike "Rat") with
    | ok committed => rfl
    | error refusal => rw [answered] at accepted; cases accepted
  have struck : Since sampleMorning [⟨sampleMorning, ⟨"ann", .strike "Rat"⟩⟩] sampleSwung :=
    Since.opened.accepted accepts
  exact struck.answered rfl (⟨15⟩ : Fixed)

/-- Ann strikes for all the points that she has, and the rat is dead but keeps its queue. -/
theorem queues_cover_sample :
    (∃ history, Since sampleMorning history sampleFelled ∧
      Covers 3 sampleMorning history sampleFelled) ∧
    sampleFelled.living.map Combatant.id = ["ann"] ∧
    sampleFelled.queues.contains "rat" = true ∧
    (∀ queue, sampleFelled.queues.get? "ann" = some queue → queue.points.toNat = 2) ∧
    sampleFelled.allSubmitted = true := by
  have covers : Covers 3 sampleMorning _ sampleFelled := sampleFelled_since.queues_cover
  have stood : (sampleMorning.combatants.any fun other =>
      other.isAlive && other.id = "rat") = true := by decide +kernel
  have dazed : ((sampleMorning.afflictionsOf "ann").stackOf Condition.stunned.id).toNat = 1 := by
    decide +kernel
  refine ⟨⟨_, sampleFelled_since, covers⟩, by decide +kernel, ?_, fun queue present => ?_,
    by decide +kernel⟩
  · obtain ⟨rat, member, both⟩ := List.any_eq_true.mp stood
    obtain ⟨alive, named⟩ := Bool.and_eq_true_iff.mp both
    exact (covers.queued "rat").mpr ⟨rat, member, alive, by simpa using named⟩
  · have points := covers.points "ann" queue present
    rw [points]
    show 3 - ((sampleMorning.afflictionsOf "ann").stackOf Condition.stunned.id).toNat = 2
    rw [dazed]

end Encounter

end Fray
