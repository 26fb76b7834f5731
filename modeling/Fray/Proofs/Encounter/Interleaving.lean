import Fray.Proofs.Encounter.Playing

/-!
# Submissions side by side

Combatants commit their actions independently of each other. What a call is answered
depends on the conditions of its combatant and on what is in its own queue, and a call
changes nothing but this queue. So only the order of the calls of each combatant counts.

## Main results

`commitAll_alone`: for one combatant, a row of calls is as good as its own calls alone.
`commitAll_interleaved`: rows that agree on the calls of everybody are answered alike
and lead to the same encounter.
-/

namespace Fray

namespace Encounter

/-! ### Rows of calls -/

/-- What a call is answered: the reason of its refusal, if it is refused. -/
def answerTo (encounter : Encounter) (call : Commit) : Option Refusal :=
  match encounter.commit call.combatant call.action with
  | .ok _ => none
  | .error refusal => some refusal

/-- What an encounter is after a call; a refused one changes nothing. -/
def afterCall (encounter : Encounter) (call : Commit) : Encounter :=
  encounter.orKeep (encounter.commit call.combatant call.action)

/-- Make calls one after another: each of them with its answer, and the encounter after all. -/
def commitAll : List Commit → Encounter → List (Commit × Option Refusal) × Encounter
  | [], encounter => ([], encounter)
  | call :: rest, encounter =>
    let later := commitAll rest (encounter.afterCall call)
    ((call, encounter.answerTo call) :: later.1, later.2)

/-- The answers to the calls of one combatant, in order. -/
def answersTo (id : String) (answered : List (Commit × Option Refusal)) : List (Option Refusal) :=
  (answered.filter (·.1.combatant = id)).map Prod.snd

/-- A row of calls in which everybody makes its own ones in their order. -/
def Interleaves (family : String → List Action) (calls : List Commit) : Prop :=
  ∀ id, Commit.actionsOf id calls = family id

/-! ### Single calls -/

/-- Two encounters are the same for a combatant: in its queue and its conditions. -/
structure SameFor (id : String) (left right : Encounter) : Prop where
  queue : left.queues.get? id = right.queues.get? id
  afflictions : left.afflictionsOf id = right.afflictionsOf id

theorem SameFor.refl (id : String) (encounter : Encounter) : SameFor id encounter encounter :=
  ⟨rfl, rfl⟩

theorem SameFor.trans {id : String} {first second third : Encounter}
    (one : SameFor id first second) (two : SameFor id second third) : SameFor id first third :=
  ⟨one.queue.trans two.queue, one.afflictions.trans two.afflictions⟩

/-- A call touches nothing but the queues. -/
theorem afterCall_same (encounter : Encounter) (call : Commit) :
    encounter.afterCall call = { encounter with queues := (encounter.afterCall call).queues } :=
  orKeep_commit ..

/-- A call touches no queue but that of its combatant. -/
theorem queues_afterCall (encounter : Encounter) (call : Commit) {id : String}
    (other : id ≠ call.combatant) :
    (encounter.afterCall call).queues.get? id = encounter.queues.get? id := by
  unfold afterCall
  cases answered : encounter.commit call.combatant call.action with
  | error refusal => rfl
  | ok committed =>
    obtain ⟨queue, longer, _, _, _, rfl⟩ := commit_cases answered
    show (encounter.queues.insert call.combatant longer).get? id = _
    rw [Table.get?_insert, if_neg other]

theorem sameFor_afterCall (encounter : Encounter) (call : Commit) {id : String}
    (other : id ≠ call.combatant) : SameFor id (encounter.afterCall call) encounter where
  queue := queues_afterCall encounter call other
  afflictions := by
    rw [afterCall_same]
    rfl

/-- The queue with one action more, as far as the conditions of its combatant allow it. -/
def lengthen (call : Commit) (queue : Option Queue) (set : Afflictions) : Except Refusal Queue :=
  match queue with
  | none => .error (.unknownCombatant call.combatant)
  | some queue =>
    match set.restriction? call.action.kind with
    | some condition => .error (.restricted call.combatant call.action.kind condition)
    | none => queue.enqueue call.action

/-- A call is decided by the queue and the conditions of its combatant. -/
theorem commit_eq (encounter : Encounter) (call : Commit) :
    encounter.commit call.combatant call.action
      = (lengthen call (encounter.queues.get? call.combatant)
          (encounter.afflictionsOf call.combatant)).map fun longer =>
            { encounter with queues := encounter.queues.insert call.combatant longer } := by
  unfold commit lengthen
  cases encounter.queues.get? call.combatant with
  | none => rfl
  | some queue =>
    cases (encounter.afflictionsOf call.combatant).restriction? call.action.kind with
    | some condition => simp [Except.map]
    | none => simp

theorem SameFor.call {left right : Encounter} {call : Commit}
    (same : SameFor call.combatant left right) :
    left.answerTo call = right.answerTo call ∧
      SameFor call.combatant (left.afterCall call) (right.afterCall call) := by
  unfold answerTo afterCall
  -- Both sides lengthen the same queue under the same conditions.
  rw [commit_eq left, commit_eq right, same.queue, same.afflictions]
  cases lengthen call (right.queues.get? call.combatant)
      (right.afflictionsOf call.combatant) with
  | error refusal => exact ⟨rfl, same⟩
  | ok longer =>
    refine ⟨rfl, ?_, same.afflictions⟩
    show (left.queues.insert call.combatant longer).get? call.combatant
      = (right.queues.insert call.combatant longer).get? call.combatant
    simp only [Table.get?_insert, if_true]

/-! ### One combatant in a row -/

/-- The calls of one combatant, without those of the others. -/
def alone (id : String) (calls : List Commit) : List Commit :=
  (Commit.actionsOf id calls).map (⟨id, ·⟩)

/-- For one combatant the calls of the others do not matter. -/
theorem commitAll_alone {id : String} {left right : Encounter} (same : SameFor id left right)
    (calls : List Commit) :
    answersTo id (commitAll calls left).1 = answersTo id (commitAll (alone id calls) right).1 ∧
      SameFor id (commitAll calls left).2 (commitAll (alone id calls) right).2 := by
  induction calls generalizing left right with
  | nil => exact ⟨rfl, same⟩
  | cons call rest ih =>
    by_cases own : call.combatant = id
    -- Its own call is answered alike on both sides.
    · subst own
      have first : alone call.combatant (call :: rest) = call :: alone call.combatant rest := by
        simp [alone, Commit.actionsOf]
      obtain ⟨answer, after⟩ := same.call
      obtain ⟨answers, later⟩ := ih after
      rw [first]
      refine ⟨?_, later⟩
      simp only [commitAll, answersTo] at answers ⊢
      simp [answer, answers]
    -- A call of somebody else is made on the left only.
    · have skipped : alone id (call :: rest) = alone id rest := by
        simp [alone, Commit.actionsOf, own]
      have still := (sameFor_afterCall left call (Ne.symm own)).trans same
      obtain ⟨answers, later⟩ := ih still
      rw [skipped]
      refine ⟨?_, later⟩
      simp only [commitAll, answersTo] at answers ⊢
      simp [own, answers]

/-- A row of calls touches nothing but the queues. -/
theorem commitAll_same (calls : List Commit) (encounter : Encounter) :
    ∃ queues, (commitAll calls encounter).2 = { encounter with queues := queues } := by
  induction calls generalizing encounter with
  | nil => exact ⟨encounter.queues, rfl⟩
  | cons call rest ih =>
    obtain ⟨queues, later⟩ := ih (encounter.afterCall call)
    refine ⟨queues, later.trans ?_⟩
    rw [afterCall_same]

/--
Calls of different combatants commute, in any encounter: however the calls of everybody
are interleaved, as long as everybody's own ones keep their order, each of them gets the
same answer, with the same reason if it is refused, and the encounter is the same in the
end. No call changes anything but the queue of the combatant that it names.
-/
theorem commitAll_interleaved (encounter : Encounter) {family : String → List Action}
    {one other : List Commit} (first : Interleaves family one)
    (second : Interleaves family other) :
    (commitAll one encounter).2 = (commitAll other encounter).2 ∧
    (∀ id, answersTo id (commitAll one encounter).1
      = answersTo id (commitAll other encounter).1) ∧
    ∀ call : Commit,
      let after := encounter.afterCall call
      after = { encounter with queues := after.queues } ∧
        ∀ id, id ≠ call.combatant → after.queues.get? id = encounter.queues.get? id := by
  have alike (id : String) : alone id one = alone id other := by
    rw [alone, first id, alone, second id]
  have leftAlone (id : String) := commitAll_alone (SameFor.refl id encounter) one
  have rightAlone (id : String) := commitAll_alone (SameFor.refl id encounter) other
  refine ⟨?_, fun id => ?_, fun call => ⟨afterCall_same encounter call, fun id => ?_⟩⟩
  -- Tables that answer every look-up alike are the same.
  · obtain ⟨ones, left⟩ := commitAll_same one encounter
    obtain ⟨others, right⟩ := commitAll_same other encounter
    have queues : ones = others := by
      apply Table.ext_get?
      intro id
      have queue := (leftAlone id).2.queue
      rw [alike id, ← (rightAlone id).2.queue, left, right] at queue
      exact queue
    rw [left, right, queues]
  · rw [(leftAlone id).1, alike id, (rightAlone id).1]
  · exact queues_afterCall encounter call

/-! ### A brawl -/

def sampleGrip : Condition :=
  { Condition.prone with id := "grip", restricted := ["reload"] }

def sampleBrawlers : Setup :=
  { room := "cellar"
    zone := "house"
    combatants := [
      { id := "ann", name := "Ann", side := .player, maxHp := 6, hp := 6, armorClass := 12 },
      { id := "rat", name := "Rat", side := .npc, maxHp := 9, hp := 9, armorClass := 9 }]
    codex := Codex.core.register sampleGrip }

/-- Ann is held when the calls come in. -/
def sampleBrawl : Encounter :=
  ((play [.openRound 3, .afflict "ann" "grip" 1 none] (begin sampleBrawlers)).run
    (⟨15⟩ : Fixed)).1

/-- What everybody wants to do, and a stranger who is not in the fight. -/
def sampleWishes (id : String) : List Action :=
  if id = "ann" then [.strike "Rat", .reload, .strike "Rat", .attack "Rat"]
  else if id = "rat" then [.strike "Ann", .pass]
  else if id = "owl" then [.pass]
  else []

/-- One after another. -/
def sampleQueue : List Commit :=
  [⟨"ann", .strike "Rat"⟩, ⟨"ann", .reload⟩, ⟨"ann", .strike "Rat"⟩, ⟨"ann", .attack "Rat"⟩,
    ⟨"rat", .strike "Ann"⟩, ⟨"rat", .pass⟩, ⟨"owl", .pass⟩]

/-- All at once. -/
def sampleThrong : List Commit :=
  [⟨"owl", .pass⟩, ⟨"rat", .strike "Ann"⟩, ⟨"ann", .strike "Rat"⟩, ⟨"rat", .pass⟩,
    ⟨"ann", .reload⟩, ⟨"ann", .strike "Rat"⟩, ⟨"ann", .attack "Rat"⟩]

theorem sampleWishes_interleaved :
    Interleaves sampleWishes sampleQueue ∧ Interleaves sampleWishes sampleThrong := by
  constructor <;>
  · intro id
    by_cases ann : id = "ann"
    · subst ann
      decide
    · by_cases rat : id = "rat"
      · subst rat
        decide
      · by_cases owl : id = "owl"
        · subst owl
          decide
        · simp [Commit.actionsOf, sampleWishes, sampleQueue, sampleThrong, ann, rat, owl,
            Ne.symm ann, Ne.symm rat, Ne.symm owl]

/-- In the throng Ann is refused the same things for the same reasons. -/
theorem commitAll_interleaved_sample :
    Interleaves sampleWishes sampleQueue ∧ Interleaves sampleWishes sampleThrong ∧
    (commitAll sampleThrong sampleBrawl).2 = (commitAll sampleQueue sampleBrawl).2 ∧
    answersTo "ann" (commitAll sampleThrong sampleBrawl).1
      = [none, some (.restricted "ann" .reload "grip"), some (.insufficientPoints 2 1), none] := by
  obtain ⟨queue, throng⟩ := sampleWishes_interleaved
  obtain ⟨same, answers, _⟩ := commitAll_interleaved sampleBrawl throng queue
  -- The answers are computed where the calls come in one after another.
  have told : answersTo "ann" (commitAll sampleQueue sampleBrawl).1
      = [none, some (.restricted "ann" .reload "grip"), some (.insufficientPoints 2 1), none] := by
    decide +kernel
  exact ⟨queue, throng, same, (answers "ann").trans told⟩

end Encounter

end Fray
