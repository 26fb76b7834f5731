import Fray.Condition

/-!
# Conditions on a combatant

The set of conditions that one combatant suffers, under their names: how often
each is stacked and how many rounds are left to it. An absent countdown means
that the condition does not run out by itself.
-/
namespace Fray

structure Affliction where
  condition : Condition
  /-- The number of its stacks. -/
  stack : Count
  /-- Rounds left. -/
  left : Option Count
deriving DecidableEq

abbrev Afflictions := Table Affliction

/-- The later of two ends; any countdown outlasts an absent one. -/
def longer : Option Count → Option Count → Option Count
  | none, other => other
  | one, none => one
  | some a, some b => some (max a b)

namespace Affliction

/-- A condition on a combatant who did not have it. -/
def new (condition : Condition) (stack : Count) (duration : Option Count) : Affliction :=
  { condition := condition
    stack := if condition.isStackable then min (max stack 1) condition.maxStacks else 1
    left := duration }

/-- The same condition once more: stacks add up to its maximum, and the longer time counts. -/
def again (affliction : Affliction) (condition : Condition) (stack : Count)
    (duration : Option Count) : Affliction :=
  { affliction with
    stack := if condition.isStackable then min (affliction.stack + stack) condition.maxStacks else 1
    left := longer affliction.left duration }

/-- One round less for a condition that counts rounds. -/
def countdown (affliction : Affliction) : Affliction :=
  if affliction.condition.lasting = .rounds then
    { affliction with left := affliction.left.map (· - 1) }
  else affliction

/-- Whether the rounds of a condition have run out. -/
def isOver (affliction : Affliction) : Bool :=
  affliction.condition.lasting = .rounds && affliction.left = some 0

end Affliction

namespace Afflictions

def has (set : Afflictions) (id : String) : Bool := set.contains id

/-- The stacks of a condition; zero when it is absent. -/
def stackOf (set : Afflictions) (id : String) : Count :=
  ((set.get? id).map Affliction.stack).getD 0

def apply (set : Afflictions) (condition : Condition) (stack : Count)
    (duration : Option Count) : Afflictions :=
  set.insert condition.id <|
    match set.get? condition.id with
    | some affliction => affliction.again condition stack duration
    | none => .new condition stack duration

/-- Apply a condition without a countdown, as far as the codex knows it. -/
def applyKnown (set : Afflictions) (codex : Codex) (id : String) (stack : Count) : Afflictions :=
  match codex.get? id with
  | some condition => set.apply condition stack none
  | none => set

/-- One round passes: the names of the conditions that run out, and the set without them. -/
def tick (set : Afflictions) : List String × Afflictions :=
  let counted := set.map Affliction.countdown
  ((counted.filter fun _ affliction => affliction.isOver).keys,
    counted.filter fun _ affliction => !affliction.isOver)

/-- The sum of a penalty over the set, as a change to a total. -/
def modifier (penalty : Condition → Score) (set : Afflictions) : Score :=
  (set.values.filter fun affliction => 0 < penalty affliction.condition).foldl
    (fun sum affliction => sum - penalty affliction.condition * affliction.stack.toScore) 0

def attackModifier (set : Afflictions) : Score := set.modifier Condition.attackPenalty

def acModifier (set : Afflictions) : Score := set.modifier Condition.acPenalty

/-- Action points lost in the next round. -/
def lostPoints (set : Afflictions) : Count := set.stackOf Condition.stunned.id

/-- The name of the first condition that forbids a kind of action. -/
def restriction? (set : Afflictions) (kind : ActionKind) : Option String :=
  (set.values.find? fun affliction => affliction.condition.restricts kind).map
    fun affliction => affliction.condition.id

end Afflictions

end Fray
