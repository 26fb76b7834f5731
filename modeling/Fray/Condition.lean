import Fray.Action
import Fray.Table

/-!
# Conditions

What a condition does, how long it lasts and how it stacks. A `Codex` holds the
conditions that an encounter knows, each under its own name; `Codex.core` holds
the built-in ones, to which the rules themselves refer.
-/
namespace Fray

/-- When a condition ends. -/
inductive Lasting where
  /-- When its countdown of rounds ends. -/
  | rounds
  | untilSave
  | permanent
deriving DecidableEq

def Lasting.name : Lasting → String
  | rounds => "rounds"
  | untilSave => "until_save"
  | permanent => "permanent"

instance : Tagged Lasting := ⟨[.rounds, .untilSave, .permanent], Lasting.name⟩

structure Condition where
  id : String
  name : String
  description : String
  lasting : Lasting
  /-- The most stacks; a condition with zero does not stack. -/
  maxStacks : Count
  attackPenalty : Score
  acPenalty : Score
  speedPenalty : Score
  /-- Names of the kinds of action that it forbids. -/
  restricted : List String
deriving DecidableEq

namespace Condition

def isStackable (condition : Condition) : Bool := 0 < condition.maxStacks

def restricts (condition : Condition) (kind : ActionKind) : Bool :=
  condition.restricted.any (· == kind.name)

/-! ### Built-in conditions -/

def prone : Condition :=
  { id := "prone", name := "Prone", description := "Knocked to the ground.",
    lasting := .permanent, maxStacks := 0, attackPenalty := 2, acPenalty := 0,
    speedPenalty := 0, restricted := [] }

def flatFooted : Condition :=
  { id := "flat_footed", name := "Flat-Footed", description := "Caught off guard.",
    lasting := .rounds, maxStacks := 0, attackPenalty := 0, acPenalty := 2,
    speedPenalty := 0, restricted := [] }

def dying : Condition :=
  { id := "dying", name := "Dying", description := "Bleeding out.",
    lasting := .untilSave, maxStacks := 4, attackPenalty := 0, acPenalty := 0,
    speedPenalty := 0, restricted := [] }

def wounded : Condition :=
  { id := "wounded", name := "Wounded",
    description := "Recovered from dying, but closer to death.",
    lasting := .permanent, maxStacks := 3, attackPenalty := 0, acPenalty := 0,
    speedPenalty := 0, restricted := [] }

def stunned : Condition :=
  { id := "stunned", name := "Stunned", description := "Loses actions while reeling.",
    lasting := .rounds, maxStacks := 3, attackPenalty := 0, acPenalty := 0,
    speedPenalty := 0, restricted := [] }

def frightened : Condition :=
  { id := "frightened", name := "Frightened", description := "Shaken by fear.",
    lasting := .rounds, maxStacks := 4, attackPenalty := 1, acPenalty := 1,
    speedPenalty := 0, restricted := [] }

end Condition

/-! ### Codices -/

/-- Conditions under their names. -/
abbrev Codex := Table Condition

namespace Codex

/-- Enter a condition, replacing one of the same name. -/
def register (codex : Codex) (condition : Condition) : Codex :=
  codex.insert condition.id condition

def registerAll (codex : Codex) (conditions : List Condition) : Codex :=
  conditions.foldl register codex

def core : Codex :=
  registerAll Table.empty
    [.prone, .flatFooted, .dying, .wounded, .stunned, .frightened]

/-- The display name of a condition; an unknown one is called by its own name. -/
def nameOf (codex : Codex) (id : String) : String :=
  ((codex.get? id).map Condition.name).getD id

end Codex

end Fray
