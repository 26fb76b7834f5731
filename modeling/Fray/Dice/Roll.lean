import Fray.Dice.Expr
import Fray.Random.Draws

/-!
# Rolling dice

A roll shows the dice that count, in the order of the throw or from the highest
down when only the highest are kept. An `Evaluator` is a way to read and roll
an expression; `standard` is the one for the expressions of `Dice.Expr`.
-/
namespace Fray.Dice

structure Roll where
  expression : String
  dice : List Score
  modifier : Score
deriving DecidableEq

/-- The modifier plus every die in turn. -/
def Roll.total (roll : Roll) : Score := roll.dice.foldl (· + ·) roll.modifier

def Roll.describe (roll : Roll) : String :=
  roll.expression ++ " -> [" ++ ", ".intercalate (roll.dice.map toString) ++ "] "
    ++ Text.signed roll.modifier ++ " = " ++ toString roll.total

/-- Throw more dice; `thrown` are the ones before, the last first. -/
def throwDice (sides : Count) : Nat → List Score → Draws (List Score)
  | 0, thrown => .done thrown.reverse
  | more + 1, thrown => .ask sides fun drawn => throwDice sides more (faceOf drawn :: thrown)

/-- The highest dice, from the highest down. -/
def highest (keep : Count) (dice : List Score) : List Score :=
  (dice.mergeSort (fun a b => decide (b ≤ a))).take keep.toNat

def Expr.roll (expr : Expr) : Draws Roll := do
  let thrown ← throwDice expr.sides expr.count.toNat []
  let kept := match expr.keep with
    | none => thrown
    | some keep => highest keep thrown
  return ⟨expr.raw, kept, expr.modifier⟩

/-- A way to evaluate the text of a damage roll. -/
abbrev Evaluator := String → Draws (Except Error Roll)

def standard : Evaluator := fun text =>
  match parse text with
  | .error fault => return .error fault
  | .ok expr => return .ok (← expr.roll)

end Fray.Dice
