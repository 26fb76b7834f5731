import Fray.Dice.Roll

/-!
# Throws

A throw of several dice asks for one die after the other and tells their faces in that
order. A standard roll asks for the dice of its expression and for nothing else.

## Main results

`throwDice_succ`: a throw is its first die and the throw of the others. `run_throwDice`: the
faces of a throw, each from the source as the dice before it have left it. `bounds_standard`:
the draws of a standard roll, none of them if the expression cannot be read.
-/

namespace Fray.Dice

open Draws

variable {σ : Type} [RandomSource σ]

/-- What was thrown before stands before the rest. -/
theorem throwDice_after (sides : Count) (more : Nat) (thrown : List Score) :
    throwDice sides more thrown
      = throwDice sides more [] >>= fun faces => pure (thrown.reverse ++ faces) := by
  induction more generalizing thrown with
  | zero => simp [throwDice]
  | succ more ih =>
    simp only [throwDice, bind_ask]
    congr 1
    funext drawn
    rw [ih (faceOf drawn :: thrown), ih [faceOf drawn], bind_assoc]
    simp

theorem throwDice_succ (sides : Count) (more : Nat) :
    throwDice sides (more + 1) []
      = die sides >>= fun face => throwDice sides more [] >>= fun faces =>
          pure (face :: faces) := by
  show Draws.ask sides _ = Draws.ask sides _
  congr 1
  funext drawn
  exact throwDice_after sides more [faceOf drawn]

theorem length_throwDice (sides : Count) (more : Nat) (thrown : List Score) :
    Always (fun faces => faces.length = thrown.length + more) (throwDice sides more thrown) := by
  induction more generalizing thrown with
  | zero => simp [throwDice]
  | succ more ih =>
    intro drawn
    refine (ih (faceOf drawn :: thrown)).mono fun faces same => ?_
    rw [same, List.length_cons]
    omega

/-! ### Throws with a source -/

/-- A source after a number of dice. -/
def afterDice (sides : Count) : Nat → σ → σ
  | 0, source => source
  | many + 1, source => afterDice sides many (rollDie sides source).2

/-- The faces that a source gives to dice rolled one after the other. -/
def facesFrom (sides : Count) (many : Nat) (source : σ) : List Score :=
  (List.range many).map fun place => (rollDie sides (afterDice sides place source)).1

@[simp] theorem length_facesFrom (sides : Count) (many : Nat) (source : σ) :
    (facesFrom sides many source).length = many := by
  simp [facesFrom]

theorem facesFrom_succ (sides : Count) (many : Nat) (source : σ) :
    facesFrom sides (many + 1) source
      = (rollDie sides source).1 :: facesFrom sides many (rollDie sides source).2 := by
  simp [facesFrom, List.range_succ_eq_map, afterDice, Function.comp_def]

theorem run_throwDice (sides : Count) (many : Nat) (source : σ) :
    (throwDice sides many []).run source
      = (facesFrom sides many source, afterDice sides many source) := by
  induction many generalizing source with
  | zero => rfl
  | succ many ih =>
    -- The first die is rolled with the source as it is, the others with what it leaves.
    have first : (die sides).run source = rollDie sides source := rfl
    rw [throwDice_succ, run_bind, run_bind, first, ih, facesFrom_succ]
    rfl

/-! ### What is asked of a source -/

theorem bounds_afterDice (sides : Count) (many : Nat) (source : Recorded σ) :
    (afterDice sides many source).bounds = List.replicate many sides ++ source.bounds := by
  induction many generalizing source with
  | zero => rfl
  | succ many ih =>
    have first : (rollDie sides source).2.bounds = sides :: source.bounds := rfl
    rw [afterDice, ih, first, List.replicate_succ', List.append_assoc]
    rfl

theorem bounds_throwDice (sides : Count) (many : Nat) (source : Recorded σ) :
    ((throwDice sides many []).run source).2.bounds
      = List.replicate many sides ++ source.bounds := by
  rw [run_throwDice]
  exact bounds_afterDice ..

/-- The bounds that a standard roll of a text draws with. -/
def standardBounds (text : String) : List Count :=
  match parse text with
  | .ok expr => List.replicate expr.count.toNat expr.sides
  | .error _ => []

theorem bounds_standard (text : String) (source : Recorded σ) :
    ((standard text).run source).2.bounds = standardBounds text ++ source.bounds := by
  unfold standard standardBounds
  cases parse text with
  | error fault => rfl
  | ok expr =>
    simp only [Expr.roll, bind_assoc, pure_eq, bind_done, run_bind]
    exact bounds_throwDice ..

end Fray.Dice
