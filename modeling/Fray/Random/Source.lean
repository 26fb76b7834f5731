import Fray.Number

/-!
# Random sources

A source answers a draw: given a bound, it gives a count below the bound, or
zero when the bound is zero, and moves on. A die is a draw plus one.
`Recorded` keeps the bounds that were asked of a source.
-/
namespace Fray

class RandomSource (σ : Type) where
  draw : Count → σ → Count × σ

export RandomSource (draw)

/-- The face that a draw stands for. -/
def faceOf (drawn : Count) : Score := drawn.toScore + 1

/-- Roll one die; its faces count from one. -/
def rollDie {σ : Type} [RandomSource σ] (sides : Count) (source : σ) : Score × σ :=
  let drawn := draw sides source
  (faceOf drawn.1, drawn.2)

/-! ### Sources given in advance -/

/-- Always the same value, as far as the bound allows. -/
structure Fixed where
  value : Count
deriving DecidableEq

instance : RandomSource Fixed := ⟨fun bound source => (min source.value (bound - 1), source)⟩

/-- A list of values, told again from its start when it ends; zero if there are none. -/
structure Cycle where
  values : List Count
  next : Nat
deriving DecidableEq

def Cycle.draw (bound : Count) (source : Cycle) : Count × Cycle :=
  match source.values[source.next]? with
  | none => (0, source)
  | some value =>
    let after := if source.next + 1 < source.values.length then source.next + 1 else 0
    (min value (bound - 1), { source with next := after })

instance : RandomSource Cycle := ⟨Cycle.draw⟩

/-! ### Recorded sources -/

/-- A source with the bounds asked of it, the latest first. -/
structure Recorded (σ : Type) where
  source : σ
  bounds : List Count

instance {σ : Type} [RandomSource σ] : RandomSource (Recorded σ) where
  draw bound recorded :=
    let drawn := draw bound recorded.source
    (drawn.1, ⟨drawn.2, bound :: recorded.bounds⟩)

end Fray
