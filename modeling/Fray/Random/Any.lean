import Fray.Random.Seeded

/-!
# A choice of sources

A source of any kind, for programs that choose one while they run.
-/
namespace Fray

inductive AnySource where
  | fixed (source : Fixed)
  | cycle (source : Cycle)
  | seeded (source : Seeded)

def AnySource.draw (bound : Count) : AnySource → Count × AnySource
  | fixed source =>
    let drawn := Fray.draw bound source
    (drawn.1, fixed drawn.2)
  | cycle source =>
    let drawn := Fray.draw bound source
    (drawn.1, cycle drawn.2)
  | seeded source =>
    let drawn := Fray.draw bound source
    (drawn.1, seeded drawn.2)

instance : RandomSource AnySource := ⟨AnySource.draw⟩

end Fray
