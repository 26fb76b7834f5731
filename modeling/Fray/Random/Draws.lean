import Fray.Random.Source

/-!
# Computations that draw

A value of `Draws α` describes how a result comes about: it is there, or it
takes one more draw with a given bound. Rules of the game are written in this
form, so that they can use a source only by drawing from it, and `run` plays
them with any source.
-/
namespace Fray

inductive Draws (α : Type) : Type where
  | done (result : α)
  | ask (bound : Count) (next : Count → Draws α)

namespace Draws

variable {α β σ : Type}

def bind : Draws α → (α → Draws β) → Draws β
  | done result, rest => rest result
  | ask bound next, rest => ask bound fun drawn => bind (next drawn) rest

instance : Monad Draws where
  pure := done
  bind := bind

/-- Play with a source. -/
def run [RandomSource σ] : Draws α → σ → α × σ
  | done result, source => (result, source)
  | ask bound next, source =>
    let drawn := draw bound source
    run (next drawn.1) drawn.2

/-- Roll one die. -/
def die (sides : Count) : Draws Score := ask sides fun drawn => done (faceOf drawn)

@[simp] theorem pure_eq (result : α) : (pure result : Draws α) = done result := rfl

@[simp] theorem bind_done (result : α) (rest : α → Draws β) :
    (done result >>= rest) = rest result := rfl

theorem bind_ask (bound : Count) (next : Count → Draws α) (rest : α → Draws β) :
    (ask bound next >>= rest) = ask bound fun drawn => next drawn >>= rest := rfl

theorem run_bind [RandomSource σ] (first : Draws α) (rest : α → Draws β) (source : σ) :
    (first >>= rest).run source = (rest (first.run source).1).run (first.run source).2 := by
  induction first generalizing source with
  | done result => rfl
  | ask bound next ih => exact ih _ _

theorem map_id (computation : Draws α) : id <$> computation = computation := by
  induction computation with
  | done result => rfl
  | ask bound next ih => exact congrArg (ask bound) (funext fun drawn => ih drawn)

theorem bind_assoc {γ : Type} (first : Draws α) (second : α → Draws β) (third : β → Draws γ) :
    first >>= second >>= third = first >>= fun result => second result >>= third := by
  induction first with
  | done result => rfl
  | ask bound next ih => exact congrArg (ask bound) (funext fun drawn => ih drawn)

instance : LawfulMonad Draws :=
  LawfulMonad.mk' Draws map_id (fun _ _ => rfl) bind_assoc

/-- A property of every result, whatever the source answers. -/
def Always (property : α → Prop) : Draws α → Prop
  | done result => property result
  | ask _ next => ∀ drawn, Always property (next drawn)

@[simp] theorem always_done {property : α → Prop} (result : α) :
    Always property (done result) ↔ property result := Iff.rfl

theorem always_of_forall {property : α → Prop} (holds : ∀ result, property result)
    (computation : Draws α) : Always property computation := by
  induction computation with
  | done result => exact holds result
  | ask bound next ih => exact fun drawn => ih drawn

theorem always_bind {property : β → Prop} (first : Draws α) (rest : α → Draws β) :
    Always property (first >>= rest) ↔
      Always (fun result => Always property (rest result)) first := by
  induction first with
  | done result => exact Iff.rfl
  | ask bound next ih => exact forall_congr' ih

theorem Always.mono {weak strong : α → Prop} {computation : Draws α}
    (implies : ∀ result, strong result → weak result) (always : Always strong computation) :
    Always weak computation := by
  induction computation with
  | done result => exact implies _ always
  | ask bound next ih => exact fun drawn => ih drawn (always drawn)

theorem Always.and {left right : α → Prop} {computation : Draws α} (one : Always left computation)
    (two : Always right computation) :
    Always (fun result => left result ∧ right result) computation := by
  induction computation with
  | done result => exact ⟨one, two⟩
  | ask bound next ih => exact fun drawn => ih drawn (one drawn) (two drawn)

theorem Always.run [RandomSource σ] {property : α → Prop} {computation : Draws α}
    (always : Always property computation) (source : σ) : property (computation.run source).1 := by
  induction computation generalizing source with
  | done result => exact always
  | ask bound next ih => exact ih _ (always _) _

/-- A result that a computation can come to. -/
inductive Yields : Draws α → α → Prop
  | done (result : α) : Yields (done result) result
  | ask {bound : Count} {next : Count → Draws α} {result : α} (drawn : Count)
      (later : Yields (next drawn) result) : Yields (ask bound next) result

theorem always_yields (computation : Draws α) : Always computation.Yields computation := by
  induction computation with
  | done result => exact .done result
  | ask bound next ih => exact fun drawn => (ih drawn).mono fun _ later => .ask drawn later

theorem Yields.holds {computation : Draws α} {result : α} (yields : computation.Yields result)
    {property : α → Prop} (always : Always property computation) : property result := by
  induction yields with
  | done result => exact always
  | ask drawn _ ih => exact ih (always drawn)

theorem yields_done {result other : α} : (done other).Yields result ↔ result = other := by
  constructor
  · rintro ⟨⟩
    rfl
  · rintro rfl
    exact .done result

theorem yields_bind {first : Draws α} {rest : α → Draws β} {result : β} :
    (first >>= rest).Yields result ↔
      ∃ middle, first.Yields middle ∧ (rest middle).Yields result := by
  constructor
  · intro yields
    have split : Always (fun result => ∃ middle, first.Yields middle ∧
        (rest middle).Yields result) (first >>= rest) := by
      rw [always_bind]
      exact (always_yields first).mono fun middle one =>
        (always_yields _).mono fun _ later => ⟨middle, one, later⟩
    exact yields.holds split
  · rintro ⟨middle, one, later⟩
    induction one with
    | done middle => exact later
    | ask drawn _ ih => exact .ask drawn (ih later)

end Draws

end Fray
