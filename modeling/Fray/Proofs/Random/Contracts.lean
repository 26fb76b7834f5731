import Fray.Proofs.Random.Sampling
import Fray.Random.Draws
import Mathlib.Data.List.Forall2

/-!
# The contract of a source

A source answers a draw with a count below its bound, or with zero where there is none. What it
answers to one draw, whatever its state, it answers to every draw of a row, and to every draw that
a computation asks for. So a rule of the game may rely on the contract for its own draws.

## Main results

`AlwaysSuits.row`: a row of draws. `Cycle.getElem?_answers`: the values that a list of them
gives in turn. `Draws.suits_of_mem_drawn` and `Draws.Fair.run`: the draws of a computation, and
what follows from the contract for its result.
-/

namespace Fray

/-! ### Draws that suit their bounds -/

/-- What may be drawn with a bound. -/
structure Suits (bound drawn : Count) : Prop where
  below : 0 < bound → drawn < bound
  zero : bound = 0 → drawn = 0

/-- Whatever a source draws suits the bound. -/
def AlwaysSuits (σ : Type) [RandomSource σ] : Prop :=
  ∀ (bound : Count) (source : σ), Suits bound (draw bound source).1

/-- The face of a die is none above its sides, and none that a score cannot tell. -/
theorem Suits.face {sides drawn : Count} (suits : Suits sides drawn) (some : 0 < sides) :
    1 ≤ (faceOf drawn).toInt ∧ (faceOf drawn).toInt ≤ min (sides.toNat : Int) 2147483647 :=
  ⟨one_le_faceOf drawn, faceOf_le (suits.below some)⟩

theorem min_pred_zero (value : Count) : min value (0 - 1) = 0 := by
  ext
  rw [Count.toNat_min]
  exact Nat.min_zero _

theorem Fixed.alwaysSuits : AlwaysSuits Fixed := fun bound source =>
  ⟨Fixed.keepsBounds bound source, fun none => by rw [none]; exact min_pred_zero source.value⟩

theorem Cycle.alwaysSuits : AlwaysSuits Cycle := by
  refine fun bound source => ⟨Cycle.keepsBounds bound source, fun none => ?_⟩
  rw [none]
  show (Cycle.draw 0 source).1 = 0
  unfold Cycle.draw
  split
  · rfl
  · exact min_pred_zero _

theorem Sampler.alwaysSuits {ρ : Type} [Generator ρ] : AlwaysSuits (Sampler ρ) :=
  fun bound source => ⟨Sampler.keepsBounds bound source, fun none => by
    rw [none]
    exact congrArg Prod.fst (Sampler.draw_zero source)⟩

/-! ### Rows of draws -/

section Rows

variable {σ : Type} [RandomSource σ]

/-- What a source answers to draws with these bounds, one after the other. -/
def answers : List Count → σ → List Count
  | [], _ => []
  | bound :: rest, source =>
    let drawn := draw bound source
    drawn.1 :: answers rest drawn.2

/-- What a row of draws leaves of a source. -/
def afterDraws : List Count → σ → σ
  | [], source => source
  | bound :: rest, source => afterDraws rest (draw bound source).2

theorem AlwaysSuits.row (suits : AlwaysSuits σ) (bounds : List Count) (source : σ) :
    List.Forall₂ Suits bounds (answers bounds source) := by
  induction bounds generalizing source with
  | nil => exact .nil
  | cons bound rest ih => exact .cons (suits bound source) (ih _)

/-- A die that is rolled after a row of draws. -/
theorem AlwaysSuits.die (suits : AlwaysSuits σ) (before : List Count) {sides : Count}
    (some : 0 < sides) (source : σ) :
    let face := (rollDie sides (afterDraws before source)).1
    1 ≤ face.toInt ∧ face.toInt ≤ min (sides.toNat : Int) 2147483647 :=
  (suits sides (afterDraws before source)).face some

end Rows

namespace Cycle

/-- A draw tells the next value, whatever the bound, and turns to the one after it. -/
theorem draw_of_lt {values : List Count} {next : Nat} (inside : next < values.length)
    (bound : Count) :
    draw bound (Cycle.mk values next)
      = (min values[next] (bound - 1), ⟨values, (next + 1) % values.length⟩) := by
  have found : values[next]? = some values[next] := List.getElem?_eq_getElem inside
  simp only [Cycle.draw, found]
  split
  next more => rw [Nat.mod_eq_of_lt more]
  next last =>
    rw [show next + 1 = values.length by omega, Nat.mod_self]

/-- The draws tell the values in turn, from wherever the list is. -/
theorem getElem?_answers_of_lt {values : List Count} {next : Nat} (inside : next < values.length)
    (bounds : List Count) (place : Nat) :
    (answers bounds (Cycle.mk values next))[place]?
      = bounds[place]?.map fun bound =>
          min (values.getD ((next + place) % values.length) 0) (bound - 1) := by
  have some : 0 < values.length := by omega
  induction bounds generalizing next place with
  | nil => rfl
  | cons bound rest ih =>
    have drawn : Fray.draw bound (Cycle.mk values next) = _ := draw_of_lt inside bound
    simp only [answers, drawn]
    cases place with
    | zero =>
      simp [Nat.mod_eq_of_lt inside, List.getElem?_eq_getElem inside]
    | succ place =>
      rw [List.getElem?_cons_succ, List.getElem?_cons_succ, ih (Nat.mod_lt _ some),
        Nat.mod_add_mod, Nat.add_right_comm, Nat.add_assoc]

theorem answers_nil (next : Nat) (bounds : List Count) :
    answers bounds (Cycle.mk [] next) = bounds.map fun _ => 0 := by
  induction bounds with
  | nil => rfl
  | cons bound rest ih => exact congrArg (0 :: ·) ih

/-- From the beginning of its list a source tells the values in turn, and zero if it has none. -/
theorem getElem?_answers (values bounds : List Count) (place : Nat) :
    (answers bounds (Cycle.mk values 0))[place]?
      = bounds[place]?.map fun bound =>
          min (values.getD (place % values.length) 0) (bound - 1) := by
  cases values with
  | nil =>
    rw [answers_nil, List.getElem?_map]
    refine congrFun (congrArg Option.map (funext fun bound => ?_)) _
    ext
    rw [List.getD_nil, Count.toNat_min]
    exact (Nat.zero_min _).symm
  | cons value rest =>
    rw [getElem?_answers_of_lt (by simp), Nat.zero_add]

/-- The list starts again at its end, and a value too high is cut down. -/
example : answers [20, 20, 20, 0, 4, 20] (Cycle.mk [1, 2, 30] 0) = [1, 2, 19, 0, 2, 19] := by
  decide

end Cycle

/-! ### The draws of a computation -/

namespace Draws

variable {α β σ : Type}

/-- The draws of a computation, each bound with what was drawn. -/
def drawn [RandomSource σ] : Draws α → σ → List (Count × Count)
  | done _, _ => []
  | ask bound next, source =>
    let first := draw bound source
    (bound, first.1) :: drawn (next first.1) first.2

theorem suits_of_mem_drawn [RandomSource σ] (suits : AlwaysSuits σ) (computation : Draws α)
    (source : σ) : ∀ entry ∈ computation.drawn source, Suits entry.1 entry.2 := by
  induction computation generalizing source with
  | done result => exact fun _ member => by cases member
  | ask bound next ih => exact List.forall_mem_cons.mpr ⟨suits bound source, ih _ _⟩

/-! ### Results with a source that keeps its contract -/

/-- A property of every result, if whatever is drawn suits its bound. -/
def Fair (property : α → Prop) : Draws α → Prop
  | done result => property result
  | ask bound next => ∀ drawn, Suits bound drawn → Fair property (next drawn)

theorem fair_bind {property : β → Prop} (first : Draws α) (rest : α → Draws β) :
    Fair property (first >>= rest) ↔ Fair (fun result => Fair property (rest result)) first := by
  induction first with
  | done result => exact Iff.rfl
  | ask bound next ih => exact forall_congr' fun drawn => imp_congr_right fun _ => ih drawn

theorem Always.fair {property : α → Prop} {computation : Draws α}
    (always : Always property computation) : Fair property computation := by
  induction computation with
  | done result => exact always
  | ask bound next ih => exact fun drawn _ => ih drawn (always drawn)

theorem Fair.mono {weak strong : α → Prop} {computation : Draws α}
    (implies : ∀ result, strong result → weak result) (fair : Fair strong computation) :
    Fair weak computation := by
  induction computation with
  | done result => exact implies _ fair
  | ask bound next ih => exact fun drawn suits => ih drawn (fair drawn suits)

/-- What holds of the first result is all that the rest has to rely on. -/
theorem Fair.bind {property : β → Prop} {between : α → Prop} {first : Draws α}
    {rest : α → Draws β} (begins : Fair between first)
    (goesOn : ∀ result, between result → Fair property (rest result)) :
    Fair property (first >>= rest) :=
  (fair_bind first rest).mpr (begins.mono goesOn)

theorem Fair.run [RandomSource σ] (suits : AlwaysSuits σ) {property : α → Prop}
    {computation : Draws α} (fair : Fair property computation) (source : σ) :
    property (computation.run source).1 := by
  induction computation generalizing source with
  | done result => exact fair
  | ask bound next ih => exact ih _ (fair _ (suits bound source)) _

end Draws

end Fray
