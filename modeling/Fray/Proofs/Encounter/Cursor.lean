import Fray.Proofs.Death
import Fray.Proofs.Encounter.Reached
import Mathlib.Data.List.Rotate

/-!
# Whose turn it is

The turn goes around the living. Looking for whose turn it is moves the cursor to the
first of them, at it or after it around the end, and moving on makes that one the last
of all.

What keeps the dead out of the way is `turnOrder`: passing one of them leaves it as it is,
and moving on from a living combatant turns it by one place.

## Main results

`CursorStands.turnOrder_advance` and `seekTurn_keeps`: what moving on and looking do to the
order of turns. `CursorStands.finds`: what a look finds.
-/

namespace Fray

open Draws

namespace Encounter

variable {encounter : Encounter}

/-! ### The circle of places -/

/-- The cursor is at a combatant, or at zero where there are none. -/
def CursorStands (encounter : Encounter) : Prop :=
  encounter.cursor < encounter.combatants.length ∨
    encounter.combatants.length = 0 ∧ encounter.cursor = 0

/-- The place some steps after the cursor, around the end. -/
def placeAfter (encounter : Encounter) (steps : Nat) : Nat :=
  (encounter.cursor + steps) % encounter.combatants.length

/-- The places of the living, in the order in which their turns come. -/
def turnOrder (encounter : Encounter) : List Nat :=
  ((List.range encounter.combatants.length).map encounter.placeAfter).filter
    fun place => !encounter.isDeadAt place

theorem placeAfter_advanceTurn (inside : encounter.cursor < encounter.combatants.length)
    (steps : Nat) :
    encounter.advanceTurn.placeAfter steps = encounter.placeAfter (steps + 1) := by
  have peopled : encounter.combatants.length ≠ 0 := by omega
  simp only [placeAfter, advanceTurn, if_neg peopled, Nat.mod_add_mod]
  congr 1
  omega

theorem placeAfter_zero (inside : encounter.cursor < encounter.combatants.length) :
    encounter.placeAfter 0 = encounter.cursor := Nat.mod_eq_of_lt inside

theorem placeAfter_length (inside : encounter.cursor < encounter.combatants.length) :
    encounter.placeAfter encounter.combatants.length = encounter.cursor := by
  rw [placeAfter, Nat.add_mod_right, Nat.mod_eq_of_lt inside]

/-- Going around meets every place. -/
theorem map_placeAfter (encounter : Encounter) :
    (List.range encounter.combatants.length).map encounter.placeAfter
      = (List.range encounter.combatants.length).rotate encounter.cursor := by
  refine List.ext_getElem (by simp) fun step _ _ => ?_
  simp [placeAfter, List.getElem_rotate, Nat.add_comm]

theorem turnOrder_eq (encounter : Encounter) :
    encounter.turnOrder
      = ((List.range encounter.combatants.length).rotate encounter.cursor).filter
          fun place => !encounter.isDeadAt place := by
  rw [turnOrder, map_placeAfter]

theorem lt_of_isDeadAt {place : Nat} (alive : encounter.isDeadAt place = false) :
    place < encounter.combatants.length := by
  obtain ⟨combatant, found, _⟩ := isDeadAt_eq_false.mp alive
  exact (List.getElem?_eq_some_iff.mp found).1

theorem mem_turnOrder {place : Nat} :
    place ∈ encounter.turnOrder ↔ encounter.isDeadAt place = false := by
  rw [turnOrder_eq, List.mem_filter, List.mem_rotate, List.mem_range, Bool.not_eq_true']
  exact ⟨And.right, fun alive => ⟨lt_of_isDeadAt alive, alive⟩⟩

theorem nodup_turnOrder (encounter : Encounter) : encounter.turnOrder.Nodup := by
  rw [turnOrder_eq]
  exact (List.nodup_rotate.mpr List.nodup_range).filter _

theorem length_turnOrder (encounter : Encounter) :
    encounter.turnOrder.length = encounter.living.length := by
  have breathes (place : Nat) :
      (!encounter.isDeadAt place) = (encounter.combatants[place]?).any Combatant.isAlive := by
    unfold isDeadAt
    cases encounter.combatants[place]? <;> rfl
  rw [turnOrder_eq, living, ← List.countP_eq_length_filter, (List.rotate_perm _ _).countP_eq,
    ← List.countP_eq_length_filter, ← countP_range_getElem? encounter.combatants]
  exact List.countP_congr fun place _ => by rw [breathes]

/-! ### Moving on -/

/-- Moving on puts the place of the cursor behind all others. -/
theorem exists_turnOrder (inside : encounter.cursor < encounter.combatants.length) :
    ∃ later,
      encounter.turnOrder
        = [encounter.cursor].filter (fun place => !encounter.isDeadAt place) ++ later ∧
      encounter.advanceTurn.turnOrder
        = later ++ [encounter.cursor].filter fun place => !encounter.isDeadAt place := by
  obtain ⟨others, size⟩ : ∃ others, encounter.combatants.length = others + 1 :=
    ⟨encounter.combatants.length - 1, by omega⟩
  refine ⟨((List.range others).map fun steps => encounter.placeAfter (steps + 1)).filter
    fun place => !encounter.isDeadAt place, ?_, ?_⟩
  · rw [← List.filter_append, ← placeAfter_zero inside, turnOrder, size, List.range_succ_eq_map,
      List.map_cons, List.map_map]
    rfl
  · -- One place on, the last of the steps comes around to where the cursor was.
    have around : (List.range (others + 1)).map encounter.advanceTurn.placeAfter
        = (List.range (others + 1)).map fun steps => encounter.placeAfter (steps + 1) :=
      List.map_congr_left fun steps _ => placeAfter_advanceTurn inside steps
    have back : encounter.placeAfter (others + 1) = encounter.cursor :=
      size ▸ placeAfter_length inside
    rw [← List.filter_append]
    change ((List.range encounter.combatants.length).map _).filter _ = _
    rw [size, around, List.range_succ, List.map_append, List.map_singleton, back]
    rfl

theorem CursorStands.turnOrder_advance (stands : encounter.CursorStands) :
    encounter.advanceTurn.turnOrder
      = if encounter.isDeadAt encounter.cursor then encounter.turnOrder
        else encounter.turnOrder.rotate 1 := by
  rcases stands with inside | ⟨empty, _⟩
  · obtain ⟨later, before, after⟩ := exists_turnOrder inside
    rw [before, after]
    split
    next dead => simp [dead]
    next alive => simp [alive]
  · have nobody (other : Encounter) (none : other.combatants.length = 0) :
        other.turnOrder = [] := by
      simp [turnOrder, none]
    rw [nobody _ empty, nobody encounter.advanceTurn empty]
    simp

/-- A living combatant at the cursor comes first. -/
theorem turnOrder_of_alive (alive : encounter.isDeadAt encounter.cursor = false) :
    ∃ later, encounter.turnOrder = encounter.cursor :: later := by
  obtain ⟨later, order, _⟩ := exists_turnOrder (lt_of_isDeadAt alive)
  exact ⟨later, by simpa [alive] using order⟩

theorem inside_advance (inside : encounter.cursor < encounter.combatants.length) :
    encounter.advanceTurn.cursor < encounter.advanceTurn.combatants.length := by
  have peopled : encounter.combatants.length ≠ 0 := by omega
  simp only [advanceTurn, if_neg peopled]
  exact Nat.mod_lt _ (Nat.pos_of_ne_zero peopled)

theorem CursorStands.advance (stands : encounter.CursorStands) :
    encounter.advanceTurn.CursorStands := by
  rcases stands with inside | ⟨empty, _⟩
  · exact .inl (inside_advance inside)
  · exact .inr ⟨empty, by simp [advanceTurn, empty]⟩

/-! ### Looking -/

/-- Looking passes the dead only, so it leaves the order of turns as it is. -/
theorem seekTurn_keeps (moves : Nat) (stands : encounter.CursorStands) :
    (seekTurn moves encounter).2.CursorStands ∧
      (seekTurn moves encounter).2.turnOrder = encounter.turnOrder := by
  induction moves generalizing encounter with
  | zero => exact ⟨stands, rfl⟩
  | succ moves ih =>
    have passed (dead : encounter.isDeadAt encounter.cursor = true) :
        (seekTurn moves encounter.advanceTurn).2.CursorStands ∧
          (seekTurn moves encounter.advanceTurn).2.turnOrder = encounter.turnOrder := by
      obtain ⟨still, same⟩ := ih stands.advance
      refine ⟨still, same.trans ?_⟩
      rw [stands.turnOrder_advance, if_pos dead]
    simp only [seekTurn]
    split
    next combatant found =>
      split
      · exact ⟨stands, rfl⟩
      next alive => exact passed (by simpa [isDeadAt, found, Combatant.isAlive] using alive)
    next missing => exact passed (by simp [isDeadAt, missing])

/-- What a look finds within a number of moves, and how far the cursor goes. -/
theorem seekTurn_cases (moves : Nat)
    (inside : encounter.cursor < encounter.combatants.length) :
    (∃ steps < moves, ∃ combatant,
      (∀ earlier < steps, encounter.isDeadAt (encounter.placeAfter earlier) = true) ∧
      encounter.combatants[encounter.placeAfter steps]? = some combatant ∧
      combatant.isDead = false ∧
      seekTurn moves encounter
        = (some combatant, { encounter with cursor := encounter.placeAfter steps })) ∨
    (∀ steps < moves, encounter.isDeadAt (encounter.placeAfter steps) = true) ∧
      seekTurn moves encounter
        = (none, { encounter with cursor := encounter.placeAfter moves }) := by
  induction moves generalizing encounter with
  | zero =>
    refine .inr ⟨fun steps none => absurd none (Nat.not_lt_zero _), ?_⟩
    rw [placeAfter_zero inside]
    rfl
  | succ moves ih =>
    have here := placeAfter_zero inside
    obtain ⟨combatant, found⟩ :
        ∃ combatant, encounter.combatants[encounter.cursor]? = some combatant :=
      ⟨_, List.getElem?_eq_getElem inside⟩
    cases alive : combatant.isAlive with
    | true =>
      refine .inl ⟨0, Nat.succ_pos _, combatant, fun _ none => absurd none (Nat.not_lt_zero _),
        here ▸ found, by simpa [Combatant.isAlive] using alive, ?_⟩
      simp only [seekTurn, found, alive, if_true, here]
    | false =>
      have dead : encounter.isDeadAt (encounter.placeAfter 0) = true := by
        rw [here]
        simpa [isDeadAt, found, Combatant.isAlive] using alive
      have moved : seekTurn (moves + 1) encounter = seekTurn moves encounter.advanceTurn := by
        simp [seekTurn, found, alive]
      -- What is passed from the next place on is passed from here, after this one.
      have later {steps : Nat}
          (passed : ∀ earlier < steps,
            encounter.advanceTurn.isDeadAt (encounter.advanceTurn.placeAfter earlier) = true) :
          ∀ earlier < steps + 1, encounter.isDeadAt (encounter.placeAfter earlier) = true := by
        intro earlier within
        cases earlier with
        | zero => exact dead
        | succ before =>
          rw [← placeAfter_advanceTurn inside]
          exact passed before (Nat.lt_of_succ_lt_succ within)
      rw [moved]
      rcases ih (inside_advance inside) with
        ⟨steps, within, other, passed, there, living, result⟩ | ⟨passed, result⟩
      · rw [placeAfter_advanceTurn inside] at there result
        exact .inl ⟨steps + 1, Nat.succ_lt_succ within, other, later passed, there, living, result⟩
      · rw [placeAfter_advanceTurn inside] at result
        exact .inr ⟨later passed, result⟩

/-- What a look finds, and where it leaves the cursor. -/
inductive Finds (encounter : Encounter) : Option Combatant → Encounter → Prop
  /-- Nobody is alive, and nothing moves. -/
  | nobody (dead : ∀ combatant ∈ encounter.combatants, combatant.isDead = true) :
    Finds encounter none encounter
  /-- The first living combatant at the cursor or after it; nothing but the cursor moves. -/
  | turn {combatant : Combatant} {steps : Nat} (within : steps < encounter.combatants.length)
      (passed : ∀ earlier < steps, encounter.isDeadAt (encounter.placeAfter earlier) = true)
      (found : encounter.combatants[encounter.placeAfter steps]? = some combatant)
      (alive : combatant.isDead = false) :
    Finds encounter (some combatant) { encounter with cursor := encounter.placeAfter steps }

theorem CursorStands.finds (stands : encounter.CursorStands) :
    encounter.Finds encounter.currentTurn.1 encounter.currentTurn.2 := by
  unfold currentTurn
  rcases stands with inside | ⟨empty, _⟩
  · rcases seekTurn_cases encounter.combatants.length inside with
      ⟨steps, within, combatant, passed, found, alive, result⟩ | ⟨passed, result⟩
    · rw [result]
      exact .turn within passed found alive
    · -- The search has come around to where it began.
      rw [result, placeAfter_length inside]
      refine .nobody fun combatant member => ?_
      obtain ⟨place, found⟩ := List.mem_iff_getElem?.mp member
      by_contra alive
      have turn : place ∈ encounter.turnOrder :=
        mem_turnOrder.mpr (isDeadAt_eq_false.mpr ⟨combatant, found, by simpa using alive⟩)
      obtain ⟨listed, breathes⟩ := List.mem_filter.mp turn
      obtain ⟨steps, within, rfl⟩ := List.mem_map.mp listed
      simp [passed steps (List.mem_range.mp within)] at breathes
  · rw [empty]
    refine .nobody fun combatant member => ?_
    rw [List.length_eq_zero_iff.mp empty] at member
    exact absurd member List.not_mem_nil

/-- A living combatant at the cursor has the turn. -/
theorem currentTurn_of_alive {combatant : Combatant}
    (found : encounter.combatants[encounter.cursor]? = some combatant)
    (alive : combatant.isDead = false) :
    encounter.currentTurn = (some combatant, encounter) := by
  have inside := (List.getElem?_eq_some_iff.mp found).1
  obtain ⟨others, size⟩ : ∃ others, encounter.combatants.length = others + 1 :=
    ⟨encounter.combatants.length - 1, by omega⟩
  simp [currentTurn, size, seekTurn, found, Combatant.isAlive, alive]

/-- Looking twice is looking once. -/
theorem CursorStands.currentTurn_again (stands : encounter.CursorStands) :
    encounter.currentTurn.2.currentTurn = encounter.currentTurn := by
  have finds := stands.finds
  generalize looked : encounter.currentTurn = result at finds ⊢
  obtain ⟨found, after⟩ := result
  cases finds with
  | nobody dead => exact looked
  | turn within passed found alive => exact currentTurn_of_alive found alive

theorem Finds.none_iff {found : Option Combatant} {after : Encounter}
    (finds : encounter.Finds found after) :
    found = none ↔ ∀ combatant ∈ encounter.combatants, combatant.isDead = true := by
  cases finds with
  | nobody dead => exact ⟨fun _ => dead, fun _ => rfl⟩
  | @turn combatant steps within passed found alive =>
    refine ⟨nofun, fun dead => ?_⟩
    rw [dead combatant (List.mem_of_getElem? found)] at alive
    cases alive

end Encounter

end Fray
