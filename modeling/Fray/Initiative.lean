import Fray.Combatant
import Fray.Random.Draws

/-!
# Initiative

Every combatant rolls once, in the order given, and adds dexterity. Higher
initiative acts first; equal initiative keeps the given order.
-/
namespace Fray

/-- The sides of the die of all checks. -/
def checkDie : Count := 20

def Combatant.rollInitiative (combatant : Combatant) : Draws Combatant := do
  let roll ← Draws.die checkDie
  return { combatant with initiative := roll + combatant.dexterity }

def rollInitiative : List Combatant → Draws (List Combatant)
  | [] => return []
  | combatant :: rest => do
    let ready ← combatant.rollInitiative
    let others ← rollInitiative rest
    return ready :: others

/-- Take a seat before the first combatant whose initiative is no higher. -/
def Combatant.seat (combatant : Combatant) : List Combatant → List Combatant
  | [] => [combatant]
  | first :: rest =>
    if first.initiative ≤ combatant.initiative then combatant :: first :: rest
    else first :: combatant.seat rest

def sortByInitiative : List Combatant → List Combatant
  | [] => []
  | combatant :: rest => combatant.seat (sortByInitiative rest)

theorem Combatant.seat_perm (combatant : Combatant) (seated : List Combatant) :
    (combatant.seat seated).Perm (combatant :: seated) := by
  induction seated with
  | nil => exact .refl _
  | cons first rest ih =>
    simp only [Combatant.seat]
    split
    · exact .refl _
    · exact (ih.cons first).trans (.swap combatant first rest)

theorem sortByInitiative_perm (combatants : List Combatant) :
    (sortByInitiative combatants).Perm combatants := by
  induction combatants with
  | nil => exact .refl _
  | cons combatant rest ih => exact (combatant.seat_perm _).trans (ih.cons combatant)

/-- Nobody acts after somebody of a lower initiative. -/
theorem Combatant.pairwise_seat (combatant : Combatant) {seated : List Combatant}
    (sorted : seated.Pairwise fun early late => late.initiative ≤ early.initiative) :
    (combatant.seat seated).Pairwise fun early late => late.initiative ≤ early.initiative := by
  induction seated with
  | nil => simp [Combatant.seat]
  | cons first rest ih =>
    obtain ⟨above, tail⟩ := List.pairwise_cons.mp sorted
    simp only [Combatant.seat]
    split
    next higher =>
      refine List.pairwise_cons.mpr ⟨fun later member => ?_, sorted⟩
      rcases List.mem_cons.mp member with rfl | inside
      · exact higher
      · exact Int.le_trans (above later inside) higher
    next lower =>
      refine List.pairwise_cons.mpr ⟨fun later member => ?_, ih tail⟩
      rcases List.mem_cons.mp ((combatant.seat_perm rest).mem_iff.mp member) with rfl | inside
      · exact Int.le_of_lt (Int.not_le.mp lower)
      · exact above later inside

theorem pairwise_sortByInitiative (combatants : List Combatant) :
    (sortByInitiative combatants).Pairwise
      fun early late => late.initiative ≤ early.initiative := by
  induction combatants with
  | nil => exact .nil
  | cons combatant rest ih => exact combatant.pairwise_seat ih

/-- Those of one initiative are seated in the order in which they come. -/
theorem Combatant.filter_seat (combatant : Combatant) (seated : List Combatant) (value : Score) :
    (combatant.seat seated).filter (·.initiative = value)
      = (combatant :: seated).filter (·.initiative = value) := by
  induction seated with
  | nil => rfl
  | cons first rest ih =>
    simp only [Combatant.seat]
    split
    · rfl
    next lower =>
      rw [List.filter_cons, ih]
      by_cases same : combatant.initiative = value
      -- Whoever is passed by has a higher initiative.
      · have higher : first.initiative ≠ value := by
          intro equal
          rw [equal, same] at lower
          exact lower (Int.le_refl _)
        simp [same, higher]
      · simp [List.filter_cons, same]

theorem filter_sortByInitiative (combatants : List Combatant) (value : Score) :
    (sortByInitiative combatants).filter (·.initiative = value)
      = combatants.filter (·.initiative = value) := by
  induction combatants with
  | nil => rfl
  | cons combatant rest ih =>
    rw [sortByInitiative, combatant.filter_seat, List.filter_cons, ih, List.filter_cons]

end Fray
