import Fray.Initiative
import Fray.Proofs.Dice.Throws

/-!
# Initiative

To roll for initiative is to throw one die for every combatant, in the order in which they are
given. Everybody stays who it is, and there is only one way to rank them by what they have
rolled.

## Main results

`Ranked.unique`: how combatants are ranked is determined. `rollInitiative_throws`: the dice of
initiative. `rollInitiative_ids` and `rollInitiative_members`: nobody is changed otherwise.
-/

namespace Fray

open Draws

/-! ### Ranking -/

/-- A list has those of another in falling order of initiative, and equals in the same order. -/
structure Ranked (given ranked : List Combatant) : Prop where
  perm : ranked.Perm given
  falling : ranked.Pairwise fun early late => late.initiative ≤ early.initiative
  level : ∀ value, ranked.filter (·.initiative = value) = given.filter (·.initiative = value)

theorem sortByInitiative_ranked (combatants : List Combatant) :
    Ranked combatants (sortByInitiative combatants) :=
  ⟨sortByInitiative_perm combatants, pairwise_sortByInitiative combatants,
    filter_sortByInitiative combatants⟩

/-- The first of a falling list has the highest initiative. -/
theorem initiative_le_head {first combatant : Combatant} {rest : List Combatant}
    (falling : (first :: rest).Pairwise fun early late => late.initiative ≤ early.initiative)
    (member : combatant ∈ first :: rest) : combatant.initiative ≤ first.initiative := by
  rcases List.mem_cons.mp member with rfl | later
  · exact Int.le_refl _
  · exact (List.pairwise_cons.mp falling).1 combatant later

/-- Whoever is in one list is in the other. -/
theorem mem_of_level {one other : List Combatant}
    (level : ∀ value : Score,
      one.filter (·.initiative = value) = other.filter (·.initiative = value))
    {combatant : Combatant} (member : combatant ∈ one) : combatant ∈ other := by
  have found : combatant ∈ one.filter (·.initiative = combatant.initiative) :=
    List.mem_filter.mpr ⟨member, by simp⟩
  rw [level] at found
  exact (List.mem_filter.mp found).1

/-- Two falling lists with the same order at every initiative are the same. -/
theorem eq_of_level {one other : List Combatant}
    (falls : one.Pairwise fun early late => late.initiative ≤ early.initiative)
    (also : other.Pairwise fun early late => late.initiative ≤ early.initiative)
    (level : ∀ value : Score,
      one.filter (·.initiative = value) = other.filter (·.initiative = value)) :
    one = other := by
  induction one generalizing other with
  | nil =>
    refine (List.eq_nil_iff_forall_not_mem.mpr fun combatant member => ?_).symm
    exact List.not_mem_nil (mem_of_level (fun value => (level value).symm) member)
  | cons first rest ih =>
    cases other with
    | nil => exact absurd (mem_of_level level List.mem_cons_self) List.not_mem_nil
    | cons second later =>
      -- Both heads have the highest initiative, and the one order at it begins with both.
      have below := initiative_le_head also (mem_of_level level List.mem_cons_self)
      have above := initiative_le_head falls
        (mem_of_level (fun value => (level value).symm) List.mem_cons_self)
      have same := Score.ext (Int.le_antisymm above below)
      have heads := level first.initiative
      rw [List.filter_cons_of_pos (by simp), List.filter_cons_of_pos (by simp [same])] at heads
      obtain ⟨rfl, _⟩ := List.cons.inj heads
      congr 1
      refine ih (List.pairwise_cons.mp falls).2 (List.pairwise_cons.mp also).2 fun value => ?_
      have both := level value
      by_cases at_ : first.initiative = value
      · simpa [at_] using both
      · simpa [at_] using both

theorem Ranked.unique {given one other : List Combatant} (ranked : Ranked given one)
    (also : Ranked given other) : one = other :=
  eq_of_level ranked.falling also.falling fun value =>
    (ranked.level value).trans (also.level value).symm

/-! ### Rolling -/

/-- A combatant with the initiative of a face: the sum with its dexterity, which saturates. -/
def Combatant.withRoll (combatant : Combatant) (face : Score) : Combatant :=
  { combatant with initiative := face + combatant.dexterity }

/-- A combatant apart from its initiative. -/
def Combatant.unrolled (combatant : Combatant) : Combatant := { combatant with initiative := 0 }

/-- To roll for initiative is to throw a die for everybody, in order. -/
theorem rollInitiative_throws (combatants : List Combatant) :
    rollInitiative combatants
      = Dice.throwDice checkDie combatants.length [] >>= fun faces =>
          pure (List.zipWith Combatant.withRoll combatants faces) := by
  induction combatants with
  | nil => rfl
  | cons combatant rest ih =>
    rw [rollInitiative, ih, List.length_cons, Dice.throwDice_succ, Combatant.rollInitiative]
    simp only [bind_assoc, pure_eq, bind_done, List.zipWith_cons_cons]
    rfl

/-- However the dice fall, everybody has rolled one of them. -/
theorem rollInitiative_rolled (combatants : List Combatant) :
    Always (fun rolled => ∃ faces, faces.length = combatants.length ∧
        rolled = List.zipWith Combatant.withRoll combatants faces)
      (rollInitiative combatants) := by
  rw [rollInitiative_throws, always_bind]
  refine (Dice.length_throwDice ..).mono fun faces length => ⟨faces, ?_, rfl⟩
  rw [length, List.length_nil, Nat.zero_add]

/-- Whatever does not look at initiative stays in its place. -/
theorem rollInitiative_maps {α : Type} (part : Combatant → α)
    (blind : ∀ combatant face, part (Combatant.withRoll combatant face) = part combatant)
    (combatants : List Combatant) :
    Always (fun rolled => rolled.map part = combatants.map part) (rollInitiative combatants) := by
  refine (rollInitiative_rolled combatants).mono fun rolled came => ?_
  obtain ⟨faces, length, rfl⟩ := came
  refine List.ext_getElem (by simp [length]) fun place _ _ => ?_
  simp [blind]

theorem rollInitiative_ids (combatants : List Combatant) :
    Always (fun rolled => rolled.map Combatant.id = combatants.map Combatant.id)
      (rollInitiative combatants) :=
  rollInitiative_maps Combatant.id (fun _ _ => rfl) combatants

/-- Initiative is all that is new about a combatant that has rolled. -/
theorem rollInitiative_members (combatants : List Combatant) :
    Always (fun rolled => ∀ ready ∈ rolled, ∃ combatant ∈ combatants, ∃ initiative,
        ready = { combatant with initiative := initiative })
      (rollInitiative combatants) := by
  refine (rollInitiative_rolled combatants).mono fun rolled came ready member => ?_
  obtain ⟨faces, _, rfl⟩ := came
  obtain ⟨place, inside, rfl⟩ := List.getElem_of_mem member
  rw [List.getElem_zipWith]
  exact ⟨_, List.getElem_mem _, _, rfl⟩

end Fray
