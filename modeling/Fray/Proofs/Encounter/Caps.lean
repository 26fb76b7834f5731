import Fray.Proofs.Encounter.Histories

/-!
# Stacks and caps

A condition that stacks has at most as many stacks as it allows, and any other
condition has one. So another application of a condition never lowers its stacks,
and as a round only applies conditions, it takes none away.

## Main results

`Reached.withinCaps`: the caps hold in every reachable encounter, and with them
`resolve_grows` says what a resolution can do to the stacks.
-/

namespace Fray

open Draws

/-! ### Sets of conditions -/

/-- Every condition of a set is in the codex, and none has more stacks than its cap. -/
def Afflictions.WithinCaps (codex : Codex) (set : Afflictions) : Prop :=
  ∀ id affliction, set.get? id = some affliction →
    ∃ known, codex.get? id = some known ∧ affliction.stack ≤ known.cap

namespace Afflictions

variable {codex : Codex} {set : Afflictions}

theorem WithinCaps.apply (keyed : codex.Keyed) (within : set.WithinCaps codex) {id : String}
    {known : Condition} (entered : codex.get? id = some known) (stack : Count)
    (duration : Option Count) : (set.apply known stack duration).WithinCaps codex := by
  have listed : codex.get? known.id = some known := (keyed id known entered).symm ▸ entered
  exact Each.apply within ⟨known, listed, Affliction.stack_new_le ..⟩
    fun _ _ => ⟨known, listed, Affliction.stack_again_le ..⟩

/-- The stacks that were asked for count up to the cap. -/
theorem Arises.withinCaps (arises : set.Arises codex) : set.WithinCaps codex := by
  obtain ⟨steps, known, rfl⟩ := arises
  intro id affliction found
  have grown := entry_grown known found
  obtain ⟨_, _, first, rest, _, _, _, sum⟩ := grown.requested
  refine ⟨affliction.condition, grown.listed, ?_⟩
  rw [Count.le_iff, sum]
  exact affliction.condition.total_le_cap first rest

end Afflictions

namespace Encounter

/-- No condition of anybody goes beyond its cap. -/
def WithinCaps (encounter : Encounter) : Prop :=
  ∀ id, (encounter.afflictionsOf id).WithinCaps encounter.codex

/-! ### Applying conditions -/

/-- Conditions come to an encounter and are stacked, but none is taken or lowered. -/
structure Grows (before after : Encounter) : Prop where
  codex : after.codex = before.codex
  within : after.WithinCaps
  grown : ∀ id condition affliction, before.affliction? id condition = some affliction →
    ∃ later, after.affliction? id condition = some later ∧ affliction.stack ≤ later.stack

theorem Grows.of_same {before after : Encounter} (within : before.WithinCaps)
    (codex : after.codex = before.codex)
    (same : ∀ id, after.afflictionsOf id = before.afflictionsOf id) : Grows before after where
  codex := codex
  within id := by
    rw [same, codex]
    exact within id
  grown id condition affliction found := by
    rw [affliction?, ← same] at found
    exact ⟨affliction, found, Nat.le_refl _⟩

theorem Grows.trans {first second third : Encounter} (one : Grows first second)
    (two : Grows second third) : Grows first third where
  codex := two.codex.trans one.codex
  within := two.within
  grown id condition affliction found := by
    obtain ⟨middle, there, more⟩ := one.grown id condition affliction found
    obtain ⟨last, here, most⟩ := two.grown id condition middle there
    exact ⟨last, here, Nat.le_trans more most⟩

variable {encounter : Encounter}

theorem afflict_grows {afflicted : Encounter} {id condition : String} {stack : Count}
    {duration : Option Count} (keyed : encounter.codex.Keyed) (within : encounter.WithinCaps)
    (accepted : encounter.afflict id condition stack duration = .ok afflicted) :
    Grows encounter afflicted := by
  have framed := afflict_framed accepted
  obtain ⟨known, set, entered, present, sets⟩ := affliction?_of_afflict accepted
  have own : encounter.afflictionsOf id = set := by
    rw [afflictionsOf, present, Option.getD_some]
  have capped : set.WithinCaps encounter.codex := own ▸ within id
  constructor
  · exact framed.codex
  · unfold WithinCaps
    rw [framed.codex]
    exact afflict_sets accepted (fun _ _ entered held => held.apply keyed entered stack duration)
      within
  -- Only the entry that is applied can differ, and the rest is as it was.
  · intro who other affliction found
    unfold affliction? at found ⊢
    rw [sets who]
    split
    next same =>
      subst same
      rw [own] at found
      rw [Afflictions.get?_apply, keyed condition known entered]
      split
      -- The condition is there already, so it is applied once more.
      next again =>
        subst again
        obtain ⟨listed, here, most⟩ := capped other affliction found
        cases entered.symm.trans here
        rw [found]
        exact ⟨_, rfl, Affliction.le_stack_again most stack duration⟩
      · exact ⟨affliction, found, Nat.le_refl _⟩
    · exact ⟨affliction, found, Nat.le_refl _⟩

end Encounter

/-! ### Rounds -/

theorem Scene.grows_carries :
    Carries (fun encounter => encounter.codex.Keyed ∧ encounter.WithinCaps) Encounter.Grows :=
  .of_conditions .trans (fun guard grows => ⟨grows.codex ▸ guard.1, grows.within⟩)
    (fun guard => .of_same guard.2) fun guard _ => Encounter.afflict_grows guard.1 guard.2

namespace Encounter

variable {encounter : Encounter}

theorem resolve_grows (keyed : encounter.codex.Keyed) (within : encounter.WithinCaps) :
    Always (fun resolution => Grows encounter resolution.encounter) encounter.resolve :=
  encounter.resolve_reaches.mono fun _ reached =>
    Scene.grows_carries.reaches reached ⟨keyed, within⟩

/-! ### Reachable encounters -/

/-- The caps hold whatever is asked of an encounter. -/
theorem Reached.withinCaps {setup : Setup} {reports : List (String × Count)}
    (reached : Reached setup reports encounter) (keyed : setup.codex.Keyed) :
    encounter.WithinCaps :=
  fun id => ((reached.arises keyed).sets id).withinCaps

end Encounter

end Fray
