import Fray.Proofs.Encounter.Caps
import Fray.Proofs.Round.Blocks
import Fray.Proofs.Round.Ebb

/-!
# The effects of a round

What a round may touch, and what must have happened for it. Each deed leaves at
most the conditions behind that are told with it, so the marks of a whole round
are found in the events of its swings. A magazine is touched only in the turn of
its holder.

## Main result

`Reached.resolve_touches`: all effects of a resolution, in every reachable encounter.
-/

namespace Fray

open Draws

/-! ### What is told of swings -/

/-- Some attack that is told of has an outcome, with somebody in a role. -/
def Struck (events : List RoundEvent) (role : Attack → String) (outcome : Outcome)
    (id : String) : Prop :=
  ∃ event ∈ events, ∃ attack ∈ event.attack, role attack = id ∧ attack.outcome = outcome

theorem Struck.mono {some all : List RoundEvent} {role : Attack → String} {outcome : Outcome}
    {id : String} (struck : Struck some role outcome id) (inside : some ⊆ all) :
    Struck all role outcome id := by
  obtain ⟨event, member, found⟩ := struck
  exact ⟨event, inside member, found⟩

/-- What differs in the end has changed early or late. -/
theorem Struck.of_changed {α : Type} {first second third : α} {early late : List RoundEvent}
    {role : Attack → String} {outcome : Outcome} {id : String}
    (one : second ≠ first → Struck early role outcome id)
    (two : third ≠ second → Struck late role outcome id) (changed : third ≠ first) :
    Struck (early ++ late) role outcome id := by
  by_cases later : third = second
  · subst later
    exact (one changed).mono (List.subset_append_left ..)
  · exact (two later).mono (List.subset_append_right ..)

/-- The events of swings. -/
def melee (events : List RoundEvent) : List RoundEvent := events.filter (·.action.isMelee)

theorem melee_append (early late : List RoundEvent) :
    melee (early ++ late) = melee early ++ melee late := List.filter_append ..

/-! ### Marks -/

namespace Encounter

/-- The conditions that change are those of a swing that is told, or dying. -/
structure Marks (before : Encounter) (events : List RoundEvent) (after : Encounter) : Prop where
  codex : after.codex = before.codex
  prone : ∀ id,
    after.affliction? id Condition.prone.id ≠ before.affliction? id Condition.prone.id →
      Struck events Attack.attacker .criticalFailure id
  flatFooted : ∀ id,
    after.affliction? id Condition.flatFooted.id ≠ before.affliction? id Condition.flatFooted.id →
      Struck events Attack.target .criticalSuccess id
  others : ∀ id condition, condition ≠ Condition.prone.id → condition ≠ Condition.flatFooted.id →
    condition ≠ Condition.dying.id →
      after.affliction? id condition = before.affliction? id condition

/-- If at most dying changes, nothing has to be told. -/
theorem marks_of_same {before after : Encounter} (events : List RoundEvent)
    (codex : after.codex = before.codex)
    (same : ∀ id condition, condition ≠ Condition.dying.id →
      after.affliction? id condition = before.affliction? id condition) :
    Marks before events after where
  codex := codex
  prone id changed := absurd (same id _ (by decide)) changed
  flatFooted id changed := absurd (same id _ (by decide)) changed
  others id condition _ _ other := same id condition other

theorem Marks.trans {first second third : Encounter} {early late : List RoundEvent}
    (one : Marks first early second) (two : Marks second late third) :
    Marks first (early ++ late) third where
  codex := two.codex.trans one.codex
  prone id := .of_changed (one.prone id) (two.prone id)
  flatFooted id := .of_changed (one.flatFooted id) (two.flatFooted id)
  others id condition prone flatFooted dying :=
    (two.others id condition prone flatFooted dying).trans
      (one.others id condition prone flatFooted dying)

variable {encounter : Encounter}

theorem beginDying_marks (keyed : encounter.codex.Keyed) (target : Nat) :
    Marks encounter [] (encounter.beginDying target) :=
  marks_of_same _ (beginDying_framed ..).codex fun id _ => affliction?_beginDying keyed target id

/-- A swing marks one of its two sides, depending on the outcome that is told. -/
theorem afterSwing_marks (keyed : encounter.codex.Keyed) {attacker target : Combatant}
    {attack : Attack} {event : RoundEvent} (between : attack.IsBetween attacker target)
    (told : event.attack = some attack) :
    Marks encounter [event] (encounter.afterSwing attacker target attack.outcome) := by
  have codex := (afterSwing_framed encounter attacker target attack.outcome).codex
  have apart {id condition who what : String} {stack : Count} {duration : Option Count}
      (other : id ≠ who ∨ condition ≠ what) :=
    affliction?_afflictIfAllowed keyed who what stack duration other
  -- Whichever side is marked, it is the event itself that tells of it.
  have struck (role : Attack → String) :
      Struck [event] role attack.outcome (role attack) :=
    ⟨event, List.mem_singleton_self _, attack, told, rfl, rfl⟩
  cases outcome : attack.outcome with
  | criticalFailure =>
    rw [outcome] at codex struck
    refine ⟨codex, fun id changed => ?_, fun id changed => ?_, fun id condition other _ _ => ?_⟩
    · by_cases own : id = attacker.id
      · rw [own, ← between.1]
        exact struck Attack.attacker
      · exact absurd (apart (.inl own)) changed
    · exact absurd (apart (.inr (by decide))) changed
    · exact apart (.inr other)
  | criticalSuccess =>
    rw [outcome] at codex struck
    refine ⟨codex, fun id changed => ?_, fun id changed => ?_, fun id condition _ other _ => ?_⟩
    · exact absurd (apart (.inr (by decide))) changed
    · by_cases own : id = target.id
      · rw [own, ← between.2]
        exact struck Attack.target
      · exact absurd (apart (.inl own)) changed
    · exact apart (.inr other)
  | success | failure => exact marks_of_same _ rfl fun _ _ _ => rfl

end Encounter

namespace Scene

open Encounter

theorem Deed.marks {before after : Scene} {event : Option RoundEvent}
    (deed : Deed before event after) (keyed : before.encounter.codex.Keyed) :
    Marks before.encounter event.toList after.encounter := by
  cases deed with
  | ask hook args => exact marks_of_same _ rfl fun _ _ _ => rfl
  | reload index => exact marks_of_same _ rfl fun _ _ _ => rfl
  | fire index => exact marks_of_same _ rfl fun _ _ _ => rfl
  | tell plain => exact marks_of_same _ rfl fun _ _ _ => rfl
  | @blast target damage event _ _ _ =>
    have codex := (hurt_framed before target damage).codex
    have hurt : Marks before.encounter [event] (before.hurt target damage).encounter :=
      marks_of_same _ codex fun id condition _ =>
        congrArg (Table.get? · condition) (afflictionsOf_hurt before target damage id)
    exact hurt.trans (beginDying_marks (codex ▸ keyed) target)
  | @swing _ target attacker defender rolled event _ _ _ between told =>
    obtain ⟨framed, _, same⟩ := land_leaves before attacker defender target rolled
    have landed : Marks before.encounter [] _ := marks_of_same _ framed.codex fun id condition _ =>
      congrArg (Table.get? · condition) (same id)
    have sides : (before.land attacker defender target rolled).attack.IsBetween attacker defender :=
      between
    have left := landed.trans (afterSwing_marks (framed.codex ▸ keyed) sides told)
    exact left.trans (beginDying_marks (left.codex ▸ keyed) target)
  | @shot _ target attacker defender rolled event _ _ _ _ _ =>
    obtain ⟨framed, _, same⟩ := land_leaves before attacker defender target rolled
    have landed : Marks before.encounter [event] _ :=
      marks_of_same _ framed.codex fun id condition _ =>
        congrArg (Table.get? · condition) (same id)
    exact landed.trans (beginDying_marks (framed.codex ▸ keyed) target)

theorem Course.marks {before after : Scene} {events : List RoundEvent}
    (course : Course before events after) (keyed : before.encounter.codex.Keyed) :
    Marks before.encounter events after.encounter := by
  induction course with
  | start => exact marks_of_same _ rfl fun _ _ _ => rfl
  | deed _ last ih => exact ih.trans (last.marks (ih.codex ▸ keyed))

/-! ### Blocks and turns -/

/-- The marks of an action are told by swings, since only a swing leaves marks. -/
theorem Fulfils.marks {actor : Actor} {before after : Scene} {block : Block}
    (fulfils : Fulfils actor before block after) (keyed : before.encounter.codex.Keyed) :
    Marks before.encounter (melee block.events) after.encounter := by
  have kinds (event : RoundEvent) (member : event ∈ block.events) :
      event.action = block.action.kind := (fulfils.tells event member).2.2
  cases swings : block.action.kind.isMelee with
  -- All events of a swing are kept, so its course says what they tell.
  | true =>
    have all : melee block.events = block.events := by
      apply List.filter_eq_self.mpr
      intro event member
      rw [kinds event member, swings]
    rw [all]
    exact fulfils.course.marks keyed
  -- Nothing is kept of any other action, which must then leave no marks.
  | false => exact marks_of_same _ fulfils.works.framed.codex (fulfils.works.marks swings keyed)

theorem Acts.marks {actor : Actor} {before after : Scene} {blocks : List Block}
    (acts : Acts actor before blocks after) (keyed : before.encounter.codex.Keyed) :
    Marks before.encounter (melee (blocks.flatMap Block.events)) after.encounter := by
  induction acts with
  | none => exact marks_of_same _ rfl fun _ _ _ => rfl
  | act fulfils _ ih =>
    have first := fulfils.marks keyed
    rw [List.flatMap_cons, melee_append]
    exact first.trans (ih (first.codex ▸ keyed))

theorem Lap.marks {plan : String → List Action} {position : Nat} {before after : Scene}
    {turns : List Turn} (lap : Lap plan position before turns after)
    (keyed : before.encounter.codex.Keyed) :
    Marks before.encounter (melee (eventsOf turns)) after.encounter := by
  induction lap with
  | finished => exact marks_of_same _ rfl fun _ _ _ => rfl
  | @turn position before middle after turn rest _ _ acts _ ih =>
    have first := acts.marks keyed
    have told : eventsOf (turn :: rest) = turn.blocks.flatMap Block.events ++ eventsOf rest := by
      simp [eventsOf]
    rw [told, melee_append]
    exact first.trans (ih (first.codex ▸ keyed))

/-! ### Magazines -/

theorem Acts.loadouts {actor : Actor} {before after : Scene} {blocks : List Block}
    (acts : Acts actor before blocks after) {index : Nat}
    (apart : index ≠ actor.index ∨
      ∀ block ∈ blocks, block.action.kind.handlesMagazine = false) :
    after.encounter.loadoutAt? index = before.encounter.loadoutAt? index := by
  induction acts with
  | none => rfl
  | act fulfils _ ih =>
    simp only [List.forall_mem_cons] at apart
    have first := fulfils.works.loadouts index (apart.imp_right And.left)
    have others := ih (apart.imp_right And.right)
    exact others.trans first

/-- The loadout at a position is touched in no turn but the one at this position. -/
theorem Lap.loadouts {plan : String → List Action} {position : Nat} {before after : Scene}
    {turns : List Turn} (lap : Lap plan position before turns after) {index : Nat}
    (idle : ∀ count turn, index = position + count → turns[count]? = some turn →
      ∀ block ∈ turn.blocks, block.action.kind.handlesMagazine = false) :
    after.encounter.loadoutAt? index = before.encounter.loadoutAt? index := by
  induction lap with
  | finished => rfl
  | @turn position before middle after turn rest _ _ acts _ ih =>
    have first : middle.encounter.loadoutAt? index = before.encounter.loadoutAt? index := by
      by_cases own : index = position
      · exact acts.loadouts (.inr (idle 0 turn own rfl))
      · exact acts.loadouts (.inl own)
    -- The rest begins one position later.
    have others := ih fun count other shifted found =>
      idle (count + 1) other (by omega) (by simpa using found)
    exact others.trans first

end Scene

/-! ### All effects -/

namespace Encounter

/-- What a resolution touches in an encounter, and under which circumstances. -/
structure Touches (before : Encounter) (resolution : Resolution) : Prop where
  /-- The profiles hold everything about the combatants but hit points and loaded rounds. -/
  framed : Framed before resolution.encounter
  /-- No hit points are gained. -/
  stands : ∀ (index : Nat) (combatant : Combatant), before.combatants[index]? = some combatant →
    ∃ left, resolution.encounter.combatants[index]? = some left ∧
      left.profile = combatant.profile ∧ left.hp ≤ combatant.hp
  /-- Everybody has one turn, and the turns are in order. -/
  turns : resolution.turns.map (·.combatant.profile) = before.combatants.map Combatant.profile
  /-- Only who reloads or fires bursts or automatic changes a loadout, which is its own. -/
  loadouts : ∀ index, resolution.encounter.loadoutAt? index ≠ before.loadoutAt? index →
    ∃ turn, resolution.turns[index]? = some turn ∧
      ∃ block ∈ turn.blocks, block.action.kind.handlesMagazine = true
  /-- No condition is taken from anybody, and no stack falls. -/
  grown : ∀ id condition affliction, before.affliction? id condition = some affliction →
    ∃ later, resolution.encounter.affliction? id condition = some later ∧
      affliction.stack ≤ later.stack
  others : ∀ id condition, condition ≠ Condition.prone.id → condition ≠ Condition.flatFooted.id →
    condition ≠ Condition.dying.id →
      resolution.encounter.affliction? id condition = before.affliction? id condition
  prone : ∀ id, resolution.encounter.affliction? id Condition.prone.id
      ≠ before.affliction? id Condition.prone.id →
    Struck (melee resolution.events) Attack.attacker .criticalFailure id
  flatFooted : ∀ id, resolution.encounter.affliction? id Condition.flatFooted.id
      ≠ before.affliction? id Condition.flatFooted.id →
    Struck (melee resolution.events) Attack.target .criticalSuccess id
  dying : ∀ id, resolution.encounter.affliction? id Condition.dying.id
      ≠ before.affliction? id Condition.dying.id →
    ∃ combatant ∈ resolution.encounter.combatants, combatant.id = id ∧ combatant.IsDown
  vetoed : Vetoed before resolution.encounter →
    resolution.encounter.afflictions = before.afflictions

theorem resolve_loadouts (encounter : Encounter) :
    Always (fun resolution => ∀ index,
        resolution.encounter.loadoutAt? index ≠ encounter.loadoutAt? index →
          ∃ turn, resolution.turns[index]? = some turn ∧
            ∃ block ∈ turn.blocks, block.action.kind.handlesMagazine = true)
      encounter.resolve := by
  refine encounter.resolve_lap.mono fun resolution lap index changed => ?_
  -- If the holder has handled no magazine, then nobody has touched its loadout.
  by_contra idle
  refine changed (lap.loadouts fun count turn here found block member => ?_)
  rw [Nat.zero_add] at here
  subst here
  exact Bool.eq_false_iff.mpr fun handles => idle ⟨turn, found, block, member, handles⟩

/-- In every reachable encounter a resolution touches no more than it has reason to. -/
theorem Reached.resolve_touches {setup : Setup} {conditions : List Condition}
    {reports : List (String × Count)} {encounter : Encounter}
    (codex : setup.codex = Codex.registerAll Table.empty conditions)
    (reached : Reached setup reports encounter) :
    Always (Touches encounter) encounter.resolve := by
  have registered : setup.codex.Keyed := by
    rw [codex]
    exact Codex.keyed_registerAll (fun _ _ found => by cases found) conditions
  have keyed : encounter.codex.Keyed := reached.same.2.symm ▸ registered
  have taken := (resolve_ebbs keyed).and encounter.resolve_heeds
  have added := (resolve_grows keyed (reached.withinCaps registered)).and encounter.resolve_lap
  have stays := encounter.resolve_framed.and encounter.resolve_follows
  refine ((taken.and added).and (stays.and encounter.resolve_loadouts)).mono
    fun resolution all => ?_
  obtain ⟨⟨⟨ebbs, heeds⟩, grows, lap⟩, ⟨framed, follows⟩, loadouts⟩ := all
  have marks := lap.marks keyed
  exact {
    framed := framed
    stands := ebbs.stands
    turns := follows.1
    loadouts := loadouts
    grown := grows.grown
    others := marks.others
    prone := marks.prone
    flatFooted := marks.flatFooted
    dying := ebbs.dying
    vetoed := heeds.vetoed }

/-! ### A stumble -/

def sampleStumble : Setup :=
  { room := "cellar"
    zone := "house"
    combatants := [
      { id := "rat", name := "Rat", side := .npc, maxHp := 9, hp := 9, armorClass := 9 },
      { id := "ann", name := "Ann", side := .player, maxHp := 9, hp := 9, armorClass := 30 }] }

def sampleLunge : List Request := [.openRound 3, .commit "rat" (.attack "Ann")]

/-- The fight before its first round is resolved. -/
def sampleLunging : Encounter := ((play sampleLunge (begin sampleStumble)).run (⟨15⟩ : Fixed)).1

/-- The rat is prone after the round, so its attack must have failed critically. -/
theorem resolve_touches_sample :
    let resolution := (sampleLunging.resolve.run (⟨15⟩ : Fixed)).1
    sampleStumble.codex = Codex.registerAll Table.empty
      [.prone, .flatFooted, .dying, .wounded, .stunned, .frightened] ∧
    (∃ reports, Reached sampleStumble reports sampleLunging) ∧
    Touches sampleLunging resolution ∧
    resolution.encounter.affliction? "rat" Condition.prone.id = some (.new .prone 1 none) ∧
    Struck (melee resolution.events) Attack.attacker .criticalFailure "rat" := by
  have codex : sampleStumble.codex = Codex.registerAll Table.empty
    [.prone, .flatFooted, .dying, .wounded, .stunned, .frightened] := rfl
  have arrived : ∃ reports, Reached sampleStumble reports sampleLunging :=
    reached_play sampleStumble sampleLunge (⟨15⟩ : Fixed)
  obtain ⟨reports, reached⟩ := arrived
  have touches := (reached.resolve_touches codex).run (⟨15⟩ : Fixed)
  have prone : (sampleLunging.resolve.run (⟨15⟩ : Fixed)).1.encounter.affliction? "rat"
      Condition.prone.id = some (.new .prone 1 none) := by decide +kernel
  have stood : sampleLunging.affliction? "rat" Condition.prone.id = none := by decide +kernel
  have struck := touches.prone "rat" (by rw [prone, stood]; simp)
  exact ⟨codex, ⟨reports, reached⟩, touches, prone, struck⟩

end Encounter

end Fray
