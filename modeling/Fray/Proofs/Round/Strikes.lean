import Fray.Proofs.Afflictions.Penalties
import Fray.Proofs.Round.Blows
import Fray.Proofs.Round.Moments

/-!
# The two swings of a strike

With the built-in conditions and without hooks the second swing of a strike differs from
the first in three ways: in its die, in its penalty, and in the mark that a critical first
swing may have left. A mark counts only where it was not there before, and it counts on
the side that has it, even if both sides are the same combatant. The other conditions
stay, and dying, which the first swing can bring about, has no penalty.

## Main result

`watch_strikes`: the difference between the totals of the two swings of every strike.
-/

namespace Fray

open Draws

namespace Encounter

/-! ### Plain encounters -/

/-- Built-in conditions, no hooks, and a set of conditions for everybody. -/
structure Plain (encounter : Encounter) : Prop where
  core : encounter.codex = .core
  free : encounter.hooks = Hooks.none
  kept : ∀ id ∈ encounter.ids, encounter.afflictions.contains id = true
  arises : encounter.Arises

variable {encounter : Encounter}

theorem keyed_core : Codex.core.Keyed :=
  Codex.keyed_registerAll (fun _ _ found => by cases found) _

theorem core_prone : Codex.core.get? Condition.prone.id = some .prone := by decide

theorem core_flatFooted : Codex.core.get? Condition.flatFooted.id = some .flatFooted := by decide

theorem core_dying : Codex.core.get? Condition.dying.id = some .dying := by decide

theorem Reached.plain {setup : Setup} {reports : List (String × Count)}
    (reached : Reached setup reports encounter) (core : setup.codex = .core)
    (free : setup.hooks = Hooks.none) : encounter.Plain where
  core := reached.same.2.trans core
  free := reached.hooks.trans free
  kept := reached.kept
  arises := reached.arises (core ▸ keyed_core)

theorem Plain.framed {before after : Encounter} (plain : before.Plain)
    (framed : Framed before after) (arises : after.Arises) : after.Plain where
  core := framed.codex.trans plain.core
  free := framed.hooks.trans plain.free
  kept id member := (framed.afflicted id).trans (plain.kept id (framed.ids ▸ member))
  arises := arises

theorem Plain.reaches {before after : Scene} (plain : before.encounter.Plain)
    (reached : Scene.Reaches before after) : after.encounter.Plain :=
  plain.framed (Scene.Reaches.framed reached) (Scene.arises_carries.reaches reached plain.arises)

theorem Plain.contains (plain : encounter.Plain) {index : Nat} {combatant : Combatant}
    (found : encounter.combatants[index]? = some combatant) :
    encounter.afflictions.contains combatant.id = true :=
  plain.kept _ (List.mem_map_of_mem (List.mem_of_getElem? found))

theorem Plain.sets (plain : encounter.Plain) (id : String) :
    (encounter.afflictionsOf id).Arises .core :=
  plain.core ▸ plain.arises.sets id

/-! ### What a swing adds to the penalties -/

/-- Without hooks a known condition is applied to a known combatant, and to no other. -/
theorem Plain.afflictionsOf (plain : encounter.Plain) {id condition : String} {known : Condition}
    (found : Codex.core.get? condition = some known)
    (present : encounter.afflictions.contains id = true) (stack : Count) (duration : Option Count)
    (who : String) :
    (encounter.afflictIfAllowed id condition stack duration).afflictionsOf who
      = if who = id then (encounter.afflictionsOf id).apply known stack duration
        else encounter.afflictionsOf who := by
  obtain ⟨set, inside⟩ := Option.isSome_iff_exists.mp present
  have entered : encounter.codex.get? condition = some known := plain.core ▸ found
  have own : encounter.afflictions.get? id = some set := inside
  simp only [afflictIfAllowed, consult, plain.free, Hooks.none, Option.any_none,
    Bool.false_eq_true, if_false, afflict, entered, own, Encounter.afflictionsOf,
    Table.get?_insert, Option.getD_some]
  split <;> rfl

section Penalty

variable {penalty : Condition → Score} {id condition : String} {known : Condition}

/-- A condition that does not stack adds its penalty once, to the one who gets it. -/
theorem Plain.burden_single (plain : encounter.Plain)
    (found : Codex.core.get? condition = some known) (single : known.maxStacks = 0)
    (present : encounter.afflictions.contains id = true) (duration : Option Count)
    (who : String) :
    ((encounter.afflictIfAllowed id condition 1 duration).afflictionsOf who).burden penalty
      = (encounter.afflictionsOf who).burden penalty
        + if who = id ∧ encounter.hasCondition id condition = false then
            (Affliction.new known 1 duration).weight penalty
          else 0 := by
  have named : known.id = condition := keyed_core condition known found
  subst named
  rw [plain.afflictionsOf found present]
  by_cases own : who = id
  · subst own
    rw [if_pos rfl]
    cases has : encounter.hasCondition who known.id with
    | false => rw [Afflictions.burden_apply_new has, if_pos ⟨rfl, rfl⟩]
    | true =>
      rw [Afflictions.burden_apply_single (plain.sets who) found single has]
      simp
  · rw [if_neg own, if_neg fun both => own both.1, Nat.add_zero]

/-- A condition without a penalty adds nothing. -/
theorem Plain.burden_free (plain : encounter.Plain)
    (found : Codex.core.get? condition = some known) (free : ¬0 < penalty known)
    (present : encounter.afflictions.contains id = true) (stack : Count)
    (duration : Option Count) (who : String) :
    ((encounter.afflictIfAllowed id condition stack duration).afflictionsOf who).burden penalty
      = (encounter.afflictionsOf who).burden penalty := by
  have named : known.id = condition := keyed_core condition known found
  rw [plain.afflictionsOf found present]
  split
  next own =>
    subst own
    subst named
    exact Afflictions.burden_apply_free (plain.sets who) found free stack duration
  · rfl

/-- To begin to die costs nothing. -/
theorem Plain.burden_beginDying (plain : encounter.Plain) (free : ¬0 < penalty .dying)
    (target : Nat) (who : String) :
    ((encounter.beginDying target).afflictionsOf who).burden penalty
      = (encounter.afflictionsOf who).burden penalty := by
  rcases encounter.beginDying_cases target with ⟨same, _⟩ | ⟨combatant, found, _, _, _, _, dies⟩
  · rw [same]
  · rw [dies]
    exact plain.burden_free core_dying free (plain.contains found) ..

end Penalty

/-- Prone attackers are worse at attacking. -/
theorem Plain.attackBurden_afterSwing (plain : encounter.Plain) {attacker defender : Combatant}
    (attackerKept : encounter.afflictions.contains attacker.id = true)
    (defenderKept : encounter.afflictions.contains defender.id = true) (outcome : Outcome)
    (who : String) :
    ((encounter.afterSwing attacker defender outcome).afflictionsOf who).burden
        Condition.attackPenalty
      = (encounter.afflictionsOf who).burden Condition.attackPenalty
        + if outcome = .criticalFailure ∧ who = attacker.id ∧
            encounter.hasCondition attacker.id Condition.prone.id = false then 2 else 0 := by
  cases outcome with
  | criticalFailure =>
    simp only [afterSwing, true_and]
    exact plain.burden_single core_prone rfl attackerKept none who
  | criticalSuccess =>
    simpa [afterSwing] using
      plain.burden_free core_flatFooted (by decide) defenderKept 1 (some 1) who
  | success | failure => simp [afterSwing]

/-- Flat-footed targets are easier to hit. -/
theorem Plain.acBurden_afterSwing (plain : encounter.Plain) {attacker defender : Combatant}
    (attackerKept : encounter.afflictions.contains attacker.id = true)
    (defenderKept : encounter.afflictions.contains defender.id = true) (outcome : Outcome)
    (who : String) :
    ((encounter.afterSwing attacker defender outcome).afflictionsOf who).burden
        Condition.acPenalty
      = (encounter.afflictionsOf who).burden Condition.acPenalty
        + if outcome = .criticalSuccess ∧ who = defender.id ∧
            encounter.hasCondition defender.id Condition.flatFooted.id = false then 2 else 0 := by
  cases outcome with
  | criticalSuccess =>
    simp only [afterSwing, true_and]
    exact plain.burden_single core_flatFooted rfl defenderKept (some 1) who
  | criticalFailure =>
    simpa [afterSwing] using
      plain.burden_free core_prone (by decide) attackerKept 1 none who
  | success | failure => simp [afterSwing]

/-- With built-in conditions no sum of penalties is large enough to saturate. -/
theorem Plain.toInt_swingModifier (plain : encounter.Plain) (attacker target : String) :
    (encounter.swingModifier attacker target).toInt
      = ((encounter.afflictionsOf target).burden Condition.acPenalty : Int)
        - ((encounter.afflictionsOf attacker).burden Condition.attackPenalty : Int) := by
  have attack := (plain.sets attacker).burden_core_le Condition.attackPenalty (by decide +kernel)
  have ac := (plain.sets target).burden_core_le Condition.acPenalty (by decide +kernel)
  rw [swingModifier, Score.toInt_sub, Afflictions.attackModifier, Afflictions.acModifier,
    Afflictions.toInt_modifier, Afflictions.toInt_modifier]
  omega

/-- What the mark of an attack changes for the next swing of the same kind. -/
def swingShift (encounter : Encounter) (attack : Attack) : Int :=
  (if attack.outcome = .criticalSuccess ∧
      encounter.hasCondition attack.target Condition.flatFooted.id = false then 2 else 0)
  - if attack.outcome = .criticalFailure ∧
      encounter.hasCondition attack.attacker Condition.prone.id = false then 2 else 0

end Encounter

namespace Scene

open Encounter

/-! ### Single swings -/

/-- A swing of one combatant at another, as it goes without hooks. -/
structure Swung (before : Scene) (attacker defender : Combatant) (penalty : Score)
    (attack : Attack) (after : Scene) : Prop where
  between : attack.IsBetween attacker defender
  total : attack.total
    = attack.roll + attacker.strength + proficiencyBonus attacker.level
      + before.encounter.swingModifier attacker.id defender.id - penalty
  framed : Framed before.encounter after.encounter
  leaves : ∃ (hit : Encounter) (target : Nat), Framed before.encounter hit ∧
    (∀ id, hit.afflictionsOf id = before.encounter.afflictionsOf id) ∧
    after.encounter = (hit.afterSwing attacker defender attack.outcome).beginDying target

theorem swing_swung {scene : Scene} (free : scene.encounter.hooks = Hooks.none)
    {actor target : Nat} {attacker defender : Combatant}
    (attackerAt : scene.encounter.combatants[actor]? = some attacker)
    (defenderAt : scene.encounter.combatants[target]? = some defender) (penalty : Score) :
    Always (fun result => ∃ attack, result.1 = some attack ∧
        Swung scene attacker defender penalty attack result.2)
      (scene.swing actor target penalty) := by
  simp only [swing, attackerAt, defenderAt]
  rw [always_bind]
  refine ((meleeRoll_total attacker defender).and (meleeRoll_between attacker defender)).mono
    fun rolled facts => ⟨_, rfl, ?_⟩
  obtain ⟨framed, _, same⟩ := land_leaves scene attacker defender target { rolled with
    total := rolled.total + scene.encounter.swingModifier attacker.id defender.id - penalty }
  refine ⟨facts.2, ?_, ?_, _, target, framed, same, rfl⟩
  · simp only [land, attackTotal, consult, free, Hooks.none, Option.bind_none, Option.getD_none,
      facts.1]
  · exact (framed.trans (afterSwing_framed ..)).trans (beginDying_framed ..)

/-- The mark of a swing is all that changes for the next one. -/
theorem Swung.shift {before after : Scene} {attacker defender : Combatant} {penalty : Score}
    {attack : Attack} (swung : Swung before attacker defender penalty attack after)
    (plain : before.encounter.Plain)
    (attackerKept : before.encounter.afflictions.contains attacker.id = true)
    (defenderKept : before.encounter.afflictions.contains defender.id = true) :
    after.encounter.Plain ∧
      (after.encounter.swingModifier attacker.id defender.id).toInt
        = (before.encounter.swingModifier attacker.id defender.id).toInt
          + before.encounter.swingShift attack := by
  obtain ⟨hit, target, framed, same, left⟩ := swung.leaves
  have struck : hit.Plain :=
    plain.framed framed (plain.arises.of_same framed.codex same)
  have swings := struck.framed (afterSwing_framed hit attacker defender attack.outcome)
    (Scene.arises_carries.swing struck.arises attacker defender attack.outcome)
  have dies : after.encounter.Plain := by
    rw [left]
    exact swings.framed (beginDying_framed ..) (Scene.arises_carries.die swings.arises target)
  have attackerHit := (framed.afflicted attacker.id).trans attackerKept
  have defenderHit := (framed.afflicted defender.id).trans defenderKept
  have has (id condition : String) :
      hit.hasCondition id condition = before.encounter.hasCondition id condition := by
    rw [hasCondition, same, hasCondition]
  refine ⟨dies, ?_⟩
  rw [dies.toInt_swingModifier, plain.toInt_swingModifier, left,
    swings.burden_beginDying (by decide), swings.burden_beginDying (by decide),
    struck.acBurden_afterSwing attackerHit defenderHit,
    struck.attackBurden_afterSwing attackerHit defenderHit, same, same, has, has, swingShift,
    swung.between.1, swung.between.2]
  simp only [true_and]
  split <;> split <;> omega

/-! ### Both swings -/

/-- Where the target has survived, the second swing is at the same combatants as the first. -/
theorem Swung.again {scene middle : Scene} {attacker defender : Combatant} {penalty : Score}
    {one : Attack} (swung : Swung scene attacker defender penalty one middle)
    (free : scene.encounter.hooks = Hooks.none) {actor target : Nat}
    (attackerAt : scene.encounter.combatants[actor]? = some attacker)
    (defenderAt : scene.encounter.combatants[target]? = some defender)
    (alive : middle.encounter.isDeadAt target = false) (another : Score) :
    Always (fun result => ∃ two later other, result.1 = some two ∧
        later.profile = attacker.profile ∧ other.profile = defender.profile ∧
        Swung middle later other another two result.2)
      (middle.swing actor target another) := by
  obtain ⟨other, otherAt, _⟩ := isDeadAt_eq_false.mp alive
  obtain ⟨self, selfAt, same⟩ := swung.framed.stood otherAt
  cases selfAt.symm.trans defenderAt
  have place := swung.framed.profile_at actor
  rw [attackerAt] at place
  obtain ⟨later, laterAt, stays⟩ := Option.map_eq_some_iff.mp place
  refine (swing_swung (swung.framed.hooks.trans free) laterAt otherAt another).mono
    fun result again => ?_
  obtain ⟨two, shown, swung⟩ := again
  exact ⟨two, later, other, shown, stays, same.symm, swung⟩

/-- The events of a strike that tells of two attacks are its two swings. -/
theorem performStrike_swings {scene : Scene} (free : scene.encounter.hooks = Hooks.none)
    (actor : Actor) (action : Action) :
    Always (fun result => ∀ first second one two, result.1 = [first, second] →
        first.attack = some one → second.attack = some two →
          ∃ attacker defender middle later other,
            scene.encounter.combatants[actor.index]? = some attacker ∧
            defender ∈ scene.encounter.combatants ∧
            later.profile = attacker.profile ∧ other.profile = defender.profile ∧
            Swung scene attacker defender 0 one middle ∧
            Swung middle later other secondSwingPenalty two result.2)
      (scene.performStrike actor action) := by
  unfold performStrike
  split
  · -- Without a target both events tell of no attack.
    rintro first second one two ⟨⟩ told
    cases told
  next target aimed =>
    obtain ⟨name, _, named⟩ := Option.bind_eq_some_iff.mp aimed
    obtain ⟨defender, defenderAt, _⟩ := isDeadAt_eq_false.mp (isDeadAt_of_firstLiving named)
    cases attackerAt : scene.encounter.combatants[actor.index]? with
    | none =>
      simp only [swing, attackerAt, pure_eq, bind_done]
      split
      · rintro first second one two told
        simp at told
      · rintro first second one two told
        simp at told
    | some attacker =>
      rw [always_bind]
      refine (swing_swung free attackerAt defenderAt 0).mono fun result swung => ?_
      obtain ⟨shown, middle⟩ := result
      obtain ⟨one, rfl, swung⟩ := swung
      dsimp only
      split
      · -- The target has died, and the second event tells of that.
        rintro first second _ two ⟨⟩ _ told
        cases told
      next survived =>
        have alive := Bool.eq_false_iff.mpr survived
        rw [always_bind]
        refine (swung.again free attackerAt defenderAt alive secondSwingPenalty).mono
          fun result again => ?_
        obtain ⟨shown, after⟩ := result
        obtain ⟨two, later, other, rfl, stays, same, again⟩ := again
        rintro first second _ _ ⟨⟩ ⟨⟩ ⟨⟩
        exact ⟨attacker, defender, middle, later, other, rfl, List.mem_of_getElem? defenderAt,
          stays, same, swung, again⟩

end Scene

/-! ### The difference between the totals -/

/-- The sums on the way to the total of a swing, none of them saturated. -/
def swingSums (attacker : Combatant) (roll : Score) (change penalty : Int) : List Int :=
  let rolled := roll.toInt + attacker.strength.toInt
  let skilled := rolled + (proficiencyBonus attacker.level).toInt
  [rolled, skilled, skilled + change, skilled + change - penalty]

/-- No sum leaves the range of scores. -/
def InRange (sums : List Int) : Prop := ∀ sum ∈ sums, -2147483648 ≤ sum ∧ sum ≤ 2147483647

instance (sums : List Int) : Decidable (InRange sums) :=
  inferInstanceAs (Decidable (∀ sum ∈ sums, _))

private theorem toInt_swing {attacker : Combatant} {roll change penalty : Score}
    (inRange : InRange (swingSums attacker roll change.toInt penalty.toInt)) :
    (roll + attacker.strength + proficiencyBonus attacker.level + change - penalty).toInt
      = roll.toInt + attacker.strength.toInt + (proficiencyBonus attacker.level).toInt
        + change.toInt - penalty.toInt := by
  simp only [InRange, swingSums, List.mem_cons, List.not_mem_nil, or_false, forall_eq_or_imp,
    forall_eq] at inRange
  simp only [Score.toInt_sub, Score.toInt_add]
  omega

namespace Encounter

/-- Two swings of the combatant at a position at the same target, and how their totals differ. -/
def SwingsTwice (before : Encounter) (position : Nat) (one two : Attack) : Prop :=
  ∃ attacker, before.combatants[position]? = some attacker ∧
    one.attacker = attacker.id ∧ two.attacker = attacker.id ∧ two.target = one.target ∧
    let change := (before.swingModifier one.attacker one.target).toInt
    let shift := before.swingShift one
    InRange (swingSums attacker one.roll change 0
      ++ swingSums attacker two.roll (change + shift) 5) →
      two.total.toInt - one.total.toInt = two.roll.toInt - one.roll.toInt - 5 + shift

end Encounter

theorem Scene.Swung.swingsTwice {before middle after : Scene} {position : Nat}
    {attacker defender later other : Combatant} {one two : Attack}
    (plain : before.encounter.Plain)
    (attackerAt : before.encounter.combatants[position]? = some attacker)
    (defenderIn : defender ∈ before.encounter.combatants)
    (stays : later.profile = attacker.profile) (same : other.profile = defender.profile)
    (swung : Swung before attacker defender 0 one middle)
    (again : Swung middle later other secondSwingPenalty two after) :
    before.encounter.SwingsTwice position one two := by
  obtain ⟨id, _, _, _, _, _, level, strength, _⟩ := Combatant.mk.inj stays
  have target : other.id = defender.id := (Combatant.mk.inj same).1
  refine ⟨attacker, attackerAt, swung.between.1, again.between.1.trans id,
    again.between.2.trans (target.trans swung.between.2.symm), fun inRange => ?_⟩
  obtain ⟨_, shift⟩ := swung.shift plain (plain.contains attackerAt)
    (plain.kept _ (List.mem_map_of_mem defenderIn))
  have first := swung.total
  have second := again.total
  rw [id, strength, level, target] at second
  rw [swung.between.1, swung.between.2, ← shift] at inRange
  obtain ⟨firstSums, secondSums⟩ := List.forall_mem_append.mp inRange
  have none : (0 : Score).toInt = 0 := rfl
  have five : secondSwingPenalty.toInt = 5 := rfl
  rw [← none] at firstSums
  rw [← five] at secondSums
  rw [first, second, toInt_swing firstSums, toInt_swing secondSums, shift]
  omega

namespace Encounter

/--
With the built-in conditions and without hooks, in every round that can be resolved. Every
strike that tells of two attacks has swung twice at the same target. If none of the sums on
the way to the two totals leaves the range, then the second total is above the first by as
much as its die, less five, and more by two if the first swing succeeded critically against
a target that was not flat-footed before it, or less by two if the first swing failed
critically and the attacker was not prone before it. Which other conditions the two have does
not matter, nor whether they are one and the same.
-/
theorem watch_strikes {setup : Setup} {reports : List (String × Count)} {encounter : Encounter}
    (reached : Reached setup reports encounter) (core : setup.codex = .core)
    (free : setup.hooks = Hooks.none) :
    encounter.resolve = (encounter.watch >>= fun watched => pure watched.resolution) ∧
    Always (fun watched => ∀ episode ∈ watched.episodes, ∀ moment ∈ episode.moments,
        moment.block.action.kind = .strike → ∀ first second one two,
          moment.block.events = [first, second] → first.attack = some one →
            second.attack = some two →
              moment.before.encounter.SwingsTwice episode.position one two)
      encounter.watch := by
  refine ⟨encounter.resolve_watched, encounter.watch_tour.mono fun watched tour => ?_⟩
  intro episode member moment inside strike first second one two events firstTold secondTold
  obtain ⟨arrived, performed⟩ := tour.performs member inside
  have plain : moment.before.encounter.Plain :=
    Plain.reaches (reached.plain core free) arrived
  have struck : moment.before.perform episode.actor moment.block.action
      = moment.before.performStrike episode.actor moment.block.action := by
    simp only [Scene.perform, strike]
  rw [struck] at performed
  obtain ⟨attacker, defender, middle, later, other, attackerAt, defenderIn, stays, same, swung,
      again⟩ :=
    performed.holds (Scene.performStrike_swings plain.free episode.actor moment.block.action)
      first second one two events firstTold secondTold
  exact swung.swingsTwice plain attackerAt defenderIn stays same again

/-! ### A strike that opens its target -/

def sampleJouster : Combatant :=
  { id := "ann", name := "Ann", side := .player, maxHp := 9, hp := 9, armorClass := 12 }

def sampleJoust : Setup :=
  { room := "cellar"
    zone := "house"
    combatants := [
      sampleJouster,
      { id := "rat", name := "Rat", side := .npc, maxHp := 30, hp := 30, armorClass := 8 }] }

/-- The joust before its first round is resolved. -/
def sampleJousting : Encounter :=
  ((play [.openRound 3, .commit "ann" (.strike "Rat")] (begin sampleJoust)).run (⟨15⟩ : Fixed)).1

def sampleSwing (total : Score) (outcome : Outcome) : Attack :=
  { attacker := "ann", target := "rat", roll := 16, total := total, outcome := outcome,
    base := 6, dice := [6] }

/-- What there is to see of a moment: the attacks, and how it stood before them. -/
structure StrikeSight where
  kind : ActionKind
  attacks : List (Option Attack)
  attacker : Option Combatant
  change : Int
  shift : Int
deriving DecidableEq

def sampleSight (episode : Episode) (moment : Moment) : StrikeSight where
  kind := moment.block.action.kind
  attacks := moment.block.events.map RoundEvent.attack
  attacker := moment.before.encounter.combatants[episode.position]?
  change := (moment.before.encounter.swingModifier "ann" "rat").toInt
  shift := moment.before.encounter.swingShift (sampleSwing 18 .criticalSuccess)

/-- The first swing makes the rat flat-footed, so the second is only three below it. -/
theorem watch_strikes_sample :
    let watched := (sampleJousting.watch.run (⟨15⟩ : Fixed)).1
    let one := sampleSwing 18 .criticalSuccess
    let two := sampleSwing 15 .success
    (∃ reports, Reached sampleJoust reports sampleJousting) ∧
    ∃ episode ∈ watched.episodes, ∃ moment ∈ episode.moments,
      moment.block.events.map RoundEvent.attack = [some one, some two] ∧
      moment.before.encounter.swingShift one = 2 ∧
      moment.before.encounter.SwingsTwice episode.position one two ∧
      two.total.toInt - one.total.toInt = two.roll.toInt - one.roll.toInt - 5 + 2 := by
  intro watched one two
  obtain ⟨reports, reached⟩ : ∃ reports, Reached sampleJoust reports sampleJousting :=
    reached_play sampleJoust _ (⟨15⟩ : Fixed)
  have seen : watched.episodes.map (fun episode => episode.moments.map (sampleSight episode))
      = [[⟨.strike, [some one, some two], some sampleJouster, 0, 2⟩], []] := by decide +kernel
  obtain ⟨episode, others, episodes, first, _⟩ := List.map_eq_cons_iff.mp seen
  obtain ⟨moment, later, moments, sight, _⟩ := List.map_eq_cons_iff.mp first
  have member : episode ∈ watched.episodes := episodes ▸ List.mem_cons_self
  have inside : moment ∈ episode.moments := moments ▸ List.mem_cons_self
  obtain ⟨strike, attacks, attackerAt, change, shift⟩ := StrikeSight.mk.inj sight
  obtain ⟨first, rest, events, firstTold, more⟩ := List.map_eq_cons_iff.mp attacks
  obtain ⟨second, none, last, secondTold, nothing⟩ := List.map_eq_cons_iff.mp more
  rw [last, List.map_eq_nil_iff.mp nothing] at events
  have twice := ((watch_strikes reached rfl rfl).2.run (⟨15⟩ : Fixed)) episode member moment
    inside strike first second one two events firstTold secondTold
  refine ⟨⟨reports, reached⟩, episode, member, moment, inside, attacks, shift, twice, ?_⟩
  obtain ⟨attacker, there, _, _, _, differ⟩ := twice
  cases attackerAt.symm.trans there
  have inRange {none mark : Int} (same : none = 0) (opened : mark = 2) :
      InRange (swingSums sampleJouster one.roll none 0
        ++ swingSums sampleJouster two.roll (none + mark) 5) := by
    subst same opened
    decide +kernel
  rw [← shift]
  exact differ (inRange change shift)

end Encounter

end Fray
