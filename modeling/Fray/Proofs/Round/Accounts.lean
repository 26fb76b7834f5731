import Fray.Proofs.Encounter.Playing
import Fray.Proofs.Round.Turns
import Fray.Proofs.Tables

/-!
# Events account for hit points

Attacks are the only thing but explosives that takes hit points, and without hooks
an attack takes what its event tells. So where nobody throws, the hit points that
are left after a round can be read off its events.

## Main result

`resolve_accounts`: everybody has what it had before, less the damage that the events
tell of it.
-/

namespace Fray

open Draws

/-- The damage that events tell of a combatant. -/
def damageTold (id : String) (events : List RoundEvent) : Nat :=
  (((events.filterMap RoundEvent.attack).filter (·.target = id)).map
    fun attack => attack.damage.toInt.toNat).sum

theorem damageTold_append (id : String) (early late : List RoundEvent) :
    damageTold id (early ++ late) = damageTold id early + damageTold id late := by
  simp [damageTold]

theorem damageTold_plain {event : RoundEvent} (plain : event.attack = none) (id : String) :
    damageTold id [event] = 0 := by
  simp [damageTold, plain]

theorem damageTold_attack {event : RoundEvent} {attack : Attack}
    (told : event.attack = some attack) (id : String) :
    damageTold id [event] = if attack.target = id then attack.damage.toInt.toNat else 0 := by
  by_cases same : attack.target = id <;> simp [damageTold, told, same]

theorem damageTold_eq_zero {id : String} {events : List RoundEvent}
    (spared : ∀ event ∈ events, ∀ attack ∈ event.attack, attack.target ≠ id) :
    damageTold id events = 0 := by
  have none : (events.filterMap RoundEvent.attack).filter (·.target = id) = [] := by
    refine List.filter_eq_nil_iff.mpr fun attack member => ?_
    obtain ⟨event, inside, told⟩ := List.mem_filterMap.mp member
    simpa using spared event inside attack told
  simp [damageTold, none]

/-- Everybody keeps its place, and its hit points but for the damage told of it. -/
def Encounter.Accounts (before : Encounter) (events : List RoundEvent) (after : Encounter) : Prop :=
  ∀ (index : Nat) (combatant : Combatant), before.combatants[index]? = some combatant →
    ∃ left, after.combatants[index]? = some left ∧ left.id = combatant.id ∧
      left.hp.toNat = combatant.hp.toNat - damageTold combatant.id events

namespace Encounter

theorem Accounts.trans {first second third : Encounter} {early late : List RoundEvent}
    (one : first.Accounts early second) (two : second.Accounts late third) :
    first.Accounts (early ++ late) third := by
  intro index combatant found
  obtain ⟨middle, there, named, left⟩ := one index combatant found
  obtain ⟨last, still, same, rest⟩ := two index middle there
  refine ⟨last, still, same.trans named, ?_⟩
  rw [named] at rest
  rw [damageTold_append]
  omega

/-- Only the combatants matter. -/
theorem Accounts.of_same {before after first last : Encounter} {events : List RoundEvent}
    (accounts : before.Accounts events after) (start : first.combatants = before.combatants)
    (finish : last.combatants = after.combatants) : first.Accounts events last := by
  intro index combatant found
  rw [finish]
  exact accounts index combatant (start ▸ found)

/-- Where nothing is told, it is enough that nobody loses hit points. -/
theorem accounts_of_same {before after : Encounter} {events : List RoundEvent}
    (combatants : after.combatants = before.combatants)
    (silent : ∀ id, damageTold id events = 0) : before.Accounts events after := by
  intro index combatant found
  refine ⟨combatant, combatants ▸ found, rfl, ?_⟩
  rw [silent]
  rfl

theorem accounts_changeAt (encounter : Encounter) (index : Nat) {change : Combatant → Combatant}
    (keeps : ∀ combatant, (change combatant).id = combatant.id ∧
      (change combatant).hp = combatant.hp) :
    encounter.Accounts [] (encounter.changeAt index change) := by
  intro position combatant found
  obtain ⟨id, hp⟩ := keeps combatant
  simp only [changeAt, List.getElem?_modify, found, Option.map_eq_map, Option.map_some]
  split
  · exact ⟨_, rfl, id, congrArg Count.toNat hp⟩
  · exact ⟨_, rfl, rfl, rfl⟩

end Encounter

namespace Scene

open Encounter

/-! ### Attacks without hooks -/

/-- Without hooks an attack does the damage that is told of it. -/
theorem land_unhooked {scene : Scene} (unhooked : scene.encounter.hooks = Hooks.none)
    (attacker target : Combatant) (index : Nat) (attack : Attack) :
    (scene.land attacker target index attack).damage
      = (scene.land attacker target index attack).attack.damage := by
  have asked : (scene.attackTotal attacker target attack.total).2.encounter.hooks = Hooks.none :=
    unhooked
  simp only [land, attackDamage]
  split
  · rfl
  · simp only [consult, asked, Hooks.none, Option.bind_none, Option.getD_none]

/-- A hit on one combatant, told by an attack on its name. -/
theorem hurt_accounts {scene : Scene} (distinct : scene.encounter.ids.Nodup) {target : Nat}
    {defender : Combatant} (defenderAt : scene.encounter.combatants[target]? = some defender)
    {event : RoundEvent} {attack : Attack} (told : event.attack = some attack)
    (aimed : attack.target = defender.id) :
    scene.encounter.Accounts [event] (scene.hurt target attack.damage).encounter := by
  have zero : (0 : Score).toInt = 0 := rfl
  unfold hurt
  split
  next harmless =>
    refine accounts_of_same rfl fun id => ?_
    rw [damageTold_attack told]
    have none : attack.damage.toInt.toNat = 0 := by
      have := Score.le_iff.mp harmless
      omega
    simp [none]
  · rw [defenderAt]
    intro index combatant found
    rw [damageTold_attack told, aimed]
    simp only [changeAt, List.getElem?_modify, found, Option.map_eq_map, Option.map_some]
    by_cases hit : target = index
    · subst hit
      cases defenderAt.symm.trans found
      rw [if_pos rfl, if_pos rfl]
      refine ⟨_, rfl, rfl, ?_⟩
      simp only [Combatant.hurt, Count.toNat_sub, Score.toNat_toCount]
    -- The name belongs to the target alone.
    · have apart : defender.id ≠ combatant.id := fun same =>
        hit (index_eq_of_id distinct defenderAt found same)
      rw [if_neg hit, if_neg apart]
      exact ⟨_, rfl, rfl, rfl⟩

theorem land_accounts {scene : Scene} (distinct : scene.encounter.ids.Nodup)
    (unhooked : scene.encounter.hooks = Hooks.none) {target : Nat} {attacker defender : Combatant}
    {rolled : Attack} (defenderAt : scene.encounter.combatants[target]? = some defender)
    (between : rolled.IsBetween attacker defender) {event : RoundEvent}
    (told : event.attack = some (scene.land attacker defender target rolled).attack) :
    scene.encounter.Accounts [event]
      (scene.land attacker defender target rolled).scene.encounter := by
  obtain ⟨asked, _, same, _, landed⟩ := land_cases scene attacker defender target rolled
  have combatants : asked.encounter.combatants = scene.encounter.combatants := by rw [same]
  have ids : asked.encounter.ids = scene.encounter.ids := congrArg (List.map _) combatants
  have hurt := hurt_accounts (ids ▸ distinct) (combatants ▸ defenderAt) told between.2
  rw [landed, land_unhooked unhooked]
  exact hurt.of_same combatants.symm rfl

/-! ### Deeds -/

theorem Deed.accounts {before after : Scene} {event : Option RoundEvent}
    (deed : Deed before event after) (distinct : before.encounter.ids.Nodup)
    (unhooked : before.encounter.hooks = Hooks.none)
    (peaceful : ∀ told ∈ event, told.action ≠ .throw) :
    before.encounter.Accounts event.toList after.encounter := by
  cases deed with
  | ask hook args => exact accounts_of_same rfl fun _ => rfl
  | reload index => exact accounts_changeAt _ index fun _ => ⟨rfl, rfl⟩
  | fire index => exact accounts_changeAt _ index fun _ => ⟨rfl, rfl⟩
  | tell plain => exact accounts_of_same rfl (damageTold_plain plain)
  | blast damage alive thrown plain => exact absurd thrown (peaceful _ rfl)
  | swing attackerAt defenderAt alive between told =>
    refine (land_accounts distinct unhooked defenderAt between told).of_same rfl ?_
    exact (combatants_beginDying ..).trans (combatants_afterSwing ..)
  | shot attackerAt defenderAt alive between told =>
    refine (land_accounts distinct unhooked defenderAt between told).of_same rfl ?_
    exact combatants_beginDying ..

theorem Course.accounts {before after : Scene} {events : List RoundEvent}
    (course : Course before events after) (distinct : before.encounter.ids.Nodup)
    (unhooked : before.encounter.hooks = Hooks.none)
    (peaceful : ∀ event ∈ events, event.action ≠ .throw) :
    before.encounter.Accounts events after.encounter := by
  induction course with
  | start => exact accounts_of_same rfl fun _ => rfl
  | @deed middle after events event early last ih =>
    have framed := early.reaches.framed
    have first := ih fun told member => peaceful told (List.mem_append_left _ member)
    refine first.trans (last.accounts ?_ ?_ fun told member => peaceful told ?_)
    · rw [framed.ids]
      exact distinct
    · rw [framed.hooks]
      exact unhooked
    · exact List.mem_append_right _ (Option.mem_toList.mpr member)

end Scene

/-! ### Rounds -/

namespace Encounter

/--
Without hooks, and if no explosive is thrown, everybody has after a round the hit
points that it had before, less the damage of all attacks on it that the events of
the round tell, as far as it had any. Who is attacked by none of them loses nothing.
-/
theorem resolve_accounts {σ : Type} [RandomSource σ] {encounter : Encounter}
    (distinct : encounter.ids.Nodup) (unhooked : encounter.hooks = Hooks.none)
    (noThrow : ∀ queue ∈ encounter.queues.values, ∀ action ∈ queue.actions, action.kind ≠ .throw)
    (source : σ) :
    let resolution := (encounter.resolve.run source).1
    resolution.encounter.ids = encounter.ids ∧
    ∀ (index : Nat) (combatant : Combatant), encounter.combatants[index]? = some combatant →
      ∃ left, resolution.encounter.combatants[index]? = some left ∧ left.id = combatant.id ∧
        left.hp.toNat = combatant.hp.toNat - damageTold combatant.id resolution.events ∧
        ((∀ event ∈ resolution.events, ∀ attack ∈ event.attack, attack.target ≠ combatant.id) →
          left.hp = combatant.hp) := by
  have course := encounter.resolve_course.run source
  have follows := (encounter.resolve_follows.run source).2
  have framed := encounter.resolve_framed.run source
  intro resolution
  refine ⟨framed.ids, fun index combatant found => ?_⟩
  have peaceful : ∀ event ∈ resolution.events, event.action ≠ .throw := by
    intro event member
    obtain ⟨queue, present, action, committed, kind⟩ :=
      Resolution.committed_of_mem_events follows member
    rw [kind]
    exact noThrow queue (List.mem_map_of_mem (Table.mem_entries.mpr present)) action committed
  obtain ⟨left, there, named, rest⟩ :=
    course.accounts distinct unhooked peaceful index combatant found
  refine ⟨left, there, named, rest, fun spared => ?_⟩
  rw [damageTold_eq_zero spared, Nat.sub_zero] at rest
  exact Count.ext rest

/-! ### A short round -/

def sampleScuffle : Setup :=
  { room := "cellar"
    zone := "house"
    combatants := [
      { id := "ann", name := "Ann", side := .player, maxHp := 30, hp := 30, armorClass := 12 },
      { id := "rat", name := "Rat", side := .npc, maxHp := 30, hp := 30, armorClass := 9 }] }

def sampleBlows : List Request :=
  [.openRound 3, .commit "ann" (.strike "Rat"), .commit "rat" (.attack "Ann")]

/-- The scuffle when all blows are committed. -/
def sampleOpen : Encounter := ((play sampleBlows (begin sampleScuffle)).run (⟨15⟩ : Fixed)).1

/-- Both swings of a strike count. -/
theorem resolve_accounts_sample :
    sampleOpen.ids.Nodup ∧ sampleOpen.hooks = Hooks.none ∧
    (∀ queue ∈ sampleOpen.queues.values, ∀ action ∈ queue.actions, action.kind ≠ .throw) ∧
    damageTold "rat" (sampleOpen.resolve.run (⟨15⟩ : Fixed)).1.events = 12 ∧
    ∃ left, (sampleOpen.resolve.run (⟨15⟩ : Fixed)).1.encounter.combatants[1]? = some left ∧
      left.hp.toNat = 30 - 12 := by
  have distinct : sampleOpen.ids.Nodup := by decide +kernel
  have unhooked : sampleOpen.hooks = Hooks.none :=
    ((play_same sampleBlows (begin sampleScuffle)).run (⟨15⟩ : Fixed)).hooks
  have noThrow : ∀ queue ∈ sampleOpen.queues.values, ∀ action ∈ queue.actions,
      action.kind ≠ .throw := by decide +kernel
  have told : damageTold "rat" (sampleOpen.resolve.run (⟨15⟩ : Fixed)).1.events = 12 := by
    decide +kernel
  have stood : (sampleOpen.combatants[1]?).map (fun rat => (rat.id, rat.hp.toNat))
      = some ("rat", 30) := by decide +kernel
  obtain ⟨rat, found, facts⟩ := Option.map_eq_some_iff.mp stood
  obtain ⟨named, thirty⟩ := Prod.mk.inj facts
  obtain ⟨left, there, _, rest, _⟩ :=
    (resolve_accounts distinct unhooked noThrow (⟨15⟩ : Fixed)).2 1 rat found
  rw [named, thirty, told] at rest
  exact ⟨distinct, unhooked, noThrow, told, left, there, rest⟩

end Encounter

end Fray
