import Fray.Proofs.Death
import Fray.Proofs.Encounter.Reached

/-!
# Reports of damage

Whenever somebody is hurt, the hit points that are left are reported. A living
non-player has hit points to lose, so each report of it is below the one before;
a player who is down can be hit again and is then reported at zero once more.
Nobody aims at the dead, so the report that a non-player has no hit points left
is the last one of it.

## Main results

`Reaches.reports`: the reports of any number of steps follow everybody's hit points.
`Reached.reports_faithful`: so do those of every round, and the end of a non-player is
reported at most once in all rounds together.
-/

namespace Fray

open Draws

/-! ### What reports tell of a combatant -/

/-- The hit points that reports tell of a combatant, in order. -/
def hpTold (id : String) (reports : List (String × Count)) : List Count :=
  (reports.filter (·.1 = id)).map Prod.snd

theorem hpTold_append (id : String) (early late : List (String × Count)) :
    hpTold id (early ++ late) = hpTold id early ++ hpTold id late := by
  simp [hpTold]

theorem hpTold_own (id : String) (hp : Count) : hpTold id [(id, hp)] = [hp] := by
  simp [hpTold]

theorem hpTold_other {id other : String} (different : other ≠ id) (hp : Count) :
    hpTold id [(other, hp)] = [] := by
  simp [hpTold, different]

/--
Hit points wane from a first count to a last one, as they are told in between. Each
count is below the one before it, except for players who are down and are hit again.
-/
inductive Wanes (side : Side) : Count → List Count → Count → Prop
  | still (hp : Count) : Wanes side hp [] hp
  | falls {hp next last : Count} {told : List Count}
      (lower : next < hp ∨ side = .player ∧ hp = 0 ∧ next = 0) (rest : Wanes side next told last) :
      Wanes side hp (next :: told) last

theorem Wanes.trans {side : Side} {first middle last : Count} {early late : List Count}
    (one : Wanes side first early middle) (two : Wanes side middle late last) :
    Wanes side first (early ++ late) last := by
  induction one with
  | still hp => exact two
  | falls lower rest ih => exact .falls lower (ih two)

/-- Nothing is below zero, so nothing more is told of a non-player without hit points. -/
theorem Wanes.none_left {told : List Count} {last : Count} (wanes : Wanes .npc 0 told last) :
    told = [] ∧ last = 0 := by
  cases wanes with
  | still => exact ⟨rfl, rfl⟩
  | falls lower rest =>
    rcases lower with below | ⟨player, _⟩
    · exact absurd below (Nat.not_lt_zero _)
    · cases player

/-- The report of a non-player without hit points is the last one. -/
theorem Wanes.ends {first last : Count} {early late : List Count}
    (wanes : Wanes .npc first (early ++ 0 :: late) last) : late = [] ∧ last = 0 := by
  induction early generalizing first with
  | nil =>
    cases wanes with
    | falls _ rest => exact rest.none_left
  | cons next early ih =>
    cases wanes with
    | falls _ rest => exact ih rest

/-! ### Steps of a round -/

namespace Scene

open Encounter

/-- The reports between two scenes follow everybody's hit points. -/
def Reports (before after : Scene) : Prop :=
  ∃ reports, after.damage = before.damage ++ reports ∧
    ∀ (index : Nat) (combatant : Combatant),
      before.encounter.combatants[index]? = some combatant →
        ∃ left, after.encounter.combatants[index]? = some left ∧ left.id = combatant.id ∧
          left.side = combatant.side ∧
          Wanes combatant.side combatant.hp (hpTold combatant.id reports) left.hp

theorem Reports.of_same {before after : Scene} (damage : after.damage = before.damage)
    (combatants : after.encounter.combatants = before.encounter.combatants) :
    Reports before after := by
  refine ⟨[], damage.trans (List.append_nil _).symm, fun index combatant found => ?_⟩
  exact ⟨combatant, combatants ▸ found, rfl, rfl, .still _⟩

theorem Reports.trans {first second third : Scene} (one : Reports first second)
    (two : Reports second third) : Reports first third := by
  obtain ⟨early, damage, before⟩ := one
  obtain ⟨late, more, after⟩ := two
  refine ⟨early ++ late, by rw [more, damage, List.append_assoc], fun index combatant found => ?_⟩
  obtain ⟨middle, there, named, same, fell⟩ := before index combatant found
  obtain ⟨last, still, alike, other, rest⟩ := after index middle there
  refine ⟨last, still, alike.trans named, other.trans same, ?_⟩
  rw [hpTold_append]
  rw [named, same] at rest
  exact fell.trans rest

theorem reports_changeAt (scene : Scene) (index : Nat) {change : Combatant → Combatant}
    (keeps : ∀ combatant, (change combatant).id = combatant.id ∧
      (change combatant).side = combatant.side ∧ (change combatant).hp = combatant.hp) :
    Reports scene (scene.within (·.changeAt index change)) := by
  refine ⟨[], (List.append_nil _).symm, fun position combatant found => ?_⟩
  obtain ⟨id, side, hp⟩ := keeps combatant
  simp only [within, changeAt, List.getElem?_modify, found, Option.map_eq_map, Option.map_some]
  split
  · refine ⟨_, rfl, id, side, ?_⟩
    rw [hp]
    exact .still _
  · exact ⟨_, rfl, rfl, rfl, .still _⟩

/-- A hit takes hit points away, and only from a player who is down it takes none. -/
theorem wanes_hurt {combatant : Combatant} (alive : combatant.isDead = false) {damage : Score}
    (harmful : ¬ damage ≤ 0) :
    Wanes combatant.side combatant.hp [(combatant.hurt damage.toCount).hp]
      (combatant.hurt damage.toCount).hp := by
  refine .falls ?_ (.still _)
  have left : (combatant.hurt damage.toCount).hp.toNat
      = combatant.hp.toNat - damage.toInt.toNat := by
    rw [← Score.toNat_toCount]
    rfl
  have zero : (0 : Score).toInt = 0 := rfl
  rw [Score.le_iff, zero] at harmful
  by_cases down : combatant.hp = 0
  · have none : combatant.hp.toNat = 0 := congrArg Count.toNat down
    refine .inr ⟨?_, down, Count.ext ?_⟩
    · cases side : combatant.side with
      | player => rfl
      | npc => simp [Combatant.isDead, side, down] at alive
    · rw [left, none]
      exact Nat.zero_sub _
  · have some : combatant.hp.toNat ≠ 0 := fun none => down (Count.ext none)
    refine .inl (Count.lt_iff.mpr ?_)
    omega

/-- What is left of the target is reported under its name, which nobody else bears. -/
theorem hurt_reportsHp (scene : Scene) (distinct : scene.encounter.ids.Nodup) {target : Nat}
    (alive : scene.encounter.isDeadAt target = false) (damage : Score) :
    Reports scene (scene.hurt target damage) := by
  unfold hurt
  split
  · exact .of_same rfl rfl
  next harmful =>
    obtain ⟨defender, defenderAt, living⟩ := isDeadAt_eq_false.mp alive
    simp only [defenderAt]
    refine ⟨_, rfl, fun index combatant found => ?_⟩
    simp only [changeAt, List.getElem?_modify, found, Option.map_eq_map, Option.map_some]
    by_cases hit : target = index
    · subst hit
      cases defenderAt.symm.trans found
      rw [if_pos rfl, hpTold_own]
      exact ⟨_, rfl, rfl, rfl, wanes_hurt living harmful⟩
    · have apart : defender.id ≠ combatant.id := fun same =>
        hit (index_eq_of_id distinct defenderAt found same)
      rw [if_neg hit, hpTold_other apart]
      exact ⟨_, rfl, rfl, rfl, .still _⟩

theorem Step.reports {before after : Scene} (step : Step before after)
    (distinct : before.encounter.ids.Nodup) : Reports before after := by
  cases step with
  | ask hook args => exact .of_same rfl rfl
  | reload index => exact reports_changeAt before index fun _ => ⟨rfl, rfl, rfl⟩
  | fire index => exact reports_changeAt before index fun _ => ⟨rfl, rfl, rfl⟩
  | hit damage alive =>
    exact (hurt_reportsHp before distinct alive damage).trans (.of_same rfl (by simp [within]))
  | swing damage outcome _ defenderAt alive =>
    have standing := isDeadAt_eq_false.mpr ⟨_, defenderAt, alive⟩
    exact (hurt_reportsHp before distinct standing damage).trans (.of_same rfl (by simp [within]))

theorem Reaches.reports {before after : Scene} (reached : Reaches before after)
    (distinct : before.encounter.ids.Nodup) : Reports before after := by
  induction reached with
  | refl => exact .of_same rfl rfl
  | tail early step ih =>
    have framed := Reaches.framed early
    exact ih.trans (step.reports (framed.ids ▸ distinct))

end Scene

/-! ### Rounds -/

namespace Encounter

theorem resolve_reports {encounter : Encounter} (distinct : encounter.ids.Nodup) :
    Always (fun resolution =>
        Scene.Reports ⟨encounter, []⟩ ⟨resolution.encounter, resolution.damage⟩)
      encounter.resolve :=
  encounter.resolve_reaches.mono fun _ reached => Scene.Reaches.reports reached distinct

/-- A non-player of whom zero was reported is dead, and nothing more was reported of it. -/
def EndsTold (reports : List (String × Count)) (encounter : Encounter) : Prop :=
  ∀ (index : Nat) (combatant : Combatant), encounter.combatants[index]? = some combatant →
    combatant.side = .npc → ∀ early late, hpTold combatant.id reports = early ++ 0 :: late →
      late = [] ∧ combatant.hp = 0

/-- A round reports nothing of those who are dead before it, and at most one end of others. -/
theorem EndsTold.resolve {reports : List (String × Count)} {encounter : Encounter}
    (ends : EndsTold reports encounter) {resolution : Resolution}
    (told : Scene.Reports ⟨encounter, []⟩ ⟨resolution.encounter, resolution.damage⟩)
    (framed : Framed encounter resolution.encounter) :
    EndsTold (reports ++ resolution.damage) resolution.encounter := by
  obtain ⟨added, damage, follows⟩ := told
  have all : resolution.damage = added := damage
  intro index left there npc early late cut
  have place := congrArg (·[index]?) framed.profiles
  simp only [List.getElem?_map, there, Option.map_some] at place
  obtain ⟨combatant, found, _⟩ := Option.map_eq_some_iff.mp place.symm
  obtain ⟨last, here, named, side, wanes⟩ := follows index combatant found
  cases here.symm.trans there
  rw [side] at npc
  rw [npc] at wanes
  rw [named, all, hpTold_append] at cut
  -- The zero was reported before this round or in it.
  rcases List.append_eq_append_iff.mp cut with ⟨rest, _, later⟩ | ⟨rest, before, later⟩
  · rw [later] at wanes
    exact wanes.ends
  · cases rest with
    | nil =>
      have first : hpTold combatant.id added = [] ++ 0 :: late := by simpa using later.symm
      rw [first] at wanes
      exact wanes.ends
    | cons zero rest =>
      obtain ⟨rfl, more⟩ := List.cons.inj later
      obtain ⟨rfl, gone⟩ := ends index combatant found npc _ _ before
      rw [gone] at wanes
      obtain ⟨none, still⟩ := wanes.none_left
      rw [none] at more
      exact ⟨more, still⟩

/-- Between the rounds the dead stay dead, and nothing is reported. -/
theorem EndsTold.of_keepsDead {reports : List (String × Count)} {before after : Encounter}
    (ends : EndsTold reports before) (keeps : KeepsDead before after)
    (persons : after.combatants.map Combatant.person = before.combatants.map Combatant.person) :
    EndsTold reports after := by
  intro index left there npc early late cut
  have place := congrArg (·[index]?) persons
  simp only [List.getElem?_map, there, Option.map_some] at place
  obtain ⟨combatant, found, same⟩ := Option.map_eq_some_iff.mp place.symm
  have named : left.id = combatant.id := (congrArg Combatant.id same).symm
  have side : left.side = combatant.side := (congrArg Combatant.side same).symm
  rw [named] at cut
  rw [side] at npc
  obtain ⟨none, down⟩ := ends index combatant found npc early late cut
  have dead : combatant.isDead = true := by simp [Combatant.isDead, npc, down]
  obtain ⟨gone, here, _, _, still⟩ := keeps index combatant found dead
  cases here.symm.trans there
  exact ⟨none, still.trans down⟩

theorem Reached.endsTold {setup : Setup} {reports : List (String × Count)} {encounter : Encounter}
    (reached : Reached setup reports encounter)
    (distinct : (setup.combatants.map Combatant.id).Nodup) : EndsTold reports encounter := by
  induction reached with
  | begun => exact fun _ _ _ _ early late cut => by simp [hpTold] at cut
  | @resolved reports current reached σ _ source ih =>
    have told := (resolve_reports (reached.distinct distinct)).run source
    exact ih.resolve told (current.resolve_framed.run source)
  | @answered reports current reached request other σ _ source ih =>
    have keeps := (answer_keepsDead current request).run source
    exact ih.of_keepsDead keeps ((answer_same current request).run source).persons
  | markedOver reached ih => exact ih

/--
The reports of a round follow everybody's hit points: they begin at or below what a
combatant had, each is below the one before, but that a player who is down may be
reported at zero again, and the last one is what is left to it. Whoever is not reported
keeps its hit points. In all rounds together at most one report tells that a
non-player has no hit points left, and no report of it follows.
-/
theorem Reached.reports_faithful {σ : Type} [RandomSource σ] {setup : Setup}
    {reports : List (String × Count)} {encounter : Encounter}
    (reached : Reached setup reports encounter)
    (distinct : (setup.combatants.map Combatant.id).Nodup) (source : σ) :
    let resolution := (encounter.resolve.run source).1
    (∀ (index : Nat) (combatant : Combatant), encounter.combatants[index]? = some combatant →
      ∃ left, resolution.encounter.combatants[index]? = some left ∧ left.id = combatant.id ∧
        Wanes combatant.side combatant.hp (hpTold combatant.id resolution.damage) left.hp) ∧
    ∀ combatant ∈ encounter.combatants, combatant.side = .npc →
      ∀ early late, hpTold combatant.id reports = early ++ 0 :: late → 0 ∉ early ∧ late = [] := by
  have told := (resolve_reports (reached.distinct distinct)).run source
  have ends := reached.endsTold distinct
  intro resolution
  constructor
  · intro index combatant found
    obtain ⟨added, damage, follows⟩ := told
    have all : resolution.damage = added := damage
    obtain ⟨left, there, named, _, wanes⟩ := follows index combatant found
    exact ⟨left, there, named, all ▸ wanes⟩
  · intro combatant member npc early late cut
    obtain ⟨index, found⟩ := List.mem_iff_getElem?.mp member
    refine ⟨fun twice => ?_, (ends index combatant found npc early late cut).1⟩
    obtain ⟨front, back, rfl⟩ := List.append_of_mem twice
    have none := (ends index combatant found npc front (back ++ 0 :: late) (by simpa using cut)).1
    simp at none

/-! ### Two that go down in one round -/

def sampleDuel : Setup :=
  { room := "cellar"
    zone := "house"
    combatants := [
      { id := "rat", name := "Rat", side := .npc, maxHp := 9, hp := 9, armorClass := 9 },
      { id := "ann", name := "Ann", side := .player, maxHp := 6, hp := 6, armorClass := 12 }] }

def sampleThreats : List Request :=
  [.openRound 3, .commit "rat" (.attack "Ann"), .commit "rat" (.attack "Ann"),
    .commit "ann" (.strike "Rat")]

/-- The duel before its first round is resolved. -/
def sampleStandoff : Encounter := ((play sampleThreats (begin sampleDuel)).run (⟨15⟩ : Fixed)).1

/-- The player is hit once more when it is down; the rat is not. -/
theorem reports_faithful_sample :
    (sampleDuel.combatants.map Combatant.id).Nodup ∧
    (∃ reports, Reached sampleDuel reports sampleStandoff) ∧
    ∃ rat ann, (sampleStandoff.resolve.run (⟨15⟩ : Fixed)).1.encounter.combatants[0]? = some rat ∧
      (sampleStandoff.resolve.run (⟨15⟩ : Fixed)).1.encounter.combatants[1]? = some ann ∧
      Wanes .npc 9 [3, 0] rat.hp ∧ Wanes .player 6 [0, 0] ann.hp := by
  have distinct : (sampleDuel.combatants.map Combatant.id).Nodup := by decide
  have arrived : ∃ reports, Reached sampleDuel reports sampleStandoff :=
    reached_play sampleDuel sampleThreats (⟨15⟩ : Fixed)
  obtain ⟨reports, reached⟩ := arrived
  have follows := (reached.reports_faithful distinct (⟨15⟩ : Fixed)).1
  have ratStood : (sampleStandoff.combatants[0]?).map (fun one => (one.id, one.side, one.hp))
      = some ("rat", .npc, 9) := by decide +kernel
  have annStood : (sampleStandoff.combatants[1]?).map (fun one => (one.id, one.side, one.hp))
      = some ("ann", .player, 6) := by decide +kernel
  have toldRat : hpTold "rat" (sampleStandoff.resolve.run (⟨15⟩ : Fixed)).1.damage = [3, 0] := by
    decide +kernel
  have toldAnn : hpTold "ann" (sampleStandoff.resolve.run (⟨15⟩ : Fixed)).1.damage = [0, 0] := by
    decide +kernel
  obtain ⟨rat, ratAt, ratFacts⟩ := Option.map_eq_some_iff.mp ratStood
  obtain ⟨ann, annAt, annFacts⟩ := Option.map_eq_some_iff.mp annStood
  simp only [Prod.mk.injEq] at ratFacts annFacts
  obtain ⟨ratLeft, ratThere, _, ratWanes⟩ := follows 0 rat ratAt
  obtain ⟨annLeft, annThere, _, annWanes⟩ := follows 1 ann annAt
  rw [ratFacts.1, ratFacts.2.1, ratFacts.2.2, toldRat] at ratWanes
  rw [annFacts.1, annFacts.2.1, annFacts.2.2, toldAnn] at annWanes
  exact ⟨distinct, ⟨reports, reached⟩, ratLeft, annLeft, ratThere, annThere, ratWanes, annWanes⟩

end Encounter

end Fray
