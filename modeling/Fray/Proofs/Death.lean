import Fray.Proofs.Encounter.Playing
import Fray.Proofs.Round.Turns

/-!
# Death is final

A dead combatant stays dead, with the hit points that it has. Nobody aims at the
dead, so nothing is told or reported of them; the opening of a round passes them
over and gives them no queue.

## Main results

`Course.spares`: from the moment of its death the rest of a round spares a combatant.
`play_dead`: so does everything that is asked of the encounter afterwards, and a
fight that is decided stays decided.
-/

namespace Fray

open Draws

namespace Encounter

/-- Whoever is dead stays so, in its place and with the hit points that it has. -/
def KeepsDead (before after : Encounter) : Prop :=
  ∀ (index : Nat) (combatant : Combatant), before.combatants[index]? = some combatant →
    combatant.isDead = true →
      ∃ gone, after.combatants[index]? = some gone ∧ gone.isDead = true ∧
        gone.id = combatant.id ∧ gone.hp = combatant.hp

theorem KeepsDead.of_same {before after : Encounter}
    (combatants : after.combatants = before.combatants) : KeepsDead before after := by
  intro index combatant found dead
  exact ⟨combatant, combatants ▸ found, dead, rfl, rfl⟩

theorem KeepsDead.refl (encounter : Encounter) : KeepsDead encounter encounter := .of_same rfl

theorem KeepsDead.trans {first second third : Encounter} (one : KeepsDead first second)
    (two : KeepsDead second third) : KeepsDead first third := by
  intro index combatant found dead
  obtain ⟨middle, there, still, named, left⟩ := one index combatant found dead
  obtain ⟨last, here, gone, same, rest⟩ := two index middle there still
  exact ⟨last, here, gone, same.trans named, rest.trans left⟩

theorem changeAt_keepsDead (encounter : Encounter) (index : Nat) {change : Combatant → Combatant}
    (keeps : ∀ combatant, encounter.combatants[index]? = some combatant →
      combatant.isDead = true → (change combatant).isDead = true ∧
        (change combatant).id = combatant.id ∧ (change combatant).hp = combatant.hp) :
    KeepsDead encounter (encounter.changeAt index change) := by
  intro position combatant found dead
  simp only [changeAt, List.getElem?_modify, found, Option.map_eq_map, Option.map_some]
  split
  next same => exact ⟨_, rfl, keeps combatant (same ▸ found) dead⟩
  · exact ⟨_, rfl, dead, rfl, rfl⟩

/-- A name of a dead combatant is not that of a living one. -/
theorem id_ne_of_dead {encounter : Encounter} (distinct : encounter.ids.Nodup) {index other : Nat}
    {combatant living : Combatant} (found : encounter.combatants[index]? = some combatant)
    (dead : combatant.isDead = true) (there : encounter.combatants[other]? = some living)
    (alive : living.isDead = false) : living.id ≠ combatant.id := by
  intro same
  cases index_eq_of_id distinct there found same
  cases there.symm.trans found
  rw [dead] at alive
  cases alive

end Encounter

/-! ### Rounds -/

namespace Scene

open Encounter

theorem hurt_keepsDead (scene : Scene) {target : Nat} (damage : Score)
    (alive : scene.encounter.isDeadAt target = false) :
    KeepsDead scene.encounter (scene.hurt target damage).encounter := by
  unfold hurt
  split
  · exact .refl _
  · split
    · exact .refl _
    · refine changeAt_keepsDead _ _ fun combatant found dead => ?_
      obtain ⟨living, there, standing⟩ := isDeadAt_eq_false.mp alive
      cases there.symm.trans found
      rw [dead] at standing
      cases standing

theorem Step.keepsDead {before after : Scene} (step : Step before after) :
    KeepsDead before.encounter after.encounter := by
  cases step with
  | ask hook args => exact .of_same rfl
  | reload index => exact changeAt_keepsDead _ index fun _ _ dead => ⟨dead, rfl, rfl⟩
  | fire index => exact changeAt_keepsDead _ index fun _ _ dead => ⟨dead, rfl, rfl⟩
  | hit damage alive =>
    exact (hurt_keepsDead before damage alive).trans (.of_same (combatants_beginDying ..))
  | swing damage outcome _ defenderAt alive =>
    have standing := isDeadAt_eq_false.mpr ⟨_, defenderAt, alive⟩
    refine (hurt_keepsDead before damage standing).trans (.of_same ?_)
    exact (combatants_beginDying ..).trans (combatants_afterSwing ..)

theorem Reaches.keepsDead {before after : Scene} (reached : Reaches before after) :
    KeepsDead before.encounter after.encounter := by
  induction reached with
  | refl => exact .refl _
  | tail _ step ih => exact ih.trans step.keepsDead

/-- No attack is told on a combatant of that name, and no damage of it is reported. -/
structure Spares (id : String) (before : Scene) (events : List RoundEvent) (after : Scene) :
    Prop where
  untouched : ∀ event ∈ events, ∀ attack ∈ event.attack, attack.target ≠ id
  unhurt : ∃ reports, after.damage = before.damage ++ reports ∧
    ∀ report ∈ reports, report.1 ≠ id

theorem Spares.refl (id : String) (scene : Scene) : Spares id scene [] scene :=
  ⟨by simp, [], (List.append_nil _).symm, by simp⟩

theorem Spares.trans {id : String} {first second third : Scene} {early late : List RoundEvent}
    (one : Spares id first early second) (two : Spares id second late third) :
    Spares id first (early ++ late) third := by
  obtain ⟨before, added, spared⟩ := one.unhurt
  obtain ⟨after, more, safe⟩ := two.unhurt
  constructor
  · intro event member
    exact (List.mem_append.mp member).elim (one.untouched event) (two.untouched event)
  · refine ⟨before ++ after, by rw [more, added, List.append_assoc], fun report member => ?_⟩
    exact (List.mem_append.mp member).elim (spared report) (safe report)

/-- Where no attack is told, only the damage matters. -/
theorem Spares.of_plain {id : String} {before after : Scene} {event : Option RoundEvent}
    (plain : ∀ told ∈ event, told.attack = none)
    (unhurt : ∃ reports, after.damage = before.damage ++ reports ∧
      ∀ report ∈ reports, report.1 ≠ id) : Spares id before event.toList after := by
  refine ⟨fun told member attack inside => ?_, unhurt⟩
  rw [plain told (Option.mem_toList.mp member)] at inside
  cases inside

/-- Damage is reported under the name of the combatant that takes it. -/
theorem hurt_reports (scene : Scene) (target : Nat) (damage : Score) {id : String}
    (other : ∀ combatant, scene.encounter.combatants[target]? = some combatant →
      combatant.id ≠ id) :
    ∃ reports, (scene.hurt target damage).damage = scene.damage ++ reports ∧
      ∀ report ∈ reports, report.1 ≠ id := by
  unfold hurt
  split
  · exact ⟨[], (List.append_nil _).symm, by simp⟩
  · split
    · exact ⟨[], (List.append_nil _).symm, by simp⟩
    next combatant found =>
      refine ⟨_, rfl, fun report member => ?_⟩
      cases List.mem_singleton.mp member
      exact other combatant found

/-- An attack on somebody else is told of somebody else, and so is its damage. -/
theorem land_spares {scene : Scene} {attacker defender : Combatant} {target : Nat}
    {rolled : Attack} {event : RoundEvent} {id : String}
    (defenderAt : scene.encounter.combatants[target]? = some defender)
    (between : rolled.IsBetween attacker defender)
    (told : event.attack = some (scene.land attacker defender target rolled).attack)
    (other : defender.id ≠ id) :
    Spares id scene [event] (scene.land attacker defender target rolled).scene := by
  obtain ⟨asked, _, same, reported, landed⟩ := land_cases scene attacker defender target rolled
  have combatants : asked.encounter.combatants = scene.encounter.combatants := by rw [same]
  constructor
  · intro only member attack inside
    cases List.mem_singleton.mp member
    cases told.symm.trans inside
    exact between.2.trans_ne other
  · rw [landed, ← reported]
    refine hurt_reports asked target _ fun combatant found => ?_
    cases (combatants ▸ defenderAt).symm.trans found
    exact other

theorem Deed.spares {before after : Scene} {event : Option RoundEvent}
    (deed : Deed before event after) (distinct : before.encounter.ids.Nodup) {index : Nat}
    {combatant : Combatant} (found : before.encounter.combatants[index]? = some combatant)
    (dead : combatant.isDead = true) : Spares combatant.id before event.toList after := by
  have unreported {scene : Scene} (same : scene.damage = before.damage) :
      ∃ reports, scene.damage = before.damage ++ reports ∧
        ∀ report ∈ reports, report.1 ≠ combatant.id :=
    ⟨[], same.trans (List.append_nil _).symm, by simp⟩
  cases deed with
  | ask hook args => exact .of_plain (by simp) (unreported rfl)
  | reload index => exact .of_plain (by simp) (unreported rfl)
  | fire index => exact .of_plain (by simp) (unreported rfl)
  | tell plain => exact .of_plain (by simpa using plain) (unreported rfl)
  | @blast target damage event alive thrown plain =>
    refine .of_plain (by simpa using plain)
      (hurt_reports before target damage fun other there => ?_)
    obtain ⟨living, here, standing⟩ := isDeadAt_eq_false.mp alive
    cases here.symm.trans there
    exact id_ne_of_dead distinct found dead there standing
  -- What follows the damage of a swing or a shot reports nothing.
  | swing attackerAt defenderAt alive between told =>
    have other := id_ne_of_dead distinct found dead defenderAt alive
    have landed := land_spares defenderAt between told other
    exact ⟨landed.untouched, landed.unhurt⟩
  | shot attackerAt defenderAt alive between told =>
    have other := id_ne_of_dead distinct found dead defenderAt alive
    have landed := land_spares defenderAt between told other
    exact ⟨landed.untouched, landed.unhurt⟩

/-- Whatever is done after the death of a combatant is done to others. -/
theorem Course.spares {before after : Scene} {events : List RoundEvent}
    (course : Course before events after) (distinct : before.encounter.ids.Nodup) {index : Nat}
    {combatant : Combatant} (found : before.encounter.combatants[index]? = some combatant)
    (dead : combatant.isDead = true) : Spares combatant.id before events after := by
  induction course with
  | start => exact .refl _ _
  | deed early last ih =>
    obtain ⟨gone, there, still, named, _⟩ := early.reaches.keepsDead index combatant found dead
    have apart := early.reaches.framed.ids ▸ distinct
    exact ih.trans (named ▸ last.spares apart there still)

end Scene

/-! ### Opening a round -/

namespace Combatant

theorem recover_names (combatant : Combatant) (set : Afflictions) (codex : Codex) (roll : Score) :
    ∀ event ∈ (combatant.recover set codex roll).events, event.combatant = combatant.id := by
  simp only [recover]
  split
  · simp [conditionEvent]
  · split
    · simp [conditionEvent]
    · split <;> simp [conditionEvent]

theorem Opens.names {codex : Codex} {combatant : Combatant} {set : Afflictions}
    {opening : Opening} (opens : combatant.Opens codex set opening) :
    ∀ event ∈ opening.events, event.combatant = combatant.id := by
  have expired : ∀ event ∈ set.tick.1.map fun id => combatant.conditionEvent codex id 0 .removed,
      event.combatant = combatant.id := by
    intro event member
    obtain ⟨id, _, rfl⟩ := List.mem_map.mp member
    rfl
  cases opens with
  | dead _ => simp
  | counted _ _ => exact expired
  | checked _ _ roll =>
    intro event member
    rcases List.mem_append.mp member with early | late
    · exact expired event early
    · exact recover_names _ _ _ _ event late

end Combatant

namespace Encounter

/-- The dead are passed over, and all that is told is told of the living. -/
theorem openAll_dead (codex : Codex) (combatants : List Combatant)
    (afflictions : Table Afflictions) :
    Always (fun opened =>
        (∀ (index : Nat) (combatant : Combatant), combatants[index]? = some combatant →
          combatant.isDead = true → opened.combatants[index]? = some combatant) ∧
        ∀ event ∈ opened.events, ∃ combatant ∈ combatants,
          combatant.isDead = false ∧ event.combatant = combatant.id)
      (openAll codex combatants afflictions) := by
  induction combatants generalizing afflictions with
  | nil => exact ⟨fun _ _ found => (by cases found), fun _ member => (by cases member)⟩
  | cons first rest ih =>
    simp only [openAll]
    split
    -- The first is passed over, and nothing is told of it.
    next gone =>
      rw [always_bind]
      refine (ih afflictions).mono fun opened both => ⟨fun index combatant found dead => ?_, ?_⟩
      · cases index with
        | zero => exact found
        | succ index => exact both.1 index combatant found dead
      · intro event member
        obtain ⟨combatant, inside, told⟩ := both.2 event member
        exact ⟨combatant, List.mem_cons_of_mem _ inside, told⟩
    next living =>
      have alive : first.isDead = false := by simpa using living
      rw [always_bind]
      refine (openCombatant_opens codex _ alive).mono fun opening opens => ?_
      rw [always_bind]
      refine (ih _).mono fun opened both => ⟨fun index combatant found dead => ?_, ?_⟩
      · cases index with
        | zero =>
          cases found
          rw [dead] at alive
          cases alive
        | succ index => exact both.1 index combatant found dead
      · intro event member
        rcases List.mem_append.mp member with own | others
        · exact ⟨first, List.mem_cons_self, alive, opens.names event own⟩
        · obtain ⟨combatant, inside, told⟩ := both.2 event others
          exact ⟨combatant, List.mem_cons_of_mem _ inside, told⟩

theorem openRound_keepsDead (encounter : Encounter) (points : Count) :
    Always (fun result => KeepsDead encounter result.2) (encounter.openRound points) := by
  unfold openRound
  rw [always_bind]
  refine (openAll_dead ..).mono fun opened both index combatant found dead => ?_
  exact ⟨combatant, both.1 index combatant found dead, dead, rfl, rfl⟩

/-- The opening of a round tells nothing of the dead. -/
theorem openRound_silent {encounter : Encounter} (distinct : encounter.ids.Nodup) {index : Nat}
    {combatant : Combatant} (found : encounter.combatants[index]? = some combatant)
    (dead : combatant.isDead = true) (points : Count) :
    Always (fun result => ∀ event ∈ result.1, event.combatant ≠ combatant.id)
      (encounter.openRound points) := by
  unfold openRound
  rw [always_bind]
  refine (openAll_dead ..).mono fun opened both event member => ?_
  obtain ⟨living, inside, alive, named⟩ := both.2 event member
  obtain ⟨other, there⟩ := List.mem_iff_getElem?.mp inside
  exact named.trans_ne (id_ne_of_dead distinct found dead there alive)

/-- An open round has no queues but those of the living. -/
theorem openRound_unqueued {encounter : Encounter} (distinct : encounter.ids.Nodup) {index : Nat}
    {combatant : Combatant} (found : encounter.combatants[index]? = some combatant)
    (dead : combatant.isDead = true) (points : Count) :
    Always (fun result => result.2.queues.get? combatant.id = none)
      (encounter.openRound points) := by
  have opens := openRound_opens encounter points
  have keeps := openRound_keepsDead encounter points
  unfold openRound at opens keeps ⊢
  rw [always_bind] at opens keeps ⊢
  refine (opens.and keeps).mono fun opened both => ?_
  obtain ⟨gone, there, still, named, _⟩ := both.2 index combatant found dead
  show (freshQueues opened.combatants opened.afflictions points).get? combatant.id = none
  cases present : (freshQueues opened.combatants opened.afflictions points).get? combatant.id with
  | none => rfl
  | some queue =>
    obtain ⟨living, listed, entry⟩ := List.mem_map.mp (Table.mem_of_get?_ofList present)
    obtain ⟨inside, alive⟩ := List.mem_filter.mp listed
    obtain ⟨other, here⟩ := List.mem_iff_getElem?.mp inside
    have apart := id_ne_of_dead (both.1.ids ▸ distinct) there still here
      (by simpa [Combatant.isAlive] using alive)
    exact absurd ((congrArg Prod.fst entry).trans named.symm) apart

/-! ### Requests -/

theorem answer_keepsDead (encounter : Encounter) (request : Request) :
    Always (KeepsDead encounter) (encounter.answer request) :=
  answer_frame request (fun points _ => openRound_keepsDead encounter points)
    (fun _ => encounter.resolve_reaches.mono fun resolution reached =>
      (Scene.Reaches.keepsDead reached : KeepsDead encounter resolution.encounter))
    (fun _ _ _ _ => .of_same rfl) (fun _ _ => .of_same rfl) (fun _ _ => .of_same rfl)

theorem play_keepsDead (requests : List Request) (encounter : Encounter) :
    Always (KeepsDead encounter) (play requests encounter) :=
  play_induction (fun request _ current keeps =>
    (answer_keepsDead current request).mono fun _ later => keeps.trans later) (.refl encounter)

/-- The dead get no queue, and keep none when a round is opened. -/
theorem answer_unqueued {encounter : Encounter} (distinct : encounter.ids.Nodup) {index : Nat}
    {combatant : Combatant} (found : encounter.combatants[index]? = some combatant)
    (dead : combatant.isDead = true) (request : Request) :
    Always (fun after =>
        encounter.queues.get? combatant.id = none ∨ request.opensRound = true →
          after.queues.get? combatant.id = none)
      (encounter.answer request) := by
  have unopened {id : String} {first second : Encounter} (same : second.queues = first.queues)
      (without : first.queues.get? id = none ∨ false = true) : second.queues.get? id = none := by
    rw [same]
    exact without.resolve_right (by simp)
  cases request with
  | openRound points =>
    simp only [answer]
    rw [always_bind]
    exact (openRound_unqueued distinct found dead points).mono fun _ none _ => none
  | commit id action =>
    intro without
    have none := without.resolve_right (by simp [Request.opensRound])
    cases answered : encounter.commit id action with
    | error refusal => exact none
    | ok committed =>
      -- A queue only grows where there is one already.
      obtain ⟨queue, longer, present, _, _, rfl⟩ := commit_cases answered
      have apart : combatant.id ≠ id := fun same => by
        rw [same, present] at none
        cases none
      show (encounter.queues.insert id longer).get? combatant.id = Option.none
      rw [Table.get?_insert, if_neg apart]
      exact none
  | resolve =>
    simp only [answer]
    rw [always_bind]
    exact encounter.resolve_framed.mono fun _ framed => unopened framed.queues
  | afflict id condition stack duration =>
    refine unopened ?_
    rw [orKeep_afflict]
  | relieve id condition =>
    refine unopened ?_
    rw [orKeep_relieve]
  | currentTurn =>
    refine unopened ?_
    rw [currentTurn, seekTurn_same]
  | advanceTurn => exact unopened rfl

/-- Once a round is opened after its death, a combatant has no queue any more. -/
theorem play_unqueued {encounter : Encounter} (distinct : encounter.ids.Nodup) {index : Nat}
    {combatant : Combatant} (found : encounter.combatants[index]? = some combatant)
    (dead : combatant.isDead = true) (requests : List Request) :
    Always (fun later =>
        encounter.queues.get? combatant.id = none ∨ requests.any Request.opensRound = true →
          later.queues.get? combatant.id = none)
      (play requests encounter) := by
  -- What is known of the dead goes on by their place and name, not by their record.
  induction requests generalizing encounter combatant with
  | nil => exact fun without => without.resolve_right (by simp)
  | cons request rest ih =>
    simp only [play]
    rw [always_bind]
    have answered := ((answer_same encounter request).and
      (answer_keepsDead encounter request)).and (answer_unqueued distinct found dead request)
    refine answered.mono fun after facts => ?_
    obtain ⟨⟨same, keeps⟩, unqueued⟩ := facts
    obtain ⟨gone, there, still, named, _⟩ := keeps index combatant found dead
    rw [← named] at unqueued ⊢
    refine (ih (same.ids ▸ distinct) there still).mono fun later none without => none ?_
    rw [List.any_cons, Bool.or_eq_true, ← or_assoc] at without
    exact without.imp unqueued id

/-! ### How the fight stands -/

/-- Nobody is alive later who was not alive before. -/
theorem KeepsDead.any_living {before after : Encounter} (keeps : KeepsDead before after)
    (persons : after.combatants.map Combatant.person = before.combatants.map Combatant.person)
    {test : Combatant → Bool} (personal : ∀ combatant, test combatant.person = test combatant)
    (some : after.living.any test = true) : before.living.any test = true := by
  obtain ⟨combatant, member, passes⟩ := List.any_eq_true.mp some
  obtain ⟨inside, alive⟩ := List.mem_filter.mp member
  obtain ⟨index, found⟩ := List.mem_iff_getElem?.mp inside
  have place := congrArg (·[index]?) persons
  simp only [List.getElem?_map, found, Option.map_some] at place
  obtain ⟨old, there, same⟩ := Option.map_eq_some_iff.mp place.symm
  refine List.any_eq_true.mpr ⟨old, List.mem_filter.mpr ⟨List.mem_of_getElem? there, ?_⟩, ?_⟩
  · cases dead : old.isDead with
    | false => simp [Combatant.isAlive, dead]
    | true =>
      obtain ⟨gone, here, still, _⟩ := keeps index old there dead
      cases here.symm.trans found
      simp [Combatant.isAlive, still] at alive
  · rw [← personal, same, personal]
    exact passes

theorem standing_eq_ongoing {encounter : Encounter} :
    encounter.standing = .ongoing ↔
      encounter.hasLivingPlayers = true ∧ encounter.hasLivingNpcs = true := by
  unfold standing
  cases encounter.hasLivingPlayers <;> cases encounter.hasLivingNpcs <;> decide

theorem standing_eq_defeat {encounter : Encounter} :
    encounter.standing = .defeat ↔ encounter.hasLivingPlayers = false := by
  unfold standing
  cases encounter.hasLivingPlayers <;> cases encounter.hasLivingNpcs <;> decide

/-- A fight that is decided stays decided, and a defeat stays a defeat. -/
theorem KeepsDead.standing {before after : Encounter} (keeps : KeepsDead before after)
    (persons : after.combatants.map Combatant.person = before.combatants.map Combatant.person) :
    (before.standing ≠ .ongoing → after.standing ≠ .ongoing) ∧
      (before.standing = .defeat → after.standing = .defeat) := by
  have players : after.hasLivingPlayers = true → before.hasLivingPlayers = true :=
    keeps.any_living persons fun _ => rfl
  have npcs : after.hasLivingNpcs = true → before.hasLivingNpcs = true :=
    keeps.any_living persons fun _ => rfl
  constructor
  · intro decided ongoing
    have both := standing_eq_ongoing.mp ongoing
    exact decided (standing_eq_ongoing.mpr ⟨players both.1, npcs both.2⟩)
  · intro defeat
    have none := standing_eq_defeat.mp defeat
    refine standing_eq_defeat.mpr (Bool.eq_false_iff.mpr fun some => ?_)
    rw [players some] at none
    cases none

/-! ### The dead in every run -/

/-- A moment of a round at which some of its events have been told and the others not yet. -/
structure MomentOf (encounter : Encounter) (resolution : Resolution)
    (early late : List RoundEvent) (moment : Scene) : Prop where
  before : Scene.Course ⟨encounter, []⟩ early moment
  after : Scene.Course moment late ⟨resolution.encounter, resolution.damage⟩

/-- A round spares whoever is dead when it is resolved. -/
theorem resolve_spares {encounter : Encounter} (distinct : encounter.ids.Nodup) {index : Nat}
    {combatant : Combatant} (found : encounter.combatants[index]? = some combatant)
    (dead : combatant.isDead = true) :
    Always (fun resolution =>
        (∀ event ∈ resolution.events, ∀ attack ∈ event.attack, attack.target ≠ combatant.id) ∧
        ∀ report ∈ resolution.damage, report.1 ≠ combatant.id)
      encounter.resolve :=
  encounter.resolve_course.mono fun resolution course => by
    have spares := course.spares distinct found dead
    obtain ⟨reports, same, others⟩ := spares.unhurt
    have all : resolution.damage = reports := same
    exact ⟨spares.untouched, all ▸ others⟩

/-- Whoever has no queue gives no events. -/
theorem resolve_silent {encounter : Encounter} {id : String}
    (unqueued : encounter.queues.get? id = none) :
    Always (fun resolution => ∀ event ∈ resolution.events, event.actor ≠ id) encounter.resolve :=
  encounter.resolve_follows.mono fun resolution follows event member same => by
    obtain ⟨queue, present, _⟩ := Resolution.committed_of_mem_events follows.2 member
    rw [same, unqueued] at present
    cases present

/--
Whoever is dead stays dead and keeps its hit points, whatever is asked of the
encounter and whatever is drawn. No later round attacks it or reports damage of it,
and no opening tells of it; once a round has been opened it has no queue and gives no
event. Within a round this holds from the moment of its death. A fight that is decided
stays decided, and a defeat stays a defeat.
-/
theorem play_dead {σ : Type} [RandomSource σ] {encounter : Encounter}
    (distinct : encounter.ids.Nodup) (requests : List Request) (source : σ) :
    let later := ((play requests encounter).run source).1
    encounter.KeepsDead later ∧
    (encounter.standing ≠ .ongoing → later.standing ≠ .ongoing) ∧
    (encounter.standing = .defeat → later.standing = .defeat) ∧
    (∀ combatant ∈ encounter.combatants, combatant.isDead = true → ∀ next : σ,
      let resolution := (later.resolve.run next).1
      (∀ event ∈ resolution.events, ∀ attack ∈ event.attack, attack.target ≠ combatant.id) ∧
      (∀ report ∈ resolution.damage, report.1 ≠ combatant.id) ∧
      (∀ (points : Count), ∀ event ∈ ((later.openRound points).run next).1.1,
        event.combatant ≠ combatant.id) ∧
      (requests.any Request.opensRound = true →
        later.queues.get? combatant.id = none ∧
        ∀ event ∈ resolution.events, event.actor ≠ combatant.id)) ∧
    ∀ (next : σ) (early late : List RoundEvent),
      let resolution := (later.resolve.run next).1
      resolution.events = early ++ late →
      (∃ moment, MomentOf later resolution early late moment) ∧
      ∀ moment, MomentOf later resolution early late moment →
        moment.encounter.KeepsDead resolution.encounter ∧
        ∀ combatant ∈ moment.encounter.combatants, combatant.isDead = true →
          Scene.Spares combatant.id moment late ⟨resolution.encounter, resolution.damage⟩ := by
  have same := (play_same requests encounter).run source
  have keeps := (play_keepsDead requests encounter).run source
  have apart := same.ids ▸ distinct
  intro later
  refine ⟨keeps, (keeps.standing same.persons).1, (keeps.standing same.persons).2, ?_, ?_⟩
  · intro combatant member dead next resolution
    obtain ⟨index, found⟩ := List.mem_iff_getElem?.mp member
    obtain ⟨gone, there, still, named, _⟩ := keeps index combatant found dead
    have spared := (resolve_spares apart there still).run next
    rw [named] at spared
    refine ⟨spared.1, spared.2, fun points => ?_, fun opened => ?_⟩
    · have silent := (openRound_silent apart there still points).run next
      rw [named] at silent
      exact silent
    · have unqueued := (play_unqueued distinct found dead requests).run source (.inr opened)
      exact ⟨unqueued, (resolve_silent unqueued).run next⟩
  · intro next early late resolution cut
    have course := later.resolve_course.run next
    refine ⟨?_, fun moment between => ⟨between.after.reaches.keepsDead, ?_⟩⟩
    · rw [cut] at course
      obtain ⟨moment, before, after⟩ := course.cut
      exact ⟨moment, before, after⟩
    · intro combatant member dead
      obtain ⟨index, found⟩ := List.mem_iff_getElem?.mp member
      have framed := between.before.reaches.framed
      exact between.after.spares (framed.ids ▸ apart) found dead

/-! ### A rat that stays dead -/

def sampleHunt : Setup :=
  { room := "cellar"
    zone := "house"
    combatants := [
      { id := "ann", name := "Ann", side := .player, maxHp := 9, hp := 9, armorClass := 12 },
      { id := "rat", name := "Rat", side := .npc, maxHp := 3, hp := 3, armorClass := 9 }] }

/-- The hunt when the rat has been killed. -/
def sampleKill : Encounter :=
  ((play [.openRound 3, .commit "ann" (.attack "Rat"), .resolve] (begin sampleHunt)).run
    (⟨15⟩ : Fixed)).1

def sampleRevenge : List Request := [.openRound 3, .commit "rat" (.attack "Ann")]

/-- The dead rat gets no queue, and the fight stays won. -/
theorem play_dead_sample :
    sampleKill.ids.Nodup ∧ sampleKill.standing ≠ .ongoing ∧
    ((play sampleRevenge sampleKill).run (⟨15⟩ : Fixed)).1.standing ≠ .ongoing ∧
    ((play sampleRevenge sampleKill).run (⟨15⟩ : Fixed)).1.queues.get? "rat" = none := by
  have distinct : sampleKill.ids.Nodup := by decide +kernel
  have decided : sampleKill.standing ≠ .ongoing := by decide +kernel
  have stood : (sampleKill.combatants[1]?).map (fun rat => (rat.id, rat.isDead))
      = some ("rat", true) := by decide +kernel
  obtain ⟨rat, found, facts⟩ := Option.map_eq_some_iff.mp stood
  obtain ⟨named, dead⟩ := Prod.mk.inj facts
  obtain ⟨_, still, _, gone, _⟩ := play_dead distinct sampleRevenge (⟨15⟩ : Fixed)
  obtain ⟨_, _, _, silent⟩ := gone rat (List.mem_of_getElem? found) dead ⟨15⟩
  have unqueued := (silent rfl).1
  rw [named] at unqueued
  exact ⟨distinct, decided, still decided, unqueued⟩

end Encounter

end Fray
