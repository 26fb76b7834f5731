import Fray.Proofs.Arsenal.Handling
import Fray.Proofs.Encounter.Reached
import Fray.Proofs.Round.Moments

/-!
# Ammunition

A shot takes a round out of the magazine of its actor after it has hit or missed, and an
empty magazine stops no shot. So what bursts and automatic fire take out of a magazine are
as many rounds as shots were fired, as long as there are any; the shots from an empty
magazine cost nothing. Nobody handles the magazine of another combatant.

## Main results

`perform_handles`: what every action makes of the loadout of its actor. `watch_spends`:
what a single action takes out of a magazine, and what any number of actions between two
reloads do, over any number of rounds.
-/

namespace Fray

open Draws

/-! ### Magazines -/

/-- How rounds were taken out of a magazine for a number of shots. -/
structure Magazine.Spent (magazine : Magazine) (shots : Nat) (left : Magazine) : Prop where
  weapon : left.weapon = magazine.weapon
  capacity : left.capacity = magazine.capacity
  /-- One round for every shot, until the magazine is empty. -/
  removed : magazine.loaded.toNat = left.loaded.toNat + min shots magazine.loaded.toNat

/-- Take out a number of rounds, or as many as there are. -/
def Magazine.spend (shots : Nat) (magazine : Magazine) : Magazine :=
  { magazine with loaded := magazine.loaded - Count.ofNat shots }

theorem Magazine.spent_spend (shots : Nat) (magazine : Magazine) :
    magazine.Spent shots (magazine.spend shots) where
  weapon := rfl
  capacity := rfl
  removed := by
    -- More shots than a count can hold empty the magazine just as well.
    have most := magazine.loaded.le_greatest
    simp only [spend, Count.toNat_sub, Count.toNat_ofNat]
    omega

namespace Loadout

theorem magazine?_withMagazine (loadout : Loadout) (change : Magazine → Magazine) :
    (loadout.withMagazine change).magazine? = loadout.magazine?.map change := by
  obtain ⟨_ | held⟩ := loadout
  · rfl
  · rfl

def spend (shots : Nat) (loadout : Loadout) : Loadout := loadout.withMagazine (·.spend shots)

theorem spend_zero (loadout : Loadout) : loadout.spend 0 = loadout := by
  have same (magazine : Magazine) : magazine.spend 0 = magazine := rfl
  simp [spend, withMagazine, same]

/-- Shots that are fired one after another add up, even where there are too few rounds. -/
theorem spend_spend (early late : Nat) (loadout : Loadout) :
    (loadout.spend early).spend late = loadout.spend (early + late) := by
  have rounds (loaded : Count) :
      loaded - Count.ofNat early - Count.ofNat late = loaded - Count.ofNat (early + late) := by
    have most := loaded.le_greatest
    ext
    simp only [Count.toNat_sub, Count.toNat_ofNat]
    omega
  simp [spend, withMagazine, Magazine.spend, rounds, Function.comp_def]

/-- Whoever holds a firearm has a magazine for it. -/
def Armed (loadout : Loadout) : Prop :=
  ∀ held ∈ loadout.mainHand, held.weapon.isFirearm = true → held.magazine.isSome = true

/-- What is taken up comes with its magazine. -/
theorem armed_equip {loadout equipped : Loadout} {weapon : Weapon}
    (taken : loadout.equip weapon = .ok equipped) : equipped.Armed := by
  obtain ⟨valid, rfl⟩ := equip_eq_ok.mp taken
  intro held carried firearm
  cases carried
  exact (Held.ready_sound valid).armed.trans firearm

theorem Armed.withMagazine {loadout : Loadout} (armed : loadout.Armed)
    (change : Magazine → Magazine) : (loadout.withMagazine change).Armed := by
  intro held member firearm
  obtain ⟨before, inside, rfl⟩ := Option.map_eq_some_iff.mp member
  simpa using armed before inside firearm

end Loadout

/-! ### Shots -/

/-- The kinds that fire what is in the hand. -/
def ActionKind.fires : ActionKind → Bool
  | burst | automatic => true
  | unknown | attack | strike | pass | reload | throw => false

/-- How many of some events are attacks with a firearm, if there is one. -/
def shotsWith (weapon : Option Weapon) (events : List RoundEvent) : Nat :=
  if weapon.isSome then events.countP (·.attack.isSome) else 0

theorem shotsWith_cons (weapon : Option Weapon) (event : RoundEvent) (rest : List RoundEvent) :
    shotsWith weapon (event :: rest) = shotsWith weapon [event] + shotsWith weapon rest := by
  unfold shotsWith
  split
  · rw [List.countP_cons, List.countP_singleton, Nat.add_comm]
  · rfl

/-- What is told without attacks are no shots. -/
theorem shotsWith_plain {weapon : Option Weapon} {events : List RoundEvent}
    (plain : ∀ event ∈ events, event.attack = none) : shotsWith weapon events = 0 := by
  unfold shotsWith
  split
  · exact List.countP_eq_zero.mpr fun event member => by simp [plain event member]
  · rfl

namespace Encounter

/-- The magazine in the hand of the combatant at a position. -/
def magazineAt? (encounter : Encounter) (index : Nat) : Option Magazine :=
  (encounter.loadoutAt? index).bind Loadout.magazine?

theorem loadoutAt?_changeLoadout (encounter : Encounter) (index : Nat)
    (change : Loadout → Loadout) :
    (encounter.changeAt index fun self => { self with loadout := change self.loadout }).loadoutAt?
        index = (encounter.loadoutAt? index).map change := by
  simp only [loadoutAt?, changeAt, List.getElem?_modify]
  cases encounter.combatants[index]? with
  | none => rfl
  | some combatant => simp

/-- A firearm that is found with its magazine is fired from that magazine. -/
theorem magazineAt?_of_firearm? {encounter : Encounter} {index : Nat} {named : Option String}
    (armed : ∀ loadout ∈ encounter.loadoutAt? index, loadout.Armed)
    (found : (encounter.firearm? index named).isSome = true) :
    (encounter.magazineAt? index).isSome = true := by
  obtain ⟨weapon, found⟩ := Option.isSome_iff_exists.mp found
  obtain ⟨self, stands, found⟩ := Option.bind_eq_some_iff.mp found
  obtain ⟨held, carried, found⟩ := Option.bind_eq_some_iff.mp found
  have firearm : held.weapon.isFirearm = true := by
    by_contra tool
    simp [tool] at found
  have loaded := armed self.loadout (by simp [loadoutAt?, stands]) held carried firearm
  simpa [magazineAt?, loadoutAt?, stands, Loadout.magazine?, carried] using loaded

/-- Between two encounters so many shots were fired from what is at a position. -/
def Spends (index shots : Nat) (before after : Encounter) : Prop :=
  after.loadoutAt? index = (before.loadoutAt? index).map (·.spend shots)

theorem spends_of_same {index : Nat} {before after : Encounter}
    (same : after.loadoutAt? index = before.loadoutAt? index) : Spends index 0 before after := by
  simp [Spends, same, Loadout.spend_zero]

theorem spends_of_plain {index : Nat} {weapon : Option Weapon} {events : List RoundEvent}
    (plain : ∀ event ∈ events, event.attack = none) (encounter : Encounter) :
    Spends index (shotsWith weapon events) encounter encounter := by
  rw [shotsWith_plain plain]
  exact spends_of_same rfl

theorem Spends.trans {index early late : Nat} {first second third : Encounter}
    (one : Spends index early first second) (two : Spends index late second third) :
    Spends index (early + late) first third := by
  unfold Spends at one two ⊢
  rw [two, one, Option.map_map]
  exact Option.map_congr fun loadout _ => loadout.spend_spend early late

theorem Spends.magazine {index shots : Nat} {before after : Encounter}
    (spends : Spends index shots before after) :
    after.magazineAt? index = (before.magazineAt? index).map (·.spend shots) := by
  unfold magazineAt?
  rw [spends, Option.bind_map, Option.map_bind]
  exact Option.bind_congr fun loadout _ => loadout.magazine?_withMagazine _

end Encounter

namespace Scene

open Encounter

variable {actor : Actor}

/-- A shot with a firearm uses one round, whatever it does to its target. -/
theorem shoot_spends (scene : Scene) (actor target : Nat) (weapon : Option Weapon)
    (event : Hit → RoundEvent) (told : ∀ hit, (event hit).attack = some hit.attack) :
    Always (fun result => ∀ hit, result = some hit →
        Spends actor (shotsWith weapon [event hit]) scene.encounter hit.scene.encounter)
      (scene.shoot actor target weapon) := by
  unfold shoot
  split
  next attacker defender _ _ =>
    rw [always_bind]
    refine always_of_forall (fun rolled hit given => ?_) _
    cases given
    have struck : ((scene.land attacker defender target rolled).scene.encounter.beginDying
        target).loadoutAt? actor = scene.encounter.loadoutAt? actor :=
      (loadoutAt?_of_same (combatants_beginDying ..) actor).trans
        ((land_leaves scene attacker defender target rolled).2.1 actor)
    -- What the shot does to its target leaves the loadouts alone; the round goes afterwards.
    simp only [shotsWith, List.countP_singleton, told, Option.isSome_some, if_true]
    split
    · exact (loadoutAt?_changeLoadout ..).trans (congrArg (Option.map Loadout.fire) struck)
    · exact spends_of_same struck
  · intro hit given
    cases given

theorem shootOn_spends (target : Nat) (name : String) (weapon : Option Weapon) (shots : Nat)
    (scene : Scene) :
    Always (fun result =>
        Spends actor.index (shotsWith weapon result.1) scene.encounter result.2.encounter)
      (shootOn actor target name weapon shots scene) := by
  induction shots generalizing scene with
  | zero => exact spends_of_plain (by simp) scene.encounter
  | succ shots ih =>
    simp only [shootOn]
    rw [always_bind]
    refine (shoot_spends scene actor.index target weapon (shotEvent actor .burst name)
      fun _ => rfl).mono fun result spends => ?_
    cases result with
    | none => exact spends_of_plain (by simp) scene.encounter
    | some hit =>
      have first := spends hit rfl
      simp only
      split
      -- The target is dead, and there are no more shots to count.
      · exact first
      · rw [always_bind]
        refine (ih hit.scene).mono fun rest later => ?_
        simp only [pure_eq, always_done]
        rw [shotsWith_cons]
        exact first.trans later

theorem shootEach_spends (weapon : Option Weapon) (targets : List Nat) (scene : Scene) :
    Always (fun result =>
        Spends actor.index (shotsWith weapon result.1) scene.encounter result.2.encounter)
      (shootEach actor weapon targets scene) := by
  induction targets generalizing scene with
  | nil => exact spends_of_plain (by simp) scene.encounter
  | cons target rest ih =>
    simp only [shootEach]
    rw [always_bind]
    refine (shoot_spends scene actor.index target weapon
      (shotEvent actor .automatic (scene.encounter.nameAt target)) fun _ => rfl).mono
      fun result spends => ?_
    cases result with
    -- Without a shot nothing is told, and the next target comes.
    | none => exact ih scene
    | some hit =>
      simp only
      rw [always_bind]
      refine (ih hit.scene).mono fun others later => ?_
      simp only [pure_eq, always_done]
      rw [shotsWith_cons]
      exact (spends hit rfl).trans later

end Scene

/-! ### Actions -/

namespace Moment

/-- The shots of an action that its actor fired with the firearm in its hand. -/
def fired (moment : Moment) (position : Nat) : Nat :=
  if moment.block.action.kind.fires then
    shotsWith (moment.before.encounter.firearm? position moment.block.action.weapon)
      moment.block.events
  else 0

theorem fired_of_fires {moment : Moment} (fires : moment.block.action.kind.fires = true)
    (position : Nat) :
    moment.fired position
      = shotsWith (moment.before.encounter.firearm? position moment.block.action.weapon)
          moment.block.events := if_pos fires

theorem fired_of_not_fires {moment : Moment} (idle : moment.block.action.kind.fires = false)
    (position : Nat) : moment.fired position = 0 := if_neg (Bool.eq_false_iff.mp idle)

/-- What an action makes of the loadouts of all combatants. -/
structure Handles (moment : Moment) (position : Nat) : Prop where
  spends : moment.block.action.kind ≠ .reload →
    Encounter.Spends position (moment.fired position) moment.before.encounter moment.after.encounter
  fills : moment.block.action.kind = .reload →
    moment.after.encounter.loadoutAt? position
      = (moment.before.encounter.loadoutAt? position).map Loadout.reload
  others : ∀ index, index ≠ position →
    moment.after.encounter.loadoutAt? index = moment.before.encounter.loadoutAt? index

end Moment

namespace Scene

open Encounter

variable {actor : Actor}

theorem performBurst_spends (scene : Scene) (actor : Actor) (action : Action) :
    Always (fun result => Spends actor.index
        (shotsWith (scene.encounter.firearm? actor.index action.weapon) result.1)
        scene.encounter result.2.encounter)
      (scene.performBurst actor action) := by
  unfold performBurst
  split
  · exact spends_of_plain (by simp [Actor.event]) scene.encounter
  · exact shootOn_spends ..

theorem performAutomatic_spends (scene : Scene) (actor : Actor) (action : Action) :
    Always (fun result => Spends actor.index
        (shotsWith (scene.encounter.firearm? actor.index action.weapon) result.1)
        scene.encounter result.2.encounter)
      (scene.performAutomatic actor action) := by
  simp only [performAutomatic]
  split
  · exact spends_of_plain (by simp [Actor.event]) scene.encounter
  · exact shootEach_spends ..

theorem perform_fills (scene : Scene) (actor : Actor) {action : Action}
    (reloads : action.kind = .reload) :
    Always (fun result => result.2.encounter.loadoutAt? actor.index
        = (scene.encounter.loadoutAt? actor.index).map Loadout.reload)
      (scene.perform actor action) := by
  unfold perform
  rw [reloads]
  exact loadoutAt?_changeLoadout ..

theorem perform_spends {scene : Scene} {action : Action}
    (stands : scene.encounter.ids[actor.index]? = some actor.id) (other : action.kind ≠ .reload) :
    Always (fun result => Spends actor.index
        (Moment.fired ⟨scene, ⟨actor.id, action, result.1⟩, result.2⟩ actor.index)
        scene.encounter result.2.encounter)
      (scene.perform actor action) := by
  cases fires : action.kind.fires with
  | true =>
    have shots (result : List RoundEvent × Scene) :
        Moment.fired ⟨scene, ⟨actor.id, action, result.1⟩, result.2⟩ actor.index
          = shotsWith (scene.encounter.firearm? actor.index action.weapon) result.1 :=
      Moment.fired_of_fires fires actor.index
    simp only [shots]
    unfold perform
    cases kind : action.kind with
    | burst => exact performBurst_spends scene actor action
    | automatic => exact performAutomatic_spends scene actor action
    | unknown | attack | strike | pass | reload | throw =>
      rw [kind] at fires
      cases fires
  | false =>
    have idle : action.kind.handlesMagazine = false := by
      cases kind : action.kind with
      | reload => exact absurd kind other
      | burst | automatic =>
        rw [kind] at fires
        cases fires
      | unknown | attack | strike | pass | throw => rfl
    refine (perform_works action stands).mono fun result works => ?_
    -- Whatever its events are, nothing was fired.
    rw [Moment.fired_of_not_fires fires]
    exact spends_of_same (works.1.loadouts actor.index (.inr idle))

/-- Only reloading and firing touch a magazine, and only that of the actor. -/
theorem perform_handles {scene : Scene} (action : Action)
    (stands : scene.encounter.ids[actor.index]? = some actor.id) :
    Always (fun result =>
        Moment.Handles ⟨scene, ⟨actor.id, action, result.1⟩, result.2⟩ actor.index)
      (scene.perform actor action) := by
  have works := perform_works action stands
  by_cases reloads : action.kind = .reload
  · refine (works.and (perform_fills scene actor reloads)).mono fun result both => ?_
    obtain ⟨works, fills⟩ := both
    exact ⟨fun other => absurd reloads other, fun _ => fills,
      fun index other => works.1.loadouts index (.inl other)⟩
  · refine (works.and (perform_spends stands reloads)).mono fun result both => ?_
    obtain ⟨works, spends⟩ := both
    exact ⟨fun _ => spends, fun fills => absurd fills reloads,
      fun index other => works.1.loadouts index (.inl other)⟩

end Scene

/-! ### Runs -/

/-- Actions of the combatant at a position that lead from one loadout of it to another. -/
inductive Passes (place : Nat) : Option Loadout → List Moment → Option Loadout → Prop
  | rest (loadout : Option Loadout) : Passes place loadout [] loadout
  | act {first last : Option Loadout} {moment : Moment} {rest : List Moment}
      (stood : first = moment.before.encounter.loadoutAt? place) (handles : moment.Handles place)
      (later : Passes place (moment.after.encounter.loadoutAt? place) rest last) :
      Passes place first (moment :: rest) last

namespace Passes

variable {place : Nat} {first middle last : Option Loadout} {early late moments : List Moment}

theorem trans (one : Passes place first early middle) (two : Passes place middle late last) :
    Passes place first (early ++ late) last := by
  induction one with
  | rest => exact two
  | act stood handles _ ih => exact .act stood handles (ih two)

theorem cut (passes : Passes place first (early ++ late) last) :
    ∃ middle, Passes place first early middle ∧ Passes place middle late last := by
  induction early generalizing first with
  | nil => exact ⟨first, .rest first, passes⟩
  | cons moment early ih =>
    cases passes with
    | act stood handles later =>
      obtain ⟨middle, one, two⟩ := ih later
      exact ⟨middle, .act stood handles one, two⟩

theorem head (passes : Passes place first moments last) {moment : Moment}
    (here : moments.head? = some moment) :
    first = moment.before.encounter.loadoutAt? place := by
  cases passes with
  | rest => cases here
  | act stood _ _ =>
    cases here
    exact stood

theorem getLast (passes : Passes place first moments last) {moment : Moment}
    (here : moments.getLast? = some moment) : last = moment.after.encounter.loadoutAt? place := by
  induction passes with
  | rest => cases here
  | @act _ last one rest _ _ later ih =>
    -- The last of several moments is the last of those after the first.
    cases rest with
    | nil =>
      cases later
      cases here
      rfl
    | cons next rest => exact ih (by simpa using here)

/-- Without a reload the shots of several actions add up. -/
theorem spends (passes : Passes place first moments last)
    (unfilled : ∀ moment ∈ moments, moment.block.action.kind ≠ .reload) :
    last = first.map (·.spend (moments.map (·.fired place)).sum) := by
  induction passes with
  | rest loadout => simp [Loadout.spend_zero]
  | act stood handles _ ih =>
    obtain ⟨here, unfilled⟩ := List.forall_mem_cons.mp unfilled
    have one := handles.spends here
    unfold Encounter.Spends at one
    rw [ih unfilled, one, stood, Option.map_map, List.map_cons, List.sum_cons]
    exact Option.map_congr fun loadout _ => loadout.spend_spend ..

theorem armed (passes : Passes place first moments last)
    (start : ∀ loadout ∈ first, loadout.Armed) :
    ∀ moment ∈ moments, ∀ loadout ∈ moment.before.encounter.loadoutAt? place, loadout.Armed := by
  induction passes with
  | rest => simp
  | @act first last moment rest stood handles _ ih =>
    rw [stood] at start
    refine List.forall_mem_cons.mpr ⟨start, ih fun loadout after => ?_⟩
    by_cases reloads : moment.block.action.kind = .reload
    · rw [handles.fills reloads] at after
      obtain ⟨before, inside, rfl⟩ := Option.map_eq_some_iff.mp after
      exact (start before inside).withMagazine _
    · rw [handles.spends reloads] at after
      obtain ⟨before, inside, rfl⟩ := Option.map_eq_some_iff.mp after
      exact (start before inside).withMagazine _

end Passes

namespace Scene

open Encounter

variable {actor : Actor} {before after : Scene}

theorem Chain.handles {moments : List Moment} (chain : Chain actor before moments after) :
    ∀ moment ∈ moments, moment.Handles actor.index := by
  induction chain with
  | none => simp
  | @act moment rest after owner stands performed _ ih =>
    have handles := performed.holds (perform_handles moment.block.action stands)
    rw [← owner] at handles
    exact List.forall_mem_cons.mpr ⟨handles, ih⟩

theorem Chain.passes {moments : List Moment} (chain : Chain actor before moments after) :
    Passes actor.index (before.encounter.loadoutAt? actor.index) moments
      (after.encounter.loadoutAt? actor.index) := by
  have handles := chain.handles
  induction chain with
  | none => exact .rest _
  | act _ _ _ _ ih =>
    obtain ⟨one, others⟩ := List.forall_mem_cons.mp handles
    exact .act rfl one (ih others)

theorem Chain.apart {moments : List Moment} (chain : Chain actor before moments after)
    {index : Nat} (other : index ≠ actor.index) :
    after.encounter.loadoutAt? index = before.encounter.loadoutAt? index := by
  have handles := chain.handles
  induction chain with
  | none => rfl
  | act _ _ _ _ ih =>
    obtain ⟨one, others⟩ := List.forall_mem_cons.mp handles
    exact (ih others).trans (one.others index other)

end Scene

/-- The moments of the turns at a position. -/
def momentsAt (place : Nat) (episodes : List Episode) : List Moment :=
  (episodes.filter (·.position = place)).flatMap Episode.moments

theorem momentsAt_cons (place : Nat) (episode : Episode) (rest : List Episode) :
    momentsAt place (episode :: rest)
      = (if episode.position = place then episode.moments else []) ++ momentsAt place rest := by
  by_cases here : episode.position = place <;> simp [momentsAt, here]

theorem Scene.Tour.passes {position : Nat} {before after : Scene} {episodes : List Episode}
    (tour : Tour position before episodes after) (place : Nat) :
    Passes place (before.encounter.loadoutAt? place) (momentsAt place episodes)
      (after.encounter.loadoutAt? place) := by
  induction tour with
  | finished => exact .rest _
  | @episode before middle after current rest _ _ chain _ ih =>
    rw [momentsAt_cons]
    split
    next here =>
      subst here
      exact chain.passes.trans ih
    -- The turn of somebody else: its moments do not count, and it handles nothing of ours.
    next elsewhere =>
      rw [← chain.apart (Ne.symm elsewhere)]
      exact ih

theorem Combatant.Opens.loadout {codex : Codex} {combatant : Combatant} {set : Afflictions}
    {opening : Opening} (opens : combatant.Opens codex set opening) :
    opening.combatant.loadout = combatant.loadout := by
  cases opens with
  | dead _ | counted _ _ => rfl
  | checked _ _ roll =>
    simp only [recover]
    split
    · rfl
    · split
      · rfl
      · split <;> rfl

namespace Encounter

theorem openAll_loadouts (codex : Codex) (combatants : List Combatant)
    (afflictions : Table Afflictions) :
    Always (fun opened => opened.combatants.map Combatant.loadout
        = combatants.map Combatant.loadout)
      (openAll codex combatants afflictions) :=
  openAll_maps (fun _ _ _ opens => opens.loadout) combatants afflictions

/-- Nothing but a resolution changes what anybody holds. -/
theorem answer_loadouts (encounter : Encounter) {request : Request} (other : request ≠ .resolve)
    (index : Nat) :
    Always (fun after => after.loadoutAt? index = encounter.loadoutAt? index)
      (encounter.answer request) := by
  refine answer_frame request (fun points _ => ?_) (fun resolves => absurd resolves other)
    (fun _ _ _ _ => rfl) (fun _ _ => rfl) (fun _ _ => rfl)
  unfold Encounter.openRound
  rw [always_bind]
  refine (openAll_loadouts ..).mono fun opened same => ?_
  have here := congrArg (·[index]?) same
  simp only [List.getElem?_map] at here
  exact here

/-- What the combatant at a position has done on the way from one encounter to another. -/
inductive Record (start : Encounter) (place : Nat) : List Moment → Encounter → Prop
  | begun : Record start place [] start
  | resolved {moments : List Moment} {encounter : Encounter}
      (record : Record start place moments encounter) {σ : Type} [RandomSource σ] (source : σ) :
      Record start place (moments ++ momentsAt place (encounter.watch.run source).1.episodes)
        (encounter.watch.run source).1.last.encounter
  | answered {moments : List Moment} {encounter : Encounter}
      (record : Record start place moments encounter) {request : Request}
      (other : request ≠ .resolve) {σ : Type} [RandomSource σ] (source : σ) :
      Record start place moments ((encounter.answer request).run source).1
  | markedOver {moments : List Moment} {encounter : Encounter}
      (record : Record start place moments encounter) :
      Record start place moments encounter.markOver

theorem Record.passes {start encounter : Encounter} {place : Nat} {moments : List Moment}
    (record : Record start place moments encounter) :
    Passes place (start.loadoutAt? place) moments (encounter.loadoutAt? place) := by
  induction record with
  | begun => exact .rest _
  | @resolved moments encounter _ σ _ source ih =>
    exact ih.trans ((encounter.watch_tour.run source).passes place)
  | @answered moments encounter _ request other σ _ source ih =>
    rw [(answer_loadouts encounter other place).run source]
    exact ih
  | markedOver _ ih => exact ih

/-- Every reachable encounter has a record of each of its positions. -/
theorem Reached.recorded {setup : Setup} {reports : List (String × Count)} {encounter : Encounter}
    (reached : Reached setup reports encounter) (place : Nat) :
    ∃ moments, Record (begin setup) place moments encounter := by
  induction reached with
  | begun => exact ⟨[], .begun⟩
  | @resolved reports encounter _ σ _ source ih =>
    obtain ⟨moments, record⟩ := ih
    rw [resolve_watched, run_bind]
    exact ⟨_, record.resolved source⟩
  | answered _ other source ih =>
    obtain ⟨moments, record⟩ := ih
    exact ⟨moments, record.answered other source⟩
  | markedOver _ ih =>
    obtain ⟨moments, record⟩ := ih
    exact ⟨moments, record.markedOver⟩

end Encounter

/-! ### What is left in a magazine -/

/-- What an action of the combatant at a position does to all magazines. -/
structure Moment.Uses (moment : Moment) (position : Nat) : Prop where
  spent : moment.block.action.kind ≠ .reload →
    ∀ magazine ∈ moment.before.encounter.magazineAt? position,
      ∃ left ∈ moment.after.encounter.magazineAt? position,
        magazine.Spent (moment.fired position) left
  filled : moment.block.action.kind = .reload →
    moment.after.encounter.magazineAt? position
      = (moment.before.encounter.magazineAt? position).map Magazine.reload
  others : ∀ index, index ≠ position →
    moment.after.encounter.magazineAt? index = moment.before.encounter.magazineAt? index

theorem Moment.Handles.uses {moment : Moment} {position : Nat}
    (handles : moment.Handles position) : moment.Uses position where
  spent other magazine here := by
    rw [(handles.spends other).magazine, here]
    exact ⟨_, rfl, magazine.spent_spend _⟩
  filled reloads := by
    unfold Encounter.magazineAt?
    rw [handles.fills reloads, Option.bind_map, Option.map_bind]
    exact Option.bind_congr fun loadout _ => loadout.magazine?_withMagazine _
  others index other := by
    unfold Encounter.magazineAt?
    rw [handles.others index other]

namespace Encounter

/-- What the actions of the combatant at a position do to its magazine, over many rounds. -/
structure Spending (start : Encounter) (place : Nat) (moments : List Moment) : Prop where
  /-- Whoever began with a magazine for its firearm has one whenever it fires. -/
  loaded : (∀ loadout ∈ start.loadoutAt? place, loadout.Armed) →
    ∀ moment ∈ moments, 0 < moment.fired place →
      (moment.before.encounter.magazineAt? place).isSome = true
  /-- Up to the next reload, any number of actions take what their shots take together. -/
  between : ∀ early stretch late, moments = early ++ stretch ++ late →
    (∀ moment ∈ stretch, moment.block.action.kind ≠ .reload) →
      ∀ first ∈ stretch.head?, ∀ last ∈ stretch.getLast?,
        ∀ magazine ∈ first.before.encounter.magazineAt? place,
          ∃ left ∈ last.after.encounter.magazineAt? place,
            magazine.Spent (stretch.map (·.fired place)).sum left

theorem Record.spending {start encounter : Encounter} {place : Nat} {moments : List Moment}
    (record : Record start place moments encounter) : Spending start place moments where
  loaded armed moment member fired := by
    have found :
        (moment.before.encounter.firearm? place moment.block.action.weapon).isSome = true := by
      by_contra empty
      simp [Moment.fired, shotsWith, empty] at fired
    exact magazineAt?_of_firearm? (record.passes.armed armed moment member) found
  between early stretch late cut unfilled first here last there magazine held := by
    -- The stretch by itself leads from the first scene of it to the last.
    have passes := record.passes
    rw [cut] at passes
    obtain ⟨_, passes, _⟩ := passes.cut
    obtain ⟨_, _, passes⟩ := passes.cut
    have total : Spends place (stretch.map (·.fired place)).sum first.before.encounter
        last.after.encounter := by
      unfold Spends
      rw [← passes.head here, ← passes.getLast there]
      exact passes.spends unfilled
    rw [total.magazine, held]
    exact ⟨_, rfl, magazine.spent_spend _⟩

theorem watch_uses (encounter : Encounter) :
    Always (fun watched => ∀ episode ∈ watched.episodes, ∀ moment ∈ episode.moments,
        moment.Uses episode.position)
      encounter.watch := by
  refine encounter.watch_tour.mono fun watched tour episode member moment inside => ?_
  obtain ⟨first, last, _, _, chain⟩ := tour.find member
  exact (chain.handles moment inside).uses

/--
To watch a round changes nothing, and shows for each action what was in the magazines
before and after it. The attacks that a burst or automatic fire tells of are its shots if
its actor holds a firearm that the action may mean. An action takes one round for each of
them out of the magazine of its actor, so exactly as many rounds as shots if there were
enough; the shots beyond these are fired all the same and take nothing. A reload fills the
magazine, and no other action touches it, nor anything that happens between the rounds; so
any number of actions without a reload between them take as many rounds as they fire shots
together, as long as there are any. No other magazine changes. All this holds of all that was
done on the way to a reachable encounter; and whoever begins it with a weapon that was equipped
has a magazine for every shot.
-/
theorem watch_spends (encounter : Encounter) :
    encounter.resolve = (encounter.watch >>= fun watched => pure watched.resolution) ∧
    Always (fun watched => ∀ episode ∈ watched.episodes, ∀ moment ∈ episode.moments,
        moment.Uses episode.position)
      encounter.watch ∧
    (∀ start place moments, Record start place moments encounter →
      Spending start place moments) ∧
    (∀ setup reports, Reached setup reports encounter →
      ∀ place, ∃ moments, Record (begin setup) place moments encounter) ∧
    ∀ (loadout equipped : Loadout) (weapon : Weapon),
      loadout.equip weapon = .ok equipped → equipped.Armed := by
  refine ⟨encounter.resolve_watched, encounter.watch_uses, ?_, ?_, ?_⟩
  · exact fun start place moments record => record.spending
  · exact fun setup reports reached place => reached.recorded place
  · exact fun loadout equipped weapon taken => Loadout.armed_equip taken

/-! ### A single round in the magazine -/

def samplePistol : Weapon :=
  { id := "pistol"
    name := "Pistol"
    damageDice := "1d4"
    damageType := "piercing"
    rangeIncrement := 30
    reloadActions := 1
    magazineCapacity := 6
    firingModes := [.burst]
    traits := [] }

def sampleRange : Setup :=
  { room := "cellar"
    zone := "house"
    combatants := [
      { id := "ann", name := "Ann", side := .player, maxHp := 9, hp := 9, armorClass := 12,
        loadout := ⟨some ⟨samplePistol, some ⟨"pistol", 1, 6⟩⟩⟩ },
      { id := "rat", name := "Rat", side := .npc, maxHp := 30, hp := 30, armorClass := 9 }] }

def sampleBurst : List Request := [.openRound 3, .commit "ann" (.burst "Rat" "pistol")]

/-- The shooting range before its first round is resolved. -/
def sampleAiming : Encounter := ((play sampleBurst (begin sampleRange)).run (⟨15⟩ : Fixed)).1

/-- Ann fires two shots, and there was one round in the magazine. -/
theorem watch_spends_empty :
    (∃ reports, Reached sampleRange reports sampleAiming) ∧
    ((sampleAiming.watch.run (⟨15⟩ : Fixed)).1.moments.map fun moment =>
        (moment.fired 0, moment.block.events.countP (·.attack.isSome),
          (moment.before.encounter.magazineAt? 0).map (·.loaded.toNat),
          (moment.after.encounter.magazineAt? 0).map (·.loaded.toNat)))
      = [(2, 2, some 1, some 0)] :=
  ⟨reached_play sampleRange sampleBurst (⟨15⟩ : Fixed), by decide +kernel⟩

end Encounter

end Fray
