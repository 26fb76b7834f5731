import Fray.Play
import Fray.Proofs.Encounter.Opening

/-!
# Playing an encounter

Whatever is asked of an encounter, it stays the same fight: the same people under
the same rules. What every single answer keeps is kept by any row of requests.

## Main results

`answer_frame`: what a request leaves alone. `play_induction` carries a property through
requests that keep it, and `play_same` is its first use.
-/

namespace Fray

open Draws

namespace Combatant

/-- A person is the same with any number of hit points and of rounds loaded. -/
theorem person_profile (combatant : Combatant) : combatant.profile.person = combatant.person := by
  simp [person, profile, Loadout.withMagazine, Function.comp_def]

end Combatant

namespace Encounter

/-- One encounter comes from another without a change of people or rules. -/
structure SameFight (before after : Encounter) : Prop where
  room : after.room = before.room
  zone : after.zone = before.zone
  persons : after.combatants.map Combatant.person = before.combatants.map Combatant.person
  isOver : after.isOver = before.isOver
  codex : after.codex = before.codex
  inventory : after.inventory = before.inventory
  hooks : after.hooks = before.hooks
  dice : after.dice = before.dice

theorem SameFight.refl (encounter : Encounter) : SameFight encounter encounter :=
  ⟨rfl, rfl, rfl, rfl, rfl, rfl, rfl, rfl⟩

theorem SameFight.trans {first second third : Encounter} (one : SameFight first second)
    (two : SameFight second third) : SameFight first third where
  room := two.room.trans one.room
  zone := two.zone.trans one.zone
  persons := two.persons.trans one.persons
  isOver := two.isOver.trans one.isOver
  codex := two.codex.trans one.codex
  inventory := two.inventory.trans one.inventory
  hooks := two.hooks.trans one.hooks
  dice := two.dice.trans one.dice

theorem SameFight.ids {before after : Encounter} (same : SameFight before after) :
    after.ids = before.ids := ids_of_persons same.persons

theorem Framed.sameFight {before after : Encounter} (framed : Framed before after) :
    SameFight before after where
  room := framed.room
  zone := framed.zone
  persons := by
    have mapped := congrArg (List.map Combatant.person) framed.profiles
    simpa only [List.map_map, Function.comp_def, Combatant.person_profile] using mapped
  isOver := framed.isOver
  codex := framed.codex
  inventory := framed.inventory
  hooks := framed.hooks
  dice := framed.dice

/-! ### The beginning -/

theorem nodup_ids_begin {setup : Setup}
    (distinct : (setup.combatants.map Combatant.id).Nodup) : (begin setup).ids.Nodup :=
  ((sortByInitiative_perm setup.combatants).map Combatant.id).nodup_iff.mpr distinct

/-- Nobody has a condition when an encounter begins. -/
theorem afflictionsOf_begin (setup : Setup) (id : String) :
    (begin setup).afflictionsOf id = Table.empty := by
  unfold afflictionsOf
  cases found : (begin setup).afflictions.get? id with
  | none => rfl
  | some set =>
    obtain ⟨combatant, _, entered⟩ := List.mem_map.mp (Table.mem_of_get?_ofList found)
    exact (congrArg Prod.snd entered).symm

theorem contains_begin (setup : Setup) {id : String} (member : id ∈ (begin setup).ids) :
    (begin setup).afflictions.contains id = true := by
  obtain ⟨combatant, inside, rfl⟩ := List.mem_map.mp member
  exact Table.isSome_get?_ofList (List.mem_map_of_mem inside)

/-! ### Requests -/

/-- Whether a request opens a round. -/
def Request.opensRound : Request → Bool
  | openRound _ => true
  | commit _ _ | resolve | afflict _ _ _ _ | relieve _ _ | currentTurn | advanceTurn => false

theorem Request.eq_openRound {request : Request} (opens : request.opensRound = true) :
    ∃ points, request = .openRound points := by
  cases request with
  | openRound points => exact ⟨points, rfl⟩
  | commit | resolve | afflict | relieve | currentTurn | advanceTurn => cases opens

/-- Whether a request gives or takes a condition from outside. -/
def Request.intervenes : Request → Bool
  | afflict _ _ _ _ | relieve _ _ => true
  | openRound _ | commit _ _ | resolve | currentTurn | advanceTurn => false

/-- Whether a request asks whose turn it is or moves on. -/
def Request.isAboutTurns : Request → Bool
  | currentTurn | advanceTurn => true
  | openRound _ | commit _ _ | resolve | afflict _ _ _ _ | relieve _ _ => false

theorem Request.of_isOfRounds {request : Request} (ofRounds : request.isOfRounds = true) :
    request.intervenes = false ∧ request.isAboutTurns = false := by
  cases request with
  | openRound | commit | resolve => exact ⟨rfl, rfl⟩
  | afflict | relieve | currentTurn | advanceTurn => cases ofRounds

/-! ### Single answers -/

/-- A committed action changes only the queues. -/
theorem orKeep_commit (encounter : Encounter) (id : String) (action : Action) :
    encounter.orKeep (encounter.commit id action)
      = { encounter with queues := (encounter.orKeep (encounter.commit id action)).queues } := by
  cases answered : encounter.commit id action with
  | error refusal => rfl
  | ok committed =>
    obtain ⟨_, _, _, _, _, rfl⟩ := commit_cases answered
    rfl

/-- Conditions given from outside change only the conditions. -/
theorem orKeep_afflict (encounter : Encounter) (id condition : String) (stack : Count)
    (duration : Option Count) :
    let after := encounter.orKeep (encounter.afflict id condition stack duration)
    after = { encounter with afflictions := after.afflictions } := by
  unfold afflict
  split
  · rfl
  · split <;> rfl

theorem orKeep_relieve (encounter : Encounter) (id condition : String) :
    let after := encounter.orKeep (encounter.relieve id condition)
    after = { encounter with afflictions := after.afflictions } := by
  unfold relieve
  split <;> rfl

/-- Looking for whose turn it is moves only the cursor. -/
theorem seekTurn_same (moves : Nat) (encounter : Encounter) :
    (seekTurn moves encounter).2
      = { encounter with cursor := (seekTurn moves encounter).2.cursor } := by
  induction moves generalizing encounter with
  | zero => rfl
  | succ moves ih =>
    have moved : (seekTurn moves encounter.advanceTurn).2
        = { encounter with cursor := (seekTurn moves encounter.advanceTurn).2.cursor } :=
      ih encounter.advanceTurn
    simp only [seekTurn]
    split
    · split
      · rfl
      · exact moved
    · exact moved

/-- Only the opening of a round and its resolution change much: any other request changes the
queues, the conditions or the place of the cursor. -/
theorem answer_frame {property : Encounter → Prop} {encounter : Encounter} (request : Request)
    (opens : ∀ points, request = .openRound points →
      Always (fun result => property result.2) (encounter.openRound points))
    (resolves : request = .resolve →
      Always (fun resolution => property resolution.encounter) encounter.resolve)
    (queued : ∀ id action, request = .commit id action →
      ∀ queues, property { encounter with queues := queues })
    (afflicted : request.intervenes = true →
      ∀ afflictions, property { encounter with afflictions := afflictions })
    (turned : request.isAboutTurns = true →
      ∀ cursor, property { encounter with cursor := cursor }) :
    Always property (encounter.answer request) := by
  cases request with
  | openRound points =>
    simp only [answer]
    rw [always_bind]
    exact opens points rfl
  | commit id action =>
    show property (encounter.orKeep _)
    rw [orKeep_commit]
    exact queued id action rfl _
  | resolve =>
    simp only [answer]
    rw [always_bind]
    exact resolves rfl
  | afflict id condition stack duration =>
    show property (encounter.orKeep _)
    rw [orKeep_afflict]
    exact afflicted rfl _
  | relieve id condition =>
    show property (encounter.orKeep _)
    rw [orKeep_relieve]
    exact afflicted rfl _
  | currentTurn =>
    show property (seekTurn _ encounter).2
    rw [seekTurn_same]
    exact turned rfl _
  | advanceTurn => exact turned rfl _

theorem answer_same (encounter : Encounter) (request : Request) :
    Always (SameFight encounter) (encounter.answer request) := by
  refine answer_frame request (fun points _ => ?_) (fun _ => ?_)
    (fun _ _ _ _ => ⟨rfl, rfl, rfl, rfl, rfl, rfl, rfl, rfl⟩)
    (fun _ _ => ⟨rfl, rfl, rfl, rfl, rfl, rfl, rfl, rfl⟩)
    (fun _ _ => ⟨rfl, rfl, rfl, rfl, rfl, rfl, rfl, rfl⟩)
  · exact (openRound_opens encounter points).mono fun result opens =>
      ⟨opens.room, opens.zone, opens.persons, opens.isOver, opens.codex, opens.inventory,
        opens.hooks, opens.dice⟩
  · exact encounter.resolve_framed.mono fun resolution framed => framed.sameFight

/-- No answer takes anybody's set of conditions away. -/
theorem answer_contains (encounter : Encounter) (request : Request) :
    Always (fun after => ∀ id, encounter.afflictions.contains id = true →
        after.afflictions.contains id = true) (encounter.answer request) := by
  have entered {id other : String} {set : Afflictions}
      (present : encounter.afflictions.contains id = true) :
      (encounter.afflictions.insert other set).contains id = true := by
    rw [Table.contains_insert, present, Bool.or_true]
  cases request with
  | openRound points =>
    simp only [answer, openRound]
    rw [always_bind, always_bind]
    exact (openAll_contains ..).mono fun opened kept => kept
  | commit id action =>
    show ∀ other, _ → (encounter.orKeep _).afflictions.contains other = true
    rw [orKeep_commit]
    exact fun _ present => present
  | resolve =>
    simp only [answer]
    rw [always_bind]
    exact encounter.resolve_framed.mono fun resolution framed id present =>
      (framed.afflicted id).trans present
  | afflict id condition stack duration =>
    show ∀ other, _ → (encounter.orKeep (encounter.afflict ..)).afflictions.contains other = true
    unfold afflict
    split
    · exact fun _ present => present
    · split
      · exact fun _ present => present
      · exact fun _ present => entered present
  | relieve id condition =>
    show ∀ other, _ → (encounter.orKeep (encounter.relieve ..)).afflictions.contains other = true
    unfold relieve
    split
    · exact fun _ present => present
    · exact fun _ present => entered present
  | currentTurn =>
    show ∀ id, _ → (seekTurn _ encounter).2.afflictions.contains id = true
    rw [seekTurn_same]
    exact fun _ present => present
  | advanceTurn => exact fun _ present => present

/-! ### Rows of requests -/

/-- A property that the answers to all requests keep is kept by their row. -/
theorem play_induction {property : Encounter → Prop} {requests : List Request}
    (step : ∀ request ∈ requests, ∀ current, property current →
      Always property (current.answer request)) {encounter : Encounter}
    (holds : property encounter) : Always property (play requests encounter) := by
  induction requests generalizing encounter with
  | nil => exact holds
  | cons request rest ih =>
    simp only [play]
    rw [always_bind]
    refine (step request List.mem_cons_self encounter holds).mono fun answered still => ?_
    exact ih (fun other member => step other (List.mem_cons_of_mem _ member)) still

theorem play_same (requests : List Request) (encounter : Encounter) :
    Always (SameFight encounter) (play requests encounter) :=
  play_induction (fun request _ current same =>
    (answer_same current request).mono fun _ later => same.trans later) (.refl encounter)

end Encounter

end Fray
