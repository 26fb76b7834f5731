import Fray.Proofs.Warden.Executing
import Fray.Proofs.Warden.Rooms

/-!
# Encounters that are left to the tactics

As long as nobody submits an action, all that happens in an encounter comes from the
tactics: its first round is opened, one round after another is closed, whoever asks for
it, and the encounter may be given up. So a property of encounters that these three keep
holds of every encounter of every such run.

## Main results

`run_steered`: every encounter of a run without submissions is one that is left to the
tactics, with the rounds that were heard of it. `Steered.induction` is what to prove of
such an encounter.
-/

namespace Fray

open Draws

/-! ### Parts of a round -/

/-- The end of a closed round: the encounter is over, or the tactics have the next round. -/
inductive Closing.Leaves (tactics : Tactics) (opened : Resolution → Encounter → Prop)
    (closing : Closing) : Prop
  | ended (decided : closing.resolution.encounter.standing ≠ .ongoing)
      (marked : closing.encounter = closing.resolution.encounter.markOver)
  | lapsed {next : Encounter} (opens : opened closing.resolution next)
      (decided : next.standing ≠ .ongoing) (marked : closing.encounter = next.markOver)
  | next {next : Encounter} (opens : opened closing.resolution next)
      (steered : closing.encounter = (tactics.muster next).encounter)

theorem Encounter.closeRound_leaves {resolved : Resolution → Prop}
    {opened : Resolution → Encounter → Prop} {encounter : Encounter} (tactics : Tactics)
    (points : Count) (resolves : Always resolved encounter.resolve)
    (opens : ∀ resolution, resolved resolution →
      Always (fun result => opened resolution result.2) (resolution.encounter.openRound points)) :
    Always (fun closing => resolved closing.resolution ∧ closing.Leaves tactics opened)
      (encounter.closeRound tactics points) := by
  refine closeRound_always fun closing played => ?_
  cases played with
  | ended resolving decided => exact ⟨resolving.holds resolves, .ended decided rfl⟩
  | lapsed resolving _ opening decided =>
    have holds := resolving.holds resolves
    exact ⟨holds, .lapsed (opening.holds (opens _ holds)) decided rfl⟩
  | next resolving _ opening _ =>
    have holds := resolving.holds resolves
    exact ⟨holds, .next (opening.holds (opens _ holds)) rfl⟩

/-- The first round is opened after initiative is rolled, and left to the tactics. -/
theorem Warden.firstRound_leaves {ready : List Combatant → Prop} {opened : Encounter → Prop}
    {setup : Setup} (tactics : Tactics) (points : Count)
    (rolls : Always ready (rollInitiative setup.combatants))
    (opens : ∀ combatants, ready combatants → Always (fun result => opened result.2)
      ((Encounter.begin { setup with combatants := combatants }).openRound points)) :
    Always (fun result => ∃ next, opened next ∧ result.2 = tactics.muster next)
      (firstRound setup tactics points) := by
  refine (always_yields _).mono fun (events, muster) played => ?_
  obtain ⟨combatants, next, rolled, opening, steered⟩ := firstRound_played played
  exact ⟨next, opening.holds (opens combatants (rolled.holds rolls)), steered⟩

/-! ### Encounters -/

/-- An encounter in which only the tactics have committed actions, and its rounds so far. -/
inductive Steered (σ : Type) [RandomSource σ] (admits : Setup → Prop) (tactics : Tactics)
    (points : Count) : Encounter → List (List RoundEvent) → Prop
  | begun {setup : Setup} (admitted : admits setup) (source : σ) :
      Steered σ admits tactics points
        ((Warden.firstRound setup tactics points).run source).1.2.encounter []
  | closed {encounter : Encounter} {rounds : List (List RoundEvent)}
      (steered : Steered σ admits tactics points encounter rounds)
      (going : encounter.isOver = false) (source : σ) :
      Steered σ admits tactics points
        ((encounter.closeRound tactics points).run source).1.encounter
        (rounds ++ [((encounter.closeRound tactics points).run source).1.resolution.events])
  | givenUp {encounter : Encounter} {rounds : List (List RoundEvent)}
      (steered : Steered σ admits tactics points encounter rounds) :
      Steered σ admits tactics points encounter.markOver rounds

section

variable {σ : Type} [RandomSource σ] {admits : Setup → Prop} {tactics : Tactics} {points : Count}

/-- What holds after the first round is opened, and is kept when a round is closed. -/
theorem Steered.induction {encounter : Encounter} {rounds : List (List RoundEvent)}
    (property : Encounter → List (List RoundEvent) → Prop)
    (steered : Steered σ admits tactics points encounter rounds)
    (start : ∀ setup, admits setup → Always (fun result => property result.2.encounter [])
      (Warden.firstRound setup tactics points))
    (close : ∀ current rounds, property current rounds → current.isOver = false →
      Always (fun closing => property closing.encounter (rounds ++ [closing.resolution.events]))
        (current.closeRound tactics points))
    (mark : ∀ current rounds, property current rounds → property current.markOver rounds) :
    property encounter rounds := by
  induction steered with
  | begun admitted source => exact (start _ admitted).run source
  | closed _ going source ih => exact (close _ _ ih going).run source
  | givenUp _ ih => exact mark _ _ ih

end

namespace Warden

variable {σ : Type}

/-! ### What is heard of the rounds -/

/-- The events of the rounds of an encounter, as an observer hears of them. -/
def roundsHeard (warden : Warden σ) (number : Nat) : List (List RoundEvent) :=
  ((warden.historyOf number).filterMap Entry.heardResolution?).map Prod.snd

theorem roundsHeard_note (warden : Warden σ) (entries : List Entry) (number : Nat) :
    (warden.note entries).2.roundsHeard number = warden.roundsHeard number
      ++ ((entries.filter (·.encounter = number)).filterMap Entry.heardResolution?).map Prod.snd := by
  simp only [roundsHeard, historyOf_note, List.filterMap_append, List.map_append]

/-- Every round that an observer hears of is one of these. -/
theorem mem_roundsHeard {warden : Warden σ} {number : Nat} {room : String} {round : Count}
    {events : List RoundEvent} (told : Notice.roundResolved number room round events ∈ warden.heard) :
    events ∈ warden.roundsHeard number := by
  obtain ⟨entry, written, heard⟩ := List.mem_filterMap.mp told
  have same : entry = .told (.roundResolved number room round events) := by
    cases entry with
    | told notice => exact congrArg Entry.told (Option.some.inj heard)
    | opened | committed | resolved | aborted => cases heard
  subst same
  have own : Entry.told (.roundResolved number room round events) ∈ warden.historyOf number :=
    List.mem_filter.mpr ⟨written, by simp [Entry.encounter, Notice.encounter]⟩
  exact List.mem_map.mpr ⟨(round, events), List.mem_filterMap.mpr ⟨_, own, rfl⟩, rfl⟩

variable [RandomSource σ]

/-! ### Wardens -/

/-- All encounters of a warden are left to its tactics, and it has told of all their rounds. -/
structure Steers (admits : Setup → Prop) (tactics : Tactics) (points : Count)
    (warden : Warden σ) : Prop where
  policy : warden.tactics = tactics
  pace : warden.settings.points = points
  each : ∀ (number : Nat) (encounter : Encounter), warden.encounters[number]? = some encounter →
    Steered σ admits tactics points encounter (warden.roundsHeard number)
  unborn : ∀ number, warden.encounters.length ≤ number → warden.roundsHeard number = []

variable {admits : Setup → Prop} {tactics : Tactics} {points : Count} {warden : Warden σ}

theorem new_steers (settings : RoundSettings) (source : σ) :
    (new settings tactics source).Steers admits tactics settings.points := by
  refine ⟨rfl, rfl, fun number encounter present => ?_, fun _ _ => rfl⟩
  cases present

/-- Clocks, timers, rooms and the source have nothing to do with it. -/
theorem Steers.of_same {changed : Warden σ} (steers : warden.Steers admits tactics points)
    (same : changed.tactics = warden.tactics) (settings : changed.settings = warden.settings)
    (encounters : changed.encounters = warden.encounters)
    (journal : changed.journal = warden.journal) : changed.Steers admits tactics points := by
  have heard (number : Nat) : changed.roundsHeard number = warden.roundsHeard number := by
    simp only [roundsHeard, historyOf, history, journal]
  refine ⟨same.trans steers.policy, settings ▸ steers.pace, fun number encounter present => ?_,
    fun number beyond => ?_⟩
  · rw [encounters] at present
    rw [heard]
    exact steers.each number encounter present
  · rw [encounters] at beyond
    rw [heard]
    exact steers.unborn number beyond

theorem enter_steers {setup : Setup} (steers : warden.Steers admits tactics points)
    (admitted : admits setup) (source later : σ) :
    let result := ((firstRound setup tactics points).run source).1
    ({ warden with source := later }.enter setup.room result.1 result.2).2.Steers admits tactics
      points := by
  intro result
  have about := result.2.entries_encounter warden.encounters.length setup.room warden.clock.now
    result.1
  -- Nothing is heard of a round that has only been opened.
  have silent : (result.2.entries warden.encounters.length setup.room warden.clock.now
      result.1).filterMap Entry.heardResolution? = [] := by
    simp [Muster.entries, List.filterMap_cons, Entry.heardResolution?, Function.comp_def]
  have heard (number : Nat) : ({ warden with source := later }.enter setup.room result.1
      result.2).2.roundsHeard number = warden.roundsHeard number := by
    refine (roundsHeard_note ..).trans ?_
    by_cases own : number = warden.encounters.length
    · subst own
      rw [filter_encounter_self about, silent]
      exact List.append_nil _
    · rw [filter_encounter_other about own]
      exact List.append_nil _
  refine ⟨steers.policy, steers.pace, fun number encounter present => ?_,
    fun number beyond => ?_⟩
  · rw [heard]
    change (warden.encounters ++ [result.2.encounter])[number]? = some encounter at present
    rw [List.getElem?_append] at present
    split at present
    · exact steers.each number encounter present
    next outside =>
      obtain ⟨rfl, place⟩ : result.2.encounter = encounter ∧ number = warden.encounters.length := by
        rw [List.getElem?_singleton] at present
        split at present
        · exact ⟨Option.some.inj present, by omega⟩
        · cases present
      rw [place, steers.unborn _ (Nat.le_refl _)]
      exact .begun admitted source
  · rw [heard]
    change (warden.encounters ++ [result.2.encounter]).length ≤ number at beyond
    rw [List.length_append] at beyond
    exact steers.unborn number (by omega)

/-- One encounter goes on, and what is noted is about this one. -/
theorem Steers.replace {changed : Warden σ} {number : Nat} {before after : Encounter}
    (steers : warden.Steers admits tactics points) (entries : List Entry)
    (present : warden.encounters[number]? = some before)
    (same : changed.tactics = warden.tactics) (settings : changed.settings = warden.settings)
    (encounters : changed.encounters = warden.encounters.set number after)
    (journal : changed.journal = warden.journal)
    (about : ∀ entry ∈ entries, entry.encounter = number)
    (steered : Steered σ admits tactics points after
      (warden.roundsHeard number ++ (entries.filterMap Entry.heardResolution?).map Prod.snd)) :
    (changed.note entries).2.Steers admits tactics points := by
  have inside : number < warden.encounters.length := (List.getElem?_eq_some_iff.mp present).1
  have heard (other : Nat) : (changed.note entries).2.roundsHeard other = warden.roundsHeard other
      ++ ((entries.filter (·.encounter = other)).filterMap Entry.heardResolution?).map Prod.snd := by
    rw [roundsHeard_note]
    simp only [roundsHeard, historyOf, history, journal]
  refine ⟨same.trans steers.policy, settings ▸ steers.pace, fun other encounter found => ?_,
    fun other beyond => ?_⟩
  · change changed.encounters[other]? = some encounter at found
    rw [encounters] at found
    rw [heard]
    -- All entries are about the one that goes on; for the others nothing was heard.
    by_cases own : other = number
    · subst own
      rw [List.getElem?_set_self inside] at found
      cases found
      rw [filter_encounter_self about]
      exact steered
    · rw [List.getElem?_set_ne (Ne.symm own)] at found
      rw [filter_encounter_other about own]
      simpa using steers.each other encounter found
  · change changed.encounters.length ≤ other at beyond
    rw [encounters, List.length_set] at beyond
    rw [heard, filter_encounter_other about (by omega), steers.unborn other beyond]
    rfl

/-! ### Operations -/

theorem begin_steers {setup : Setup} {number : Nat} {result : List Notice × Warden σ}
    (steers : warden.Steers admits tactics points) (admitted : admits setup)
    (begun : warden.begin setup = .ok (number, result)) : result.2.Steers admits tactics points := by
  unfold begin at begun
  split at begun
  · cases begun
  · cases begun
    have entered := enter_steers steers admitted warden.source
      ((firstRound setup tactics points).run warden.source).2
    rw [← steers.policy, ← steers.pace] at entered ⊢
    exact entered

theorem resolve_steers (steers : warden.Steers admits tactics points) (room : String)
    (round : Count) : (warden.resolve room round).2.Steers admits tactics points := by
  rcases warden.resolve_cases room round with ignored | ⟨number, encounter, active, going, rfl⟩
  · rw [ignored]
    exact steers
  · obtain ⟨_, present⟩ := encounter?_eq_some.mp active
    have closed := (steers.each number encounter present).closed going warden.source
    rw [resolve_eq active going]
    apply steers.replace _ present
    · exact putClosed_tactics ..
    · exact putClosed_settings ..
    · exact settle_encounters ..
    · exact putClosed_journal ..
    · intro entry written
      exact Closing.entries_encounter _ _ _ _ _ entry written
    · rw [Closing.entries_heardResolution, List.map_singleton]
      rw [← steers.policy, ← steers.pace] at closed ⊢
      exact closed

theorem abort_steers (steers : warden.Steers admits tactics points) (room : String) :
    (warden.abort room).2.Steers admits tactics points := by
  unfold abort
  split
  · exact steers.of_same rfl rfl rfl rfl
  next number encounter active =>
    obtain ⟨_, present⟩ := encounter?_eq_some.mp active
    refine steers.replace [.aborted number] present rfl rfl rfl rfl ?_ ?_
    · simp [Entry.encounter]
    · rw [show [Entry.aborted number].filterMap Entry.heardResolution? = [] from rfl, List.map_nil,
        List.append_nil]
      exact (steers.each number encounter present).givenUp

theorem wake_steers (steers : warden.Steers admits tactics points) (room : String)
    (sleeper : Sleeper) : (warden.wake room sleeper).2.Steers admits tactics points := by
  cases present : warden.timers.get? room with
  | none =>
    simp only [wake, present]
    exact steers
  | some timer =>
    have awake : (warden.awake room timer sleeper).Steers admits tactics points :=
      steers.of_same rfl rfl rfl rfl
    rw [wake_eq present]
    split
    · exact awake
    · exact resolve_steers awake ..

theorem wakeUntil_steers (time most : Nat) (steers : warden.Steers admits tactics points) :
    (wakeUntil time most warden).2.Steers admits tactics points := by
  induction most generalizing warden with
  | zero => exact steers
  | succ most ih =>
    simp only [wakeUntil]
    split
    · exact steers
    next room sleeper _ =>
      split
      · exact ih (wake_steers steers room sleeper)
      · exact steers

theorem step_steers (steers : warden.Steers admits tactics points) (order : Order)
    (silent : ∀ room id action, order ≠ .submit room id action)
    (admitted : ∀ setup, order = .begin setup → admits setup) :
    (warden.step order).2.Steers admits tactics points := by
  cases order with
  | begin setup =>
    simp only [step]
    split
    next begun => exact begin_steers steers (admitted setup rfl) begun
    · exact steers
  | submit room id action => exact absurd rfl (silent room id action)
  | resolve room round => exact resolve_steers steers room round
  | abort room => exact abort_steers steers room
  | pass duration => exact (wakeUntil_steers _ _ steers).of_same rfl rfl rfl rfl

/-- Nobody submits an action, and only certain encounters are begun. -/
structure Unattended (admits : Setup → Prop) (orders : List Order) : Prop where
  silent : ∀ room id action, .submit room id action ∉ orders
  admitted : ∀ setup, .begin setup ∈ orders → admits setup

theorem run_steers {orders : List Order} (steers : warden.Steers admits tactics points)
    (unattended : Unattended admits orders) :
    (warden.run orders).2.Steers admits tactics points := by
  induction orders generalizing warden with
  | nil => exact steers
  | cons order rest ih =>
    refine ih (step_steers steers order ?_ ?_) ⟨?_, ?_⟩
    · rintro room id action rfl
      exact unattended.silent room id action List.mem_cons_self
    · rintro setup rfl
      exact unattended.admitted setup List.mem_cons_self
    · intro room id action member
      exact unattended.silent room id action (List.mem_cons_of_mem _ member)
    · intro setup member
      exact unattended.admitted setup (List.mem_cons_of_mem _ member)

/-- The encounters of a run without submissions, with the rounds that are heard of them. -/
theorem run_steered (settings : RoundSettings) (tactics : Tactics) (source : σ)
    {orders : List Order} (unattended : Unattended admits orders) :
    let result := (new settings tactics source).run orders
    (∀ (number : Nat) (encounter : Encounter),
      result.2.encounters[number]? = some encounter →
        Steered σ admits tactics settings.points encounter (result.2.roundsHeard number)) ∧
    ∀ (number : Nat) (room : String) (round : Count) (events : List RoundEvent),
      .roundResolved number room round events ∈ result.1 →
        ∃ encounter, result.2.encounters[number]? = some encounter ∧
          events ∈ result.2.roundsHeard number := by
  intro result
  have steers : result.2.Steers admits tactics settings.points :=
    run_steers (new_steers settings source) unattended
  refine ⟨steers.each, fun number room round events told => ?_⟩
  have leads : Leads admits (new settings tactics source) result :=
    run_leads _ unattended.admitted
  have heard : Notice.roundResolved number room round events ∈ result.2.heard := by
    rw [leads.heard]
    exact List.mem_append_right _ told
  have listed := mem_roundsHeard heard
  -- Nothing is heard of an encounter that was not begun.
  have inside : number < result.2.encounters.length := by
    by_contra outside
    rw [steers.unborn number (Nat.le_of_not_lt outside)] at listed
    cases listed
  exact ⟨_, List.getElem?_eq_getElem inside, listed⟩

end Warden

end Fray
