import Fray.Play
import Fray.Proofs.Warden.Executing
import Fray.Proofs.Warden.Rooms

/-!
# What holds of all encounters

An encounter of a warden comes about from the opening of its first round, by accepted
actions and by the closing of its rounds, and may be given up. Others may hold it as well,
and give or take conditions in it at any time. A property of encounters that all of this
keeps holds of every encounter, whatever the warden is ordered to do.

## Main result

`Driven.upheld`: what openings, submissions, closings and interventions uphold.
-/

namespace Fray

open Draws

/-- What everything that happens in an encounter keeps of it. -/
structure Upholds (admits : Setup → Prop) (tactics : Tactics) (points : Count)
    (property : Encounter → Prop) : Prop where
  start : ∀ setup, admits setup →
    Always (fun result => property result.2.encounter) (Warden.firstRound setup tactics points)
  accept : ∀ current committed id action, current.commit id action = .ok committed →
    property current → property committed
  close : ∀ current, current.isOver = false → property current →
    Always (fun closing => property closing.encounter) (current.closeRound tactics points)
  mark : ∀ current, property current → property current.markOver
  intervene : ∀ current request, request.isOfRounds = false → property current →
    ∀ {τ : Type} [RandomSource τ] (source : τ), property ((current.answer request).run source).1

namespace Warden

variable {σ : Type} [RandomSource σ]

/-- A warden after some orders, while others have intervened in its encounters. -/
inductive Driven (admits : Setup → Prop) (settings : RoundSettings) (tactics : Tactics) :
    Warden σ → Prop
  | new (source : σ) : Driven admits settings tactics (new settings tactics source)
  | ordered {warden : Warden σ} (driven : Driven admits settings tactics warden) (order : Order)
      (admitted : ∀ setup, order = .begin setup → admits setup) :
      Driven admits settings tactics (warden.step order).2
  | intervened {warden : Warden σ} (driven : Driven admits settings tactics warden) {number : Nat}
      {encounter : Encounter} (present : warden.encounters[number]? = some encounter)
      {request : Encounter.Request} (aside : request.isOfRounds = false) {τ : Type}
      [RandomSource τ] (source : τ) :
      Driven admits settings tactics
        (warden.setEncounter number ((encounter.answer request).run source).1)
  | markedOver {warden : Warden σ} (driven : Driven admits settings tactics warden) {number : Nat}
      {encounter : Encounter} (present : warden.encounters[number]? = some encounter) :
      Driven admits settings tactics (warden.setEncounter number encounter.markOver)

/-! ### Single operations -/

/-- A warden with these settings and tactics, all of whose encounters have a property. -/
structure Upheld (settings : RoundSettings) (tactics : Tactics) (property : Encounter → Prop)
    (warden : Warden σ) : Prop where
  settings : warden.settings = settings
  policy : warden.tactics = tactics
  each : ∀ encounter ∈ warden.encounters, property encounter

variable {admits : Setup → Prop} {settings : RoundSettings} {tactics : Tactics}
  {property : Encounter → Prop} {warden changed : Warden σ}

omit [RandomSource σ] in
theorem Upheld.of_same (upheld : warden.Upheld settings tactics property)
    (pace : changed.settings = warden.settings) (policy : changed.tactics = warden.tactics)
    (encounters : changed.encounters = warden.encounters) :
    changed.Upheld settings tactics property :=
  ⟨pace.trans upheld.settings, policy.trans upheld.policy, encounters ▸ upheld.each⟩

omit [RandomSource σ] in
/-- One encounter becomes another one with the property. -/
theorem Upheld.set (upheld : warden.Upheld settings tactics property) {number : Nat}
    {after : Encounter} (holds : property after) (pace : changed.settings = warden.settings)
    (policy : changed.tactics = warden.tactics)
    (encounters : changed.encounters = warden.encounters.set number after) :
    changed.Upheld settings tactics property := by
  refine ⟨pace.trans upheld.settings, policy.trans upheld.policy, fun encounter member => ?_⟩
  rw [encounters] at member
  rcases List.mem_or_eq_of_mem_set member with old | rfl
  · exact upheld.each encounter old
  · exact holds

section Upholds

variable (upholds : Upholds admits tactics settings.points property)

include upholds

theorem begin_upheld {setup : Setup} {number : Nat} {result : List Notice × Warden σ}
    (upheld : warden.Upheld settings tactics property) (admitted : admits setup)
    (begun : warden.begin setup = .ok (number, result)) :
    result.2.Upheld settings tactics property := by
  unfold begin at begun
  split at begun
  · cases begun
  · cases begun
    have starts := (upholds.start setup admitted).run warden.source
    rw [← upheld.settings, ← upheld.policy] at starts
    refine ⟨upheld.settings, upheld.policy, fun encounter member => ?_⟩
    rcases List.mem_append.mp member with old | new
    · exact upheld.each encounter old
    · rw [List.mem_singleton.mp new]
      exact starts

theorem resolve_upheld (upheld : warden.Upheld settings tactics property) (room : String)
    (round : Count) : (warden.resolve room round).2.Upheld settings tactics property := by
  rcases warden.resolve_cases room round with ignored | ⟨number, encounter, active, going, rfl⟩
  · rw [ignored]
    exact upheld
  · obtain ⟨_, present⟩ := encounter?_eq_some.mp active
    have holds := upheld.each encounter (List.mem_of_getElem? present)
    have closes := (upholds.close encounter going holds).run warden.source
    rw [← upheld.settings, ← upheld.policy] at closes
    rw [resolve_eq active going]
    exact upheld.set closes (putClosed_settings ..) (putClosed_tactics ..) (settle_encounters ..)

theorem submit_upheld {room id : String} {action : Action} {result : List Notice × Warden σ}
    (upheld : warden.Upheld settings tactics property)
    (submitted : warden.submit room id action = .ok result) :
    result.2.Upheld settings tactics property := by
  unfold submit at submitted
  split at submitted
  · cases submitted
  next number encounter active =>
    split at submitted
    · cases submitted
    next committed accepted =>
      obtain ⟨_, present⟩ := encounter?_eq_some.mp active
      have holds := upheld.each encounter (List.mem_of_getElem? present)
      have accepts : (warden.accept number committed ⟨id, action⟩).2.Upheld settings tactics
          property := upheld.set (upholds.accept _ _ _ _ accepted holds) rfl rfl rfl
      cases submitted
      split
      · exact resolve_upheld upholds accepts ..
      · exact accepts

omit [RandomSource σ] in
theorem abort_upheld (upheld : warden.Upheld settings tactics property) (room : String) :
    (warden.abort room).2.Upheld settings tactics property := by
  unfold abort
  split
  · exact upheld.of_same rfl rfl rfl
  next number encounter active =>
    obtain ⟨_, present⟩ := encounter?_eq_some.mp active
    have holds := upheld.each encounter (List.mem_of_getElem? present)
    exact upheld.set (upholds.mark encounter holds) rfl rfl rfl

theorem wake_upheld (upheld : warden.Upheld settings tactics property) (room : String)
    (sleeper : Sleeper) : (warden.wake room sleeper).2.Upheld settings tactics property := by
  cases present : warden.timers.get? room with
  | none =>
    simp only [wake, present]
    exact upheld
  | some timer =>
    have awake : (warden.awake room timer sleeper).Upheld settings tactics property :=
      upheld.of_same rfl rfl rfl
    rw [wake_eq present]
    split
    · exact awake
    · exact resolve_upheld upholds awake ..

theorem wakeUntil_upheld (time most : Nat) (upheld : warden.Upheld settings tactics property) :
    (wakeUntil time most warden).2.Upheld settings tactics property := by
  induction most generalizing warden with
  | zero => exact upheld
  | succ most ih =>
    simp only [wakeUntil]
    split
    · exact upheld
    next room sleeper _ =>
      split
      · exact ih (wake_upheld upholds upheld room sleeper)
      · exact upheld

theorem step_upheld (upheld : warden.Upheld settings tactics property) (order : Order)
    (admitted : ∀ setup, order = .begin setup → admits setup) :
    (warden.step order).2.Upheld settings tactics property := by
  cases order with
  | begin setup =>
    simp only [step]
    split
    next begun => exact begin_upheld upholds upheld (admitted setup rfl) begun
    · exact upheld
  | submit room id action =>
    simp only [step]
    split
    next submitted => exact submit_upheld upholds upheld submitted
    · exact upheld
  | resolve room round => exact resolve_upheld upholds upheld room round
  | abort room => exact abort_upheld upholds upheld room
  | pass duration => exact (wakeUntil_upheld upholds _ _ upheld).of_same rfl rfl rfl

/-! ### Runs -/

/-- What is upheld holds of all encounters, at any time. -/
theorem Driven.upheld (driven : Driven admits settings tactics warden) :
    warden.Upheld settings tactics property := by
  induction driven with
  | new source => exact ⟨rfl, rfl, fun _ member => nomatch member⟩
  | ordered driven order admitted ih => exact step_upheld upholds ih order admitted
  | @intervened warden driven number encounter present request aside τ _ source ih =>
    have holds := ih.each encounter (List.mem_of_getElem? present)
    exact ih.set (upholds.intervene encounter request aside holds source) rfl rfl rfl
  | @markedOver warden driven number encounter present ih =>
    have holds := ih.each encounter (List.mem_of_getElem? present)
    exact ih.set (upholds.mark encounter holds) rfl rfl rfl

end Upholds

end Warden

end Fray
