import Fray.Proofs.Warden.Closing

/-!
# What a warden does

Whatever is asked of a warden, and whoever asks first, only a few things happen
to its encounters: one is entered, an action is accepted, a round is settled, or
an encounter is given up. Everything else touches clocks and timers only.

## Main result

`run_leads`: every run consists of such changes, and the notices that it gives
are those that are new in the journal.
-/

namespace Fray

open Relation Draws

namespace Warden

variable {σ : Type}

theorem encounter?_eq_some {warden : Warden σ} {room : String} {number : Nat}
    {encounter : Encounter} :
    warden.encounter? room = some (number, encounter) ↔
      warden.rooms.get? room = some number ∧ warden.encounters[number]? = some encounter := by
  simp only [encounter?, Option.bind_eq_bind, Option.bind_eq_some_iff, Option.pure_def,
    Option.some.injEq, Prod.mk.injEq]
  constructor
  · rintro ⟨_, registered, _, found, rfl, rfl⟩
    exact ⟨registered, found⟩
  · rintro ⟨registered, found⟩
    exact ⟨number, registered, encounter, found, rfl, rfl⟩

/-! ### Single changes -/

/-- A change to the encounters of a warden; `admits` tells which may be begun. -/
inductive Change (admits : Setup → Prop) : Warden σ → Warden σ → Prop
  | enter {warden : Warden σ} {setup : Setup} {muster : Muster} (source : σ)
      (events : List ConditionEvent) (admitted : admits setup)
      (free : warden.rooms.contains setup.room = false)
      (played : (firstRound setup warden.tactics warden.settings.points).Yields (events, muster)) :
      Change admits warden ({ warden with source := source }.enter setup.room events muster).2
  | accept {warden : Warden σ} {room id : String} {number : Nat} {action : Action}
      {encounter committed : Encounter} (active : warden.encounter? room = some (number, encounter))
      (accepted : encounter.commit id action = .ok committed) :
      Change admits warden (warden.accept number committed ⟨id, action⟩).2
  | settle {warden : Warden σ} {room : String} {number : Nat} {encounter : Encounter}
      {closing : Closing} (source : σ) (active : warden.encounter? room = some (number, encounter))
      (played : (encounter.closeRound warden.tactics warden.settings.points).Yields closing) :
      Change admits warden
        ({ warden with source := source }.settle room number encounter closing).2
  | giveUp {warden : Warden σ} {room : String} {number : Nat} {encounter : Encounter}
      (active : warden.encounter? room = some (number, encounter)) :
      Change admits warden (warden.giveUp room number encounter)
  | idle {warden : Warden σ} (clock : Clock) (timers : Table (Timer Count)) :
      Change admits warden { warden with clock := clock, timers := timers }

theorem putClosed_journal (warden : Warden σ) (room : String) (number : Nat)
    (encounter : Encounter) (closing : Closing) :
    (warden.putClosed room number encounter closing).journal = warden.journal := by
  unfold putClosed
  split <;> rfl

theorem putClosed_settings (warden : Warden σ) (room : String) (number : Nat)
    (encounter : Encounter) (closing : Closing) :
    (warden.putClosed room number encounter closing).settings = warden.settings := by
  unfold putClosed
  split <;> rfl

theorem settle_encounters (warden : Warden σ) (room : String) (number : Nat)
    (encounter : Encounter) (closing : Closing) :
    (warden.settle room number encounter closing).2.encounters
      = warden.encounters.set number closing.encounter := by
  show (warden.putClosed room number encounter closing).encounters = _
  unfold putClosed
  split <;> rfl

theorem putClosed_tactics (warden : Warden σ) (room : String) (number : Nat)
    (encounter : Encounter) (closing : Closing) :
    (warden.putClosed room number encounter closing).tactics = warden.tactics := by
  unfold putClosed
  split <;> rfl

/-- The settings stay as they are. -/
theorem Change.settings {admits : Setup → Prop} {warden changed : Warden σ}
    (change : Change admits warden changed) : changed.settings = warden.settings := by
  cases change with
  | settle source active played => exact putClosed_settings ..
  | _ => rfl

/-! ### Operations -/

/-- All that an observer has heard, in order. -/
def heard (warden : Warden σ) : List Notice := warden.history.filterMap Entry.notice?

/-- An operation leads from a warden to another by changes, and gives the notices that are new. -/
structure Leads (admits : Setup → Prop) (warden : Warden σ) (result : List Notice × Warden σ) :
    Prop where
  changes : ReflTransGen (Change admits) warden result.2
  heard : result.2.heard = warden.heard ++ result.1

variable {admits : Setup → Prop}

theorem Leads.settings {warden : Warden σ} {result : List Notice × Warden σ}
    (leads : Leads admits warden result) : result.2.settings = warden.settings := by
  have changes := leads.changes
  generalize result.2 = changed at changes
  induction changes with
  | refl => rfl
  | tail _ change ih => exact change.settings.trans ih

theorem Leads.refl (warden : Warden σ) : Leads admits warden ([], warden) :=
  ⟨.refl, (List.append_nil _).symm⟩

theorem Leads.trans {warden : Warden σ} {first second : List Notice × Warden σ}
    (one : Leads admits warden first) (two : Leads admits first.2 second) :
    Leads admits warden (first.1 ++ second.1, second.2) := by
  constructor
  · exact one.changes.trans two.changes
  · rw [two.heard, one.heard, List.append_assoc]

theorem Leads.idle (warden : Warden σ) (clock : Clock) (timers : Table (Timer Count)) :
    Leads admits warden ([], { warden with clock := clock, timers := timers }) :=
  ⟨.single (.idle clock timers), (List.append_nil _).symm⟩

/-- Nobody hears of clocks and timers. -/
theorem Leads.thenIdle {warden : Warden σ} {result : List Notice × Warden σ}
    (leads : Leads admits warden result) (clock : Clock) (timers : Table (Timer Count)) :
    Leads admits warden (result.1, { result.2 with clock := clock, timers := timers }) :=
  ⟨leads.changes.tail (.idle clock timers), leads.heard⟩

theorem heard_note (warden : Warden σ) (entries : List Entry) :
    (warden.note entries).2.heard = warden.heard ++ (warden.note entries).1 := by
  simp [heard, history, note]

/-- What is noted after a change that writes nothing itself is new in the journal. -/
theorem Leads.note {warden changed : Warden σ} {entries : List Entry}
    (change : Change admits warden (changed.note entries).2)
    (silent : changed.journal = warden.journal) :
    Leads admits warden (changed.note entries) := by
  constructor
  · exact .single change
  · rw [heard_note]
    simp only [Warden.heard, history, silent]

theorem accept_leads {warden : Warden σ} {room id : String} {number : Nat} {action : Action}
    {encounter committed : Encounter} (active : warden.encounter? room = some (number, encounter))
    (accepted : encounter.commit id action = .ok committed) :
    Leads admits warden (warden.accept number committed ⟨id, action⟩) :=
  .note (.accept active accepted) rfl

theorem abort_leads (warden : Warden σ) (room : String) :
    Leads admits warden ([], (warden.abort room).2) := by
  unfold abort
  split
  · exact .idle warden warden.clock _
  next number encounter active =>
    constructor
    · exact .single (.giveUp active)
    · simp [Warden.heard, history, giveUp, Warden.note, release, setEncounter, Entry.notice?]

variable [RandomSource σ]

theorem begin_leads {warden : Warden σ} {setup : Setup} {number : Nat}
    {result : List Notice × Warden σ} (admitted : admits setup)
    (begun : warden.begin setup = .ok (number, result)) : Leads admits warden result := by
  unfold begin at begun
  split at begun
  · cases begun
  next occupied =>
    cases begun
    have played :=
      (always_yields (firstRound setup warden.tactics warden.settings.points)).run warden.source
    exact .note (.enter _ _ admitted (by simpa using occupied) played) rfl

theorem resolve_eq {warden : Warden σ} {room : String} {number : Nat} {encounter : Encounter}
    (active : warden.encounter? room = some (number, encounter))
    (going : encounter.isOver = false) :
    warden.resolve room encounter.round =
      let closed := (encounter.closeRound warden.tactics warden.settings.points).run warden.source
      { warden with source := closed.2 }.settle room number encounter closed.1 := by
  simp only [resolve, active, going, bne_self_eq_false, Bool.or_self]
  rfl

/-- A request to resolve the open round closes it. -/
theorem resolve_open {warden : Warden σ} {room : String} {number : Nat} {encounter : Encounter}
    (active : warden.encounter? room = some (number, encounter))
    (going : encounter.isOver = false) :
    ∃ closing source,
      (encounter.closeRound warden.tactics warden.settings.points).Yields closing ∧
      warden.resolve room encounter.round
        = { warden with source := source }.settle room number encounter closing := by
  let closed := (encounter.closeRound warden.tactics warden.settings.points).run warden.source
  exact ⟨closed.1, closed.2, (always_yields _).run warden.source, resolve_eq active going⟩

/-- A request to resolve is ignored, or it names the open round of the active encounter. -/
theorem resolve_cases (warden : Warden σ) (room : String) (round : Count) :
    warden.resolve room round = ([], warden) ∨
    ∃ number encounter, warden.encounter? room = some (number, encounter) ∧
      encounter.isOver = false ∧ encounter.round = round := by
  cases active : warden.encounter? room with
  | none => exact .inl (by simp only [resolve, active])
  | some found =>
    obtain ⟨number, encounter⟩ := found
    by_cases closed : (encounter.isOver || encounter.round != round) = true
    · exact .inl (by simp only [resolve, active, if_pos closed])
    · simp only [Bool.or_eq_true, not_or, Bool.not_eq_true, bne_eq_false_iff_eq] at closed
      exact .inr ⟨number, encounter, rfl, closed⟩

theorem resolve_leads (warden : Warden σ) (room : String) (round : Count) :
    Leads admits warden (warden.resolve room round) := by
  rcases warden.resolve_cases room round with ignored | ⟨number, encounter, active, going, rfl⟩
  · rw [ignored]
    exact .refl warden
  · obtain ⟨closing, source, played, settled⟩ := resolve_open active going
    rw [settled]
    exact .note (.settle source active played) (putClosed_journal ..)

theorem submit_leads {warden : Warden σ} {room id : String} {action : Action}
    {result : List Notice × Warden σ} (submitted : warden.submit room id action = .ok result) :
    Leads admits warden result := by
  unfold submit at submitted
  split at submitted
  · cases submitted
  next number encounter active =>
    split at submitted
    · cases submitted
    next committed accepted =>
      have accepts : Leads admits warden _ := accept_leads active accepted
      cases submitted
      split
      -- Nobody hears of an accepted action, so all that is told is told of the resolution.
      · exact accepts.trans (resolve_leads _ room committed.round)
      · exact accepts

theorem wake_leads (warden : Warden σ) (room : String) (sleeper : Sleeper) :
    Leads admits warden (warden.wake room sleeper) := by
  unfold wake
  split
  · exact .refl _
  next timer present =>
    cases timer.wake sleeper with
    | mk task rest =>
      have woken : Leads admits warden _ := .idle warden
        { warden.clock with now := max warden.clock.now sleeper.due }
        (warden.timers.insert room rest)
      cases task with
      | none => exact woken
      | some round => exact woken.trans (resolve_leads _ room round)

theorem wakeUntil_leads (time most : Nat) (warden : Warden σ) :
    Leads admits warden (wakeUntil time most warden) := by
  induction most generalizing warden with
  | zero => exact .refl _
  | succ most ih =>
    simp only [wakeUntil]
    split
    · exact .refl _
    next room sleeper _ =>
      split
      · exact (wake_leads warden room sleeper).trans (ih _)
      · exact .refl _

theorem pass_leads (warden : Warden σ) (duration : Nat) :
    Leads admits warden (warden.pass duration) := by
  exact (wakeUntil_leads _ _ warden).thenIdle _ _

/-! ### Runs -/

theorem step_leads (warden : Warden σ) (order : Order)
    (admitted : ∀ setup, order = .begin setup → admits setup) :
    Leads admits warden (warden.step order) := by
  cases order with
  | begin setup =>
    simp only [step]
    split
    next begun => exact begin_leads (admitted setup rfl) begun
    · exact .refl _
  | submit room id action =>
    simp only [step]
    split
    next submitted => exact submit_leads submitted
    · exact .refl _
  | resolve room round => exact resolve_leads warden room round
  | abort room => exact abort_leads warden room
  | pass duration => exact pass_leads warden duration

theorem run_leads (warden : Warden σ) {orders : List Order}
    (admitted : ∀ setup, .begin setup ∈ orders → admits setup) :
    Leads admits warden (warden.run orders) := by
  induction orders generalizing warden with
  | nil => exact .refl _
  | cons order rest ih =>
    have first := step_leads warden order fun setup same =>
      admitted setup (same ▸ List.mem_cons_self)
    exact first.trans (ih _ fun setup member => admitted setup (List.mem_cons_of_mem _ member))

end Warden

end Fray
