import Fray.Proofs.Simulation.Bouts
import Fray.Proofs.Warden.Waking

/-!
# A warden with one encounter

A warden that has begun one encounter, and is asked for nothing but to let time pass, has one
deadline. When as much time passes as a round lasts, the open round is closed, and nothing
else happens: the next deadline lies a whole round later, or there is none.

## Main results

`begin_hosts`, `Hosts.pass` and `Hosts.giveUp`: how an encounter comes into a warden, goes on
by one round, and is given up.
-/

namespace Fray

open Draws

/-- The notices of a row of entries. -/
def Entry.notices (entries : List Entry) : List Notice := entries.filterMap notice?

/-- What an observer hears when an encounter begins. -/
theorem Muster.notices_entries (muster : Muster) (number : Nat) (room : String) (time : Nat)
    (events : List ConditionEvent) :
    Entry.notices (muster.entries number room time events)
      = [.roundStarted number room muster.encounter.round events] := by
  simp [Entry.notices, entries, List.filterMap_cons, List.filterMap_map, Function.comp_def,
    Entry.notice?]

namespace Closing

/-- What is heard of the resolution of a round. -/
def heard (closing : Closing) (number : Nat) (room : String) (round : Count) : List Notice :=
  closing.resolution.damage.map (fun hurt => .damaged number room hurt.1 hurt.2)
    ++ [.roundResolved number room round closing.resolution.events]

/-- What is heard at last: the encounter is over, or the next round was opened. -/
def lastHeard (closing : Closing) (number : Nat) (room : String) : Notice :=
  match closing.aftermath with
  | .ended standing | .lapsed _ standing => .ended number room standing
  | .next events _ => .roundStarted number room closing.encounter.round events

/-- What an observer hears when a round is closed. -/
theorem notices_entries (closing : Closing) (number : Nat) (room : String) (round : Count)
    (time : Nat) :
    Entry.notices (closing.entries number room round time)
      = closing.heard number room round ++ [closing.lastHeard number room] := by
  unfold Entry.notices entries Entry.tellRound heard lastHeard
  cases closing.aftermath <;>
    simp [List.filterMap_cons, List.filterMap_map, Function.comp_def, Entry.notice?]

end Closing

namespace Warden

variable {σ : Type} {warden : Warden σ} {room : String} {encounter : Encounter}

/-- The only deadline is that of a round in a room, a whole round from now. -/
def HasDeadline (warden : Warden σ) (room : String) (round : Count) : Prop :=
  ∃ generation place, warden.timers = Table.empty.insert room
    ⟨generation, some round, [⟨generation, warden.clock.now + warden.settings.duration, place⟩]⟩

/-- A warden whose only encounter has a round open. -/
structure Hosts (warden : Warden σ) (room : String) (encounter : Encounter) : Prop where
  rooms : warden.rooms = Table.empty.insert room 0
  encounters : warden.encounters = [encounter]
  going : encounter.isOver = false
  deadline : warden.HasDeadline room encounter.round

theorem Hosts.encounter? (hosts : warden.Hosts room encounter) :
    warden.encounter? room = some (0, encounter) := by
  refine encounter?_eq_some.mpr ⟨?_, ?_⟩
  · rw [hosts.rooms, Table.get?_insert, if_pos rfl]
  · rw [hosts.encounters]
    rfl

/-- The encounter was given up: nothing else has happened since, and nothing will. -/
structure HasGivenUp (warden : Warden σ) (room : String) : Prop where
  idle : warden.encounter? room = none
  timers : warden.timers = .empty
  closed : ∃ encounter, warden.encounters = [encounter] ∧ encounter.isOver = true
  last : warden.history.getLast? = some (.aborted 0)

/-- An encounter that is given up leaves its room. -/
theorem Hosts.giveUp (hosts : warden.Hosts room encounter) :
    (warden.abort room).2.HasGivenUp room := by
  obtain ⟨generation, place, timers⟩ := hosts.deadline
  have aborts : (warden.abort room).2 = warden.giveUp room 0 encounter := by
    simp only [abort, hosts.encounter?]
  rw [aborts]
  refine { idle := ?idle, timers := ?timers, closed := ⟨encounter.markOver, ?_, rfl⟩, last := ?last }
  case idle =>
    show (warden.rooms.erase room).get? room >>= _ = none
    rw [hosts.rooms, Table.erase_insert_empty]
    rfl
  case timers =>
    show warden.timers.erase room = _
    rw [timers, Table.erase_insert_empty]
  case last =>
    show (Entry.aborted 0 :: warden.journal).reverse.getLast? = _
    rw [List.reverse_cons, List.getLast?_concat]
  show warden.encounters.set 0 encounter.markOver = _
  rw [hosts.encounters]
  rfl

variable [RandomSource σ]

/-- The first round of an encounter is opened, and nothing else has happened. -/
theorem begin_hosts (settings : RoundSettings) (tactics : Tactics) (source : σ) (setup : Setup) :
    let opened := (firstRound setup tactics settings.points).run source
    ∃ begun, (new settings tactics source).begin setup
        = .ok (0, [.roundStarted 0 setup.room opened.1.2.encounter.round opened.1.1], begun) ∧
      begun.settings = settings ∧ begun.tactics = tactics ∧ begun.source = opened.2 ∧
      begun.Hosts setup.room opened.1.2.encounter := by
  intro opened
  have begins : opened.1.2.Begins setup := (firstRound_begins setup tactics _).run source
  let idle : Warden σ := { new settings tactics source with source := opened.2 }
  have begun : (new settings tactics source).begin setup
      = .ok (0, idle.enter setup.room opened.1.1 opened.1.2) := rfl
  have told : (idle.enter setup.room opened.1.1 opened.1.2).1
      = [.roundStarted 0 setup.room opened.1.2.encounter.round opened.1.1] :=
    opened.1.2.notices_entries 0 setup.room 0 opened.1.1
  refine ⟨(idle.enter setup.room opened.1.1 opened.1.2).2, ?_, rfl, rfl, rfl, ?_⟩
  · rw [begun, ← told]
  · exact ⟨rfl, rfl, begins.isOver, 1, 0, rfl⟩

omit [RandomSource σ] in
theorem HasDeadline.sleepsPast {round : Count} (deadline : warden.HasDeadline room round)
    (lasting : 1 ≤ warden.settings.duration) (other : String) :
    warden.SleepsPast warden.clock.now other := by
  obtain ⟨generation, place, timers⟩ := deadline
  intro timer found sleeper member
  rw [timers, Table.get?_insert] at found
  split at found
  · cases found
    cases List.mem_singleton.mp member
    show warden.clock.now < warden.clock.now + warden.settings.duration
    omega
  · cases found

omit [RandomSource σ] in
/-- An encounter goes on in its room, or leaves it, and so does its deadline. -/
theorem putClosed_deadline {generation : Nat} (number : Nat) (encounter : Encounter)
    (closing : Closing) (timers : warden.timers = Table.empty.insert room ⟨generation, none, []⟩) :
    match closing.aftermath with
    | .ended _ | .lapsed _ _ =>
      (warden.putClosed room number encounter closing).timers = Table.empty
    | .next _ _ => (warden.putClosed room number encounter closing).rooms = warden.rooms ∧
      (warden.putClosed room number encounter closing).HasDeadline room closing.encounter.round := by
  have released : (warden.timers.erase room) = Table.empty := by rw [timers, Table.erase_insert_empty]
  unfold putClosed
  cases closing.aftermath with
  | ended standing => exact released
  | lapsed events standing => exact released
  | next events commits =>
    refine ⟨rfl, generation + 1, warden.clock.sleepers, ?_⟩
    have present : (warden.timers.get? room).getD .idle = ⟨generation, none, []⟩ := by
      rw [timers, Table.get?_insert, if_pos rfl]
      rfl
    show warden.timers.insert room
      (((warden.timers.get? room).getD .idle).arm warden.clock _ closing.encounter.round).1 = _
    rw [present, timers, Table.insert_insert]
    rfl

omit [RandomSource σ] in
theorem putClosed_keeps (warden : Warden σ) (room : String) (number : Nat)
    (encounter : Encounter) (closing : Closing) :
    let put := warden.putClosed room number encounter closing
    put.tactics = warden.tactics ∧ put.source = warden.source ∧
      put.clock.now = warden.clock.now := by
  unfold putClosed
  split <;> exact ⟨rfl, rfl, rfl⟩

/-- While a round lasts, the open round is closed, and nothing else happens. -/
theorem Hosts.pass (hosts : warden.Hosts room encounter)
    (lasting : 1 ≤ warden.settings.duration) :
    let closed := (encounter.closeRound warden.tactics warden.settings.points).run warden.source
    ∃ passed, warden.pass warden.settings.duration
        = (closed.1.heard 0 room encounter.round ++ [closed.1.lastHeard 0 room], passed) ∧
      passed.settings = warden.settings ∧ passed.tactics = warden.tactics ∧
      passed.source = closed.2 ∧
      ∀ events commits, closed.1.aftermath = .next events commits →
        closed.1.encounter.isOver = false → passed.Hosts room closed.1.encounter := by
  intro closed
  obtain ⟨generation, place, timers⟩ := hosts.deadline
  let time := warden.clock.now + warden.settings.duration
  let sleeper : Sleeper := ⟨generation, time, place⟩
  let timer : Timer Count := ⟨generation, some encounter.round, [sleeper]⟩
  have asleep : warden.sleepers = [(room, sleeper)] := by
    rw [sleepers, timers]
    rfl
  have present : warden.timers.get? room = some timer := by
    rw [timers, Table.get?_insert, if_pos rfl]
  have rung : timer.wake sleeper = (some encounter.round, ⟨generation, none, []⟩) := by
    simp [Timer.wake, timer, sleeper]
  -- The alarm closes the round, and then nobody wakes until a whole round later.
  let awake := { warden.awake room timer sleeper with source := closed.2 }
  let settled := awake.settle room 0 encounter closed.1
  have woken : warden.wake room sleeper = settled := by
    have active : (warden.awake room timer sleeper).encounter? room = some (0, encounter) :=
      hosts.encounter?
    rw [wake_eq present, rung]
    exact resolve_eq active hosts.going
  have silenced : awake.timers = Table.empty.insert room ⟨generation, none, []⟩ := by
    show warden.timers.insert room (timer.wake sleeper).2 = _
    rw [rung, timers, Table.insert_insert]
  have deadline := putClosed_deadline 0 encounter closed.1 silenced
  have settings : settled.2.settings = warden.settings := putClosed_settings ..
  obtain ⟨tactics, source, now⟩ := putClosed_keeps awake room 0 encounter closed.1
  replace now : settled.2.clock.now = time := now.trans (Nat.max_eq_right (Nat.le_add_right ..))
  have late (other : String) : settled.2.SleepsPast time other := by
    rw [← now]
    cases aftermath : closed.1.aftermath with
    | next events commits =>
      rw [aftermath] at deadline
      have later : settled.2.HasDeadline room closed.1.encounter.round := deadline.2
      exact later.sleepsPast (settings.symm ▸ lasting) other
    | ended standing =>
      rw [aftermath] at deadline
      exact sleepsPast_of_vacant (congrArg (·.get? other) deadline)
    | lapsed events standing =>
      rw [aftermath] at deadline
      exact sleepsPast_of_vacant (congrArg (·.get? other) deadline)
  have waking (most : Nat) : wakeUntil time (most + 1) warden = settled := by
    have first : Sleeper.earliest warden.sleepers = some (room, sleeper) := by
      rw [asleep]
      rfl
    simp only [wakeUntil_due first (Nat.le_refl time), woken, wakeUntil_idle late, List.append_nil]
  have passes : warden.pass warden.settings.duration = settled := by
    obtain ⟨most, enough⟩ : ∃ most, warden.wakeUps time = most + 1 := by
      rw [wakeUps, asleep]
      exact ⟨_, Nat.add_comm 1 _⟩
    show ((wakeUntil time (warden.wakeUps time) warden).1, _) = settled
    rw [enough, waking]
    show (settled.1, { settled.2 with clock := { settled.2.clock with now := time } }) = settled
    rw [← now]
  refine ⟨settled.2, ?_, settings, tactics, source, fun events commits next going => ?_⟩
  · rw [passes, ← closed.1.notices_entries]
    rfl
  · rw [next] at deadline
    refine ⟨deadline.1.trans hosts.rooms, ?_, going, deadline.2⟩
    rw [settle_encounters]
    show warden.encounters.set 0 _ = _
    rw [hosts.encounters]
    rfl

end Warden

end Fray
