import Fray.Proofs.Warden.Passing
import Fray.Proofs.Warden.Refusing

/-!
# The face of a room

What can be seen of a room are the encounters that were begun in it, the one that is
active and the timer. What an operation in the room does to its face depends on nothing
but the face, the time and the source; the numbers of the encounters and the places of
the sleepers, which all rooms share, do not matter.

## Main results

`step_alike` and `wake_alike`: wardens that agree about a room agree about it after the
same order, or the same alarm, in this room.
-/

namespace Fray

open Relation

/-! ### Faces -/

/-- A sleeper apart from its place among the sleepers of all rooms. -/
def Sleeper.unplaced (sleeper : Sleeper) : Sleeper := { sleeper with place := 0 }

/-- A timer apart from the places of its sleepers. -/
def Timer.unplaced {α : Type} (timer : Timer α) : Timer α :=
  { timer with sleepers := timer.sleepers.map Sleeper.unplaced }

/-- A notice apart from the number of its encounter among those of all rooms. -/
def Notice.unnumbered : Notice → Notice
  | roundStarted _ room round events => roundStarted 0 room round events
  | damaged _ room combatant hp => damaged 0 room combatant hp
  | roundResolved _ room round events => roundResolved 0 room round events
  | ended _ room standing => ended 0 room standing

/-- What can be seen of a room. -/
structure Face where
  begun : List Encounter
  active : Option Encounter
  timer : Option (Timer Count)

/-- The timer of a room once the deadline of a round has been set. -/
def Face.armed (face : Face) (now duration : Nat) (round : Count) : Timer Count :=
  ((face.timer.getD .idle).arm ⟨now, 0⟩ duration round).1

/-- What an observer hears of a room. -/
def heardIn (room : String) (notices : List Notice) : List Notice :=
  (notices.filter (·.room = room)).map Notice.unnumbered

section Notices

variable {notices : List Notice} {room other : String}

theorem heardIn_append (room : String) (early late : List Notice) :
    heardIn room (early ++ late) = heardIn room early ++ heardIn room late := by
  simp only [heardIn, List.filter_append, List.map_append]

theorem heardIn_own (about : ∀ notice ∈ notices, notice.room = room) :
    heardIn room notices = notices.map Notice.unnumbered := by
  rw [heardIn, List.filter_eq_self.mpr fun notice member => by simpa using about notice member]

theorem heardIn_other (about : ∀ notice ∈ notices, notice.room = other) (apart : other ≠ room) :
    heardIn room notices = [] := by
  rw [heardIn, List.filter_eq_nil_iff.mpr fun notice member => ?_, List.map_nil]
  simpa [about notice member] using apart

theorem Muster.entries_unnumbered (muster : Muster) (number time : Nat) (room : String)
    (events : List ConditionEvent) :
    ((muster.entries number room time events).filterMap Entry.notice?).map Notice.unnumbered
      = [.roundStarted 0 room muster.encounter.round events] := by
  simp [entries, Entry.notice?, Notice.unnumbered, List.filterMap_cons, Function.comp_def]

/-- The number of an encounter is all that the notices of a closed round have of it. -/
theorem Closing.entries_unnumbered (closing : Closing) (number another time later : Nat)
    (room : String) (round : Count) :
    ((closing.entries number room round time).filterMap Entry.notice?).map Notice.unnumbered
      = ((closing.entries another room round later).filterMap Entry.notice?).map
        Notice.unnumbered := by
  unfold entries
  cases closing.aftermath <;>
    simp [Entry.tellRound, Entry.notice?, Notice.unnumbered, List.filterMap_cons,
      List.filterMap_append, Function.comp_def]

end Notices

namespace Timer

variable {α : Type}

theorem arm_unplaced (timer : Timer α) (clock : Clock) (duration : Nat) (task : α) :
    (timer.arm clock duration task).1.unplaced
      = (timer.unplaced.arm ⟨clock.now, 0⟩ duration task).1 := by
  simp [arm, unplaced, Sleeper.unplaced]

/-- The first sleeper of a line wakes alike wherever it has its place. -/
theorem wake_unplaced {timer : Timer α} {sleeper : Sleeper} {rest : List Sleeper}
    (line : timer.sleepers = sleeper :: rest) :
    (timer.unplaced.wake sleeper.unplaced).1 = (timer.wake sleeper).1 ∧
      (timer.unplaced.wake sleeper.unplaced).2 = (timer.wake sleeper).2.unplaced := by
  have generation : sleeper.unplaced.generation = sleeper.generation := rfl
  have left : (timer.sleepers.erase sleeper) = rest := by
    rw [line, List.erase_cons_head]
  have leftUnplaced : timer.unplaced.sleepers.erase sleeper.unplaced
      = rest.map Sleeper.unplaced := by
    simp only [unplaced, line, List.map_cons, List.erase_cons_head]
  simp only [wake, generation, left, leftUnplaced]
  -- Only generations decide who takes the alarm, and they are the same without places.
  by_cases current : sleeper.generation = timer.generation
  · have same : sleeper.generation = timer.unplaced.generation := current
    rw [if_pos same, if_pos current]
    exact ⟨rfl, rfl⟩
  · have different : ¬ sleeper.generation = timer.unplaced.generation := current
    rw [if_neg different, if_neg current]
    exact ⟨rfl, rfl⟩

/-- Timers that agree apart from places have sleepers in the same line. -/
theorem line_of_unplaced {timer another : Timer α} {sleeper : Sleeper} {rest : List Sleeper}
    (same : another.unplaced = timer.unplaced) (line : timer.sleepers = sleeper :: rest) :
    ∃ twin others, another.sleepers = twin :: others ∧ twin.unplaced = sleeper.unplaced := by
  have lines : another.sleepers.map Sleeper.unplaced = timer.sleepers.map Sleeper.unplaced :=
    congrArg Timer.sleepers same
  rw [line, List.map_cons] at lines
  obtain ⟨twin, others, split, equal, _⟩ := List.map_eq_cons_iff.mp lines
  exact ⟨twin, others, split, equal⟩

end Timer

namespace Warden

variable {σ : Type} {admits known : Setup → Prop} {warden changed other another : Warden σ}
  {room : String}

def face (warden : Warden σ) (room : String) : Face where
  begun := warden.begunIn room
  active := (warden.encounter? room).map Prod.snd
  timer := (warden.timers.get? room).map Timer.unplaced

/-! ### What operations do to a face -/

/-- The active encounter is the last of its room, and is replaced there. -/
theorem Replaces.begunIn {number : Nat} {before after : Encounter}
    (replaces : Replaces warden changed number before after)
    (active : warden.encounter? before.room = some (number, before))
    (tidy : warden.TidyAt before.room) :
    changed.begunIn before.room = (warden.begunIn before.room).dropLast ++ [after] := by
  obtain ⟨registered, present⟩ := encounter?_eq_some.mp active
  obtain ⟨inside, there⟩ := List.getElem?_eq_some_iff.mp present
  let early := warden.encounters.take number
  let late := warden.encounters.drop (number + 1)
  have whole : warden.encounters = early ++ before :: late := by
    rw [← there, ← List.drop_eq_getElem_cons inside, List.take_append_drop]
  have set : warden.encounters.set number after = early ++ after :: late := by
    rw [List.set_eq_take_append_cons_drop, if_pos inside]
  -- Nobody was begun in the room after the active encounter.
  have nobody : late.filter (·.room = before.room) = [] := by
    refine List.filter_eq_nil_iff.mpr fun encounter member => ?_
    obtain ⟨place, found⟩ := List.mem_iff_getElem?.mp member
    rw [List.getElem?_drop] at found
    simpa using tidy.last number registered (number + 1 + place) encounter (by omega) found
  have split (encounter : Encounter) (same : encounter.room = before.room) :
      (early ++ encounter :: late).filter (·.room = before.room)
        = early.filter (·.room = before.room) ++ [encounter] := by
    rw [List.filter_append, List.filter_cons_of_pos (by simpa using same), nobody]
  rw [Warden.begunIn, Warden.begunIn, replaces.encounters, set, split after replaces.room,
    whole, split before rfl, List.dropLast_concat]

theorem Replaces.face_kept {number : Nat} {before after : Encounter}
    (replaces : Replaces warden changed number before after)
    (active : warden.encounter? before.room = some (number, before))
    (tidy : warden.TidyAt before.room) (kept : changed.rooms.get? before.room = some number) :
    changed.face before.room = ⟨(warden.begunIn before.room).dropLast ++ [after], some after,
      (changed.timers.get? before.room).map Timer.unplaced⟩ := by
  rw [face, replaces.begunIn active tidy, replaces.encounter? active kept, Option.map_some]

theorem Replaces.face_freed {number : Nat} {before after : Encounter}
    (replaces : Replaces warden changed number before after)
    (active : warden.encounter? before.room = some (number, before))
    (tidy : warden.TidyAt before.room) (rooms : changed.rooms.get? before.room = none)
    (timers : changed.timers.get? before.room = none) :
    changed.face before.room = ⟨(warden.begunIn before.room).dropLast ++ [after], none, none⟩ := by
  have nobody : changed.encounter? before.room = none := by
    simp only [Warden.encounter?, rooms, Option.bind_eq_bind, Option.bind_none]
  rw [face, replaces.begunIn active tidy, nobody, timers]
  rfl

theorem arm_timer (warden : Warden σ) (room : String) (round : Count) :
    ((warden.arm room round).timers.get? room).map Timer.unplaced
      = some ((warden.face room).armed warden.clock.now warden.settings.duration round) := by
  have unplaced : ((warden.timers.get? room).getD .idle).unplaced
      = ((warden.timers.get? room).map Timer.unplaced).getD .idle := by
    cases warden.timers.get? room <;> rfl
  rw [get?_arm, if_pos rfl, Option.map_some, Timer.arm_unplaced, unplaced]
  rfl

theorem enter_face (warden : Warden σ) (events : List ConditionEvent) {muster : Muster}
    (named : muster.encounter.room = room) :
    (warden.enter room events muster).2.face room =
      ⟨(warden.face room).begun ++ [muster.encounter], some muster.encounter,
        some ((warden.face room).armed warden.clock.now warden.settings.duration
          muster.encounter.round)⟩ := by
  have begun : (warden.enter room events muster).2.begunIn room
      = warden.begunIn room ++ [muster.encounter] := by
    show (warden.encounters ++ [muster.encounter]).filter (·.room = room) = _
    rw [List.filter_append, List.filter_cons_of_pos (by simpa using named), List.filter_nil]
    rfl
  have active : (warden.enter room events muster).2.encounter? room
      = some (warden.encounters.length, muster.encounter) := by
    refine encounter?_eq_some.mpr ⟨(Table.get?_insert ..).trans (if_pos rfl), ?_⟩
    exact List.getElem?_concat_length
  have timer := arm_timer { warden with
    rooms := warden.rooms.insert room warden.encounters.length
    encounters := warden.encounters ++ [muster.encounter] } room muster.encounter.round
  rw [face, begun, active, Option.map_some]
  exact congrArg (Face.mk _ _) timer

theorem accept_face {number : Nat} {encounter committed : Encounter} {id : String}
    {action : Action} (sound : warden.Sound admits) (tidy : warden.Tidy)
    (active : warden.encounter? room = some (number, encounter))
    (accepted : encounter.commit id action = .ok committed) :
    (warden.accept number committed ⟨id, action⟩).2.face room =
      ⟨(warden.face room).begun.dropLast ++ [committed], some committed,
        (warden.face room).timer⟩ := by
  obtain ⟨rfl, _⟩ := sound.active_open active
  exact (accept_replaces active accepted).face_kept active (tidy _)
    (encounter?_eq_some.mp active).1

theorem settle_face {number : Nat} {encounter : Encounter} {closing : Closing}
    (sound : warden.Sound admits) (tidy : warden.Tidy)
    (active : warden.encounter? room = some (number, encounter))
    (closes : ∀ commits, encounter.Keeps commits → closing.Closes encounter commits) :
    (warden.settle room number encounter closing).2.face room = match closing.aftermath with
      | .ended _ | .lapsed _ _ =>
        ⟨(warden.face room).begun.dropLast ++ [closing.encounter], none, none⟩
      | .next _ _ =>
        ⟨(warden.face room).begun.dropLast ++ [closing.encounter], some closing.encounter,
          some ((warden.face room).armed warden.clock.now warden.settings.duration
            closing.encounter.round)⟩ := by
  obtain ⟨rfl, _, _, commits, keeps, _⟩ := sound.active_open active
  have replaces := putClosed_replaces active (closes commits keeps)
  -- The journal does not show in a face.
  have noted : (warden.settle encounter.room number encounter closing).2.face encounter.room
      = (warden.putClosed encounter.room number encounter closing).face encounter.room := rfl
  rw [noted]
  unfold putClosed at replaces ⊢
  cases kind : closing.aftermath with
  | ended standing =>
    rw [kind] at replaces
    exact replaces.face_freed active (tidy _) ((Table.get?_erase ..).trans (if_pos rfl))
      ((Table.get?_erase ..).trans (if_pos rfl))
  | lapsed events standing =>
    rw [kind] at replaces
    exact replaces.face_freed active (tidy _) ((Table.get?_erase ..).trans (if_pos rfl))
      ((Table.get?_erase ..).trans (if_pos rfl))
  | next events commits =>
    rw [kind] at replaces
    have timer := arm_timer (warden.followEncounter number encounter closing.encounter)
      encounter.room closing.encounter.round
    refine (replaces.face_kept active (tidy _) (encounter?_eq_some.mp active).1).trans ?_
    exact congrArg (Face.mk _ _) timer

theorem giveUp_face {number : Nat} {encounter : Encounter} (sound : warden.Sound admits)
    (tidy : warden.Tidy) (active : warden.encounter? room = some (number, encounter)) :
    (warden.giveUp room number encounter).face room =
      ⟨(warden.face room).begun.dropLast ++ [encounter.markOver], none, none⟩ := by
  obtain ⟨rfl, _⟩ := sound.active_open active
  exact (giveUp_replaces warden number encounter).face_freed active (tidy _)
    ((Table.get?_erase ..).trans (if_pos rfl)) ((Table.get?_erase ..).trans (if_pos rfl))

theorem awake_face (warden : Warden σ) (room : String) (timer : Timer Count)
    (sleeper : Sleeper) : (warden.awake room timer sleeper).face room =
      ⟨(warden.face room).begun, (warden.face room).active,
        some (timer.wake sleeper).2.unplaced⟩ := by
  have own : (warden.awake room timer sleeper).timers.get? room = some (timer.wake sleeper).2 :=
    (Table.get?_insert ..).trans (if_pos rfl)
  rw [face, own, Option.map_some]
  rfl

/-! ### Wardens that agree about a room -/

/-- Wardens that agree about a room, and about whatever the rules use besides. -/
structure Beside (room : String) (warden other : Warden σ) : Prop where
  settings : other.settings = warden.settings
  tactics : other.tactics = warden.tactics
  source : other.source = warden.source
  face : other.face room = warden.face room

/-- They have the same active encounter, under whatever number. -/
theorem Beside.encounter? {number : Nat} {encounter : Encounter}
    (beside : Beside room warden other)
    (active : warden.encounter? room = some (number, encounter)) :
    ∃ place, other.encounter? room = some (place, encounter) := by
  have same : (other.encounter? room).map Prod.snd = (warden.encounter? room).map Prod.snd :=
    congrArg Face.active beside.face
  rw [active, Option.map_some] at same
  obtain ⟨⟨place, _⟩, found, rfl⟩ := Option.map_eq_some_iff.mp same
  exact ⟨place, found⟩

theorem Beside.vacant (beside : Beside room warden other)
    (vacant : warden.encounter? room = none) : other.encounter? room = none := by
  have same : (other.encounter? room).map Prod.snd = (warden.encounter? room).map Prod.snd :=
    congrArg Face.active beside.face
  rw [vacant, Option.map_none] at same
  exact Option.map_eq_none_iff.mp same

theorem Beside.timer {timer : Timer Count} (beside : Beside room warden other)
    (present : warden.timers.get? room = some timer) :
    ∃ twin, other.timers.get? room = some twin ∧ twin.unplaced = timer.unplaced := by
  have same : (other.timers.get? room).map Timer.unplaced
      = (warden.timers.get? room).map Timer.unplaced := congrArg Face.timer beside.face
  rw [present, Option.map_some] at same
  exact Option.map_eq_some_iff.mp same

/-- What two wardens give for one operation is alike in a room. -/
structure Alike (room : String) (one two : List Notice × Warden σ) : Prop where
  heard : heardIn room two.1 = heardIn room one.1
  beside : Beside room one.2 two.2
  now : two.2.clock.now = one.2.clock.now

theorem Alike.of_beside (beside : Beside room warden other)
    (now : other.clock.now = warden.clock.now) : Alike room ([], warden) ([], other) :=
  ⟨rfl, beside, now⟩

theorem Beside.of_source (beside : Beside room warden other) (source : σ) :
    Beside room { warden with source := source } { other with source := source } :=
  ⟨beside.settings, beside.tactics, rfl, beside.face⟩

theorem enter_alike {muster : Muster} (beside : Beside room warden other)
    (now : other.clock.now = warden.clock.now) (events : List ConditionEvent)
    (named : muster.encounter.room = room) :
    Alike room (warden.enter room events muster) (other.enter room events muster) := by
  constructor
  · rw [heardIn_own (enter_told _ _ _ _), heardIn_own (enter_told _ _ _ _)]
    exact (Muster.entries_unnumbered muster _ other.clock.now room events).trans
      (Muster.entries_unnumbered muster _ warden.clock.now room events).symm
  · refine ⟨beside.settings, beside.tactics, beside.source, ?_⟩
    rw [enter_face _ _ named, enter_face _ _ named, beside.face, beside.settings, now]
  · exact now

theorem putClosed_source (warden : Warden σ) (room : String) (number : Nat)
    (encounter : Encounter) (closing : Closing) :
    (warden.putClosed room number encounter closing).source = warden.source := by
  unfold putClosed
  split <;> rfl

/-! ### Operations on wardens that agree -/

variable [RandomSource σ]

theorem begin_alike {setup : Setup} (beside : Beside setup.room warden other)
    (occupied : other.rooms.contains setup.room = warden.rooms.contains setup.room)
    (now : other.clock.now = warden.clock.now) :
    Alike setup.room (warden.step (.begin setup)) (other.step (.begin setup)) := by
  by_cases busy : warden.rooms.contains setup.room = true
  · simp only [step, begin, if_pos busy, if_pos (occupied.trans busy)]
    exact .of_beside beside now
  · have begins := (firstRound_begins setup warden.tactics warden.settings.points).run warden.source
    have opened : (firstRound setup other.tactics other.settings.points).run other.source
        = (firstRound setup warden.tactics warden.settings.points).run warden.source := by
      rw [beside.settings, beside.tactics, beside.source]
    have busyToo : ¬ other.rooms.contains setup.room = true := occupied ▸ busy
    simp only [step, begin, if_neg busy, if_neg busyToo, play, opened]
    have played := beside.of_source
      ((firstRound setup warden.tactics warden.settings.points).run warden.source).2
    exact enter_alike played now _ begins.room

section Together

variable (sound : warden.Sound admits) (tidy : warden.Tidy) (soundToo : other.Sound known)
  (tidyToo : other.Tidy) (beside : Beside room warden other)

include sound tidy soundToo tidyToo beside

omit [RandomSource σ] in
theorem settle_alike {number place : Nat} {encounter : Encounter} {closing : Closing}
    (now : other.clock.now = warden.clock.now)
    (active : warden.encounter? room = some (number, encounter))
    (activeToo : other.encounter? room = some (place, encounter))
    (closes : ∀ commits, encounter.Keeps commits → closing.Closes encounter commits) :
    Alike room (warden.settle room number encounter closing)
      (other.settle room place encounter closing) := by
  constructor
  · rw [heardIn_own (settle_told _ _ _ _ _), heardIn_own (settle_told _ _ _ _ _)]
    exact Closing.entries_unnumbered ..
  · refine ⟨?_, ?_, ?_, ?_⟩
    · exact (putClosed_settings ..).trans (beside.settings.trans (putClosed_settings ..).symm)
    · exact (putClosed_tactics ..).trans (beside.tactics.trans (putClosed_tactics ..).symm)
    · exact (putClosed_source ..).trans (beside.source.trans (putClosed_source ..).symm)
    · rw [settle_face sound tidy active closes, settle_face soundToo tidyToo activeToo closes,
        beside.face, beside.settings, now]
  · exact (now_settle ..).trans (now.trans (now_settle ..).symm)

theorem resolve_alike (now : other.clock.now = warden.clock.now) (round : Count) :
    Alike room (warden.resolve room round) (other.resolve room round) := by
  cases active : warden.encounter? room with
  | none =>
    simp only [resolve, active, beside.vacant active]
    exact .of_beside beside now
  | some found =>
    obtain ⟨number, encounter⟩ := found
    obtain ⟨place, activeToo⟩ := beside.encounter? active
    by_cases same : encounter.round = round
    · subst same
      obtain ⟨_, going, _⟩ := sound.active_open active
      have closes (commits : List Commit) (keeps : encounter.Keeps commits) :=
        (Encounter.closeRound_closes keeps warden.tactics warden.settings.points).run warden.source
      -- The round is closed by the same draws, and leaves the same source behind.
      have closed : (encounter.closeRound other.tactics other.settings.points).run other.source
          = (encounter.closeRound warden.tactics warden.settings.points).run warden.source := by
        rw [beside.settings, beside.tactics, beside.source]
      rw [resolve_eq active going, resolve_eq activeToo going, closed]
      exact settle_alike (sound.of_source _) (tidy.of_source _) (soundToo.of_source _)
        (tidyToo.of_source _) (beside.of_source _) now active activeToo closes
    · have stale : warden.resolve room round = ([], warden) :=
        Vain.step_eq sound tidy (.resolveStale active same)
      have staleToo : other.resolve room round = ([], other) :=
        Vain.step_eq soundToo tidyToo (.resolveStale activeToo same)
      rw [stale, staleToo]
      exact .of_beside beside now

theorem submit_alike {id : String} {action : Action} (now : other.clock.now = warden.clock.now) :
    Alike room (warden.step (.submit room id action)) (other.step (.submit room id action)) := by
  cases active : warden.encounter? room with
  | none =>
    simp only [step, submit, active, beside.vacant active]
    exact .of_beside beside now
  | some found =>
    obtain ⟨number, encounter⟩ := found
    obtain ⟨place, activeToo⟩ := beside.encounter? active
    cases accepted : encounter.commit id action with
    | error refusal =>
      simp only [step, submit, active, activeToo, accepted]
      exact .of_beside beside now
    | ok committed =>
      have entered : Beside room (warden.accept number committed ⟨id, action⟩).2
          (other.accept place committed ⟨id, action⟩).2 := by
        refine ⟨beside.settings, beside.tactics, beside.source, ?_⟩
        rw [accept_face sound tidy active accepted, accept_face soundToo tidyToo activeToo accepted,
          beside.face]
      simp only [step, submit, active, activeToo, accepted]
      split
      · have deed : Deed admits room warden _ := .accept active accepted
        have deedToo : Deed known room other _ := .accept activeToo accepted
        exact resolve_alike (deed.change.sound sound) (deed.tidy sound tidy)
          (deedToo.change.sound soundToo) (deedToo.tidy soundToo tidyToo) entered now _
      · exact .of_beside entered now

omit [RandomSource σ] in
theorem abort_alike (now : other.clock.now = warden.clock.now) :
    Alike room ([], (warden.abort room).2) ([], (other.abort room).2) := by
  cases active : warden.encounter? room with
  | none =>
    rw [abort_nowhere sound tidy active, abort_nowhere soundToo tidyToo (beside.vacant active)]
    exact .of_beside beside now
  | some found =>
    obtain ⟨number, encounter⟩ := found
    obtain ⟨place, activeToo⟩ := beside.encounter? active
    simp only [abort, active, activeToo]
    refine .of_beside ⟨beside.settings, beside.tactics, beside.source, ?_⟩ now
    rw [giveUp_face sound tidy active, giveUp_face soundToo tidyToo activeToo, beside.face]

/-- The same order in a room does the same to wardens that agree about the room. -/
theorem step_alike {order : Order} (now : other.clock.now = warden.clock.now)
    (about : order.room? = some room) :
    Alike room (warden.step order) (other.step order) := by
  cases order with
  | begin setup =>
    cases about
    -- A room is registered exactly while it has a timer, which is part of its face.
    have occupied : other.rooms.contains setup.room = warden.rooms.contains setup.room := by
      have timers := congrArg (fun face => face.timer.isSome) beside.face
      simp only [face, Option.isSome_map] at timers
      rw [← (tidy setup.room).housed, ← (tidyToo setup.room).housed]
      exact timers
    exact begin_alike beside occupied now
  | submit room id action =>
    cases about
    exact submit_alike sound tidy soundToo tidyToo beside now
  | resolve room round =>
    cases about
    exact resolve_alike sound tidy soundToo tidyToo beside now round
  | abort room =>
    cases about
    exact abort_alike sound tidy soundToo tidyToo beside now
  | pass duration => cases about

/-- The first sleeper of a room does the same to wardens that agree about the room. -/
theorem wake_alike {timer twin : Timer Count} {sleeper double : Sleeper}
    {rest others : List Sleeper} (present : warden.timers.get? room = some timer)
    (presentToo : other.timers.get? room = some twin) (line : timer.sleepers = sleeper :: rest)
    (lineToo : twin.sleepers = double :: others) (timers : twin.unplaced = timer.unplaced)
    (sleepers : double.unplaced = sleeper.unplaced) (future : warden.clock.now ≤ sleeper.due)
    (futureToo : other.clock.now ≤ double.due) :
    Alike room (warden.wake room sleeper) (other.wake room double) := by
  obtain ⟨alarm, left⟩ := Timer.wake_unplaced line
  obtain ⟨alarmToo, leftToo⟩ := Timer.wake_unplaced lineToo
  rw [timers, sleepers] at alarmToo leftToo
  -- The clocks may differ before, but both are at the deadline now.
  have now : (other.awake room twin double).clock.now
      = (warden.awake room timer sleeper).clock.now := by
    have due : double.unplaced.due = sleeper.unplaced.due := congrArg Sleeper.due sleepers
    show max other.clock.now double.due = max warden.clock.now sleeper.due
    rw [Nat.max_eq_right future, Nat.max_eq_right futureToo]
    exact due
  have awake : Beside room (warden.awake room timer sleeper) (other.awake room twin double) := by
    refine ⟨beside.settings, beside.tactics, beside.source, ?_⟩
    rw [awake_face, awake_face, ← left, ← leftToo, beside.face]
  rw [wake_eq present, wake_eq presentToo, ← alarm, ← alarmToo]
  cases (timer.unplaced.wake sleeper.unplaced).1 with
  | none => exact .of_beside awake now
  | some round =>
    have deed : Deed admits room warden _ :=
      .awake sleeper present (line ▸ List.mem_cons_self)
    have deedToo : Deed known room other _ :=
      .awake double presentToo (lineToo ▸ List.mem_cons_self)
    exact resolve_alike (deed.change.sound sound) (deed.tidy sound tidy)
      (deedToo.change.sound soundToo) (deedToo.tidy soundToo tidyToo) awake now round

end Together

end Warden

end Fray
