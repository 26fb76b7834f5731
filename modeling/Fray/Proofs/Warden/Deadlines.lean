import Fray.Proofs.Tables
import Fray.Proofs.Timers
import Fray.Proofs.Warden.Observing

/-!
# Deadlines

A room has a timer exactly while it has an active encounter, and the timer is
set for the open round: its deadline is the time at which the round was opened
and the duration of a round. Every operation that changes what is open in a room
changes the timer of the room with it, and leaves the other rooms alone.

## Main results

`enter_punctual`, `accept_punctual`, `settle_punctual` and `giveUp_punctual`:
wardens stay punctual when something happens in a room.
-/

namespace Fray

open Relation

namespace Warden

variable {σ : Type} {admits : Setup → Prop}

/-! ### Punctual wardens -/

/-- The timer of a room is set for the open round of its active encounter, if it has one. -/
def SetAt (warden : Warden σ) (room : String) : Prop :=
  ∀ number encounter, warden.encounter? room = some (number, encounter) →
    ∃ timer time, warden.timers.get? room = some timer ∧
      (warden.openings number).getLast? = some (encounter.round, time) ∧
      timer.IsSet encounter.round (time + warden.settings.duration)

/-- Nobody who sleeps for a room wakes until after a time. -/
def SleepsPast (since : Nat) (warden : Warden σ) (room : String) : Prop :=
  ∀ timer, warden.timers.get? room = some timer → ∀ sleeper ∈ timer.sleepers, since < sleeper.due

/-- Timers are set in the rooms with active encounters, and nowhere else. -/
structure Punctual (since : Nat) (warden : Warden σ) : Prop where
  rooms : ∀ room, warden.timers.contains room = warden.rooms.contains room
  set : ∀ room, warden.SetAt room
  late : ∀ room, warden.SleepsPast since room

/-- The same apart from a room whose alarm may have gone off. -/
structure PunctualBut (room : String) (since : Nat) (warden : Warden σ) : Prop where
  rooms : ∀ other, warden.timers.contains other = warden.rooms.contains other
  set : ∀ other, other ≠ room → warden.SetAt other
  late : ∀ other, warden.SleepsPast since other
  current : ∀ timer, warden.timers.get? room = some timer → timer.IsCurrent

theorem Sound.active_of_contains {warden : Warden σ} {room : String}
    (sound : warden.Sound admits) (inside : warden.rooms.contains room = true) :
    ∃ number encounter, warden.encounter? room = some (number, encounter) := by
  obtain ⟨number, registered⟩ := Option.isSome_iff_exists.mp inside
  obtain ⟨encounter, present, _⟩ := sound.active room number registered
  exact ⟨number, encounter, encounter?_eq_some.mpr ⟨registered, present⟩⟩

/-- Every timer of a punctual warden is set. -/
theorem Punctual.isSet {warden : Warden σ} {since : Nat} {room : String} {timer : Timer Count}
    (punctual : warden.Punctual since) (sound : warden.Sound admits)
    (present : warden.timers.get? room = some timer) :
    ∃ number encounter due, warden.encounter? room = some (number, encounter) ∧
      timer.IsSet encounter.round due ∧ since < due := by
  have inside : warden.rooms.contains room = true := by
    rw [← punctual.rooms, Table.contains, present]
    rfl
  obtain ⟨number, encounter, active⟩ := sound.active_of_contains inside
  obtain ⟨_, time, found, _, set⟩ := punctual.set room number encounter active
  cases found.symm.trans present
  refine ⟨number, encounter, _, active, set, ?_⟩
  obtain ⟨stale, place, sleepers, _⟩ := set.sleepers
  exact punctual.late room timer present
    ⟨timer.generation, time + warden.settings.duration, place⟩ (by simp [sleepers])

theorem Punctual.but {warden : Warden σ} {since : Nat} (punctual : warden.Punctual since)
    (sound : warden.Sound admits) (room : String) : warden.PunctualBut room since := by
  refine ⟨punctual.rooms, fun other _ => punctual.set other, punctual.late, fun timer present => ?_⟩
  obtain ⟨_, _, _, _, set, _⟩ := punctual.isSet sound present
  exact set.isCurrent

/-! ### Changes in one room -/

theorem openings_note (warden : Warden σ) (entries : List Entry) (number : Nat) :
    (warden.note entries).2.openings number = warden.openings number
      ++ (entries.filter (·.encounter = number)).filterMap Entry.opening? := by
  rw [openings, historyOf_note, List.filterMap_append]
  rfl

/-- What happens in one room leaves the other rooms alone. -/
theorem SetAt.of_other {warden changed : Warden σ} {other : String} {number : Nat}
    {before after : Encounter} {entries : List Entry} (sound : warden.Sound admits)
    (set : warden.SetAt other) (different : other ≠ before.room)
    (active : warden.encounter? before.room = some (number, before))
    (replaces : Replaces warden changed number before after)
    (about : ∀ entry ∈ entries, entry.encounter = number)
    (timer : changed.timers.get? other = warden.timers.get? other)
    (settings : changed.settings = warden.settings) :
    (changed.note entries).2.SetAt other := by
  intro elsewhere encounter found
  obtain ⟨registered, present⟩ := encounter?_eq_some.mp found
  change changed.rooms.get? other = some elsewhere at registered
  change changed.encounters[elsewhere]? = some encounter at present
  rw [replaces.others other different] at registered
  -- An encounter holds no other room than its own.
  have apart : elsewhere ≠ number := by
    rintro rfl
    obtain ⟨_, kept, same⟩ := sound.active other elsewhere registered
    cases kept.symm.trans (encounter?_eq_some.mp active).2
    exact different same.symm
  rw [replaces.encounters, List.getElem?_set_ne apart.symm] at present
  obtain ⟨armed, time, found, opening, isSet⟩ :=
    set elsewhere encounter (encounter?_eq_some.mpr ⟨registered, present⟩)
  refine ⟨armed, time, timer.trans found, ?_, ?_⟩
  · rw [openings_note, filter_encounter_other about apart, List.filterMap_nil, List.append_nil]
    have same : changed.openings elsewhere = warden.openings elsewhere := by
      simp only [openings, historyOf, history, replaces.journal]
    rw [same]
    exact opening
  · show armed.IsSet encounter.round (time + changed.settings.duration)
    rw [settings]
    exact isSet

/-- A change is punctual if it takes care of its room. -/
theorem PunctualBut.replace {warden changed : Warden σ} {since number : Nat}
    {before after : Encounter} {entries : List Entry} (sound : warden.Sound admits)
    (but : warden.PunctualBut before.room since)
    (active : warden.encounter? before.room = some (number, before))
    (replaces : Replaces warden changed number before after)
    (about : ∀ entry ∈ entries, entry.encounter = number)
    (timers : ∀ other, other ≠ before.room →
      changed.timers.get? other = warden.timers.get? other)
    (settings : changed.settings = warden.settings)
    (rooms : changed.timers.contains before.room = changed.rooms.contains before.room)
    (set : (changed.note entries).2.SetAt before.room)
    (late : changed.SleepsPast since before.room) :
    (changed.note entries).2.Punctual since := by
  -- In each part the room of the change is as assumed, and the others are as they were.
  constructor
  · intro other
    show changed.timers.contains other = changed.rooms.contains other
    by_cases same : other = before.room
    · rw [same, rooms]
    · have timer := congrArg Option.isSome (timers other same)
      have room := congrArg Option.isSome (replaces.others other same)
      exact timer.trans ((but.rooms other).trans room.symm)
  · intro other
    by_cases same : other = before.room
    · exact same ▸ set
    · have set := but.set other same
      exact set.of_other sound same active replaces about (timers other same) settings
  · intro other timer found
    change changed.timers.get? other = some timer at found
    by_cases same : other = before.room
    · subst same
      exact late timer found
    · rw [timers other same] at found
      exact but.late other timer found

/-! ### The timer of the room -/

theorem get?_arm (warden : Warden σ) (room : String) (round : Count) (other : String) :
    (warden.arm room round).timers.get? other =
      if other = room then
        some (((warden.timers.get? room).getD .idle).arm warden.clock warden.settings.duration
          round).1
      else warden.timers.get? other :=
  Table.get?_insert ..

theorem arm_isSet {warden : Warden σ} {room : String}
    (current : ∀ timer, warden.timers.get? room = some timer → timer.IsCurrent) (round : Count) :
    (((warden.timers.get? room).getD .idle).arm warden.clock warden.settings.duration
      round).1.IsSet round (warden.clock.now + warden.settings.duration) := by
  refine Timer.arm_isSet ?_ _ _ _
  cases present : warden.timers.get? room with
  | none =>
    intro sleeper member
    cases member
  | some timer => exact current timer present

theorem arm_sleepsPast {warden : Warden σ} {room : String} {since : Nat}
    (late : warden.SleepsPast since room) (early : since ≤ warden.clock.now)
    (lasting : 1 ≤ warden.settings.duration) (round : Count) :
    (warden.arm room round).SleepsPast since room := by
  intro armed found sleeper member
  rw [get?_arm, if_pos rfl] at found
  cases found
  -- The old sleepers wake as late as before, the new one a whole round from now.
  rcases Timer.mem_arm member with old | new
  · cases present : warden.timers.get? room with
    | none =>
      rw [present] at old
      cases old
    | some timer =>
      rw [present] at old
      exact late timer present sleeper old
  · omega

theorem sleepsPast_of_vacant {warden : Warden σ} {room : String} {since : Nat}
    (vacant : warden.timers.get? room = none) : warden.SleepsPast since room := by
  intro timer found
  cases vacant.symm.trans found

theorem setAt_of_vacant {warden : Warden σ} {room : String}
    (vacant : warden.rooms.get? room = none) : warden.SetAt room := by
  intro number encounter found
  cases vacant.symm.trans (encounter?_eq_some.mp found).1

/-- A room that is freed has neither a timer nor an encounter. -/
theorem PunctualBut.release {warden changed : Warden σ} {since number : Nat}
    {before after : Encounter} {entries : List Entry} (sound : warden.Sound admits)
    (but : warden.PunctualBut before.room since)
    (active : warden.encounter? before.room = some (number, before))
    (replaces : Replaces warden changed number before after)
    (about : ∀ entry ∈ entries, entry.encounter = number)
    (timers : changed.timers = warden.timers.erase before.room)
    (rooms : changed.rooms = warden.rooms.erase before.room)
    (settings : changed.settings = warden.settings) :
    (changed.note entries).2.Punctual since := by
  have noTimer : changed.timers.get? before.room = none := by
    rw [timers, Table.get?_erase, if_pos rfl]
  have noRoom : changed.rooms.get? before.room = none := by
    rw [rooms, Table.get?_erase, if_pos rfl]
  refine but.replace sound active replaces about (fun other different => ?_) settings ?_
    (setAt_of_vacant noRoom) (sleepsPast_of_vacant noTimer)
  · rw [timers, Table.get?_erase, if_neg different]
  · rw [Table.contains, Table.contains, noTimer, noRoom]
    rfl

/-! ### Operations -/

theorem settle_punctual {warden : Warden σ} {room : String} {since number : Nat}
    {encounter : Encounter} {closing : Closing} (sound : warden.Sound admits)
    (but : warden.PunctualBut room since) (early : since ≤ warden.clock.now)
    (lasting : 1 ≤ warden.settings.duration)
    (active : warden.encounter? room = some (number, encounter))
    (closes : ∀ commits, encounter.Keeps commits → closing.Closes encounter commits) :
    (warden.settle room number encounter closing).2.Punctual since := by
  obtain ⟨rfl, going, time, commits, keeps, tale⟩ := sound.active_open active
  have replaces := putClosed_replaces active (closes commits keeps)
  have about := closing.entries_encounter number encounter.room encounter.round warden.clock.now
  have opened := closing.entries_openings number encounter.room encounter.round warden.clock.now
  unfold settle
  unfold putClosed at replaces ⊢
  cases kind : closing.aftermath with
  | ended standing =>
    rw [kind] at replaces
    exact but.release sound active replaces about rfl rfl rfl
  | lapsed events standing =>
    rw [kind] at replaces
    exact but.release sound active replaces about rfl rfl rfl
  | next events commits =>
    rw [kind] at replaces opened
    obtain ⟨registered, present⟩ := encounter?_eq_some.mp active
    have inside : number < warden.encounters.length := (List.getElem?_eq_some_iff.mp present).1
    -- Here the room is kept, and its timer is armed anew for the round just opened.
    let base := warden.followEncounter number encounter closing.encounter
    have set : ((base.arm encounter.room closing.encounter.round).note
        (closing.entries number encounter.room encounter.round warden.clock.now)).2.SetAt
          encounter.room := by
      intro other found active
      obtain ⟨same, kept⟩ := encounter?_eq_some.mp active
      cases registered.symm.trans same
      change (warden.encounters.set number closing.encounter)[number]? = some found at kept
      rw [List.getElem?_set_self inside] at kept
      cases kept
      have armed := arm_isSet but.current closing.encounter.round
      refine ⟨_, warden.clock.now, (get?_arm base ..).trans (if_pos rfl), ?_, armed⟩
      rw [openings_note, filter_encounter_self about, opened, List.getLast?_concat]
    have late : (base.arm encounter.room closing.encounter.round).SleepsPast since
        encounter.room :=
      arm_sleepsPast (but.late encounter.room) early lasting _
    refine but.replace sound active replaces about (fun other different => ?_) rfl ?_ set late
    · exact (get?_arm base ..).trans (if_neg different)
    · have timer : ((base.arm encounter.room closing.encounter.round).timers.contains
          encounter.room) = true := by
        rw [Table.contains, get?_arm, if_pos rfl]
        rfl
      refine timer.trans (Eq.symm ?_)
      show warden.rooms.contains encounter.room = true
      rw [Table.contains, registered]
      rfl

theorem giveUp_punctual {warden : Warden σ} {room : String} {since number : Nat}
    {encounter : Encounter} (sound : warden.Sound admits) (punctual : warden.Punctual since)
    (active : warden.encounter? room = some (number, encounter)) :
    (warden.giveUp room number encounter).Punctual since := by
  obtain ⟨rfl, _⟩ := sound.active_open active
  refine (punctual.but sound _).release sound active (giveUp_replaces ..) ?_ rfl rfl rfl
  simp [Entry.encounter]

theorem accept_punctual {warden : Warden σ} {room id : String} {since number : Nat}
    {action : Action} {encounter committed : Encounter} (sound : warden.Sound admits)
    (punctual : warden.Punctual since)
    (active : warden.encounter? room = some (number, encounter))
    (accepted : encounter.commit id action = .ok committed) :
    (warden.accept number committed ⟨id, action⟩).2.Punctual since := by
  obtain ⟨rfl, _⟩ := sound.active_open active
  obtain ⟨registered, present⟩ := encounter?_eq_some.mp active
  have inside : number < warden.encounters.length := (List.getElem?_eq_some_iff.mp present).1
  have replaces := accept_replaces active accepted
  have about : ∀ entry ∈ [Entry.committed number committed.round ⟨id, action⟩],
      entry.encounter = number := by
    simp [Entry.encounter]
  obtain ⟨_, queue, _, _, _, same⟩ := Encounter.commit_cases accepted
  have round : committed.round = encounter.round := by rw [same]
  -- An action opens no round, so the deadline that is set is still the right one.
  have set : ((warden.setEncounter number committed).note
      [.committed number committed.round ⟨id, action⟩]).2.SetAt encounter.room := by
    intro other found active'
    obtain ⟨again, kept⟩ := encounter?_eq_some.mp active'
    cases registered.symm.trans again
    change (warden.encounters.set number committed)[number]? = some found at kept
    rw [List.getElem?_set_self inside] at kept
    cases kept
    obtain ⟨timer, time, armed, opening, isSet⟩ :=
      punctual.set encounter.room number encounter active
    refine ⟨timer, time, armed, ?_, round ▸ isSet⟩
    have quiet : [Entry.committed number committed.round ⟨id, action⟩].filterMap Entry.opening?
        = [] := rfl
    rw [openings_note, filter_encounter_self about, quiet, List.append_nil, round]
    exact opening
  exact (punctual.but sound encounter.room).replace sound active replaces about
    (fun _ _ => rfl) rfl (punctual.rooms encounter.room) set (punctual.late encounter.room)

theorem enter_punctual {warden : Warden σ} {setup : Setup} {muster : Muster} {since : Nat}
    {events : List ConditionEvent} (sound : warden.Sound admits) (punctual : warden.Punctual since)
    (early : since ≤ warden.clock.now) (lasting : 1 ≤ warden.settings.duration)
    (free : warden.rooms.contains setup.room = false) :
    (warden.enter setup.room events muster).2.Punctual since := by
  let number := warden.encounters.length
  let round := muster.encounter.round
  let entered := { warden with
    rooms := warden.rooms.insert setup.room number
    encounters := warden.encounters ++ [muster.encounter] }
  let entries := muster.entries number setup.room warden.clock.now events
  -- A room without an encounter has no timer, so the one that is armed is new.
  have noTimer : warden.timers.get? setup.room = none := by
    have empty := (punctual.rooms setup.room).trans free
    simpa [Table.contains] using empty
  have about := muster.entries_encounter number setup.room warden.clock.now events
  show ((entered.arm setup.room round).note entries).2.Punctual since
  constructor
  · intro other
    have timer : (entered.arm setup.room round).timers.contains other
        = (other = setup.room || warden.timers.contains other) := Table.contains_insert ..
    have room : (warden.rooms.insert setup.room number).contains other
        = (other = setup.room || warden.rooms.contains other) := Table.contains_insert ..
    refine timer.trans (Eq.trans ?_ room.symm)
    rw [punctual.rooms]
  · intro other elsewhere encounter active
    obtain ⟨registered, present⟩ := encounter?_eq_some.mp active
    have rooms : (warden.rooms.insert setup.room number).get? other = some elsewhere := registered
    change (warden.encounters ++ [muster.encounter])[elsewhere]? = some encounter at present
    rw [Table.get?_insert] at rooms
    split at rooms
    next same =>
      cases rooms
      subst same
      rw [List.getElem?_concat_length] at present
      cases present
      refine ⟨_, warden.clock.now, (get?_arm entered ..).trans (if_pos rfl), ?_, arm_isSet ?_ _⟩
      · rw [openings_note, filter_encounter_self about]
        have unborn : (entered.arm setup.room round).openings number = [] :=
          congrArg (List.filterMap Entry.opening?) (sound.unborn number (Nat.le_refl _))
        rw [unborn, List.nil_append, Muster.entries_openings]
        rfl
      · intro timer found
        cases noTimer.symm.trans found
    -- The encounters of other rooms were there before, under smaller numbers.
    next different =>
      obtain ⟨kept, there, _⟩ := sound.active other elsewhere rooms
      have inside : elsewhere < number := (List.getElem?_eq_some_iff.mp there).1
      rw [List.getElem?_append_left inside] at present
      obtain ⟨timer, time, found, opening, isSet⟩ :=
        punctual.set other elsewhere encounter (encounter?_eq_some.mpr ⟨rooms, present⟩)
      refine ⟨timer, time, (get?_arm entered ..).trans ((if_neg different).trans found), ?_, isSet⟩
      rw [openings_note, filter_encounter_other about (Nat.ne_of_lt inside), List.filterMap_nil,
        List.append_nil]
      exact opening
  · intro other timer found
    by_cases same : other = setup.room
    · subst same
      have vacant : entered.SleepsPast since setup.room := sleepsPast_of_vacant noTimer
      exact arm_sleepsPast vacant early lasting round timer found
    · exact punctual.late other timer (((get?_arm entered ..).trans (if_neg same)).symm.trans found)

end Warden

end Fray
