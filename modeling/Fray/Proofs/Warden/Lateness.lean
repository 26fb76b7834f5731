import Fray.Proofs.Warden.Refusing

/-!
# Calls that come late

Somebody asks a warden to resolve a round, or the alarm of a deadline is taken, and the
call reaches the warden some time later: in between the round may have been closed, the
encounter given up and another one begun in the same room. The call names a room and
the number of a round, and that is all the warden knows of what it was meant for.

## Main result

`Underway.lands`: a call that was meant for an encounter changes nothing unless
the room is at a round of this number; then it closes that round, even if it is a round
of an encounter that was begun after the other one had ended.
-/

namespace Fray

open Relation

namespace Warden

variable {σ : Type} {admits : Setup → Prop} {warden changed : Warden σ}

/-! ### Encounters stay in their rooms -/

/-- An encounter with a number has been begun in a room. -/
def BegunAs (warden : Warden σ) (number : Nat) (room : String) : Prop :=
  ∃ encounter, warden.encounters[number]? = some encounter ∧ encounter.room = room

theorem Older.begunAs {number : Nat} {room : String} (older : Older warden changed)
    (begun : warden.BegunAs number room) : changed.BegunAs number room := by
  obtain ⟨encounter, present, named⟩ := begun
  obtain ⟨later, found, same, _⟩ := older number encounter present
  exact ⟨later, found, same.trans named⟩

/-! ### Calls on their way -/

/-- A call to resolve a round of an encounter in a room. -/
structure Summons where
  encounter : Nat
  room : String
  round : Count
deriving DecidableEq

variable [RandomSource σ]

/-- A warden after operations one at a time, and the calls that have not reached it yet. -/
inductive Underway : Warden σ → List Summons → Prop
  | new (settings : RoundSettings) (tactics : Tactics) (source : σ) :
      Underway (new settings tactics source) []
  | step {warden : Warden σ} {calls : List Summons} (underway : Underway warden calls)
      (order : Order) : Underway (warden.step order).2 calls
  /-- Somebody sends a call for a round of the encounter that holds a room. -/
  | send {warden : Warden σ} {calls : List Summons} {room : String} {number : Nat}
      (underway : Underway warden calls) (registered : warden.rooms.get? room = some number)
      (round : Count) : Underway warden (calls ++ [⟨number, room, round⟩])
  | wait {warden : Warden σ} {calls : List Summons} (underway : Underway warden calls)
      (duration : Nat) : Underway
        { warden with clock := { warden.clock with now := warden.clock.now + duration } } calls
  /-- A sleeper wakes after its deadline; if it takes the alarm, its call is on the way. -/
  | ring {warden : Warden σ} {calls : List Summons} {room : String} {number : Nat}
      {timer : Timer Count} {sleeper : Sleeper} (underway : Underway warden calls)
      (registered : warden.rooms.get? room = some number)
      (present : warden.timers.get? room = some timer) (asleep : sleeper ∈ timer.sleepers)
      (due : sleeper.due ≤ warden.clock.now) :
      Underway (warden.awake room timer sleeper)
        (calls ++ ((timer.wake sleeper).1.map (Summons.mk number room)).toList)
  /-- A call reaches the warden, whichever was sent first. -/
  | arrive {warden : Warden σ} {early late : List Summons} {call : Summons}
      (underway : Underway warden (early ++ call :: late)) :
      Underway (warden.resolve call.room call.round).2 (early ++ late)

theorem Underway.run {calls : List Summons} (underway : Underway warden calls)
    (orders : List Order) : Underway (warden.run orders).2 calls := by
  induction orders generalizing warden with
  | nil => exact underway
  | cons order rest ih => exact ih (underway.step order)

/-- The rooms are in order, and whoever is called has been begun in the room of the call. -/
structure Expects (warden : Warden σ) (calls : List Summons) : Prop where
  sound : warden.Sound fun _ => True
  tidy : warden.Tidy
  begun : ∀ call ∈ calls, warden.BegunAs call.encounter call.room

theorem Expects.step {calls : List Summons} (expects : warden.Expects calls) (order : Order) :
    (warden.step order).2.Expects calls := by
  have leads : Leads (fun _ => True) warden (warden.step order) :=
    step_leads warden order fun _ _ => trivial
  constructor
  · exact changes_sound leads.changes expects.sound
  · exact step_tidy expects.sound expects.tidy order fun _ _ => trivial
  · intro call member
    have older := step_older expects.sound order fun _ _ => trivial
    exact older.begunAs (expects.begun call member)

omit [RandomSource σ] in
theorem Expects.send {calls : List Summons} {room : String} {number : Nat}
    (expects : warden.Expects calls) (registered : warden.rooms.get? room = some number) :
    ∀ round, ∀ call ∈ calls ++ [(⟨number, room, round⟩ : Summons)],
      warden.BegunAs call.encounter call.room := by
  intro round call member
  rcases List.mem_append.mp member with old | new
  · exact expects.begun call old
  · cases List.mem_singleton.mp new
    exact expects.sound.active room number registered

omit [RandomSource σ] in
theorem Expects.ring {calls : List Summons} {room : String} {number : Nat}
    {timer : Timer Count} {sleeper : Sleeper} (expects : warden.Expects calls)
    (registered : warden.rooms.get? room = some number)
    (present : warden.timers.get? room = some timer) (asleep : sleeper ∈ timer.sleepers) :
    (warden.awake room timer sleeper).Expects
      (calls ++ ((timer.wake sleeper).1.map (Summons.mk number room)).toList) := by
  have deed : Deed (fun _ => True) room warden _ := .awake sleeper present asleep
  refine ⟨deed.change.sound expects.sound, deed.tidy expects.sound expects.tidy, ?_⟩
  -- Waking somebody has nothing to do with the encounters.
  show ∀ call : Summons, call ∈ _ → warden.BegunAs call.encounter call.room
  cases (timer.wake sleeper).1 with
  | none => simpa using expects.begun
  | some round => exact expects.send registered round

theorem Underway.expects {calls : List Summons} (underway : Underway warden calls) :
    warden.Expects calls := by
  induction underway with
  | new settings tactics source =>
    refine ⟨new_sound settings tactics source, new_tidy settings tactics source, ?_⟩
    intro call member
    cases member
  | step underway order ih => exact ih.step order
  | send underway registered round ih => exact ⟨ih.sound, ih.tidy, ih.send registered round⟩
  | wait underway duration ih =>
    exact ⟨ih.sound.of_same rfl rfl rfl rfl rfl, ih.tidy.timeless _, ih.begun⟩
  | ring underway registered present asleep due ih => exact ih.ring registered present asleep
  | @arrive warden early late call underway ih =>
    have rest : warden.Expects (early ++ late) := by
      refine ⟨ih.sound, ih.tidy, fun other member => ih.begun other ?_⟩
      rcases List.mem_append.mp member with before | after
      · exact List.mem_append_left _ before
      · exact List.mem_append_right _ (List.mem_cons_of_mem _ after)
    exact rest.step (.resolve call.room call.round)

/-! ### Where a call lands -/

/-- What becomes of a call that reaches a warden. -/
structure Lands (warden : Warden σ) (call : Summons) : Prop where
  /-- The encounter that was called was begun in the room of the call. -/
  begun : warden.BegunAs call.encounter call.room
  /-- If it holds the room no more, whoever does was begun later. -/
  later : ∀ number, warden.rooms.get? call.room = some number → call.encounter ≤ number
  /-- Nothing happens just if nobody is at a round of this number in the room. -/
  ignored : warden.resolve call.room call.round = ([], warden) ↔
    ∀ number encounter, warden.encounter? call.room = some (number, encounter) →
      encounter.round ≠ call.round
  /-- Otherwise the encounter that holds the room closes its round, and no other is changed. -/
  closes : ∀ number encounter, warden.encounter? call.room = some (number, encounter) →
    encounter.round = call.round → ∃ closing source,
      (∀ commits, encounter.Keeps commits → closing.Closes encounter commits) ∧
      warden.resolve call.room call.round
        = { warden with source := source }.settle call.room number encounter closing ∧
      ∀ other, other ≠ number → (warden.resolve call.room call.round).2.encounters[other]?
        = warden.encounters[other]?

/--
A call that was sent for an encounter, or whose alarm was taken for one, changes nothing
whenever it arrives, unless the encounter that holds the room then is at a round of this
number. It closes this round even if the encounter that was meant has ended meanwhile and
another one holds the room.
-/
theorem Underway.lands {calls : List Summons} {call : Summons}
    (underway : Underway warden calls) (member : call ∈ calls) : warden.Lands call := by
  have expects := underway.expects
  obtain ⟨summoned, present, named⟩ := expects.begun call member
  have settles : ∀ number encounter, warden.encounter? call.room = some (number, encounter) →
      encounter.round = call.round → ∃ closing source,
        (∀ commits, encounter.Keeps commits → closing.Closes encounter commits) ∧
        warden.resolve call.room call.round
          = { warden with source := source }.settle call.room number encounter closing := by
    intro number encounter active same
    rw [← same]
    obtain ⟨closing, source, played, settled⟩ :=
      resolve_open active (expects.sound.active_open active).2.1
    exact ⟨closing, source, closing.closes_of_played played, settled⟩
  constructor
  case begun => exact ⟨summoned, present, named⟩
  case later =>
    intro number registered
    -- Nothing has been begun in the room after the encounter that holds it.
    by_contra later
    exact (expects.tidy call.room).last number registered call.encounter summoned
      (Nat.lt_of_not_le later) present named
  case ignored =>
    constructor
    · intro unchanged number encounter active same
      obtain ⟨closing, source, _, settled⟩ := settles number encounter active same
      have longer :=
        settle_journal { warden with source := source } call.room number encounter closing
      rw [← settled, unchanged] at longer
      exact Nat.lt_irrefl _ longer
    · intro elsewhere
      rcases warden.resolve_cases call.room call.round with
        ignored | ⟨number, encounter, active, _, same⟩
      · exact ignored
      · exact absurd same (elsewhere number encounter active)
  case closes =>
    intro number encounter active same
    obtain ⟨closing, source, closes, settled⟩ := settles number encounter active same
    refine ⟨closing, source, closes, settled, fun other apart => ?_⟩
    rw [settled, settle_encounters]
    exact List.getElem?_set_ne apart.symm

/-! ### A call that reaches another encounter -/

/-- A fight has been given up, and another one is at its first round in the same room. -/
def sampleRematch : Warden Fixed :=
  ((new {} .npcsOnly ⟨9⟩).run [.begin sampleSetup, .abort "cellar", .begin sampleSetup]).2

/-- The call was sent in the first round of the fight that was given up. -/
theorem sampleRematch_underway : Underway sampleRematch [⟨0, "cellar", 1⟩] := by
  have begun := (Underway.new {} .npcsOnly (⟨9⟩ : Fixed)).run [.begin sampleSetup]
  have sent : Underway _ ([] ++ [⟨0, "cellar", 1⟩]) := begun.send (by decide +kernel) 1
  exact sent.run [.abort "cellar", .begin sampleSetup]

theorem lands_sample :
    Underway sampleRematch [⟨0, "cellar", 1⟩] ∧ sampleRematch.Lands ⟨0, "cellar", 1⟩ :=
  ⟨sampleRematch_underway, sampleRematch_underway.lands List.mem_cons_self⟩

/-- Whether the encounters of a warden are over, and their rounds. -/
def progress (warden : Warden σ) : List (Bool × Count) :=
  warden.encounters.map fun encounter => (encounter.isOver, encounter.round)

/--
The call closes the first round of the second fight. So does the alarm of the first one,
if it was taken at the deadline and the fights change before its call is made.
-/
theorem lands_elsewhere :
    (Underway sampleRematch [⟨0, "cellar", 1⟩] ∧
      sampleRematch.rooms.get? "cellar" = some 1 ∧
      sampleRematch.progress = [(true, 1), (false, 1)] ∧
      (sampleRematch.resolve "cellar" 1).2.progress = [(true, 1), (false, 2)]) ∧
    let begun := ((new {} .npcsOnly (⟨9⟩ : Fixed)).run [.begin sampleSetup]).2
    let due := { begun with clock := { begun.clock with now := begun.clock.now + 6000 } }
    ∃ timer sleeper, due.timers.get? "cellar" = some timer ∧ sleeper ∈ timer.sleepers ∧
      (timer.wake sleeper).1 = some 1 ∧
      let changed := ((due.awake "cellar" timer sleeper).run
        [.abort "cellar", .begin sampleSetup]).2
      Underway changed [⟨0, "cellar", 1⟩] ∧ changed.rooms.get? "cellar" = some 1 ∧
      changed.progress = [(true, 1), (false, 1)] ∧
      (changed.resolve "cellar" 1).2.progress = [(true, 1), (false, 2)] := by
  refine ⟨⟨sampleRematch_underway, by decide +kernel⟩, ?_⟩
  intro begun due
  let sleeper : Sleeper := ⟨1, 6000, 0⟩
  let timer : Timer Count := ⟨1, some 1, [sleeper]⟩
  have present : due.timers.get? "cellar" = some timer := by
    have parts : ((due.timers.get? "cellar").map fun timer =>
        (timer.generation, timer.pending, timer.sleepers)) = some (1, some 1, [sleeper]) := by
      decide +kernel
    obtain ⟨found, same, equal⟩ := Option.map_eq_some_iff.mp parts
    cases found
    cases equal
    exact same
  have started := (Underway.new {} .npcsOnly (⟨9⟩ : Fixed)).run [.begin sampleSetup]
  have rung : Underway (due.awake "cellar" timer sleeper)
      ([] ++ ((timer.wake sleeper).1.map (Summons.mk 0 "cellar")).toList) :=
    (started.wait 6000).ring (by decide +kernel) present List.mem_cons_self (by decide +kernel)
  refine ⟨timer, sleeper, present, List.mem_cons_self, by decide, ?_, by decide +kernel⟩
  exact rung.run [.abort "cellar", .begin sampleSetup]

end Warden

end Fray
