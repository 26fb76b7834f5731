import Fray.Proofs.Warden.Faces

/-!
# Rooms apart

All rooms share the clock, the numbers of the encounters, the places of the sleepers and
the source. A source that always gives the same value does not tell who else has drawn
from it, so what happens in a room is what would happen there if nobody had ever asked
for another room, as long as the same time passes.

## Main result

`run_apart`: what is heard and seen of a room in a run is what is heard and seen of it
in the run of the orders that concern the room.
-/

namespace Fray

/-- A fixed source is the same after every computation. -/
theorem Draws.run_fixed {α : Type} (computation : Draws α) (source : Fixed) :
    (computation.run source).2 = source := by
  induction computation with
  | done result => rfl
  | ask bound next ih => exact ih _

namespace Warden

/-- Whether an order is about a room; the passing of time is about all of them. -/
def Order.concerns (room : String) (order : Order) : Bool := order.room?.all (· = room)

variable {admits : Setup → Prop} {warden alone : Warden Fixed} {room other : String} {time : Nat}

/-! ### The source stays the same -/

theorem resolve_source (warden : Warden Fixed) (room : String) (round : Count) :
    (warden.resolve room round).2.source = warden.source := by
  unfold resolve
  split
  · rfl
  · split
    · rfl
    · exact (putClosed_source ..).trans (Draws.run_fixed ..)

theorem wake_source (warden : Warden Fixed) (room : String) (sleeper : Sleeper) :
    (warden.wake room sleeper).2.source = warden.source := by
  cases present : warden.timers.get? room with
  | none => simp only [wake, present]
  | some timer =>
    rw [wake_eq present]
    split
    · rfl
    · exact resolve_source ..

theorem step_source {order : Order} (about : order.room? = some room) :
    (warden.step order).2.source = warden.source := by
  refine step_same Warden.source about (fun _ _ _ _ => rfl) (fun computation => ?_)
    (fun _ _ _ => rfl) resolve_source fun room => ?_
  · exact Draws.run_fixed computation warden.source
  · unfold abort
    split <;> rfl

/-! ### What happens elsewhere -/

theorem Beside.trans {σ : Type} {warden changed other : Warden σ}
    (first : Beside room warden changed) (second : Beside room changed other) :
    Beside room warden other :=
  ⟨second.settings.trans first.settings, second.tactics.trans first.tactics,
    second.source.trans first.source, second.face.trans first.face⟩

/-- What is done in another room is not heard of in a room, and leaves it as it was. -/
theorem Acts.elsewhere {result : List Notice × Warden Fixed}
    (acts : Acts admits other warden result) (sound : warden.Sound admits)
    (source : result.2.source = warden.source) (apart : room ≠ other) :
    heardIn room result.1 = [] ∧ Beside room result.2 warden := by
  have within := acts.within sound
  refine ⟨heardIn_other acts.told apart.symm, within.settings.symm, within.tactics.symm,
    source.symm, ?_⟩
  rw [face, face, within.begunIn apart, within.encounter? sound apart, within.timers room apart]

/-! ### A warden and one that cares for a single room -/

/-- All encounters of a warden of one room are encounters of a warden that agrees about it. -/
theorem Beside.advancing (beside : Beside room warden alone)
    (sound : alone.Sound fun setup => setup.room = room) (advancing : warden.Advancing) :
    alone.Advancing := by
  rcases advancing with lasting | countable
  · exact .inl (beside.settings ▸ lasting)
  · refine .inr fun encounter member => ?_
    obtain ⟨setup, admitted, same, _⟩ := sound.begun encounter member
    have begun : alone.begunIn room = warden.begunIn room := congrArg Face.begun beside.face
    have inside : encounter ∈ alone.begunIn room :=
      List.mem_filter.mpr ⟨member, by simpa using same.trans admitted⟩
    rw [begun] at inside
    exact countable encounter (List.mem_filter.mp inside).1

/-- A warden of many rooms and a warden of one of them that agree about this room. -/
structure Twins (room : String) (warden alone : Warden Fixed) : Prop where
  whole : warden.Poised fun _ => True
  part : alone.Poised fun setup => setup.room = room
  beside : Beside room warden alone

namespace Twins

/-- The warden of one room has a timer in no other. -/
theorem here {timer : Timer Count} (twins : Twins room warden alone)
    (present : alone.timers.get? other = some timer) : other = room := by
  have inside : alone.rooms.contains other = true := by
    rw [← (twins.part.tidy other).housed, Table.contains, present]
    rfl
  obtain ⟨number, registered⟩ := Option.isSome_iff_exists.mp inside
  obtain ⟨encounter, found, rfl⟩ := twins.part.sound.active other number registered
  obtain ⟨setup, admitted, same, _⟩ := twins.part.sound.begun _ (List.mem_of_getElem? found)
  exact same.trans admitted

/-- Sleepers that agree apart from their places are due at the same times. -/
theorem sleepsPast (twins : Twins room warden alone) (late : warden.SleepsPast time room) :
    ∀ other, alone.SleepsPast time other := by
  intro other timer present sleeper asleep
  cases twins.here present
  have faces : (alone.timers.get? room).map Timer.unplaced
      = (warden.timers.get? room).map Timer.unplaced := congrArg Face.timer twins.beside.face
  rw [present, Option.map_some] at faces
  obtain ⟨twin, found, same⟩ := Option.map_eq_some_iff.mp faces.symm
  have inside : sleeper.unplaced ∈ twin.sleepers.map Sleeper.unplaced := by
    rw [show twin.sleepers.map Sleeper.unplaced = timer.sleepers.map Sleeper.unplaced from
      congrArg Timer.sleepers same]
    exact List.mem_map_of_mem asleep
  obtain ⟨double, among, equal⟩ := List.mem_map.mp inside
  have due : double.unplaced.due = sleeper.unplaced.due := congrArg Sleeper.due equal
  exact due ▸ late twin found double among

/-- Whatever happens in the other rooms, the wardens still agree about the room. -/
theorem elsewhere {result : List Notice × Warden Fixed} (twins : Twins room warden alone)
    (acts : Acts (fun _ => True) other warden result) (poised : result.2.Poised fun _ => True)
    (source : result.2.source = warden.source) (apart : room ≠ other) :
    heardIn room result.1 = [] ∧ Twins room result.2 alone := by
  obtain ⟨silent, beside⟩ := acts.elsewhere twins.whole.sound source apart
  exact ⟨silent, poised, twins.part, beside.trans twins.beside⟩

/-- Whoever wakes first, if it is one of the room, wakes first for the warden of the room. -/
theorem wake {sleeper : Sleeper} (twins : Twins room warden alone)
    (first : Sleeper.earliest warden.sleepers = some (room, sleeper)) :
    ∃ double, Sleeper.earliest alone.sleepers = some (room, double) ∧
      double.due = sleeper.due ∧
      heardIn room (alone.wake room double).1 = heardIn room (warden.wake room sleeper).1 ∧
      Twins room (warden.wake room sleeper).2 (alone.wake room double).2 := by
  obtain ⟨timer, rest, present, line⟩ := twins.whole.orderly.head first
  obtain ⟨twin, presentToo, timers⟩ := twins.beside.timer present
  obtain ⟨double, others, lineToo, sleepers⟩ := Timer.line_of_unplaced timers line
  have asleep : (room, double) ∈ alone.sleepers :=
    mem_sleepers.mpr ⟨twin, presentToo, lineToo ▸ List.mem_cons_self⟩
  -- The warden of the room has no other sleepers than those of the line.
  have firstToo : Sleeper.earliest alone.sleepers = some (room, double) := by
    cases found : Sleeper.earliest alone.sleepers with
    | none =>
      rw [Sleeper.eq_nil_of_earliest found] at asleep
      cases asleep
    | some least =>
      obtain ⟨place, head⟩ := least
      obtain ⟨own, more, there, lined⟩ := twins.part.orderly.head found
      cases twins.here there
      cases presentToo.symm.trans there
      cases lineToo.symm.trans lined
      rfl
  have due : double.unplaced.due = sleeper.unplaced.due := congrArg Sleeper.due sleepers
  have future := ((twins.whole.orderly.lined room timer present).span sleeper
    (line ▸ List.mem_cons_self)).1
  have futureToo := ((twins.part.orderly.lined room twin presentToo).span double
    (lineToo ▸ List.mem_cons_self)).1
  have alike := wake_alike twins.whole.sound twins.whole.tidy twins.part.sound twins.part.tidy
    twins.beside present presentToo line lineToo timers sleepers future futureToo
  exact ⟨double, firstToo, due, alike.heard, twins.whole.wake first, twins.part.wake firstToo,
    alike.beside⟩

/-- Of all who wake until a time, some wake for the room; the others are not noticed there. -/
theorem follow (twins : Twins room warden alone) (time most : Nat) :
    ∃ fewer, heardIn room (wakeUntil time fewer alone).1
        = heardIn room (wakeUntil time most warden).1 ∧
      Twins room (wakeUntil time most warden).2 (wakeUntil time fewer alone).2 := by
  -- One wake-up of the warden of many rooms is one of the other, or none at all.
  induction most generalizing warden alone with
  | zero => exact ⟨0, rfl, twins⟩
  | succ most ih =>
    rcases warden.due_cases time with late | ⟨place, sleeper, first, isDue⟩
    · rw [wakeUntil_idle late]
      exact ⟨0, rfl, twins⟩
    · rw [wakeUntil_due first isDue]
      by_cases same : room = place
      · subst same
        obtain ⟨double, firstToo, due, heard, still⟩ := twins.wake first
        obtain ⟨fewer, later, agree⟩ := ih still
        refine ⟨fewer + 1, ?_⟩
        rw [wakeUntil_due firstToo (due ▸ isDue), heardIn_append, heardIn_append, heard, later]
        exact ⟨rfl, agree⟩
      · obtain ⟨timer, present, asleep⟩ := mem_sleepers.mp (Sleeper.earliest_mem first)
        obtain ⟨silent, still⟩ := twins.elsewhere (wake_acts present asleep)
          (twins.whole.wake first) (wake_source ..) same
        obtain ⟨fewer, later, agree⟩ := ih still
        refine ⟨fewer, ?_, agree⟩
        rw [later, heardIn_append, silent, List.nil_append]

end Twins

/-! ### Operations that concern the room -/

/-- Time passes alike for wardens that agree about a room. -/
theorem pass_alike (kept : warden.Kept fun _ => True)
    (keptAlone : alone.Kept fun setup => setup.room = room) (beside : Beside room warden alone)
    (now : alone.clock.now = warden.clock.now) (duration : Nat)
    (advancing : (warden.pass duration).2.Advancing) :
    Alike room (warden.pass duration) (alone.pass duration) := by
  have twins : Twins room warden alone := ⟨kept.toPoised, keptAlone.toPoised, beside⟩
  obtain ⟨fewer, heard, agree⟩ :=
    twins.follow (warden.clock.now + duration) (warden.wakeUps (warden.clock.now + duration))
  -- Nobody is due any more in any room, so more or fewer wake-ups would not matter.
  have late := agree.sleepsPast (wakeUntil_finishes kept _ advancing room)
  have counted := agree.beside.advancing agree.part.sound advancing
  have enough := wakeUntil_enough keptAlone late counted
  simp only [pass, now, enough]
  exact ⟨heard, ⟨agree.beside.settings, agree.beside.tactics, agree.beside.source,
    agree.beside.face⟩, rfl⟩

/-- An order that concerns a room does the same to wardens that agree about it. -/
theorem step_concerned {order : Order} (kept : warden.Kept fun _ => True)
    (keptAlone : alone.Kept fun setup => setup.room = room) (beside : Beside room warden alone)
    (now : alone.clock.now = warden.clock.now) (concerned : order.concerns room = true)
    (advancing : (warden.step order).2.Advancing) :
    Alike room (warden.step order) (alone.step order) := by
  cases about : order.room? with
  | some place =>
    have same : place = room := by simpa [Order.concerns, about] using concerned
    subst same
    exact step_alike kept.sound kept.tidy keptAlone.sound keptAlone.tidy beside now about
  | none =>
    cases order with
    | pass duration => exact pass_alike kept keptAlone beside now duration advancing
    | _ => cases about

/-! ### Runs -/

theorem Alike.append {σ : Type} {one two more others : List Notice × Warden σ}
    (first : Alike room one two) (rest : Alike room more others) :
    Alike room (one.1 ++ more.1, more.2) (two.1 ++ others.1, others.2) := by
  refine ⟨?_, rest.beside, rest.now⟩
  rw [heardIn_append, heardIn_append, first.heard, rest.heard]

/-- A run goes on alike in a room without the orders that do not concern it. -/
theorem run_alike {orders : List Order} (kept : warden.Kept fun _ => True)
    (keptAlone : alone.Kept fun setup => setup.room = room) (beside : Beside room warden alone)
    (now : alone.clock.now = warden.clock.now) (advancing : (warden.run orders).2.Advancing) :
    Alike room (warden.run orders) (alone.run (orders.filter (·.concerns room))) := by
  induction orders generalizing warden alone with
  | nil => exact .of_beside beside now
  | cons order rest ih =>
    have leads : Leads (fun _ => True) warden (warden.step order) :=
      step_leads warden order fun _ _ => trivial
    have further : Leads (fun _ => True) _ ((warden.step order).2.run rest) :=
      run_leads _ fun _ _ => trivial
    have older : Older (warden.step order).2 (warden.run (order :: rest)).2 :=
      run_older (changes_sound leads.changes kept.sound) fun _ _ => trivial
    -- What can be counted at the end of the run could be counted all the time.
    have early := older.advancing further.settings advancing
    have stepped := kept.step (fun _ _ => trivial) early
    by_cases concerned : order.concerns room = true
    · have first := step_concerned kept keptAlone beside now concerned early
      have admitted (setup : Setup) (same : order = .begin setup) : setup.room = room := by
        subst same
        simpa [Order.concerns, Order.room?] using concerned
      have soundAlone := changes_sound (step_leads alone order admitted).changes keptAlone.sound
      have counted := first.beside.advancing soundAlone early
      have steppedAlone := keptAlone.step admitted counted
      rw [List.filter_cons_of_pos concerned]
      exact first.append (ih stepped steppedAlone first.beside first.now advancing)
    · -- The order names another room, and is not carried out by the warden of the room.
      obtain ⟨place, about, apart⟩ : ∃ place, order.room? = some place ∧ room ≠ place := by
        cases about : order.room? with
        | none => simp [Order.concerns, about] at concerned
        | some place =>
          have apart : room ≠ place := by simpa [Order.concerns, about, eq_comm] using concerned
          exact ⟨place, rfl, apart⟩
      obtain ⟨silent, same⟩ := (step_acts about fun _ _ => trivial).elsewhere kept.sound
        (step_source about) apart
      have later := ih stepped keptAlone (same.trans beside) (now.trans (now_step about).symm)
        advancing
      have heard : heardIn room (warden.run (order :: rest)).1
          = heardIn room ((warden.step order).2.run rest).1 := by
        show heardIn room ((warden.step order).1 ++ ((warden.step order).2.run rest).1) = _
        rw [heardIn_append, silent, List.nil_append]
      rw [List.filter_cons_of_neg concerned]
      exact ⟨later.heard.trans heard.symm, later.beside, later.now⟩

theorem Alike.trans {σ : Type} {one two three : List Notice × Warden σ}
    (first : Alike room one two) (second : Alike room two three) : Alike room one three :=
  ⟨second.heard.trans first.heard, first.beside.trans second.beside, second.now.trans first.now⟩

theorem Alike.symm {σ : Type} {one two : List Notice × Warden σ} (alike : Alike room one two) :
    Alike room two one :=
  ⟨alike.heard.symm, ⟨alike.beside.settings.symm, alike.beside.tactics.symm,
    alike.beside.source.symm, alike.beside.face.symm⟩, alike.now.symm⟩

/--
What is heard and seen of a room in a run is what is heard and seen of it without the
orders that concern other rooms only. So runs that ask the same of every room in the same
order are alike in every room, whatever comes first of what they ask of different rooms.
Time must be able to pass: rounds last, or none has reached the last number there is.
-/
theorem run_apart (settings : RoundSettings) (tactics : Tactics) (source : Fixed)
    (orders : List Order) (advancing : ((new settings tactics source).run orders).2.Advancing) :
    let began := new settings tactics source
    (∀ room, Alike room (began.run orders) (began.run (orders.filter (·.concerns room)))) ∧
    ∀ others, (began.run others).2.Advancing →
      (∀ room, others.filter (·.concerns room) = orders.filter (·.concerns room)) →
      ∀ room, Alike room (began.run orders) (began.run others) := by
  intro began
  have apart (orders : List Order) (advancing : (began.run orders).2.Advancing) (room : String) :
      Alike room (began.run orders) (began.run (orders.filter (·.concerns room))) :=
    run_alike (new_kept ..) (new_kept ..) ⟨rfl, rfl, rfl, rfl⟩ rfl advancing
  refine ⟨apart orders advancing, fun others advancingToo same room => ?_⟩
  have alone := apart others advancingToo room
  rw [same room] at alone
  exact (apart orders advancing room).trans alone.symm

/-- The same fight in another room. -/
def sampleYard : Setup := { sampleSetup with room := "yard" }

/-- What follows when fights have begun in two rooms: one of them is given up. -/
def sampleRest : List Order := [.pass 6000, .abort "yard", .pass 12000]

theorem run_apart_sample :
    let began := new {} .npcsOnly (⟨9⟩ : Fixed)
    let orders := .begin sampleSetup :: .begin sampleYard :: sampleRest
    let others := .begin sampleYard :: .begin sampleSetup :: sampleRest
    (began.run orders).2.Advancing ∧ (began.run others).2.Advancing ∧
      (∀ room, others.filter (·.concerns room) = orders.filter (·.concerns room)) ∧
      (∀ room, Alike room (began.run orders) (began.run others)) ∧
      (heardIn "cellar" (began.run orders).1).length = 9 ∧
      (heardIn "yard" (began.run orders).1).length = 4 := by
  intro began orders others
  have advancing : (began.run orders).2.Advancing := .inl (by decide +kernel)
  have advancingToo : (began.run others).2.Advancing := .inl (by decide +kernel)
  have same (room : String) :
      others.filter (·.concerns room) = orders.filter (·.concerns room) := by
    have one : (Order.begin sampleSetup).concerns room = decide ("cellar" = room) := rfl
    have two : (Order.begin sampleYard).concerns room = decide ("yard" = room) := rfl
    -- No room is both of them, so no two orders of one room have changed places.
    by_cases cellar : "cellar" = room
    · have yard : ¬ "yard" = room := cellar ▸ by decide
      simp only [others, orders, List.filter_cons, one, two, cellar, yard, decide_true,
        decide_false, if_true, Bool.false_eq_true, if_false]
    · simp only [others, orders, List.filter_cons, one, two, cellar, decide_false,
        Bool.false_eq_true, if_false]
  have alike := (run_apart {} .npcsOnly ⟨9⟩ orders advancing).2 others advancingToo same
  exact ⟨advancing, advancingToo, same, alike, by decide +kernel, by decide +kernel⟩

end Warden

end Fray
