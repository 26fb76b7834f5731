import Fray.Proofs.Warden.Deadlines

/-!
# Time passes

When time passes, everybody who is due is woken in order. A sleeper of an earlier
generation wakes in vain; the alarm of a room resolves its open round, which sets
the timer anew, but no earlier than a millisecond later, or frees the room. So
the number of wake-ups is bounded, and at the end nobody who is due still sleeps.

## Main result

`run_punctual`: after every run the rooms with a timer are those with an active
encounter, and no open round is past its deadline.
-/

namespace Fray

namespace Warden

variable {σ : Type} {admits : Setup → Prop}

/-! ### Waking -/

theorem mem_sleepers {warden : Warden σ} {room : String} {sleeper : Sleeper} :
    (room, sleeper) ∈ warden.sleepers ↔
      ∃ timer, warden.timers.get? room = some timer ∧ sleeper ∈ timer.sleepers := by
  simp only [sleepers, List.mem_flatMap, List.mem_map, Prod.mk.injEq, Prod.exists]
  constructor
  · rintro ⟨_, timer, member, _, inside, rfl, rfl⟩
    exact ⟨timer, Table.mem_entries.mp member, inside⟩
  · rintro ⟨timer, found, inside⟩
    exact ⟨room, timer, Table.mem_entries.mpr found, sleeper, inside, rfl, rfl⟩

/-- Nobody is due by a time, or whoever wakes first is. -/
theorem due_cases (warden : Warden σ) (time : Nat) :
    (∀ room, warden.SleepsPast time room) ∨
    ∃ room sleeper, Sleeper.earliest warden.sleepers = some (room, sleeper) ∧
      sleeper.due ≤ time := by
  cases first : Sleeper.earliest warden.sleepers with
  | none =>
    left
    intro room timer present sleeper inside
    have member : (room, sleeper) ∈ warden.sleepers := mem_sleepers.mpr ⟨timer, present, inside⟩
    rw [Sleeper.eq_nil_of_earliest first] at member
    cases member
  | some found =>
    obtain ⟨owner, head⟩ := found
    by_cases isDue : head.due ≤ time
    · exact .inr ⟨owner, head, rfl, isDue⟩
    · left
      intro room timer present sleeper inside
      have member : (room, sleeper) ∈ warden.sleepers := mem_sleepers.mpr ⟨timer, present, inside⟩
      exact Nat.lt_of_lt_of_le (Nat.lt_of_not_le isDue) (Sleeper.earliest_le first _ member)

/-- How many wake-ups there can still be until a time. -/
def wakings (time : Nat) (warden : Warden σ) : Nat := warden.timers.total (Timer.wakings time)

/-- A closed round adds wake-ups by the next alarm only. -/
theorem wakings_putClosed {warden : Warden σ} {room : String} {number : Nat}
    {encounter : Encounter} {closing : Closing} {timer : Timer Count} (time : Nat)
    (present : warden.timers.get? room = some timer) (current : timer.IsCurrent) :
    (warden.putClosed room number encounter closing).wakings time
      ≤ warden.wakings time + (time + 1 - (warden.clock.now + warden.settings.duration)) := by
  have erased : (warden.timers.erase room).total (Timer.wakings time) + timer.wakings time
      = warden.wakings time := Table.total_erase present
  unfold putClosed
  cases closing.aftermath with
  | ended standing =>
    show (warden.timers.erase room).total (Timer.wakings time) ≤ _
    omega
  | lapsed events standing =>
    show (warden.timers.erase room).total (Timer.wakings time) ≤ _
    omega
  | next events commits =>
    let armed := (timer.arm warden.clock warden.settings.duration closing.encounter.round).1
    have same : ((warden.followEncounter number encounter closing.encounter).arm room
        closing.encounter.round).timers = warden.timers.insert room armed := by
      simp only [arm, followEncounter, setEncounter, present, Option.getD_some]
      rfl
    -- The armed timer takes the place of the old one, and adds the new alarm at most.
    have inserted : (warden.timers.insert room armed).total (Timer.wakings time)
        + timer.wakings time = warden.wakings time + armed.wakings time :=
      Table.total_insert present armed
    have lighter : armed.wakings time ≤ _ :=
      Timer.wakings_arm current time warden.clock warden.settings.duration closing.encounter.round
    simp only [wakings, same] at inserted ⊢
    omega

/-- A warden while an alarm goes off: the sleeper is gone, and it is its time. -/
def awake (warden : Warden σ) (room : String) (timer : Timer Count) (sleeper : Sleeper) :
    Warden σ :=
  { warden with
    timers := warden.timers.insert room (timer.wake sleeper).2
    clock := { warden.clock with now := max warden.clock.now sleeper.due } }

theorem awake_punctualBut {warden : Warden σ} {room : String} {timer : Timer Count}
    {sleeper : Sleeper} {since : Nat} (punctual : warden.Punctual since)
    (present : warden.timers.get? room = some timer) (current : timer.IsCurrent) :
    (warden.awake room timer sleeper).PunctualBut room since := by
  have timers (other : String) : (warden.awake room timer sleeper).timers.get? other
      = if other = room then some (timer.wake sleeper).2 else warden.timers.get? other :=
    Table.get?_insert ..
  constructor
  · intro other
    refine Eq.trans ?_ (punctual.rooms other)
    simp only [Table.contains, timers]
    split
    next same => simp [same, present]
    · rfl
  · intro other different number encounter active
    obtain ⟨armed, time, found, rest⟩ := punctual.set other number encounter active
    exact ⟨armed, time, (timers other).trans ((if_neg different).trans found), rest⟩
  · intro other armed found one member
    rw [timers] at found
    split at found
    · cases found
      exact punctual.late room timer present one (Timer.mem_wake member)
    · exact punctual.late other armed found one member
  · intro armed found
    rw [timers, if_pos rfl] at found
    cases found
    exact Timer.wake_isCurrent current sleeper

theorem PunctualBut.punctual {warden : Warden σ} {room : String} {since : Nat}
    (but : warden.PunctualBut room since) (set : warden.SetAt room) : warden.Punctual since := by
  refine ⟨but.rooms, fun other => ?_, but.late⟩
  by_cases same : other = room
  · exact same ▸ set
  · exact but.set other same

theorem now_settle (warden : Warden σ) (room : String) (number : Nat) (encounter : Encounter)
    (closing : Closing) :
    (warden.settle room number encounter closing).2.clock.now = warden.clock.now := by
  unfold settle putClosed
  cases closing.aftermath <;> rfl

/-- Timers that are worth their sleepers and so much more are worth no more than all of these. -/
theorem total_le {warden : Warden σ} {worth : Timer Count → Nat} {bound : Nat}
    (each : ∀ room timer, warden.timers.get? room = some timer →
      worth timer ≤ timer.sleepers.length + bound) :
    warden.timers.total worth ≤ warden.sleepers.length + warden.timers.size * bound := by
  have single : ∀ timer ∈ warden.timers.values, worth timer ≤ timer.sleepers.length + bound := by
    intro timer member
    obtain ⟨⟨room, _⟩, entry, rfl⟩ := List.mem_map.mp member
    exact each room _ (Table.mem_entries.mp entry)
  have sleeping : warden.sleepers.length
      = (warden.timers.values.map fun timer => timer.sleepers.length).sum := by
    simp [sleepers, Table.values, List.length_flatMap, Function.comp_def]
  calc warden.timers.total worth
      ≤ (warden.timers.values.map fun timer => timer.sleepers.length + bound).sum :=
        List.sum_le_sum single
    _ = warden.sleepers.length + warden.timers.size * bound := by
        rw [List.sum_map_add, sleeping]
        simp [Table.values, Table.size, Function.comp_def]

/-- There are no more wake-ups than time is allowed for. -/
theorem wakings_le_wakeUps {warden : Warden σ} (sound : warden.Sound admits)
    (punctual : warden.Punctual warden.clock.now) (lasting : 1 ≤ warden.settings.duration)
    (time : Nat) : warden.wakings time ≤ warden.wakeUps time := by
  -- Without a duration of rounds there would be no bound at all.
  have positive : warden.settings.duration ≠ 0 := by omega
  rw [wakeUps, if_neg positive]
  refine total_le fun room timer present => ?_
  obtain ⟨_, _, due, _, set, late⟩ := punctual.isSet sound present
  have bound := set.wakings_le time
  omega

theorem abort_punctual {warden : Warden σ} (sound : warden.Sound admits)
    (punctual : warden.Punctual warden.clock.now) (room : String) :
    (warden.abort room).2.Punctual (warden.abort room).2.clock.now := by
  unfold abort
  cases active : warden.encounter? room with
  | none =>
    -- A room without an encounter has no timer, so none is lost.
    have empty : warden.timers.contains room = false := by
      rw [punctual.rooms, Bool.eq_false_iff]
      intro inside
      obtain ⟨_, _, found⟩ := sound.active_of_contains inside
      cases active.symm.trans found
    have vacant : warden.timers.get? room = none := by simpa [Table.contains] using empty
    simp only [Table.erase_of_absent vacant]
    exact punctual
  | some found => exact giveUp_punctual sound punctual active

theorem new_punctual (settings : RoundSettings) (tactics : Tactics) (source : σ) (since : Nat) :
    (new settings tactics source).Punctual since := by
  constructor
  · intro room
    rfl
  · intro room number encounter active
    cases (encounter?_eq_some.mp active).1
  · intro room timer present
    cases present

section Runs

variable [RandomSource σ]

theorem wake_eq {warden : Warden σ} {room : String} {timer : Timer Count} {sleeper : Sleeper}
    (present : warden.timers.get? room = some timer) :
    warden.wake room sleeper = match (timer.wake sleeper).1 with
      | none => ([], warden.awake room timer sleeper)
      | some round => (warden.awake room timer sleeper).resolve room round := by
  simp only [wake, present]
  rfl

/-- Resolving the open round takes care of its room, and takes no time. -/
theorem resolve_punctual {warden : Warden σ} {room : String} {since number : Nat}
    {encounter : Encounter} (sound : warden.Sound admits) (but : warden.PunctualBut room since)
    (early : since ≤ warden.clock.now) (lasting : 1 ≤ warden.settings.duration)
    (active : warden.encounter? room = some (number, encounter)) :
    (warden.resolve room encounter.round).2.Punctual since ∧
    (warden.resolve room encounter.round).2.clock.now = warden.clock.now ∧
    ∀ time timer, warden.timers.get? room = some timer →
      (warden.resolve room encounter.round).2.wakings time
        ≤ warden.wakings time + (time + 1 - (warden.clock.now + warden.settings.duration)) := by
  obtain ⟨closing, source, played, settled⟩ := resolve_open active (sound.active_open active).2.1
  rw [settled]
  refine ⟨?_, now_settle .., fun time timer present => ?_⟩
  · exact settle_punctual (sound.of_source source) ⟨but.rooms, but.set, but.late, but.current⟩
      early lasting active (closing.closes_of_played played)
  · exact wakings_putClosed time present (but.current timer present)

/-- A sleeper of an earlier generation wakes in vain. -/
theorem wake_stale {warden : Warden σ} {room : String} {timer : Timer Count} {sleeper : Sleeper}
    {since : Nat} (sound : warden.Sound admits) (punctual : warden.Punctual since)
    (present : warden.timers.get? room = some timer) (inside : sleeper ∈ timer.sleepers)
    (stale : sleeper.generation ≠ timer.generation) :
    warden.wake room sleeper = ([], warden.awake room timer sleeper) ∧
      (warden.awake room timer sleeper).Punctual since := by
  obtain ⟨_, _, _, _, set, _⟩ := punctual.isSet sound present
  have but : (warden.awake room timer sleeper).PunctualBut room since :=
    awake_punctualBut punctual present set.isCurrent
  have vain := (set.wake_stale inside stale).1
  refine ⟨by simp only [wake_eq present, vain], but.punctual fun number encounter active => ?_⟩
  obtain ⟨armed, time, found, opening, isSet⟩ := punctual.set room number encounter active
  cases found.symm.trans present
  exact ⟨_, time, (Table.get?_insert ..).trans (if_pos rfl), opening,
    (isSet.wake_stale inside stale).2⟩

/-- The alarm of a room resolves its open round. -/
theorem wake_alarm {warden : Warden σ} {room : String} {timer : Timer Count} {sleeper : Sleeper}
    {since : Nat} (sound : warden.Sound admits) (punctual : warden.Punctual since)
    (present : warden.timers.get? room = some timer) (inside : sleeper ∈ timer.sleepers)
    (current : sleeper.generation = timer.generation) :
    ∃ number encounter,
      (warden.awake room timer sleeper).encounter? room = some (number, encounter) ∧
      warden.wake room sleeper
        = (warden.awake room timer sleeper).resolve room encounter.round := by
  obtain ⟨number, encounter, due, active, set, _⟩ := punctual.isSet sound present
  have alarm := (set.wake_current inside current).1
  exact ⟨number, encounter, active, by simp only [wake_eq present, alarm]⟩

/-- A wake-up that is due leaves a warden punctual, and there are fewer to come. -/
theorem wake_punctual {warden : Warden σ} {room : String} {sleeper : Sleeper} {since time : Nat}
    (sound : warden.Sound admits) (punctual : warden.Punctual since)
    (early : since ≤ warden.clock.now) (lasting : 1 ≤ warden.settings.duration)
    (member : (room, sleeper) ∈ warden.sleepers) (isDue : sleeper.due ≤ time) :
    (warden.wake room sleeper).2.Punctual since ∧
    (warden.wake room sleeper).2.wakings time < warden.wakings time ∧
    since ≤ (warden.wake room sleeper).2.clock.now := by
  obtain ⟨timer, present, inside⟩ := mem_sleepers.mp member
  obtain ⟨_, _, _, _, set, _⟩ := punctual.isSet sound present
  let awake := warden.awake room timer sleeper
  have later : warden.clock.now ≤ awake.clock.now := Nat.le_max_left ..
  have reached : sleeper.due ≤ awake.clock.now := Nat.le_max_right ..
  have taken := Timer.wakings_wake time inside
  have total : awake.wakings time + timer.wakings time
      = warden.wakings time + (timer.wake sleeper).2.wakings time := Table.total_insert present _
  by_cases current : sleeper.generation = timer.generation
  · obtain ⟨number, encounter, active, resolved⟩ :
        ∃ number encounter, awake.encounter? room = some (number, encounter) ∧
          warden.wake room sleeper = awake.resolve room encounter.round :=
      wake_alarm sound punctual present inside current
    have awakeSound : awake.Sound admits := Change.sound (.idle _ _) sound
    have but : awake.PunctualBut room since :=
      awake_punctualBut punctual present set.isCurrent
    have weight : timer.weight time sleeper = time + 1 - sleeper.due := if_pos current
    obtain ⟨still, now, fewer⟩ :=
      resolve_punctual awakeSound but (early.trans later) lasting active
    have fewer := fewer time _ ((Table.get?_insert ..).trans (if_pos rfl))
    have same : awake.settings.duration = warden.settings.duration := rfl
    rw [resolved]
    -- The next deadline is later than this one by the duration of a round.
    exact ⟨still, by omega, by omega⟩
  · obtain ⟨vain, still⟩ : warden.wake room sleeper = ([], awake) ∧ awake.Punctual since :=
      wake_stale sound punctual present inside current
    have weight : timer.weight time sleeper = 1 := (if_neg current).trans (if_pos isDue)
    rw [vain]
    refine ⟨still, ?_, early.trans later⟩
    show awake.wakings time < warden.wakings time
    omega

/-! ### Passing time -/

/-- When nobody is due, nobody wakes. -/
theorem wakeUntil_idle {warden : Warden σ} {time : Nat}
    (late : ∀ room, warden.SleepsPast time room) (most : Nat) :
    wakeUntil time most warden = ([], warden) := by
  cases most with
  | zero => rfl
  | succ most =>
    simp only [wakeUntil]
    split
    · rfl
    next room sleeper first =>
      obtain ⟨timer, present, asleep⟩ := mem_sleepers.mp (Sleeper.earliest_mem first)
      exact if_neg (Nat.not_le_of_lt (late room timer present sleeper asleep))

/-- Whoever is due first wakes, and then the others. -/
theorem wakeUntil_due {warden : Warden σ} {room : String} {sleeper : Sleeper} {time most : Nat}
    (first : Sleeper.earliest warden.sleepers = some (room, sleeper)) (isDue : sleeper.due ≤ time) :
    wakeUntil time (most + 1) warden =
      let woken := warden.wake room sleeper
      let rest := wakeUntil time most woken.2
      (woken.1 ++ rest.1, rest.2) := by
  simp only [wakeUntil, first, isDue, if_true]

/-- With enough wake-ups everybody who is due by a time is woken. -/
theorem wakeUntil_punctual {warden : Warden σ} {since time most : Nat}
    (sound : warden.Sound admits) (punctual : warden.Punctual since)
    (early : since ≤ warden.clock.now) (lasting : 1 ≤ warden.settings.duration)
    (enough : warden.wakings time ≤ most) :
    (wakeUntil time most warden).2.Punctual since ∧
    ∀ room, (wakeUntil time most warden).2.SleepsPast time room := by
  induction most generalizing warden with
  | zero =>
    refine ⟨punctual, fun room timer present => Timer.due_of_wakings_eq_zero ?_⟩
    have bound : timer.wakings time ≤ warden.wakings time := Table.worth_le_total present
    omega
  | succ most ih =>
    rcases warden.due_cases time with late | ⟨room, sleeper, first, isDue⟩
    · rw [wakeUntil_idle late]
      exact ⟨punctual, late⟩
    · rw [wakeUntil_due first isDue]
      obtain ⟨still, fewer, later⟩ :=
        wake_punctual sound punctual early lasting (Sleeper.earliest_mem first) isDue
      have leads : Leads admits warden (warden.wake room sleeper) := wake_leads ..
      refine ih (changes_sound leads.changes sound) still later ?_ (by omega)
      rw [leads.settings]
      exact lasting

theorem pass_punctual {warden : Warden σ} (sound : warden.Sound admits)
    (punctual : warden.Punctual warden.clock.now) (lasting : 1 ≤ warden.settings.duration)
    (duration : Nat) :
    (warden.pass duration).2.Punctual (warden.pass duration).2.clock.now := by
  obtain ⟨woken, late⟩ := wakeUntil_punctual sound punctual (Nat.le_refl _) lasting
    (wakings_le_wakeUps sound punctual lasting (warden.clock.now + duration))
  exact ⟨woken.rooms, woken.set, late⟩

/-! ### Runs -/

theorem begin_punctual {warden : Warden σ} {setup : Setup} {number : Nat}
    {result : List Notice × Warden σ} (sound : warden.Sound admits)
    (punctual : warden.Punctual warden.clock.now) (lasting : 1 ≤ warden.settings.duration)
    (begun : warden.begin setup = .ok (number, result)) :
    result.2.Punctual result.2.clock.now := by
  unfold begin at begun
  split at begun
  · cases begun
  next occupied =>
    cases begun
    have free : warden.rooms.contains setup.room = false := by simpa using occupied
    exact enter_punctual (sound.of_source _) ⟨punctual.rooms, punctual.set, punctual.late⟩ (Nat.le_refl _)
      lasting free

theorem resolve_any_punctual {warden : Warden σ} (sound : warden.Sound admits)
    (punctual : warden.Punctual warden.clock.now) (lasting : 1 ≤ warden.settings.duration)
    (room : String) (round : Count) :
    (warden.resolve room round).2.Punctual (warden.resolve room round).2.clock.now := by
  rcases warden.resolve_cases room round with ignored | ⟨number, encounter, active, _, rfl⟩
  · rw [ignored]
    exact punctual
  · obtain ⟨still, now, _⟩ :=
      resolve_punctual sound (punctual.but sound room) (Nat.le_refl _) lasting active
    rw [now]
    exact still

theorem submit_punctual {warden : Warden σ} {room id : String} {action : Action}
    {result : List Notice × Warden σ} (sound : warden.Sound admits)
    (punctual : warden.Punctual warden.clock.now) (lasting : 1 ≤ warden.settings.duration)
    (submitted : warden.submit room id action = .ok result) :
    result.2.Punctual result.2.clock.now := by
  unfold submit at submitted
  split at submitted
  · cases submitted
  next number encounter active =>
    split at submitted
    · cases submitted
    next committed accepted =>
      have still := accept_punctual sound punctual active accepted
      cases submitted
      split
      · exact resolve_any_punctual (accept_sound sound active accepted) still lasting room _
      · exact still

theorem step_punctual {warden : Warden σ} (sound : warden.Sound admits)
    (punctual : warden.Punctual warden.clock.now) (lasting : 1 ≤ warden.settings.duration)
    (order : Order) : (warden.step order).2.Punctual (warden.step order).2.clock.now := by
  cases order with
  | begin setup =>
    simp only [step]
    split
    next begun => exact begin_punctual sound punctual lasting begun
    · exact punctual
  | submit room id action =>
    simp only [step]
    split
    next submitted => exact submit_punctual sound punctual lasting submitted
    · exact punctual
  | resolve room round => exact resolve_any_punctual sound punctual lasting room round
  | abort room => exact abort_punctual sound punctual room
  | pass duration => exact pass_punctual sound punctual lasting duration

theorem run_stays_punctual {warden : Warden σ} (sound : warden.Sound admits)
    (punctual : warden.Punctual warden.clock.now) (lasting : 1 ≤ warden.settings.duration)
    {orders : List Order} (admitted : ∀ setup, .begin setup ∈ orders → admits setup) :
    (warden.run orders).2.Punctual (warden.run orders).2.clock.now := by
  induction orders generalizing warden with
  | nil => exact punctual
  | cons order rest ih =>
    have leads := step_leads warden order fun setup same =>
      admitted setup (same ▸ List.mem_cons_self)
    have lasts : 1 ≤ (warden.step order).2.settings.duration := by
      rw [leads.settings]
      exact lasting
    exact ih (changes_sound leads.changes sound) (step_punctual sound punctual lasting order) lasts
      fun setup member => admitted setup (List.mem_cons_of_mem _ member)

/--
After every run of a warden whose rounds last, a room has a timer just if it has
an active encounter. The timer is set for the open round, the time at which that
round was opened and the duration of a round later, and this is still to come.
-/
theorem run_punctual {settings : RoundSettings} (lasting : 1 ≤ settings.duration)
    (tactics : Tactics) (source : σ) (orders : List Order) :
    let warden := ((new settings tactics source).run orders).2
    (∀ room, warden.timers.contains room = warden.rooms.contains room) ∧
    ∀ room, warden.rooms.contains room = true →
      ∃ number encounter timer time, warden.encounter? room = some (number, encounter) ∧
        warden.timers.get? room = some timer ∧ timer.isArmed = true ∧
        (warden.openings number).getLast? = some (encounter.round, time) ∧
        timer.IsSet encounter.round (time + settings.duration) ∧
        warden.clock.now < time + settings.duration := by
  have admitted : ∀ setup, .begin setup ∈ orders → True := fun _ _ => trivial
  have sound := run_sound settings tactics source admitted
  have leads := run_leads (new settings tactics source) admitted
  have punctual := run_stays_punctual (new_sound settings tactics source)
    (new_punctual settings tactics source _) lasting admitted
  have same : ((new settings tactics source).run orders).2.settings = settings := leads.settings
  generalize ((new settings tactics source).run orders).2 = warden at *
  refine ⟨punctual.rooms, fun room inside => ?_⟩
  obtain ⟨number, encounter, active⟩ := sound.active_of_contains inside
  obtain ⟨timer, time, present, opening, set⟩ := punctual.set room number encounter active
  rw [same] at set
  have armed : timer.isArmed = true := by rw [Timer.isArmed, set.pending]; rfl
  refine ⟨number, encounter, timer, time, active, present, armed, opening, set, ?_⟩
  obtain ⟨stale, place, sleepers, _⟩ := set.sleepers
  exact punctual.late room timer present ⟨timer.generation, time + settings.duration, place⟩
    (by simp [sleepers])

/-- The third round of the fight is open at its end, since the deadline of the second has passed. -/
theorem run_punctual_sample :
    let settings : RoundSettings := {}
    let warden := ((new settings .npcsOnly (⟨9⟩ : Fixed)).run sampleOrders.dropLast).2
    1 ≤ settings.duration ∧ warden.rooms.contains "cellar" = true ∧
    ∃ number encounter timer time, warden.encounter? "cellar" = some (number, encounter) ∧
      warden.timers.get? "cellar" = some timer ∧ timer.isArmed = true ∧
      (warden.openings number).getLast? = some (encounter.round, time) ∧
      timer.IsSet encounter.round (time + settings.duration) ∧
      warden.clock.now < time + settings.duration := by
  have lasting : 1 ≤ ({} : RoundSettings).duration := by decide
  have inside : ((new {} .npcsOnly (⟨9⟩ : Fixed)).run sampleOrders.dropLast).2.rooms.contains
      "cellar" = true := by decide +kernel
  exact ⟨lasting, inside,
    (run_punctual lasting .npcsOnly (⟨9⟩ : Fixed) sampleOrders.dropLast).2 "cellar" inside⟩

end Runs

end Warden

end Fray
