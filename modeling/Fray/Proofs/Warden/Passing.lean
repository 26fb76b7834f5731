import Fray.Proofs.Warden.Lines

/-!
# Time advances

Passing time comes to an end. If rounds last, every alarm sets the next one later than
itself. If they take no time, an alarm is followed by another one at once, until the
encounter is over; then it is the numbers of the rounds that go up, and as long as they
can be counted, this ends as well. Either way nobody who is due is left asleep.

## Main results

`wakeUntil_finishes`, and `Kept.step` for all that holds of a warden between orders.
-/

namespace Fray

/-- The wake-ups that a timer can cause: who sleeps, and an alarm for every round to come. -/
def Timer.toll (timer : Timer Count) : Nat :=
  timer.sleepers.length + match timer.pending with
    | none => 0
    | some round => 4294967295 - round.toNat

namespace Timer

variable {timer : Timer Count} {sleeper : Sleeper}

theorem length_wake {α : Type} {timer : Timer α} (asleep : sleeper ∈ timer.sleepers) :
    (timer.wake sleeper).2.sleepers.length + 1 = timer.sleepers.length := by
  rw [wake_sleepers]
  exact List.length_erase_add_one asleep

/-- Who wakes in vain takes itself from the toll. -/
theorem toll_wake_vain (asleep : sleeper ∈ timer.sleepers)
    (vain : (timer.wake sleeper).1 = none) : (timer.wake sleeper).2.toll + 1 = timer.toll := by
  have shorter := length_wake asleep
  have same : (timer.wake sleeper).2.pending = timer.pending := by
    unfold wake at vain ⊢
    split at vain
    next current => rw [if_pos current, ← vain]
    next stale => rw [if_neg stale]
  unfold toll
  rw [same]
  omega

/-- Who takes the alarm leaves the other sleepers, and no alarm. -/
theorem wake_alarm {round : Count} (alarm : (timer.wake sleeper).1 = some round) :
    timer.pending = some round ∧ (timer.wake sleeper).2.pending = none := by
  unfold wake at alarm ⊢
  split at alarm
  next current =>
    rw [if_pos current]
    exact ⟨alarm, rfl⟩
  next stale => cases alarm

end Timer

namespace Warden

variable {σ : Type} {admits : Setup → Prop} {warden changed : Warden σ} {room : String}
  {time : Nat}

/-- No encounter has reached the last round that can be counted. -/
def Countable (warden : Warden σ) : Prop :=
  ∀ encounter ∈ warden.encounters, encounter.round.toNat < 2 ^ 32 - 1

/-- Rounds last, or they can be counted. -/
def Advancing (warden : Warden σ) : Prop := 1 ≤ warden.settings.duration ∨ warden.Countable

theorem Older.countable (older : Older warden changed) (countable : changed.Countable) :
    warden.Countable := by
  intro encounter member
  obtain ⟨number, present⟩ := List.mem_iff_getElem?.mp member
  obtain ⟨later, found, _, onward⟩ := older number encounter present
  exact Nat.lt_of_le_of_lt onward (countable later (List.mem_of_getElem? found))

theorem Older.advancing (older : Older warden changed)
    (settings : changed.settings = warden.settings) (advancing : changed.Advancing) :
    warden.Advancing := by
  rcases advancing with lasting | countable
  · exact .inl (settings ▸ lasting)
  · exact .inr (older.countable countable)

/-! ### The toll of a warden -/

/-- A closed round is followed by an alarm for the next one at most. -/
theorem toll_putClosed {number : Nat} {encounter : Encounter} {closing : Closing}
    {timer : Timer Count} {commits : List Commit}
    (present : warden.timers.get? room = some timer)
    (closes : closing.Closes encounter commits) (counted : encounter.round.toNat < 2 ^ 32 - 1) :
    (warden.putClosed room number encounter closing).timers.total Timer.toll + timer.toll
      ≤ warden.timers.total Timer.toll + timer.sleepers.length
        + (4294967295 - encounter.round.toNat) := by
  have erased : (warden.timers.erase room).total Timer.toll + timer.toll
      = warden.timers.total Timer.toll := Table.total_erase present
  have aftermath := closes.aftermath
  unfold putClosed
  cases kind : closing.aftermath with
  | ended standing =>
    show (warden.timers.erase room).total Timer.toll + _ ≤ _
    omega
  | lapsed events standing =>
    show (warden.timers.erase room).total Timer.toll + _ ≤ _
    omega
  | next events commits =>
    rw [kind] at aftermath
    let armed := (timer.arm warden.clock warden.settings.duration closing.encounter.round).1
    have same : ((warden.followEncounter number encounter closing.encounter).arm room
        closing.encounter.round).timers = warden.timers.insert room armed := by
      simp only [arm, followEncounter, setEncounter, present, Option.getD_some]
      rfl
    have inserted : (warden.timers.insert room armed).total Timer.toll + timer.toll
        = warden.timers.total Timer.toll + armed.toll := Table.total_insert present armed
    -- One more sleeps, and there is one round less to come.
    have toll : armed.toll
        = timer.sleepers.length + 1 + (4294967295 - closing.encounter.round.toNat) := by
      simp [armed, Timer.toll, Timer.arm]
    have next : closing.encounter.round.toNat = encounter.round.toNat + 1 := by
      have one := Count.toNat_one
      rw [aftermath.1, Count.toNat_add, one]
      omega
    simp only [same] at inserted ⊢
    omega

variable [RandomSource σ]

/-- Every wake-up lowers the toll, as long as rounds can be counted. -/
theorem wake_toll {timer : Timer Count} {sleeper : Sleeper} (sound : warden.Sound admits)
    (present : warden.timers.get? room = some timer) (asleep : sleeper ∈ timer.sleepers)
    (countable : warden.Countable) :
    (warden.wake room sleeper).2.timers.total Timer.toll < warden.timers.total Timer.toll := by
  let awake := warden.awake room timer sleeper
  have inserted : awake.timers.total Timer.toll + timer.toll
      = warden.timers.total Timer.toll + (timer.wake sleeper).2.toll :=
    Table.total_insert present _
  have shorter := Timer.length_wake asleep
  rw [wake_eq present]
  cases alarm : (timer.wake sleeper).1 with
  | none =>
    have vain := Timer.toll_wake_vain asleep alarm
    show awake.timers.total Timer.toll < _
    omega
  -- The alarm counted for all rounds that can follow its own; the next one counts for fewer.
  | some round =>
    obtain ⟨before, after⟩ := Timer.wake_alarm alarm
    have old : timer.toll = timer.sleepers.length + (4294967295 - round.toNat) := by
      simp only [Timer.toll, before]
    have new : (timer.wake sleeper).2.toll = (timer.wake sleeper).2.sleepers.length := by
      simp only [Timer.toll, after, Nat.add_zero]
    show (awake.resolve room round).2.timers.total Timer.toll < _
    rcases awake.resolve_cases room round with ignored | ⟨number, encounter, active, going, rfl⟩
    · rw [ignored]
      show awake.timers.total Timer.toll < _
      omega
    · have awakeSound : awake.Sound admits := Change.sound (.idle _ _) sound
      obtain ⟨_, _, _, commits, keeps, _⟩ := awakeSound.active_open active
      obtain ⟨closing, source, played, settled⟩ := resolve_open active going
      have counted := countable encounter (List.mem_of_getElem? (encounter?_eq_some.mp active).2)
      have own : awake.timers.get? room = some (timer.wake sleeper).2 :=
        (Table.get?_insert ..).trans (if_pos rfl)
      have closed : (({ awake with source := source } : Warden σ).putClosed room number encounter
          closing).timers.total Timer.toll + (timer.wake sleeper).2.toll
            ≤ awake.timers.total Timer.toll + (timer.wake sleeper).2.sleepers.length
              + (4294967295 - encounter.round.toNat) :=
        toll_putClosed own (closing.closes_of_played played commits keeps) counted
      rw [settled]
      show (({ awake with source := source } : Warden σ).putClosed room number encounter
          closing).timers.total Timer.toll < _
      omega

theorem wakeUntil_older (sound : warden.Sound admits) (time most : Nat) :
    Older warden (wakeUntil time most warden).2 :=
  wakeUntil_keeps (fun sound deed older => older.trans (deed.older sound)) sound
    (.refl warden) time most

/-- With enough wake-ups nobody who is due is left asleep, as long as rounds can be counted. -/
theorem wakeUntil_counted {most : Nat} (sound : warden.Sound admits)
    (enough : warden.timers.total Timer.toll ≤ most)
    (countable : (wakeUntil time most warden).2.Countable) :
    ∀ room, (wakeUntil time most warden).2.SleepsPast time room := by
  induction most generalizing warden with
  | zero =>
    intro room timer present sleeper asleep
    have bound : timer.toll ≤ warden.timers.total Timer.toll := Table.worth_le_total present
    have awake : 0 < timer.sleepers.length := List.length_pos_of_mem asleep
    have within : timer.sleepers.length ≤ timer.toll := Nat.le_add_right ..
    omega
  | succ most ih =>
    -- No encounter is further on now than it will be when all have woken.
    have now := (wakeUntil_older sound time (most + 1)).countable countable
    rcases warden.due_cases time with late | ⟨room, sleeper, first, isDue⟩
    · rw [wakeUntil_idle late]
      exact late
    · obtain ⟨timer, present, asleep⟩ := mem_sleepers.mp (Sleeper.earliest_mem first)
      have acts : Acts admits room warden (warden.wake room sleeper) := wake_acts present asleep
      have lower := wake_toll sound present asleep now
      rw [wakeUntil_due first isDue] at countable ⊢
      exact ih (acts.sound sound) (by omega) countable

omit [RandomSource σ] in
theorem toll_le_wakeUps (brief : warden.settings.duration = 0) (time : Nat) :
    warden.timers.total Timer.toll ≤ warden.wakeUps time := by
  rw [wakeUps, if_pos brief]
  refine total_le fun room timer _ => Nat.add_le_add_left ?_ _
  have all : Nat.pow 2 32 = 4294967296 := rfl
  split <;> omega

/-! ### Between orders -/

/-- What holds of a warden between orders. -/
structure Kept (admits : Setup → Prop) (warden : Warden σ) : Prop extends
    Poised admits warden where
  prompt : 1 ≤ warden.settings.duration → warden.Punctual warden.clock.now

omit [RandomSource σ] in
theorem new_kept (settings : RoundSettings) (tactics : Tactics) (source : σ) :
    (new settings tactics source).Kept admits :=
  ⟨⟨new_sound settings tactics source, new_tidy settings tactics source,
    new_orderly settings tactics source⟩, fun _ => new_punctual settings tactics source _⟩

/-- When time passes, nobody who is due is left asleep. -/
theorem wakeUntil_finishes (kept : warden.Kept admits) (time : Nat)
    (advancing : (wakeUntil time (warden.wakeUps time) warden).2.Advancing) :
    ∀ room, (wakeUntil time (warden.wakeUps time) warden).2.SleepsPast time room := by
  -- Either the time that is left bounds the wake-ups, or the rounds that are left do.
  by_cases lasting : 1 ≤ warden.settings.duration
  · exact (wakeUntil_punctual kept.sound (kept.prompt lasting) (Nat.le_refl _) lasting
      (wakings_le_wakeUps kept.sound (kept.prompt lasting) lasting time)).2
  · have leads : Leads admits warden (wakeUntil time (warden.wakeUps time) warden) :=
      wakeUntil_leads ..
    rcases advancing with long | countable
    · rw [leads.settings] at long
      exact absurd long lasting
    · exact wakeUntil_counted kept.sound (toll_le_wakeUps (by omega) time) countable

theorem wakeUntil_add (warden : Warden σ) (time most more : Nat) :
    wakeUntil time (most + more) warden =
      let first := wakeUntil time most warden
      let rest := wakeUntil time more first.2
      (first.1 ++ rest.1, rest.2) := by
  induction most generalizing warden with
  | zero => simp only [wakeUntil, Nat.zero_add, List.nil_append]
  | succ most ih =>
    rcases warden.due_cases time with late | ⟨room, sleeper, first, isDue⟩
    · simp only [wakeUntil_idle late, List.append_nil]
    · rw [Nat.add_right_comm, wakeUntil_due first isDue, wakeUntil_due first isDue]
      simp only [ih, List.append_assoc]

theorem wakeUntil_more {most : Nat}
    (late : ∀ room, (wakeUntil time most warden).2.SleepsPast time room) (more : Nat) :
    wakeUntil time (most + more) warden = wakeUntil time most warden := by
  simp only [wakeUntil_add, wakeUntil_idle late, List.append_nil]

/-- However many wake-ups it took until nobody was due, as many as are allowed do the same. -/
theorem wakeUntil_enough {most : Nat} (kept : warden.Kept admits)
    (late : ∀ room, (wakeUntil time most warden).2.SleepsPast time room)
    (advancing : (wakeUntil time most warden).2.Advancing) :
    wakeUntil time (warden.wakeUps time) warden = wakeUntil time most warden := by
  rcases Nat.le_total most (warden.wakeUps time) with fewer | beyond
  · obtain ⟨more, same⟩ := Nat.exists_eq_add_of_le fewer
    rw [same, wakeUntil_more late]
  · obtain ⟨more, rfl⟩ := Nat.exists_eq_add_of_le beyond
    have first : Leads admits warden (wakeUntil time (warden.wakeUps time) warden) :=
      wakeUntil_leads ..
    -- The encounters go on from the wake-ups that are allowed to the others.
    have older := wakeUntil_older (changes_sound first.changes kept.sound) time more
    have rest : Leads admits (wakeUntil time (warden.wakeUps time) warden).2
        (wakeUntil time more (wakeUntil time (warden.wakeUps time) warden).2) :=
      wakeUntil_leads ..
    rw [wakeUntil_add] at advancing
    have early := older.advancing rest.settings advancing
    exact (wakeUntil_more (wakeUntil_finishes kept time early) more).symm

/-- Until a time everybody wakes at its time. -/
theorem wakeUntil_orderly (sound : warden.Sound admits) (orderly : warden.Orderly)
    (early : warden.clock.now ≤ time) (most : Nat) :
    (wakeUntil time most warden).2.Orderly ∧ (wakeUntil time most warden).2.clock.now ≤ time := by
  induction most generalizing warden with
  | zero => exact ⟨orderly, early⟩
  | succ most ih =>
    rcases warden.due_cases time with late | ⟨room, sleeper, first, isDue⟩
    · rw [wakeUntil_idle late]
      exact ⟨orderly, early⟩
    · have leads : Leads admits warden (warden.wake room sleeper) := wake_leads ..
      obtain ⟨still, now⟩ := wake_orderly sound orderly first
      rw [wakeUntil_due first isDue]
      exact ih (changes_sound leads.changes sound) still (now ▸ isDue)

theorem pass_orderly (kept : warden.Kept admits) (duration : Nat)
    (advancing : (warden.pass duration).2.Advancing) : (warden.pass duration).2.Orderly := by
  let time := warden.clock.now + duration
  have early : warden.clock.now ≤ time := Nat.le_add_right ..
  obtain ⟨orderly, now⟩ :=
    wakeUntil_orderly kept.sound kept.orderly early (warden.wakeUps time)
  have late := wakeUntil_finishes kept time advancing
  -- The clock goes on from the last wake-up to the time, which nobody sleeps through.
  refine ⟨Nat.le_refl _, fun room timer present => ?_⟩
  have lined := orderly.lined room timer present
  refine ⟨lined.line, fun sleeper member => ⟨?_, ?_, (lined.span sleeper member).2.2⟩⟩
  · exact Nat.le_of_lt (late room timer present sleeper member)
  · exact Nat.le_trans (lined.span sleeper member).2.1 (Nat.add_le_add_right now _)

/-- All of it still holds after an order. -/
theorem Kept.step {order : Order} (kept : warden.Kept admits)
    (admitted : ∀ setup, order = .begin setup → admits setup)
    (advancing : (warden.step order).2.Advancing) : (warden.step order).2.Kept admits := by
  have leads := step_leads warden order admitted
  refine { sound := ?sound, tidy := ?tidy, orderly := ?orderly, prompt := ?prompt }
  case sound => exact changes_sound leads.changes kept.sound
  case tidy => exact step_tidy kept.sound kept.tidy order admitted
  case orderly =>
    cases about : order.room? with
    | some room => exact step_orderly kept.sound kept.orderly about admitted
    | none =>
      cases order with
      | pass duration => exact pass_orderly kept duration advancing
      | _ => cases about
  case prompt =>
    intro lasting
    rw [leads.settings] at lasting
    exact step_punctual kept.sound (kept.prompt lasting) lasting order

end Warden

end Fray
