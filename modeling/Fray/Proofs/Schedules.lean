import Fray.Proofs.Timers
import Mathlib.Data.List.Nodup

/-!
# Timers that anybody may use at any time

A timer is armed, stopped and dropped by anybody, and whoever sleeps for it wakes at
some time after its deadline, in any order and however often the timer has been
armed anew in between. A sleeper looks at the generation and takes the alarm in one
step, so the steps of all these parties come one after another in some order.

## Main result

`Schedule.rings_once`: in every order of steps a sleeper that wakes runs its alarm
just if the timer was neither armed anew nor stopped or dropped since, so every alarm
is run at most once, after its deadline, and not after it was replaced.
-/

namespace Fray

/-- What is done to a timer, and by whom it is woken. -/
inductive Sight (α : Type) where
  /-- An alarm was set at a time, to go off so much later. -/
  | armed (alarm : Sleeper) (task : α) (time duration : Nat)
  | stopped
  | dropped
  /-- A sleeper woke at a time, and this is what it ran. -/
  | woke (sleeper : Sleeper) (ran : Option α) (time : Nat)
deriving DecidableEq

namespace Sight

variable {α : Type}

/-- Whether a timer is made anew, so that nobody who sleeps is meant any more. -/
def resets : Sight α → Bool
  | armed .. | stopped | dropped => true
  | woke .. => false

def alarm? : Sight α → Option Sleeper
  | armed alarm _ _ _ => some alarm
  | stopped | dropped | woke .. => none

def woken? : Sight α → Option Sleeper
  | woke sleeper _ _ => some sleeper
  | armed .. | stopped | dropped => none

/-- The sleeper that has run its alarm. -/
def rung? : Sight α → Option Sleeper
  | woke sleeper (some _) _ => some sleeper
  | woke _ none _ | armed .. | stopped | dropped => none

end Sight

namespace Timer

variable {α : Type} {timer after : Timer α} {clock later : Clock} {seen : List (Sight α)}

/-! ### Steps -/

/-- One step of somebody who uses a timer, or of a sleeper whose deadline has passed. -/
inductive Move : Timer α → Clock → Sight α → Timer α → Clock → Prop
  | arm (timer : Timer α) (clock : Clock) (duration : Nat) (task : α) :
      Move timer clock
        (.armed ⟨timer.generation + 1, clock.now + duration, clock.sleepers⟩ task clock.now duration)
        (timer.arm clock duration task).1 (timer.arm clock duration task).2
  | stop (timer : Timer α) (clock : Clock) : Move timer clock .stopped timer.stop clock
  -- A timer is dropped by stopping it; those who sleep for it wake nevertheless.
  | drop (timer : Timer α) (clock : Clock) : Move timer clock .dropped timer.stop clock
  | wake {timer : Timer α} {clock : Clock} {sleeper : Sleeper} (asleep : sleeper ∈ timer.sleepers)
      (due : sleeper.due ≤ clock.now) :
      Move timer clock (.woke sleeper (timer.wake sleeper).1 clock.now) (timer.wake sleeper).2 clock

/-- A timer after steps in any order, which are told with the first one at the head. -/
inductive Schedule : Timer α → Clock → List (Sight α) → Prop
  | new (clock : Clock) : Schedule .idle clock []
  | wait {timer : Timer α} {clock : Clock} {seen : List (Sight α)}
      (used : Schedule timer clock seen) (duration : Nat) :
      Schedule timer { clock with now := clock.now + duration } seen
  | move {timer after : Timer α} {clock later : Clock} {seen : List (Sight α)} {sight : Sight α}
      (used : Schedule timer clock seen) (move : Move timer clock sight after later) :
      Schedule after later (seen ++ [sight])

theorem Schedule.wake (used : Schedule timer clock seen) (sleeper : Sleeper)
    (asleep : sleeper ∈ timer.sleepers) (due : sleeper.due ≤ clock.now) :
    Schedule (timer.wake sleeper).2 clock
      (seen ++ [.woke sleeper (timer.wake sleeper).1 clock.now]) :=
  .move used (.wake asleep due)

/-- Every step of a schedule was taken after a schedule of the steps before it. -/
theorem Schedule.cut (used : Schedule timer clock seen) {early rest : List (Sight α)}
    {sight : Sight α} (split : seen = early ++ sight :: rest) :
    ∃ timer clock after later, Schedule timer clock early ∧ Move timer clock sight after later := by
  induction used generalizing rest with
  | new clock => simp at split
  | wait used duration ih => exact ih split
  | @move timer after clock later seen last used move ih =>
    rcases List.eq_nil_or_concat rest with rfl | ⟨front, final, rfl⟩
    · obtain ⟨rfl, same⟩ := List.append_inj' split rfl
      cases same
      exact ⟨timer, clock, after, later, used, move⟩
    · have longer : seen ++ [last] = (early ++ sight :: front) ++ [final] := by
        simpa using split
      exact ih (List.append_inj' longer rfl).1

/-! ### What a timer knows of the steps -/

/-- The last time a timer was armed, stopped or dropped. -/
def latest (seen : List (Sight α)) : Option (Sight α) := (seen.filter Sight.resets).getLast?

/-- An alarm was set, and since then the timer was neither armed anew nor stopped or dropped. -/
def Holds (seen : List (Sight α)) (alarm : Sleeper) (task : α) : Prop :=
  ∃ time duration, latest seen = some (.armed alarm task time duration)

theorem latest_reset {sight : Sight α} (resets : sight.resets = true) :
    latest (seen ++ [sight]) = some sight := by
  simp [latest, resets]

theorem latest_woke (sleeper : Sleeper) (ran : Option α) (time : Nat) :
    latest (seen ++ [.woke sleeper ran time]) = latest seen := by
  simp [latest, Sight.resets]

/-- One alarm holds at most. -/
theorem Holds.unique {alarm other : Sleeper} {task job : α} (holds : Holds seen alarm task)
    (also : Holds seen other job) : other = alarm ∧ job = task := by
  obtain ⟨_, _, found⟩ := holds
  obtain ⟨_, _, same⟩ := also
  rw [found] at same
  cases same
  exact ⟨rfl, rfl⟩

/-- An alarm that is pending is slept for, and one that has run was taken by its own sleeper. -/
def Waits (timer : Timer α) (seen : List (Sight α)) (alarm : Sleeper) (task : α) : Prop :=
  (alarm ∈ timer.sleepers ∧ timer.pending = some task) ∨
  (timer.pending = none ∧ ∃ time, .woke alarm (some task) time ∈ seen)

/-- What the state of a timer has to do with the steps that led to it. -/
structure Recalls (timer : Timer α) (seen : List (Sight α)) : Prop where
  generation : timer.generation = seen.countP Sight.resets
  current : timer.IsCurrent
  distinct : timer.sleepers.Nodup
  once : (seen.filterMap Sight.woken?).Nodup
  awake : ∀ sleeper ∈ seen.filterMap Sight.woken?,
    sleeper ∉ timer.sleepers ∧ sleeper.generation ≤ timer.generation
  holds : ∀ alarm task, Holds seen alarm task →
    alarm.generation = timer.generation ∧ timer.Waits seen alarm task
  meant : ∀ sleeper ∈ timer.sleepers, sleeper.generation = timer.generation →
    ∃ task, Holds seen sleeper task
  silent : (∀ alarm task, ¬ Holds seen alarm task) → timer.pending = none

theorem idle_recalls : Recalls (idle : Timer α) [] := by
  constructor <;> simp [idle, IsCurrent, Holds, latest]

theorem Recalls.arm (recalls : timer.Recalls seen) (clock : Clock) (duration : Nat) (task : α) :
    (timer.arm clock duration task).1.Recalls (seen ++
      [.armed ⟨timer.generation + 1, clock.now + duration, clock.sleepers⟩ task clock.now
        duration]) := by
  let alarm : Sleeper := ⟨timer.generation + 1, clock.now + duration, clock.sleepers⟩
  have fresh : ∀ sleeper, sleeper.generation ≤ timer.generation → sleeper ≠ alarm := by
    rintro sleeper older rfl
    exact absurd older (Nat.not_succ_le_self _)
  have holds : ∀ other job, Holds (seen ++ [.armed alarm task clock.now duration]) other job →
      other = alarm ∧ job = task :=
    fun other job also => Holds.unique ⟨_, _, latest_reset rfl⟩ also
  have sleepers : (timer.arm clock duration task).1.sleepers = timer.sleepers ++ [alarm] := rfl
  constructor
  case generation =>
    simp only [List.countP_append, ← recalls.generation]
    rfl
  case current =>
    intro sleeper member
    rw [sleepers, List.mem_append, List.mem_singleton] at member
    rcases member with old | rfl
    · exact Nat.le_succ_of_le (recalls.current sleeper old)
    · exact Nat.le_refl _
  case distinct =>
    rw [sleepers, List.nodup_append]
    refine ⟨recalls.distinct, List.nodup_singleton _, fun sleeper old other new => ?_⟩
    rw [List.mem_singleton.mp new]
    exact fresh sleeper (recalls.current sleeper old)
  case once => simpa [List.filterMap_cons, Sight.woken?] using recalls.once
  case awake =>
    intro sleeper woken
    have before : sleeper ∈ seen.filterMap Sight.woken? := by
      simpa [List.filterMap_cons, Sight.woken?] using woken
    obtain ⟨gone, older⟩ := recalls.awake sleeper before
    refine ⟨?_, Nat.le_succ_of_le older⟩
    rw [sleepers, List.mem_append, List.mem_singleton]
    exact not_or.mpr ⟨gone, fresh sleeper older⟩
  case holds =>
    intro other job also
    obtain ⟨rfl, rfl⟩ := holds other job also
    exact ⟨rfl, .inl ⟨by simp [sleepers, alarm], rfl⟩⟩
  case meant =>
    -- Whoever slept before belongs to an earlier generation than the new alarm.
    intro sleeper member same
    rw [sleepers, List.mem_append, List.mem_singleton] at member
    rcases member with old | rfl
    · have older := recalls.current sleeper old
      have newer : sleeper.generation = timer.generation + 1 := same
      omega
    · exact ⟨task, _, _, latest_reset rfl⟩
  case silent =>
    intro nobody
    exact absurd ⟨_, _, latest_reset rfl⟩ (nobody alarm task)

/-- Stopping and dropping leave nobody who is meant. -/
theorem Recalls.stop (recalls : timer.Recalls seen) {sight : Sight α}
    (kind : sight = .stopped ∨ sight = .dropped) : timer.stop.Recalls (seen ++ [sight]) := by
  have resets : sight.resets = true := by rcases kind with rfl | rfl <;> rfl
  have unwoken : sight.woken? = none := by rcases kind with rfl | rfl <;> rfl
  have unheld : ∀ alarm task, ¬ Holds (seen ++ [sight]) alarm task := by
    rintro alarm task ⟨time, duration, found⟩
    rw [latest_reset resets] at found
    rcases kind with rfl | rfl <;> cases found
  have older : ∀ sleeper ∈ timer.sleepers, sleeper.generation < timer.generation + 1 :=
    fun sleeper member => Nat.lt_succ_of_le (recalls.current sleeper member)
  constructor
  case generation => simp [Timer.stop, resets, recalls.generation]
  case current => exact fun sleeper member => Nat.le_of_lt (older sleeper member)
  case distinct => exact recalls.distinct
  case once => simpa [unwoken] using recalls.once
  case awake =>
    intro sleeper woken
    have before : sleeper ∈ seen.filterMap Sight.woken? := by simpa [unwoken] using woken
    obtain ⟨gone, early⟩ := recalls.awake sleeper before
    exact ⟨gone, Nat.le_succ_of_le early⟩
  case holds => exact fun alarm task holds => absurd holds (unheld alarm task)
  case meant => exact fun sleeper member same => absurd same (Nat.ne_of_lt (older sleeper member))
  case silent => exact fun _ => rfl

/-- A sleeper that wakes runs the alarm that holds if it is its own, and nothing otherwise. -/
theorem Recalls.runs (recalls : timer.Recalls seen) {sleeper : Sleeper}
    (asleep : sleeper ∈ timer.sleepers) (task : α) :
    (timer.wake sleeper).1 = some task ↔ Holds seen sleeper task := by
  have unwoken : ∀ ran time, .woke sleeper ran time ∉ seen := by
    intro ran time inside
    have woken : sleeper ∈ seen.filterMap Sight.woken? :=
      List.mem_filterMap.mpr ⟨_, inside, rfl⟩
    exact (recalls.awake sleeper woken).1 asleep
  have own : ∀ job, Holds seen sleeper job → timer.pending = some job := by
    intro job holds
    rcases (recalls.holds sleeper job holds).2 with ⟨_, pending⟩ | ⟨_, time, inside⟩
    · exact pending
    · exact absurd inside (unwoken _ time)
  constructor
  · intro ran
    unfold wake at ran
    split at ran
    next same =>
      obtain ⟨job, holds⟩ := recalls.meant sleeper asleep same
      have pending : timer.pending = some task := ran
      rw [own job holds] at pending
      cases pending
      exact holds
    · cases ran
  · intro holds
    have same := (recalls.holds sleeper task holds).1
    simp only [wake, if_pos same]
    exact own task holds

theorem Recalls.wake (recalls : timer.Recalls seen) {sleeper : Sleeper}
    (asleep : sleeper ∈ timer.sleepers) (time : Nat) :
    (timer.wake sleeper).2.Recalls (seen ++ [.woke sleeper (timer.wake sleeper).1 time]) := by
  let sight : Sight α := .woke sleeper (timer.wake sleeper).1 time
  have remains : ∀ other, other ∈ (timer.wake sleeper).2.sleepers ↔
      other ≠ sleeper ∧ other ∈ timer.sleepers := by
    intro other
    rw [wake_sleepers, recalls.distinct.mem_erase_iff]
  have woken : (seen ++ [sight]).filterMap Sight.woken?
      = seen.filterMap Sight.woken? ++ [sleeper] := by
    simp [sight, Sight.woken?]
  -- To wake somebody sets no alarm and stops none.
  have held : ∀ alarm task, Holds (seen ++ [sight]) alarm task ↔ Holds seen alarm task := by
    intro alarm task
    simp only [Holds, sight, latest_woke]
  constructor
  case generation =>
    rw [wake_generation, recalls.generation]
    simp [Sight.resets]
  case current => exact wake_isCurrent recalls.current sleeper
  case distinct =>
    rw [wake_sleepers]
    exact recalls.distinct.erase sleeper
  case once =>
    rw [woken, List.nodup_append]
    refine ⟨recalls.once, List.nodup_singleton _, fun other before same last => ?_⟩
    rw [List.mem_singleton.mp last]
    rintro rfl
    exact (recalls.awake other before).1 asleep
  case awake =>
    intro other member
    rw [woken, List.mem_append, List.mem_singleton] at member
    rw [remains, wake_generation]
    rcases member with before | rfl
    · obtain ⟨gone, older⟩ := recalls.awake other before
      exact ⟨fun inside => gone inside.2, older⟩
    · exact ⟨fun inside => inside.1 rfl, recalls.current other asleep⟩
  case holds =>
    intro alarm task holds
    rw [held] at holds
    obtain ⟨same, waits⟩ := recalls.holds alarm task holds
    refine ⟨same.trans (wake_generation sleeper).symm, ?_⟩
    rcases waits with ⟨inside, pending⟩ | ⟨empty, earlier, rang⟩
    · -- The sleeper of the alarm takes it, and any other wakes in vain.
      by_cases own : alarm = sleeper
      · subst own
        refine .inr ⟨by simp only [Timer.wake, if_pos same], time, ?_⟩
        rw [(recalls.runs asleep task).mpr holds]
        exact List.mem_append_right _ (List.mem_singleton.mpr rfl)
      · -- Any other sleeper is not of the current generation, since only one alarm holds.
        have vain : ¬ sleeper.generation = timer.generation := by
          intro current
          obtain ⟨job, also⟩ := recalls.meant sleeper asleep current
          exact own (also.unique holds).1
        refine .inl ⟨(remains alarm).mpr ⟨own, inside⟩, ?_⟩
        simp only [Timer.wake, if_neg vain, pending]
    · refine .inr ⟨?_, earlier, List.mem_append_left _ rang⟩
      unfold Timer.wake
      split
      · rfl
      · exact empty
  case meant =>
    intro other member same
    obtain ⟨_, inside⟩ := (remains other).mp member
    obtain ⟨task, holds⟩ := recalls.meant other inside (same.trans (wake_generation sleeper))
    exact ⟨task, (held other task).mpr holds⟩
  case silent =>
    intro nobody
    have empty := recalls.silent fun alarm task holds =>
      nobody alarm task ((held alarm task).mpr holds)
    unfold Timer.wake
    split
    · rfl
    · exact empty

theorem Move.recalls {sight : Sight α} (move : Move timer clock sight after later)
    (recalls : timer.Recalls seen) : after.Recalls (seen ++ [sight]) := by
  cases move with
  | arm duration task => exact recalls.arm clock duration task
  | stop => exact recalls.stop (.inl rfl)
  | drop => exact recalls.stop (.inr rfl)
  | wake asleep due => exact recalls.wake asleep _

theorem Schedule.recalls (used : Schedule timer clock seen) : timer.Recalls seen := by
  induction used with
  | new clock => exact idle_recalls
  | wait used duration ih => exact ih
  | move used move ih => exact move.recalls ih

/-! ### Alarms and their sleepers -/

/-- The alarm that is set has a sleeper of its own, which wakes after its duration. -/
theorem Schedule.alarm_due (used : Schedule timer clock seen) {alarm : Sleeper} {task : α}
    {time duration : Nat} (set : .armed alarm task time duration ∈ seen) :
    alarm.due = time + duration := by
  obtain ⟨early, rest, split⟩ := List.append_of_mem set
  obtain ⟨_, _, _, _, _, move⟩ := used.cut split
  cases move
  rfl

/-- Alarms are numbered by the generations that they begin. -/
theorem Schedule.alarms_nodup (used : Schedule timer clock seen) :
    (seen.filterMap Sight.alarm?).Nodup ∧
      ∀ alarm ∈ seen.filterMap Sight.alarm?, alarm.generation ≤ timer.generation := by
  induction used with
  | new clock => simp
  | wait used duration ih => exact ih
  | @move timer after clock later seen sight used move ih =>
    obtain ⟨distinct, older⟩ := ih
    cases move with
    -- The new alarm is of a generation that none of the old ones can have.
    | arm duration task =>
      simp only [List.filterMap_append, List.filterMap_cons, Sight.alarm?, List.filterMap_nil]
      constructor
      · rw [List.nodup_append]
        refine ⟨distinct, List.nodup_singleton _, fun alarm before other new same => ?_⟩
        have bound := older alarm before
        rw [same, List.mem_singleton.mp new] at bound
        exact absurd bound (Nat.not_succ_le_self _)
      · intro alarm member
        rcases List.mem_append.mp member with before | new
        · exact Nat.le_succ_of_le (older alarm before)
        · rw [List.mem_singleton.mp new]
          exact Nat.le_refl _
    | stop =>
      simp only [List.filterMap_append, List.filterMap_cons, Sight.alarm?, List.filterMap_nil,
        List.append_nil]
      exact ⟨distinct, fun alarm before => Nat.le_succ_of_le (older alarm before)⟩
    | drop =>
      simp only [List.filterMap_append, List.filterMap_cons, Sight.alarm?, List.filterMap_nil,
        List.append_nil]
      exact ⟨distinct, fun alarm before => Nat.le_succ_of_le (older alarm before)⟩
    | wake asleep due =>
      simp only [List.filterMap_append, List.filterMap_cons, Sight.alarm?, List.filterMap_nil,
        List.append_nil, wake_generation]
      exact ⟨distinct, older⟩

/-- Nobody rings twice, since nobody wakes twice. -/
theorem nodup_rung (once : (seen.filterMap Sight.woken?).Nodup) :
    (seen.filterMap Sight.rung?).Nodup := by
  refine once.sublist ?_
  induction seen with
  | nil => exact .slnil
  | cons sight rest ih =>
    have later := ih (once.sublist (List.Sublist.filterMap _ (List.sublist_cons_self sight rest)))
    cases sight with
    | woke sleeper ran time =>
      cases ran with
      | none => exact later.cons sleeper
      | some task => exact later.cons_cons sleeper
    | armed alarm task time duration => exact later
    | stopped => exact later
    | dropped => exact later

theorem isArmed_iff (recalls : timer.Recalls seen) :
    timer.isArmed = true ↔
      ∃ alarm task, Holds seen alarm task ∧ ∀ time, .woke alarm (some task) time ∉ seen := by
  constructor
  · intro armed
    by_cases held : ∃ alarm task, Holds seen alarm task
    · obtain ⟨alarm, task, holds⟩ := held
      rcases (recalls.holds alarm task holds).2 with ⟨inside, _⟩ | ⟨empty, _⟩
      · refine ⟨alarm, task, holds, fun time rang => ?_⟩
        have woken : alarm ∈ seen.filterMap Sight.woken? :=
          List.mem_filterMap.mpr ⟨_, rang, rfl⟩
        exact (recalls.awake alarm woken).1 inside
      · rw [isArmed, empty] at armed
        cases armed
    · have empty := recalls.silent fun alarm task holds => held ⟨alarm, task, holds⟩
      rw [isArmed, empty] at armed
      cases armed
  · rintro ⟨alarm, task, holds, unrung⟩
    rcases (recalls.holds alarm task holds).2 with ⟨_, pending⟩ | ⟨_, time, rang⟩
    · rw [isArmed, pending]
      rfl
    · exact absurd rang (unrung time)

/--
In every order of steps nobody wakes twice, no two alarms have the same sleeper, and
every alarm is run once at most. Who wakes does so after its deadline, and runs an
alarm just if it is its own and the timer was neither armed anew nor stopped or
dropped since. A timer is armed just as long as its latest alarm has been neither
stopped nor run, and then the sleeper of this alarm is there to run it. As long as the
timer was reset less than `2 ^ 64` times, a word of 64 bits is enough for its generations.
-/
theorem Schedule.rings_once (used : Schedule timer clock seen) :
    (seen.filterMap Sight.woken?).Nodup ∧ (seen.filterMap Sight.alarm?).Nodup ∧
    (seen.filterMap Sight.rung?).Nodup ∧
    (∀ alarm task time duration, .armed alarm task time duration ∈ seen →
      alarm.due = time + duration) ∧
    (∀ early sleeper ran time rest, seen = early ++ .woke sleeper ran time :: rest →
      sleeper.due ≤ time ∧ ∀ task, ran = some task ↔ Holds early sleeper task) ∧
    (timer.isArmed = true ↔
      ∃ alarm task, Holds seen alarm task ∧ ∀ time, .woke alarm (some task) time ∉ seen) ∧
    (∀ alarm task, Holds seen alarm task → (∀ time, .woke alarm (some task) time ∉ seen) →
      alarm ∈ timer.sleepers ∧ (timer.wake alarm).1 = some task) ∧
    (seen.countP Sight.resets < 2 ^ 64 → timer.generation < 2 ^ 64 ∧
      ∀ sleeper ∈ timer.sleepers, sleeper.generation % 2 ^ 64 = timer.generation % 2 ^ 64 ↔
        sleeper.generation = timer.generation) := by
  have recalls := used.recalls
  refine ⟨recalls.once, used.alarms_nodup.1, nodup_rung recalls.once,
    fun _ _ _ _ => used.alarm_due, ?_, isArmed_iff recalls, ?_, ?_⟩
  · intro early sleeper ran time rest split
    obtain ⟨_, _, _, _, before, move⟩ := used.cut split
    cases move with
    | wake asleep due => exact ⟨due, before.recalls.runs asleep⟩
  · intro alarm task holds unrung
    rcases (recalls.holds alarm task holds).2 with ⟨inside, _⟩ | ⟨_, time, rang⟩
    · exact ⟨inside, (recalls.runs inside task).mpr holds⟩
    · exact absurd rang (unrung time)
  · intro few
    have small : timer.generation < 2 ^ 64 := recalls.generation ▸ few
    refine ⟨small, fun sleeper member => ?_⟩
    have older := recalls.current sleeper member
    rw [Nat.mod_eq_of_lt small, Nat.mod_eq_of_lt (Nat.lt_of_le_of_lt older small)]

/-! ### A late sleeper -/

/-- An alarm is replaced and its sleeper wakes in vain; of two more one rings and one is stopped. -/
def sampleSights : List (Sight String) :=
  [.armed ⟨1, 100, 0⟩ "first" 0 100, .armed ⟨2, 180, 1⟩ "second" 80 100,
    .woke ⟨1, 100, 0⟩ none 120, .woke ⟨2, 180, 1⟩ (some "second") 190,
    .armed ⟨3, 200, 2⟩ "third" 190 10, .stopped, .woke ⟨3, 200, 2⟩ none 210, .dropped]

theorem sampleSights_schedule : Schedule (⟨5, none, []⟩ : Timer String) ⟨210, 3⟩ sampleSights := by
  have first : Schedule _ _ _ := .move (.new ⟨0, 0⟩) (.arm idle ⟨0, 0⟩ 100 "first")
  have second : Schedule _ _ _ := .move (first.wait 80) (.arm _ _ 100 "second")
  have vain := (second.wait 40).wake ⟨1, 100, 0⟩ (by decide) (by decide)
  have rang := (vain.wait 70).wake ⟨2, 180, 1⟩ (by decide) (by decide)
  have third : Schedule _ _ _ := .move rang (.arm _ _ 10 "third")
  have stopped : Schedule _ _ _ := .move third (.stop _ _)
  have late := (stopped.wait 20).wake ⟨3, 200, 2⟩ (by decide) (by decide)
  exact .move late (.drop _ _)

theorem rings_once_sample :
    Schedule (⟨5, none, []⟩ : Timer String) ⟨210, 3⟩ sampleSights ∧
    sampleSights.filterMap Sight.rung? = [⟨2, 180, 1⟩] ∧
    (sampleSights.filterMap Sight.rung?).Nodup ∧
    ∀ early sleeper ran time rest, sampleSights = early ++ .woke sleeper ran time :: rest →
      sleeper.due ≤ time ∧ ∀ task, ran = some task ↔ Holds early sleeper task :=
  have whole := sampleSights_schedule.rings_once
  ⟨sampleSights_schedule, by decide, whole.2.2.1, whole.2.2.2.2.1⟩

end Timer

end Fray
