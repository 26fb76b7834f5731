import Fray.Timer
import Mathlib.Algebra.GroupWithZero.Nat
import Mathlib.Algebra.Order.BigOperators.Group.List
import Mathlib.Algebra.Order.Group.Nat

/-!
# Timers that are set

A timer that is set has one sleeper of its generation, which wakes at the
deadline; every other sleeper is of an earlier generation and wakes in vain.
Arming a timer sets it whatever slept before. How many wake-ups a timer can
still cause until a given time is bounded, and the bound falls with each.

## Main results

`arm_isSet`, `IsSet.wake_current` and `IsSet.wake_stale` describe the changes to
a timer that is set, `wakings_arm` and `wakings_wake` the bound on its wake-ups.
-/

namespace Fray

namespace Timer

variable {α : Type}

/-- A timer has an alarm for a deadline, and its other sleepers are of earlier generations. -/
structure IsSet (timer : Timer α) (task : α) (due : Nat) : Prop where
  pending : timer.pending = some task
  sleepers : ∃ stale place, timer.sleepers = stale ++ [⟨timer.generation, due, place⟩] ∧
    ∀ sleeper ∈ stale, sleeper.generation < timer.generation

/-- No sleeper is of a generation to come. -/
def IsCurrent (timer : Timer α) : Prop :=
  ∀ sleeper ∈ timer.sleepers, sleeper.generation ≤ timer.generation

theorem IsSet.isCurrent {timer : Timer α} {task : α} {due : Nat} (set : timer.IsSet task due) :
    timer.IsCurrent := by
  obtain ⟨stale, place, sleepers, older⟩ := set.sleepers
  intro sleeper member
  rw [sleepers] at member
  rcases List.mem_append.mp member with old | last
  · exact Nat.le_of_lt (older sleeper old)
  · cases List.mem_singleton.mp last
    exact Nat.le_refl _

theorem arm_isSet {timer : Timer α} (current : timer.IsCurrent) (clock : Clock) (duration : Nat)
    (task : α) : (timer.arm clock duration task).1.IsSet task (clock.now + duration) := by
  refine ⟨rfl, timer.sleepers, clock.sleepers, rfl, fun sleeper member => ?_⟩
  exact Nat.lt_succ_of_le (current sleeper member)

theorem mem_arm {timer : Timer α} {clock : Clock} {duration : Nat} {task : α} {sleeper : Sleeper}
    (member : sleeper ∈ (timer.arm clock duration task).1.sleepers) :
    sleeper ∈ timer.sleepers ∨ sleeper.due = clock.now + duration := by
  rcases List.mem_append.mp member with old | new
  · exact .inl old
  · cases List.mem_singleton.mp new
    exact .inr rfl

/-! ### Waking -/

theorem wake_sleepers {timer : Timer α} (sleeper : Sleeper) :
    (timer.wake sleeper).2.sleepers = timer.sleepers.erase sleeper := by
  unfold wake
  split <;> rfl

theorem wake_generation {timer : Timer α} (sleeper : Sleeper) :
    (timer.wake sleeper).2.generation = timer.generation := by
  unfold wake
  split <;> rfl

theorem mem_wake {timer : Timer α} {sleeper other : Sleeper}
    (member : other ∈ (timer.wake sleeper).2.sleepers) : other ∈ timer.sleepers := by
  rw [wake_sleepers] at member
  exact List.mem_of_mem_erase member

theorem wake_isCurrent {timer : Timer α} (current : timer.IsCurrent) (sleeper : Sleeper) :
    (timer.wake sleeper).2.IsCurrent := by
  intro other member
  rw [wake_generation]
  exact current other (mem_wake member)

/-- The sleeper of the current generation takes the alarm, at its deadline. -/
theorem IsSet.wake_current {timer : Timer α} {task : α} {due : Nat} {sleeper : Sleeper}
    (set : timer.IsSet task due) (member : sleeper ∈ timer.sleepers)
    (current : sleeper.generation = timer.generation) :
    (timer.wake sleeper).1 = some task ∧ sleeper.due = due := by
  obtain ⟨stale, place, sleepers, older⟩ := set.sleepers
  constructor
  · simp only [wake, if_pos current]
    exact set.pending
  · rw [sleepers] at member
    rcases List.mem_append.mp member with old | last
    · exact absurd current (Nat.ne_of_lt (older sleeper old))
    · cases List.mem_singleton.mp last
      rfl

/-- A sleeper of an earlier generation wakes in vain, and the timer is set as before. -/
theorem IsSet.wake_stale {timer : Timer α} {task : α} {due : Nat} {sleeper : Sleeper}
    (set : timer.IsSet task due) (member : sleeper ∈ timer.sleepers)
    (stale : sleeper.generation ≠ timer.generation) :
    (timer.wake sleeper).1 = none ∧ (timer.wake sleeper).2.IsSet task due := by
  obtain ⟨old, place, sleepers, older⟩ := set.sleepers
  simp only [wake, if_neg stale, true_and]
  have among : sleeper ∈ old := by
    rw [sleepers] at member
    rcases List.mem_append.mp member with inside | last
    · exact inside
    · cases List.mem_singleton.mp last
      exact absurd rfl stale
  refine ⟨set.pending, old.erase sleeper, place, ?_, fun other inside => ?_⟩
  · simp only [sleepers, List.erase_append_left _ among]
  · exact older other (List.mem_of_mem_erase inside)

/-! ### How often a timer can still wake somebody -/

/--
The wake-ups that come of a sleeper until a time: one if it wakes in vain, and one
for each millisecond that is left after the deadline if it takes the alarm, since
the alarm may set the timer anew.
-/
def weight (timer : Timer α) (time : Nat) (sleeper : Sleeper) : Nat :=
  if sleeper.generation = timer.generation then time + 1 - sleeper.due
  else if sleeper.due ≤ time then 1 else 0

def wakings (time : Nat) (timer : Timer α) : Nat :=
  (timer.sleepers.map (timer.weight time)).sum

/-- Arming makes the old sleepers wake in vain. -/
theorem wakings_arm {timer : Timer α} (current : timer.IsCurrent) (time : Nat) (clock : Clock)
    (duration : Nat) (task : α) :
    (timer.arm clock duration task).1.wakings time
      ≤ timer.wakings time + (time + 1 - (clock.now + duration)) := by
  have lighter : ∀ sleeper ∈ timer.sleepers,
      (timer.arm clock duration task).1.weight time sleeper ≤ timer.weight time sleeper := by
    intro sleeper member
    have older := current sleeper member
    -- Arming starts a new generation, to which no old sleeper belongs.
    have different : sleeper.generation ≠ timer.generation + 1 := by omega
    have vain : (timer.arm clock duration task).1.weight time sleeper
        = if sleeper.due ≤ time then 1 else 0 := if_neg different
    rw [vain, weight]
    split <;> split <;> omega
  have sum := List.sum_le_sum lighter
  simp only [wakings, arm, List.map_append, List.sum_append] at sum ⊢
  simp only [weight, List.map_cons, List.map_nil, List.sum_singleton, if_true] at sum ⊢
  omega

private theorem sum_map_erase {weigh : Sleeper → Nat} {sleepers : List Sleeper} {sleeper : Sleeper}
    (member : sleeper ∈ sleepers) :
    ((sleepers.erase sleeper).map weigh).sum + weigh sleeper = (sleepers.map weigh).sum := by
  rw [Nat.add_comm]
  exact List.sum_map_erase weigh member

/-- A wake-up takes its weight from the bound. -/
theorem wakings_wake {timer : Timer α} {sleeper : Sleeper} (time : Nat)
    (member : sleeper ∈ timer.sleepers) :
    (timer.wake sleeper).2.wakings time + timer.weight time sleeper = timer.wakings time := by
  have same : (timer.wake sleeper).2.wakings time
      = ((timer.sleepers.erase sleeper).map (timer.weight time)).sum := by
    unfold wake
    split <;> rfl
  rw [same]
  exact sum_map_erase member

/-- A timer that causes no wake-up has nobody who is due. -/
theorem due_of_wakings_eq_zero {timer : Timer α} {time : Nat} (none : timer.wakings time = 0) :
    ∀ sleeper ∈ timer.sleepers, time < sleeper.due := by
  intro sleeper member
  have zero : timer.weight time sleeper = 0 :=
    List.sum_eq_zero_iff_forall_eq_nat.mp none _ (List.mem_map_of_mem member)
  unfold weight at zero
  split at zero
  · omega
  · split at zero <;> omega

/-- A set timer wakes each old sleeper once, and its last one no earlier than its deadline. -/
theorem IsSet.wakings_le {timer : Timer α} {task : α} {due : Nat} (set : timer.IsSet task due)
    (time : Nat) : timer.wakings time ≤ timer.sleepers.length + (time + 1 - due) := by
  obtain ⟨stale, place, sleepers, older⟩ := set.sleepers
  have light : ∀ sleeper ∈ stale, timer.weight time sleeper ≤ 1 := by
    intro sleeper member
    have different := Nat.ne_of_lt (older sleeper member)
    simp only [weight, if_neg different]
    split <;> omega
  have sum : (stale.map (timer.weight time)).sum ≤ stale.length := by
    have bound := List.sum_le_card_nsmul (stale.map (timer.weight time)) 1 (by simpa using light)
    simpa using bound
  simp only [wakings, sleepers, List.map_append, List.sum_append, List.length_append]
  simp only [weight, List.map_cons, List.map_nil, List.sum_singleton, if_true] at sum ⊢
  omega

end Timer

/-! ### Who wakes first -/

namespace Sleeper

variable {β : Type}

theorem earliest_mem {sleepers : List (β × Sleeper)} {first : β × Sleeper}
    (found : earliest sleepers = some first) : first ∈ sleepers := by
  induction sleepers generalizing first with
  | nil => cases found
  | cons head rest ih =>
    simp only [earliest] at found
    split at found
    · cases found
      exact List.mem_cons_self
    next other later =>
      cases found
      split
      · exact List.mem_cons_of_mem _ (ih later)
      · exact List.mem_cons_self

theorem eq_nil_of_earliest {sleepers : List (β × Sleeper)} (none : earliest sleepers = none) :
    sleepers = [] := by
  cases sleepers with
  | nil => rfl
  | cons head rest =>
    simp only [earliest] at none
    split at none <;> cases none

theorem before_eq_false {first second : Sleeper} : first.before second = false ↔
    second.due < first.due ∨ (second.due = first.due ∧ second.place ≤ first.place) := by
  simp only [before, Bool.or_eq_false_iff, Bool.and_eq_false_iff, decide_eq_false_iff_not]
  omega

/-- Nobody wakes before the first, not even of those who are due at the same time. -/
theorem earliest_first {sleepers : List (β × Sleeper)} {first : β × Sleeper}
    (found : earliest sleepers = some first) :
    ∀ other ∈ sleepers, other.2.before first.2 = false := by
  induction sleepers generalizing first with
  | nil => cases found
  | cons head rest ih =>
    simp only [earliest] at found
    intro other member
    split at found
    next nobody =>
      cases found
      rw [eq_nil_of_earliest nobody] at member
      cases List.mem_singleton.mp member
      rw [before_eq_false]
      omega
    next later found' =>
      cases found
      -- The head competes with the first of the rest, and wins where both are due together.
      have least := ih found'
      by_cases precedes : later.2.before head.2 = true
      · rw [if_pos precedes]
        rcases List.mem_cons.mp member with rfl | inside
        · simp only [before, Bool.or_eq_true, decide_eq_true_eq, Bool.and_eq_true] at precedes
          rw [before_eq_false]
          omega
        · exact least other inside
      · rw [if_neg precedes]
        rw [Bool.not_eq_true, before_eq_false] at precedes
        rcases List.mem_cons.mp member with rfl | inside
        · rw [before_eq_false]
          omega
        · -- The others do not wake before the first of the rest, nor it before the head.
          have after := before_eq_false.mp (least other inside)
          rw [before_eq_false]
          omega

/-- Nobody is due before the first. -/
theorem earliest_le {sleepers : List (β × Sleeper)} {first : β × Sleeper}
    (found : earliest sleepers = some first) :
    ∀ other ∈ sleepers, first.2.due ≤ other.2.due := by
  intro other member
  have follows := before_eq_false.mp (earliest_first found other member)
  omega

end Sleeper

end Fray
