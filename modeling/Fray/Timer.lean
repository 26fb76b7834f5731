/-!
# Timers

A timer runs one alarm at a time. Arming it puts a sleeper to bed that wakes at
the deadline, and a number, the generation, tells which sleeper is meant:
starting, stopping or dropping the timer makes a new generation, so a sleeper
of an earlier one wakes in vain, however late it is. A clock hands out the
order in which sleepers with one deadline wake.
-/
namespace Fray

/-- The time in milliseconds, and how many sleepers there have been. -/
structure Clock where
  now : Nat
  sleepers : Nat
deriving DecidableEq

structure Sleeper where
  generation : Nat
  due : Nat
  /-- Its place among all sleepers of the clock. -/
  place : Nat
deriving DecidableEq

structure Timer (α : Type) where
  generation : Nat
  /-- What the pending alarm will do. -/
  pending : Option α
  /-- The sleepers that have not woken. -/
  sleepers : List Sleeper

namespace Timer

variable {α : Type}

def idle : Timer α := ⟨0, none, []⟩

def isArmed (timer : Timer α) : Bool := timer.pending.isSome

/-- Set an alarm in place of a pending one. -/
def arm (timer : Timer α) (clock : Clock) (duration : Nat) (task : α) : Timer α × Clock :=
  let generation := timer.generation + 1
  ({ generation := generation
     pending := some task
     sleepers := timer.sleepers ++ [⟨generation, clock.now + duration, clock.sleepers⟩] },
    { clock with sleepers := clock.sleepers + 1 })

/-- Give up the pending alarm. -/
def stop (timer : Timer α) : Timer α :=
  { timer with generation := timer.generation + 1, pending := none }

/-- A sleeper wakes: it takes the alarm if it is of the current generation. -/
def wake (timer : Timer α) (sleeper : Sleeper) : Option α × Timer α :=
  let rest := timer.sleepers.erase sleeper
  if sleeper.generation = timer.generation then
    (timer.pending, { timer with pending := none, sleepers := rest })
  else (none, { timer with sleepers := rest })

end Timer

namespace Sleeper

/-- Whether a sleeper wakes before another. -/
def before (first second : Sleeper) : Bool :=
  first.due < second.due || (first.due = second.due && first.place < second.place)

/-- The sleeper of a list that wakes first, with its owner. -/
def earliest {β : Type} : List (β × Sleeper) → Option (β × Sleeper)
  | [] => none
  | first :: rest =>
    match earliest rest with
    | none => some first
    | some other => some (if other.2.before first.2 then other else first)

end Sleeper

end Fray
