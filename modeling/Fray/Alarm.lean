import Fray.Timer

/-!
# Alarms with something to do

A timer whose alarms have a label, and a next step that is taken from within the
alarm when it goes off. Time passes as a whole: everybody who is due by then
wakes in order.
-/
namespace Fray

/-- What can be asked of a timer. -/
inductive AlarmStep where
  | nothing
  /-- Set an alarm; `next` is done when it goes off. -/
  | arm (duration : Nat) (label : String) (next : AlarmStep)
  | stop
  | drop

/-- How many alarms a step can lead to. -/
def AlarmStep.alarms : AlarmStep → Nat
  | arm _ _ next => next.alarms + 1
  | _ => 0

structure AlarmClock where
  clock : Clock
  /-- Nothing once the timer has been dropped. -/
  timer : Option (Timer (String × AlarmStep))

namespace AlarmClock

def new : AlarmClock := ⟨⟨0, 0⟩, some .idle⟩

/-- A dropped timer does nothing. -/
def perform (step : AlarmStep) (alarm : AlarmClock) : AlarmClock :=
  match alarm.timer with
  | none => alarm
  | some timer =>
    match step with
    | .nothing => alarm
    | .arm duration label next =>
      let (armed, clock) := timer.arm alarm.clock duration (label, next)
      ⟨clock, some armed⟩
    | .stop => { alarm with timer := some timer.stop }
    | .drop => { alarm with timer := none }

/-- Everybody who sleeps for an alarm. -/
def sleepers (alarm : AlarmClock) : List (Unit × Sleeper) :=
  ((alarm.timer.map Timer.sleepers).getD []).map fun sleeper => ((), sleeper)

/-- A sleeper wakes at its time; the alarm that goes off is told with the time. -/
def wake (alarm : AlarmClock) (sleeper : Sleeper) : Option (String × Nat) × AlarmClock :=
  match alarm.timer with
  | none => (none, alarm)
  | some timer =>
    let (task, rest) := timer.wake sleeper
    let now := max alarm.clock.now sleeper.due
    let woken : AlarmClock := ⟨{ alarm.clock with now := now }, some rest⟩
    match task with
    | none => (none, woken)
    | some (label, next) => (some (label, now), woken.perform next)

/-- Wake everybody who is due until a time, in order, but at most so many. -/
def wakeUntil (time : Nat) : Nat → AlarmClock → List (String × Nat) × AlarmClock
  | 0, alarm => ([], alarm)
  | most + 1, alarm =>
    match Sleeper.earliest alarm.sleepers with
    | none => ([], alarm)
    | some (_, sleeper) =>
      if sleeper.due ≤ time then
        let (first, woken) := alarm.wake sleeper
        let (rest, done) := wakeUntil time most woken
        (first.toList ++ rest, done)
      else ([], alarm)

/-- A bound on the wake-ups: those who sleep now, and those for alarms that the pending one sets. -/
def wakeUps (alarm : AlarmClock) : Nat :=
  alarm.sleepers.length +
    ((alarm.timer.bind Timer.pending).map fun task => task.2.alarms).getD 0

/-- Let time pass, and tell which alarms went off when. -/
def pass (duration : Nat) (alarm : AlarmClock) : List (String × Nat) × AlarmClock :=
  let time := alarm.clock.now + duration
  let (told, woken) := wakeUntil time alarm.wakeUps alarm
  (told, { woken with clock := { woken.clock with now := time } })

end AlarmClock

end Fray
