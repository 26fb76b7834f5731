import Fray.Rooms
import Fray.Round
import Fray.Tactics
import Fray.Timer

/-!
# Running encounters

A warden runs the encounters of a house. A round is resolved as soon as every
living combatant has submitted its actions, when its deadline passes, or when
somebody asks for it, whichever comes first; it is resolved once, because every
later request names a round that is no longer open. After a resolution the next
round is opened, or the encounter ends.

Every operation writes into a journal what it does, and gives the notices that
an observer hears of it. Encounters are numbered in the order in which they were
begun and stay known after their end.
-/
namespace Fray

structure RoundSettings where
  /-- Action points of a combatant in a round. -/
  points : Count := 3
  /-- Milliseconds until a round is resolved without further submissions. -/
  duration : Nat := 6000
deriving DecidableEq

/-- What an observer hears; the number tells encounters of one room apart. -/
inductive Notice where
  | roundStarted (encounter : Nat) (room : String) (round : Count) (events : List ConditionEvent)
  | damaged (encounter : Nat) (room : String) (combatant : String) (hp : Count)
  | roundResolved (encounter : Nat) (room : String) (round : Count) (events : List RoundEvent)
  | ended (encounter : Nat) (room : String) (standing : Standing)

/-- Why a request to a warden fails. -/
inductive WardenFault where
  | alreadyActive (room : String)
  | notFound (room : String)
  | refused (refusal : Refusal)
deriving DecidableEq

def WardenFault.message : WardenFault → String
  | alreadyActive room => "combat already active in room " ++ room
  | notFound room => "no active combat in room " ++ room
  | refused refusal => "combat error: " ++ refusal.message

/-! ### Closing a round -/

/-- What follows the resolution of a round. -/
inductive Aftermath where
  | ended (standing : Standing)
  /-- The next round was opened, and its recovery checks have decided the encounter. -/
  | lapsed (events : List ConditionEvent) (standing : Standing)
  /-- The next round is open; the tactics have committed some actions. -/
  | next (events : List ConditionEvent) (commits : List Commit)

structure Closing where
  resolution : Resolution
  aftermath : Aftermath
  /-- The encounter with the next round open, or over. -/
  encounter : Encounter

/-- Resolve the open round, then open the next one or end the encounter. -/
def Encounter.closeRound (encounter : Encounter) (tactics : Tactics) (points : Count) :
    Draws Closing := do
  let resolution ← encounter.resolve
  match resolution.encounter.standing with
  | .ongoing =>
    let (events, opened) ← resolution.encounter.openRound points
    match opened.standing with
    | .ongoing =>
      let muster := tactics.muster opened
      return ⟨resolution, .next events muster.commits, muster.encounter⟩
    | decided => return ⟨resolution, .lapsed events decided, opened.markOver⟩
  | decided => return ⟨resolution, .ended decided, resolution.encounter.markOver⟩

/-! ### The journal -/

/-- What happens in an encounter, which is told by its number. -/
inductive Entry where
  /-- A round was opened at a time. -/
  | opened (encounter : Nat) (room : String) (round : Count) (time : Nat)
      (events : List ConditionEvent)
  /-- An action was accepted in the open round. -/
  | committed (encounter : Nat) (round : Count) (commit : Commit)
  /-- The open round was resolved. -/
  | resolved (encounter : Nat) (round : Count) (resolution : Resolution)
  /-- The encounter was given up. -/
  | aborted (encounter : Nat)
  /-- An observer heard of it. -/
  | told (notice : Notice)

def Entry.notice? : Entry → Option Notice
  | told notice => some notice
  | _ => none

/-- What the beginning of an encounter writes into the journal. -/
def Muster.entries (muster : Muster) (number : Nat) (room : String) (time : Nat)
    (events : List ConditionEvent) : List Entry :=
  let round := muster.encounter.round
  .opened number room round time events :: muster.commits.map (.committed number round)
    ++ [.told (.roundStarted number room round events)]

/-- What is heard of a resolved round: who was hurt, then what happened. -/
def Entry.tellRound (number : Nat) (room : String) (round : Count) (hurts : List (String × Count))
    (events : List RoundEvent) : List Entry :=
  hurts.map (fun hurt => .told (.damaged number room hurt.1 hurt.2))
    ++ [.told (.roundResolved number room round events)]

/-- What the closing of a round writes into the journal. -/
def Closing.entries (closing : Closing) (number : Nat) (room : String) (round : Count)
    (time : Nat) : List Entry :=
  let next := closing.encounter.round
  let told :=
    Entry.tellRound number room round closing.resolution.damage closing.resolution.events
  .resolved number round closing.resolution ::
    match closing.aftermath with
    | .ended standing => told ++ [.told (.ended number room standing)]
    -- Nobody hears which conditions changed.
    | .lapsed events standing =>
      .opened number room next time events :: told ++ [.told (.ended number room standing)]
    | .next events commits =>
      .opened number room next time events :: commits.map (.committed number next)
        ++ told ++ [.told (.roundStarted number room next events)]

/-! ### Wardens -/

structure Warden (σ : Type) where
  settings : RoundSettings
  tactics : Tactics
  clock : Clock
  /-- The number of the active encounter of a room. -/
  rooms : Rooms Nat
  /-- Every encounter ever begun, by number. -/
  encounters : List Encounter
  /-- The timer of a room, whose alarm resolves a round. -/
  timers : Table (Timer Count)
  /-- Every call to a hook with the number of its encounter, the latest first. -/
  calls : List (Nat × HookCall)
  /-- Everything that has happened, the latest first. -/
  journal : List Entry
  source : σ

namespace Warden

variable {σ : Type}

def new (settings : RoundSettings) (tactics : Tactics) (source : σ) : Warden σ :=
  { settings := settings
    tactics := tactics
    clock := ⟨0, 0⟩
    rooms := .empty
    encounters := []
    timers := .empty
    calls := []
    journal := []
    source := source }

/-- Everything that has happened, in order. -/
def history (warden : Warden σ) : List Entry := warden.journal.reverse

/-- Write into the journal; the answer is what an observer hears. -/
def note (warden : Warden σ) (entries : List Entry) : List Notice × Warden σ :=
  (entries.filterMap Entry.notice?, { warden with journal := entries.reverse ++ warden.journal })

/-- The active encounter of a room, with its number. -/
def encounter? (warden : Warden σ) (room : String) : Option (Nat × Encounter) := do
  let number ← warden.rooms.get? room
  let encounter ← warden.encounters[number]?
  return (number, encounter)

/-- Replace an encounter. -/
def setEncounter (warden : Warden σ) (number : Nat) (encounter : Encounter) : Warden σ :=
  { warden with encounters := warden.encounters.set number encounter }

/-- Replace an encounter by what its hooks have made of it, and note their calls. -/
def followEncounter (warden : Warden σ) (number : Nat) (before after : Encounter) : Warden σ :=
  let calls := after.calls.take (after.calls.length - before.calls.length)
  { warden.setEncounter number after with
    calls := calls.map (fun call => (number, call)) ++ warden.calls }

/-- Set the deadline of a room's open round. -/
def arm (warden : Warden σ) (room : String) (round : Count) : Warden σ :=
  let timer := (warden.timers.get? room).getD .idle
  let (armed, clock) := timer.arm warden.clock warden.settings.duration round
  { warden with timers := warden.timers.insert room armed, clock := clock }

/-- Free a room: its timer stops and its encounter is no longer active. -/
def release (warden : Warden σ) (room : String) : Warden σ :=
  { warden with timers := warden.timers.erase room, rooms := warden.rooms.erase room }

variable [RandomSource σ]

/-- Play a computation with the warden's source. -/
def play {α : Type} (warden : Warden σ) (computation : Draws α) : α × Warden σ :=
  let played := computation.run warden.source
  (played.1, { warden with source := played.2 })

/-- Roll initiative, open the first round and let the tactics commit their actions. -/
def firstRound (setup : Setup) (tactics : Tactics) (points : Count) :
    Draws (List ConditionEvent × Muster) := do
  let combatants ← rollInitiative setup.combatants
  let (events, opened) ←
    (Encounter.begin { setup with combatants := combatants }).openRound points
  return (events, tactics.muster opened)

omit [RandomSource σ] in
/-- Enter an encounter whose first round is open, and set the deadline of the round. -/
def enter (warden : Warden σ) (room : String) (events : List ConditionEvent) (muster : Muster) :
    List Notice × Warden σ :=
  let number := warden.encounters.length
  let entered := { warden with
    rooms := warden.rooms.insert room number
    encounters := warden.encounters ++ [muster.encounter] }
  (entered.arm room muster.encounter.round).note
    (muster.entries number room warden.clock.now events)

/-- Begin an encounter in a free room; the answer holds its number. -/
def begin (warden : Warden σ) (setup : Setup) :
    Except WardenFault (Nat × List Notice × Warden σ) :=
  if warden.rooms.contains setup.room then .error (.alreadyActive setup.room)
  else
    let ((events, muster), played) :=
      warden.play (firstRound setup warden.tactics warden.settings.points)
    .ok (warden.encounters.length, played.enter setup.room events muster)

omit [RandomSource σ] in
/-- Put what a closed round has left in place of an encounter; the timer is set anew or stops. -/
def putClosed (warden : Warden σ) (room : String) (number : Nat) (encounter : Encounter)
    (closing : Closing) : Warden σ :=
  let closed := warden.followEncounter number encounter closing.encounter
  match closing.aftermath with
  | .ended _ | .lapsed _ _ => closed.release room
  | .next _ _ => closed.arm room closing.encounter.round

omit [RandomSource σ] in
/-- Go on after a round has been closed. -/
def settle (warden : Warden σ) (room : String) (number : Nat) (encounter : Encounter)
    (closing : Closing) : List Notice × Warden σ :=
  (warden.putClosed room number encounter closing).note
    (closing.entries number room encounter.round warden.clock.now)

/-- Resolve a round of the active encounter of a room, if it is the open one. -/
def resolve (warden : Warden σ) (room : String) (round : Count) : List Notice × Warden σ :=
  match warden.encounter? room with
  | none => ([], warden)
  | some (number, encounter) =>
    -- A request that names another round comes too late or too early.
    if encounter.isOver || encounter.round != round then ([], warden)
    else
      let (closing, played) :=
        warden.play (encounter.closeRound warden.tactics warden.settings.points)
      played.settle room number encounter closing

omit [RandomSource σ] in
/-- Put an encounter that has accepted an action in its place. -/
def accept (warden : Warden σ) (number : Nat) (committed : Encounter) (commit : Commit) :
    List Notice × Warden σ :=
  (warden.setEncounter number committed).note [.committed number committed.round commit]

/-- Commit an action; the last submission of a round resolves it. -/
def submit (warden : Warden σ) (room id : String) (action : Action) :
    Except WardenFault (List Notice × Warden σ) :=
  match warden.encounter? room with
  | none => .error (.notFound room)
  | some (number, encounter) =>
    match encounter.commit id action with
    | .error refusal => .error (.refused refusal)
    | .ok committed =>
      let (told, accepted) := warden.accept number committed ⟨id, action⟩
      .ok (if committed.allSubmitted then accepted.resolve room committed.round
        else (told, accepted))

omit [RandomSource σ] in
/-- Give up an encounter and free its room. -/
def giveUp (warden : Warden σ) (room : String) (number : Nat) (encounter : Encounter) :
    Warden σ :=
  (((warden.setEncounter number encounter.markOver).release room).note [.aborted number]).2

omit [RandomSource σ] in
/-- Give up the active encounter of a room; false if there is none. -/
def abort (warden : Warden σ) (room : String) : Bool × Warden σ :=
  match warden.encounter? room with
  -- The timer stops even where there is no encounter.
  | none => (false, { warden with timers := warden.timers.erase room })
  | some (number, encounter) => (true, warden.giveUp room number encounter)

/-! ### Time -/

omit [RandomSource σ] in
/-- Everybody who sleeps for a deadline, with the room of the timer. -/
def sleepers (warden : Warden σ) : List (String × Sleeper) :=
  warden.timers.entries.flatMap fun entry => entry.2.sleepers.map fun sleeper => (entry.1, sleeper)

/-- A sleeper wakes at its time, and its alarm resolves the round that it is meant for. -/
def wake (warden : Warden σ) (room : String) (sleeper : Sleeper) : List Notice × Warden σ :=
  match warden.timers.get? room with
  | none => ([], warden)
  | some timer =>
    let (task, rest) := timer.wake sleeper
    let woken := { warden with
      timers := warden.timers.insert room rest
      clock := { warden.clock with now := max warden.clock.now sleeper.due } }
    match task with
    | none => ([], woken)
    | some round => woken.resolve room round

/-- Wake everybody who is due until a time, in order, but at most so many. -/
def wakeUntil (time : Nat) : Nat → Warden σ → List Notice × Warden σ
  | 0, warden => ([], warden)
  | most + 1, warden =>
    match Sleeper.earliest warden.sleepers with
    | none => ([], warden)
    | some (room, sleeper) =>
      if sleeper.due ≤ time then
        let (first, woken) := warden.wake room sleeper
        let (rest, done) := wakeUntil time most woken
        (first ++ rest, done)
      else ([], warden)

omit [RandomSource σ] in
/--
A bound on the wake-ups until a time: those who sleep now, and one for every
room in every millisecond; rounds that last no time are bounded by their numbers.
-/
def wakeUps (warden : Warden σ) (time : Nat) : Nat :=
  let rounds := if warden.settings.duration = 0 then Nat.pow 2 32 else time - warden.clock.now + 1
  warden.sleepers.length + warden.timers.size * rounds

/-- Let time pass: every deadline up to the new time is met in order. -/
def pass (warden : Warden σ) (duration : Nat) : List Notice × Warden σ :=
  let time := warden.clock.now + duration
  let (told, woken) := wakeUntil time (warden.wakeUps time) warden
  (told, { woken with clock := { woken.clock with now := time } })

/-! ### Runs -/

/-- What can be asked of a warden. -/
inductive Order where
  | begin (setup : Setup)
  | submit (room id : String) (action : Action)
  | resolve (room : String) (round : Count)
  | abort (room : String)
  | pass (duration : Nat)

/-- Carry out an order; one that fails changes nothing. -/
def step (warden : Warden σ) : Order → List Notice × Warden σ
  | .begin setup =>
    match warden.begin setup with
    | .ok (_, told, begun) => (told, begun)
    | .error _ => ([], warden)
  | .submit room id action =>
    match warden.submit room id action with
    | .ok done => done
    | .error _ => ([], warden)
  | .resolve room round => warden.resolve room round
  | .abort room => ([], (warden.abort room).2)
  | .pass duration => warden.pass duration

/-- Carry out orders one after another. -/
def run : List Order → Warden σ → List Notice × Warden σ
  | [], warden => ([], warden)
  | order :: rest, warden =>
    let (first, after) := warden.step order
    let (others, done) := run rest after
    (first ++ others, done)

end Warden

end Fray
