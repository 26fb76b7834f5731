import Fray.Random.Seeded
import Fray.Settings

/-!
# Simulations

A program that runs one encounter with every combatant steered, and logs what
happens until the encounter is decided or its rounds are used up. The course of
the encounter is told first, and then put into log records.
-/
namespace Fray

/-! ### The course of an encounter -/

/-- How a simulation ends. -/
inductive Finish where
  | decided (standing : Standing)
  /-- The round after the last permitted one was opened. -/
  | limit
  /-- Still undecided after as many rounds as are followed; this is no end of the encounter. -/
  | endless

/-- What is told of an encounter, how it ends, and what is left. -/
structure Course (σ : Type) where
  notices : List Notice
  finish : Finish
  warden : Warden σ

/-- Whether a notice opens a round beyond the limit; zero is no limit. -/
def Notice.isBeyond (maxRounds : Count) : Notice → Bool
  | roundStarted _ _ round _ => 0 < maxRounds && maxRounds < round
  | _ => false

def Notice.standing? : Notice → Option Standing
  | ended _ _ standing => some standing
  | _ => none

/-- Read notices up to the first one that ends a simulation. -/
def finishAmong (maxRounds : Count) : List Notice → List Notice × Option Finish
  | [] => ([], none)
  | notice :: rest =>
    if notice.isBeyond maxRounds then ([], some .limit)
    else
      match notice.standing? with
      | some standing => ([], some (.decided standing))
      | none =>
        let (told, finish) := finishAmong maxRounds rest
        (notice :: told, finish)

/-- How many rounds are followed at most; without a limit, as many as can be counted. -/
def Pace.roundBound (pace : Pace) : Nat :=
  if pace.maxRounds = 0 then Nat.pow 2 32 else pace.maxRounds.toNat

variable {σ : Type}

/-- An encounter that has used up its rounds is given up. -/
def Finish.leave (room : String) (warden : Warden σ) : Finish → Warden σ
  | limit => (warden.abort room).2
  | decided _ | endless => warden

variable [RandomSource σ]

/-- Read the latest notices, and go on to the next deadline, at most so many times. -/
def followCourse (pace : Pace) (room : String) : Nat → Warden σ → List Notice → Course σ
  | rounds, warden, latest =>
    match finishAmong pace.maxRounds latest with
    | (told, some finish) => ⟨told, finish, finish.leave room warden⟩
    | (told, none) =>
      match rounds with
      | 0 => ⟨told, .endless, warden⟩
      | rounds + 1 =>
        let (next, passed) := warden.pass pace.duration
        let rest := followCourse pace room rounds passed next
        { rest with notices := told ++ rest.notices }

/-- The encounter at its beginning, and its course. -/
def simulate (pace : Pace) (setup : Setup) (source : σ) : List Combatant × Course σ :=
  let idle := Warden.new pace.rounds .everyone source
  match idle.begin setup with
  | .error _ => ([], ⟨[], .endless, idle⟩)
  | .ok (number, told, warden) =>
    (((warden.encounters[number]?).map Encounter.combatants).getD [],
      followCourse pace setup.room pace.roundBound warden told)

/-! ### Log records -/

inductive Severity where
  | info
  | warning

def Severity.name : Severity → String
  | info => "INFO"
  | warning => "WARN"

structure LogRecord where
  severity : Severity
  fields : List (String × Json)
  message : String

namespace LogRecord

def info (message : String) (fields : List (String × Json)) : LogRecord :=
  ⟨.info, fields, message⟩

def warning (message : String) (fields : List (String × Json)) : LogRecord :=
  ⟨.warning, fields, message⟩

def fieldsJson (record : LogRecord) : Json :=
  .object (("message", .text record.message) :: record.fields)

def toJson (record : LogRecord) : Json :=
  .object [("level", .text record.severity.name), ("fields", record.fieldsJson)]

end LogRecord

/-- How a log writes a side. -/
def Side.logName : Side → String
  | player => "Player"
  | npc => "Npc"

def Change.logName : Change → String
  | applied => "Applied"
  | removed => "Removed"

namespace LogRecord

def starting (pace : Pace) : LogRecord :=
  info "skirmish-sim starting" [
    ("actions_per_round", .ofCount pace.points),
    ("round_duration_ms", .integer pace.duration),
    ("max_rounds", .ofCount pace.maxRounds)]

def loaded (codex : Codex) : LogRecord :=
  info "Content loaded" [("conditions", .integer codex.size)]

def seeded (seed : UInt64) : LogRecord :=
  info "Using fixed seed" [("seed", .integer seed.toNat)]

def ready (combatant : Combatant) : LogRecord :=
  info "Combatant ready" [
    ("combatant", .text combatant.id),
    ("name", .text combatant.name),
    ("allegiance", .text combatant.side.logName),
    ("initiative", .ofScore combatant.initiative)]

def conditionChanged (event : ConditionEvent) : LogRecord :=
  info "Condition changed" [
    ("combatant", .text event.combatant),
    ("condition", .text event.conditionName),
    ("stacks", .ofCount event.stack),
    ("change", .text event.change.logName)]

/-- A resolved step, with its roll if it is an attack. -/
def resolved (round : Count) (event : RoundEvent) : LogRecord :=
  let step := [
    ("round", .ofCount round),
    ("actor", .text event.actor),
    ("action", .text event.action.name)]
  let rolled :=
    match event.attack with
    | none => []
    | some attack => [
      ("roll", .ofScore attack.roll),
      ("total", .ofScore attack.total),
      ("outcome", .text attack.outcome.name)]
  info event.narrative (step ++ rolled)

/-- What is logged of a notice. -/
def ofNotice : Notice → List LogRecord
  | .roundStarted _ _ round events =>
    info "Round started" [("round", .ofCount round)] :: events.map conditionChanged
  | .damaged _ _ combatant hp =>
    [info "Damage taken" [("combatant", .text combatant), ("hp", .ofCount hp)]]
  | .roundResolved _ _ round events => events.map (resolved round)
  | .ended _ _ _ => []

/-- What is logged at the end. A fight that goes on is not followed further, and logs no end. -/
def ofFinish (pace : Pace) : Finish → List LogRecord
  | .decided .victory => [info "Encounter won" []]
  | .decided .defeat => [info "Encounter lost" []]
  | .decided .ongoing => [info "Encounter stopped undecided" []]
  | .endless => []
  | .limit => [
    warning "Round limit reached, stopping" [("max_rounds", .ofCount pace.maxRounds)],
    info "Encounter stopped undecided" []]

end LogRecord

/-! ### The program -/

/-- The settings that are used when none are named, if they are there. -/
def usualSettings : String := "skirmish.yaml"

/-- What a program is run with. -/
structure Invocation where
  files : Files
  arguments : List String
  /-- The root folder of content, if it is given from outside. -/
  root : Option String
  /-- The seed that is used when the settings have none. -/
  seed : UInt64

/-- The settings of the first argument, else the usual ones, else the default ones. -/
def Invocation.settings (invocation : Invocation) : Except SettingsFault Settings :=
  match invocation.arguments with
  | path :: _ => Settings.load invocation.files invocation.root path
  | [] =>
    if invocation.files.has usualSettings then
      Settings.load invocation.files invocation.root usualSettings
    else .ok (Settings.withRoot {} invocation.root)

/-- The log of a run, and the fault that ended it, if one did. -/
structure Report where
  records : List LogRecord
  fault : Option SettingsFault

namespace Report

def failed (fault : SettingsFault) : Report := ⟨[], some fault⟩

/-- Log records before anything else. -/
def after (records : List LogRecord) (report : Report) : Report :=
  { report with records := records ++ report.records }

def exitCode (report : Report) : Nat := if report.fault.isSome then 1 else 0

end Report

/-- The encounter of a scenario. -/
def Scenario.setup (scenario : Scenario) (combatants : List Combatant) (codex : Codex)
    (inventory : Inventory) : Setup where
  room := scenario.room
  zone := scenario.zone.getD scenario.room
  combatants := combatants
  codex := codex
  inventory := some inventory

/-- Run an encounter and log its course. -/
def reportCourse (settings : Settings) (setup : Setup) (fallback : UInt64) : Report :=
  let seed := settings.scenario.seed
  let (combatants, course) :=
    simulate settings.pace setup (Seeded.ofSeed (seed.getD fallback))
  { records := (seed.map LogRecord.seeded).toList
      ++ combatants.map LogRecord.ready
      ++ course.notices.flatMap LogRecord.ofNotice
      ++ LogRecord.ofFinish settings.pace course.finish
    fault := none }

/-- Build the encounter from loaded content and run it. -/
def reportScenario (settings : Settings) (codex : Codex) (inventory : Inventory)
    (fallback : UInt64) : Report :=
  match settings.scenario.roster.mapM (·.combatant inventory) with
  | .error fault => .failed fault
  | .ok combatants =>
    reportCourse settings (settings.scenario.setup combatants codex inventory) fallback

/-- Load content and run the encounter with it. -/
def reportSettings (files : Files) (settings : Settings) (fallback : UInt64) : Report :=
  let content := do
    let codex ← settings.loadCodex files
    let inventory ← settings.loadInventory files
    return (codex, inventory)
  Report.after [.starting settings.pace] <|
    match content with
    | .error fault => .failed fault
    | .ok (codex, inventory) =>
      Report.after [.loaded codex] (reportScenario settings codex inventory fallback)

/-- Run the program. -/
def Invocation.report (invocation : Invocation) : Report :=
  let settings := do
    let settings ← invocation.settings
    settings.validate
    return settings
  match settings with
  | .error fault => .failed fault
  | .ok settings => reportSettings invocation.files settings invocation.seed

end Fray
