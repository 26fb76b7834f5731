import Fray.Action
import Fray.Afflictions
import Fray.Alarm
import Fray.Arsenal.Explosive
import Fray.Arsenal.Fault
import Fray.Arsenal.Inventory
import Fray.Arsenal.Loadout
import Fray.Arsenal.Weapon
import Fray.AttackRoll
import Fray.Combatant
import Fray.Condition
import Fray.Content
import Fray.Dice.Expr
import Fray.Dice.Roll
import Fray.Document.Json
import Fray.Document.Value
import Fray.Dying
import Fray.Encounter
import Fray.Event
import Fray.Files
import Fray.Hook
import Fray.HookScript
import Fray.Initiative
import Fray.Main
import Fray.Number
import Fray.Outcome
import Fray.Queue
import Fray.Random.Any
import Fray.Random.ChaCha
import Fray.Random.Draws
import Fray.Random.Seeded
import Fray.Random.Source
import Fray.Records
import Fray.Refusal
import Fray.Rooms
import Fray.Round
import Fray.Settings
import Fray.Side
import Fray.Simulation
import Fray.Table
import Fray.Tactics
import Fray.Tagged
import Fray.Text.Blank
import Fray.Text.CaseTable
import Fray.Text.Invisible
import Fray.Text.Lower
import Fray.Text.Numeral
import Fray.Text.Quoted
import Fray.Timer
import Fray.Views
import Fray.Warden
import Fray.Yaml.Node
import Fray.Yaml.Place
import Fray.Yaml.Reader
import Fray.Yaml.Scalar
import Fray.Yaml.Token
import Fray.Proofs.Text.Numerals
import Fray.Proofs.Document.Fields
import Fray.Proofs.Document.WrittenForms
import Fray.Proofs.Dice.Grammar
import Fray.Proofs.Random.Sources
import Fray.Proofs.Random.Sampling
import Fray.Proofs.Random.Contracts
import Fray.Proofs.Dice.Throws
import Fray.Proofs.Initiative
import Fray.Proofs.Dice.Rolls
import Fray.Proofs.Round.Steps
import Fray.Proofs.Round.Course
import Fray.Proofs.Round.Frame
import Fray.Proofs.Round.Turns
import Fray.Proofs.Round.Accounts
import Fray.Proofs.Round.Reports
import Fray.Proofs.Round.Works
import Fray.Proofs.Round.Blocks
import Fray.Proofs.Round.Blows
import Fray.Proofs.Round.Ebb
import Fray.Proofs.Round.Ignored
import Fray.Proofs.Round.Effects
import Fray.Proofs.Round.Moments
import Fray.Proofs.Round.Ammunition
import Fray.Proofs.Round.Fallen
import Fray.Proofs.Round.Blasts
import Fray.Proofs.Round.Strikes
import Fray.Proofs.Encounter.Committing
import Fray.Proofs.Encounter.Opening
import Fray.Proofs.Encounter.Playing
import Fray.Proofs.Encounter.Reached
import Fray.Proofs.Encounter.Submitted
import Fray.Proofs.Encounter.Histories
import Fray.Proofs.Encounter.Caps
import Fray.Proofs.Encounter.Mild
import Fray.Proofs.Encounter.Interleaving
import Fray.Proofs.Encounter.Coverage
import Fray.Proofs.Encounter.Ledger
import Fray.Proofs.Encounter.Intact
import Fray.Proofs.Encounter.Stunned
import Fray.Proofs.Encounter.Mustering
import Fray.Proofs.Encounter.Cursor
import Fray.Proofs.Encounter.Laps
import Fray.Proofs.Warden.Changes
import Fray.Proofs.Warden.Beginning
import Fray.Proofs.Warden.Tale
import Fray.Proofs.Warden.Observing
import Fray.Proofs.Warden.Executing
import Fray.Proofs.Warden.Surfacing
import Fray.Proofs.Tables
import Fray.Proofs.Afflictions.Entries
import Fray.Proofs.Afflictions.Stacks
import Fray.Proofs.Afflictions.Expiry
import Fray.Proofs.Afflictions.Penalties
import Fray.Proofs.Afflictions.Modifiers
import Fray.Proofs.Timers
import Fray.Proofs.Warden.Deadlines
import Fray.Proofs.Warden.Waking
import Fray.Proofs.Schedules
import Fray.Proofs.Warden.Rooms
import Fray.Proofs.Warden.Steering
import Fray.Proofs.Warden.Aiming
import Fray.Proofs.Warden.Stalling
import Fray.Proofs.Warden.Upholding
import Fray.Proofs.Warden.Concluding
import Fray.Proofs.Warden.Housekeeping
import Fray.Proofs.Warden.Refusing
import Fray.Proofs.Warden.Lateness
import Fray.Proofs.Warden.Lines
import Fray.Proofs.Warden.Passing
import Fray.Proofs.Warden.Faces
import Fray.Proofs.Warden.Apart
import Fray.Play
import Fray.Proofs.Dying.Agreement
import Fray.Proofs.Dying.Hits
import Fray.Proofs.Dying.Runs
import Fray.Proofs.Dying.Tending
import Fray.Proofs.Dying.Chain
import Fray.Proofs.Dying.Checks
import Fray.Proofs.Dying.Fates
import Fray.Proofs.Dying.Telling
import Fray.Proofs.Death
import Fray.Proofs.Outcomes
import Fray.Proofs.Arsenal.Handling
import Fray.Proofs.Content.Folders
import Fray.Proofs.Content.Loading
import Fray.Proofs.Simulation.Bouts
import Fray.Proofs.Simulation.Hosting
import Fray.Proofs.Simulation.Courses
import Fray.Proofs.Simulation.Limits
import Fray.Proofs.Simulation.Stalled
import Fray.Proofs.Round.Checks
