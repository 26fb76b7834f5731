import Fray.Proofs.Simulation.Courses
import Fray.Proofs.Warden.Stalling

/-!
# Limits of simulations

A simulation with a limit resolves rounds in order, each after it was started, and no more
than permitted. It ends with an outcome if the encounter is decided in one of these rounds or
by the checks that follow it, and otherwise it gives the encounter up after the last of them.
The greatest number is no such limit, because no round has a number beyond it.

## Main results

`simulate_capped`: this holds for every random source. `Invocation.report_capped`: what a
program logs whose settings have a limit.
-/

namespace Fray

open Draws

/-! ### Rounds that are told -/

/-- The round that a notice tells to be resolved. -/
def Notice.resolvedRound? : Notice → Option Count
  | roundResolved _ _ round _ => some round
  | _ => none

/-- Every round is started before it is resolved. -/
def Notice.StartedFirst (notices : List Notice) : Prop :=
  ∀ before after number room round events,
    notices = before ++ .roundResolved number room round events :: after →
    ∃ changes, .roundStarted number room round changes ∈ before

theorem Closing.resolvedRounds_heard (closing : Closing) (number : Nat) (room : String)
    (round : Count) :
    (closing.heard number room round).filterMap Notice.resolvedRound? = [round] := by
  have silent : (closing.resolution.damage.map fun hurt =>
      Notice.damaged number room hurt.1 hurt.2).filterMap Notice.resolvedRound? = [] := by
    rw [List.filterMap_map]
    exact List.filterMap_eq_nil_iff.mpr fun _ _ => rfl
  rw [heard, List.filterMap_append, silent]
  rfl

namespace Bout

theorem resolvedRounds_notices (room : String) (round : Count) (bout : Bout) :
    (bout.notices room round).filterMap Notice.resolvedRound? = [round] := by
  rw [notices, List.filterMap_cons_none rfl, bout.closing.resolvedRounds_heard]

/-- The rounds are resolved one by one, as long as they can be counted. -/
theorem resolvedRounds_allNotices (room : String) {bouts : List Bout} {round : Count}
    (counted : round.toNat + bouts.length ≤ 2 ^ 32) :
    ((allNotices room round bouts).filterMap Notice.resolvedRound?).map Count.toNat
      = List.range' round.toNat bouts.length := by
  induction bouts generalizing round with
  | nil => rfl
  | cons bout rest ih =>
    rw [List.length_cons] at counted
    rw [allNotices, List.filterMap_append, resolvedRounds_notices, List.singleton_append,
      List.map_cons, List.length_cons, List.range'_succ]
    cases rest with
    | nil => rfl
    | cons second others =>
      -- Another round follows, so that there is a number for it.
      rw [List.length_cons] at counted
      have next : (round + 1).toNat = round.toNat + 1 := by
        rw [Count.toNat_add, Count.toNat_one]
        omega
      rw [ih (by rw [next, List.length_cons]; omega), next]

end Bout

namespace Notice.StartedFirst

theorem append {one other : List Notice} (first : StartedFirst one)
    (second : StartedFirst other) : StartedFirst (one ++ other) := by
  intro before after number room round events same
  -- The resolution is in one of the lists, and its start is in front of it there.
  rcases List.append_eq_append_iff.mp same with ⟨gap, front, rest⟩ | ⟨gap, front, rest⟩
  · obtain ⟨changes, started⟩ := second gap after number room round events rest
    exact ⟨changes, front ▸ List.mem_append_right one started⟩
  · cases gap with
    | nil =>
      obtain ⟨changes, started⟩ := second [] after number room round events rest.symm
      cases started
    | cons resolved more =>
      obtain ⟨rfl, _⟩ := List.cons.inj rest
      exact first before more number room round events front

theorem bout (room : String) (round : Count) (bout : Bout) :
    StartedFirst (bout.notices room round) := by
  intro before after number elsewhere other events same
  cases before with
  | nil => cases (List.cons.inj same).1
  | cons first rest =>
    obtain ⟨rfl, heard⟩ := List.cons.inj same
    have told : .roundResolved number elsewhere other events ∈ bout.closing.heard 0 room round := by
      rw [heard]
      exact List.mem_append_right _ List.mem_cons_self
    rcases List.mem_append.mp told with hurt | resolved
    · obtain ⟨_, _, wrong⟩ := List.mem_map.mp hurt
      cases wrong
    · cases List.mem_singleton.mp resolved
      exact ⟨bout.changes, List.mem_cons_self⟩

theorem bouts (room : String) (round : Count) (bouts : List Bout) :
    StartedFirst (Bout.allNotices room round bouts) := by
  induction bouts generalizing round with
  | nil =>
    intro before after number elsewhere other events same
    cases before <;> cases same
  | cons first rest ih => exact (StartedFirst.bout room round first).append (ih (round + 1))

theorem started (number : Nat) (room : String) (round : Count) (changes : List ConditionEvent) :
    StartedFirst [.roundStarted number room round changes] := by
  intro before after other elsewhere resolved events same
  cases before with
  | nil => cases same
  | cons first rest => cases rest <;> cases (List.cons.inj same).2

end Notice.StartedFirst

/-! ### Fights with a limit -/

/-- What a simulation with a limit comes to. -/
structure Course.Capped {σ : Type} (course : Course σ) (maxRounds : Count) (room : String)
    (bouts : List Bout) : Prop where
  /-- The rounds of the fight are resolved in order, and no others. -/
  resolved : (course.notices.filterMap Notice.resolvedRound?).map Count.toNat
    = List.range' 1 bouts.length
  started : Notice.StartedFirst course.notices
  within : bouts.length ≤ maxRounds.toNat
  /-- The outcome is that of a round whose resolution is decisive, or the checks after it. -/
  decided (standing : Standing) : course.finish = .decided standing ↔
    ∃ bout ∈ bouts, bout.closing.Decides standing
  /-- Without an outcome all rounds are resolved, and then the encounter is given up. -/
  undecided (ongoing : ∀ bout ∈ bouts, ∀ standing, ¬bout.closing.Decides standing) :
    bouts.length = maxRounds.toNat ∧
      (maxRounds.toNat < 2 ^ 32 - 1 → course.finish = .limit ∧ course.warden.HasGivenUp room)
  /-- What goes on after its last round is a fight whose limit no number of a round is beyond. -/
  endless : course.finish = .endless ↔ maxRounds.toNat = 2 ^ 32 - 1 ∧
    ∀ bout ∈ bouts, ∀ standing, ¬bout.closing.Decides standing

/-- A fight that is told as it ends is told with its limit. -/
theorem Course.Tells.capped {σ : Type} {course : Course σ} {maxRounds : Count} {room : String}
    {bouts : List Bout} {outcome : Option Standing}
    (tells : Tells maxRounds room (Bout.allNotices room 1 bouts) outcome course)
    (fought : Fought maxRounds.toNat bouts outcome) : course.Capped maxRounds room bouts := by
  have counted := maxRounds.le_greatest
  have within := fought.length_le
  have resolved : ((Bout.allNotices room 1 bouts).filterMap Notice.resolvedRound?).map Count.toNat
      = List.range' 1 bouts.length :=
    Bout.resolvedRounds_allNotices room (by rw [Count.toNat_one]; omega)
  have started := Notice.StartedFirst.bouts room 1 bouts
  have undecided (none : outcome = .none) : ∀ bout ∈ bouts, ∀ standing,
      ¬bout.closing.Decides standing := by
    intro bout inside standing decides
    have some := fought.outcome_eq_some.mpr ⟨bout, inside, decides⟩
    cases none.symm.trans some
  have decided (standing : Standing) (some : outcome = .some standing) :
      ¬∀ bout ∈ bouts, ∀ standing, ¬bout.closing.Decides standing := by
    obtain ⟨bout, inside, decides⟩ := fought.outcome_eq_some.mp some
    exact fun ongoing => ongoing bout inside standing decides
  cases tells with
  | decided standing warden =>
    refine ⟨resolved, started, within, fun other => ?_, fun ongoing => ?_, ?_⟩
    · rw [← fought.outcome_eq_some]
      simp
    · exact absurd ongoing (decided standing rfl)
    · exact ⟨nofun, fun both => absurd both.2 (decided standing rfl)⟩
  | limited small left =>
    refine ⟨resolved, started, within, fun standing => ?_, fun _ => ?_, ?_⟩
    · rw [← fought.outcome_eq_some]
      simp
    · exact ⟨fought.length_eq rfl, fun _ => ⟨rfl, left⟩⟩
    · exact ⟨nofun, fun both => absurd both.1 (Nat.ne_of_lt small)⟩
  | endless greatest events warden =>
    refine ⟨?_, ?_, within, fun standing => ?_, fun _ => ?_, ?_⟩
    · simp only [List.filterMap_append, List.map_append, resolved]
      exact List.append_nil _
    · exact started.append (.started 0 room maxRounds events)
    · rw [← fought.outcome_eq_some]
      simp
    · exact ⟨fought.length_eq rfl, fun small => absurd greatest (Nat.ne_of_lt small)⟩
    · exact ⟨fun _ => ⟨greatest, undecided rfl⟩, fun _ => rfl⟩

/-- With a limit a simulation resolves the rounds of its fight and stops, whatever is drawn. -/
theorem simulate_capped {σ : Type} [RandomSource σ] {pace : Pace} (lasting : 1 ≤ pace.duration)
    (capped : 1 ≤ pace.maxRounds) (setup : Setup) (source : σ) :
    (simulate pace setup source).2.Capped pace.maxRounds setup.room
      ((setup.bouts .everyone pace.points pace.maxRounds.toNat).run source).1 :=
  (simulate_tells lasting capped setup source).capped ((setup.bouts_fought ..).run source)

/-! ### Programs -/

/-- Rounds of valid settings last. -/
theorem Settings.lasting_of_validate {settings : Settings} (valid : settings.validate = .ok ()) :
    1 ≤ settings.pace.duration := by
  by_contra brief
  have instant : settings.pace.duration = 0 := by omega
  unfold validate unusable? at valid
  split at valid
  · cases valid
  next usable =>
    simp only [instant, if_true] at usable
    split at usable <;> cases usable

/--
What a program logs whose settings are valid and have a limit, and whose content and roster
can be loaded, with any seed. It logs the course of an encounter: rounds are resolved in order
from the first, each after it was started and no more than permitted; the outcome is that of
one of these rounds, of its resolution or of the checks that follow it; and where there is
none, all permitted rounds are resolved and the encounter is given up. Only a limit of the
greatest number that rounds can have is never exceeded, so that such a fight goes on.
-/
theorem Invocation.report_capped {invocation : Invocation} {settings : Settings} {codex : Codex}
    {inventory : Inventory} {combatants : List Combatant}
    (given : invocation.settings = .ok settings) (valid : settings.validate = .ok ())
    (capped : 1 ≤ settings.pace.maxRounds)
    (known : settings.loadCodex invocation.files = .ok codex)
    (stocked : settings.loadInventory invocation.files = .ok inventory)
    (built : settings.scenario.roster.mapM (·.combatant inventory) = .ok combatants) :
    let setup := settings.scenario.setup combatants codex inventory
    let seed := Seeded.ofSeed (settings.scenario.seed.getD invocation.seed)
    let run := simulate settings.pace setup seed
    let bouts :=
      ((setup.bouts .everyone settings.pace.points settings.pace.maxRounds.toNat).run seed).1
    invocation.report =
      { records := [.starting settings.pace, .loaded codex]
          ++ (settings.scenario.seed.map LogRecord.seeded).toList ++ run.1.map LogRecord.ready
          ++ run.2.notices.flatMap LogRecord.ofNotice
          ++ LogRecord.ofFinish settings.pace run.2.finish
        fault := none } ∧
    run.2.Capped settings.pace.maxRounds settings.scenario.room bouts := by
  intro setup seed run bouts
  refine ⟨?_, simulate_capped (Settings.lasting_of_validate valid) capped setup seed⟩
  have ready : (do
      let settings ← invocation.settings
      settings.validate
      return settings) = .ok settings := by
    rw [given]
    show (settings.validate >>= fun _ => _) = _
    rw [valid]
    rfl
  have content : (do
      let codex ← settings.loadCodex invocation.files
      let inventory ← settings.loadInventory invocation.files
      return (codex, inventory)) = .ok (codex, inventory) := by
    rw [known]
    show (settings.loadInventory invocation.files >>= fun _ => _) = _
    rw [stocked]
    rfl
  simp only [report, ready, reportSettings, content, reportScenario, built, reportCourse,
    Report.after]
  rfl

/-- A program that is asked for two rounds of the usual fight. -/
def Invocation.sampleTwoRounds : Invocation where
  files :=
    ⟨fun path => if path = usualSettings then some (.text "round:\n  max_rounds: 2\n") else none⟩
  arguments := []
  root := none
  seed := 1

def Settings.sampleTwoRounds : Settings := { pace := { maxRounds := 2 } }

def Setup.sampleTwoRounds : Setup :=
  let scenario := Settings.sampleTwoRounds.scenario
  scenario.setup (scenario.roster.map RosterEntry.unarmed) .core .empty

/-- Nobody wins in two rounds, and the fight is given up. -/
theorem Invocation.report_capped_sample :
    let settings := Settings.sampleTwoRounds
    let seed := Seeded.ofSeed (settings.scenario.seed.getD sampleTwoRounds.seed)
    let run := simulate settings.pace Setup.sampleTwoRounds seed
    sampleTwoRounds.settings = .ok settings ∧ settings.validate = .ok () ∧
    1 ≤ settings.pace.maxRounds ∧ settings.loadCodex sampleTwoRounds.files = .ok .core ∧
    settings.loadInventory sampleTwoRounds.files = .ok .empty ∧
    settings.scenario.roster.mapM (·.combatant .empty)
      = .ok (settings.scenario.roster.map RosterEntry.unarmed) ∧
    run.2.finish = .limit ∧ run.2.warden.HasGivenUp "arena" ∧
    (run.2.notices.filterMap Notice.resolvedRound?).map Count.toNat = [1, 2] := by
  intro settings seed run
  let bouts := ((Setup.sampleTwoRounds.bouts .everyone settings.pace.points
    settings.pace.maxRounds.toNat).run seed).1
  have given : sampleTwoRounds.settings = .ok settings := by decide +kernel
  have undecided : ∀ bout ∈ bouts, bout.closing.resolution.encounter.standing = .ongoing ∧
      bout.closing.encounter.standing = .ongoing := by
    decide +kernel
  have limited : run.2.Capped settings.pace.maxRounds "arena" bouts :=
    (report_capped given rfl (by decide) rfl rfl rfl).2
  have ongoing : ∀ bout ∈ bouts, ∀ standing, ¬bout.closing.Decides standing := by
    rintro bout inside standing ⟨decided, same | ⟨_, same⟩⟩
    · exact decided (same.symm.trans (undecided bout inside).1)
    · exact decided (same.symm.trans (undecided bout inside).2)
  obtain ⟨all, small⟩ := limited.undecided ongoing
  obtain ⟨finish, left⟩ := small (by decide)
  have resolved := limited.resolved
  rw [all] at resolved
  exact ⟨given, rfl, by decide, rfl, rfl, rfl, finish, left, resolved⟩

end Fray
