import Fray.Proofs.Warden.Steering

/-!
# Fights round by round

A fight that nobody but the tactics takes part in is a row of rounds: one is closed after
another until a closing decides the encounter. What decides it is the resolution of a round,
or else the recovery checks that are made when the next round is opened.

## Main results

`closeRound_follows` says how a round goes on, and `bouts_fought` what the rounds of a fight
are: only the last of them can decide it, and there are fewer than permitted only if it does.
-/

namespace Fray

open Draws

/-! ### How a round goes on -/

namespace Closing

/-- The resolution decides the encounter, or it does not and the checks that follow do. -/
def Decides (closing : Closing) (standing : Standing) : Prop :=
  standing ≠ .ongoing ∧ (closing.resolution.encounter.standing = standing ∨
    (closing.resolution.encounter.standing = .ongoing ∧ closing.encounter.standing = standing))

/-- The outcome of an encounter that has ended with a round. -/
def outcome? (closing : Closing) : Option Standing :=
  match closing.aftermath with
  | .ended standing | .lapsed _ standing => some standing
  | .next _ _ => none

/-- A closed round has decided the encounter, or the next round is open. -/
inductive Follows (closing : Closing) (before : Encounter) : Prop
  | decided {standing : Standing} (ends : closing.outcome? = some standing)
      (decides : closing.Decides standing)
  | next {events : List ConditionEvent} {commits : List Commit}
      (opens : closing.aftermath = .next events commits)
      (undecided : ∀ standing, ¬closing.Decides standing)
      (isOver : closing.encounter.isOver = before.isOver)
      (round : closing.encounter.round = before.round + 1)

/-- Nobody decides an encounter in two ways. -/
theorem Decides.unique {closing : Closing} {one other : Standing} (first : closing.Decides one)
    (second : closing.Decides other) : one = other := by
  obtain ⟨decided, resolved | ⟨ongoing, checked⟩⟩ := first <;>
    obtain ⟨decidedToo, resolvedToo | ⟨ongoingToo, checkedToo⟩⟩ := second
  · exact resolved.symm.trans resolvedToo
  · exact absurd (resolved.symm.trans ongoingToo) decided
  · exact absurd (resolvedToo.symm.trans ongoing) decidedToo
  · exact checked.symm.trans checkedToo

end Closing

theorem Encounter.closeRound_follows (encounter : Encounter) (tactics : Tactics)
    (points : Count) :
    Always (fun closing => closing.Follows encounter) (encounter.closeRound tactics points) := by
  refine closeRound_always fun closing played => ?_
  cases played with
  | ended _ decided => exact .decided rfl ⟨decided, .inl rfl⟩
  | lapsed _ ongoing _ decided => exact .decided rfl ⟨decided, .inr ⟨ongoing, rfl⟩⟩
  | @next resolution events opened resolves ongoing opens undecided =>
    have framed := resolves.holds encounter.resolve_framed
    have opens := opens.holds (openRound_opens resolution.encounter points)
    have steered := tactics.muster_encounter opened
    refine .next rfl ?undecided ?isOver ?round
    case undecided =>
      rintro standing ⟨decided, resolved | ⟨_, checked⟩⟩
      · exact decided (resolved.symm.trans ongoing)
      · exact decided (checked.symm.trans (Tactics.standing_muster.trans undecided))
    case isOver =>
      show (tactics.muster opened).encounter.isOver = _
      rw [steered]
      exact opens.isOver.trans framed.isOver
    case round =>
      show (tactics.muster opened).encounter.round = _
      rw [steered]
      exact opens.round.trans (congrArg (· + 1) framed.round)

/-! ### The rounds of a fight -/

/-- A round of a fight: which conditions changed when it was opened, and how it was closed. -/
structure Bout where
  changes : List ConditionEvent
  closing : Closing

def Bout.outcome? (bout : Bout) : Option Standing := bout.closing.outcome?

/-- The rounds from an open one until the encounter is decided, but at most so many. -/
def Encounter.bouts (tactics : Tactics) (points : Count) :
    Nat → List ConditionEvent → Encounter → Draws (List Bout)
  | 0, _, _ => return []
  | most + 1, changes, encounter => do
    let closing ← encounter.closeRound tactics points
    match closing.aftermath with
    | .ended _ | .lapsed _ _ => return [⟨changes, closing⟩]
    | .next events _ =>
      let later ← bouts tactics points most events closing.encounter
      return ⟨changes, closing⟩ :: later

section

variable {σ : Type} [RandomSource σ] {encounter : Encounter} {tactics : Tactics} {points : Count}
  {changes : List ConditionEvent} {most : Nat} {source : σ}

/-- A round that ends the encounter is the last one. -/
theorem Encounter.run_bouts_decided {standing : Standing}
    (ends : ((encounter.closeRound tactics points).run source).1.outcome? = some standing) :
    ((encounter.bouts tactics points (most + 1) changes).run source).1
      = [⟨changes, ((encounter.closeRound tactics points).run source).1⟩] := by
  rw [bouts, run_bind]
  unfold Closing.outcome? at ends
  split at ends
  next aftermath => simp only [pure_eq, run]
  next aftermath => simp only [pure_eq, run]
  next => cases ends

/-- The next round goes on with the source from where it was left. -/
theorem Encounter.run_bouts_next {events : List ConditionEvent} {commits : List Commit}
    (opens : ((encounter.closeRound tactics points).run source).1.aftermath
      = .next events commits) :
    let closed := (encounter.closeRound tactics points).run source
    ((encounter.bouts tactics points (most + 1) changes).run source).1
      = ⟨changes, closed.1⟩ ::
        ((closed.1.encounter.bouts tactics points most events).run closed.2).1 := by
  rw [bouts, run_bind]
  simp only [opens, run_bind, pure_eq, run]

end

/-- The rounds of a fight from its beginning, at most so many. -/
def Setup.bouts (setup : Setup) (tactics : Tactics) (points : Count) (most : Nat) :
    Draws (List Bout) := do
  let (changes, muster) ← Warden.firstRound setup tactics points
  muster.encounter.bouts tactics points most changes

/-- The rounds of a fight: the last of them decides it, or none does and there are so many. -/
inductive Fought : Nat → List Bout → Option Standing → Prop
  | undecided : Fought 0 [] none
  | decided {most : Nat} {bout : Bout} {standing : Standing}
      (decides : bout.closing.Decides standing) : Fought (most + 1) [bout] (some standing)
  | next {most : Nat} {bout : Bout} {rest : List Bout} {outcome : Option Standing}
      (undecided : ∀ standing, ¬bout.closing.Decides standing)
      (later : Fought most rest outcome) : Fought (most + 1) (bout :: rest) outcome

namespace Fought

variable {most : Nat} {bouts : List Bout} {outcome : Option Standing}

theorem length_le (fought : Fought most bouts outcome) : bouts.length ≤ most := by
  induction fought with
  | undecided => exact Nat.le_refl 0
  | decided => exact Nat.succ_le_succ (Nat.zero_le _)
  | next _ _ ih => exact Nat.succ_le_succ ih

/-- A fight that is not decided takes all its rounds. -/
theorem length_eq (fought : Fought most bouts outcome) (open? : outcome = none) :
    bouts.length = most := by
  induction fought with
  | undecided => rfl
  | decided => cases open?
  | next _ _ ih => exact congrArg Nat.succ (ih open?)

/-- The outcome is that of the round that decides. -/
theorem outcome_eq_some (fought : Fought most bouts outcome) {standing : Standing} :
    outcome = some standing ↔ ∃ bout ∈ bouts, bout.closing.Decides standing := by
  induction fought with
  | undecided => simp
  | decided decides =>
    simp only [Option.some.injEq, List.mem_singleton, exists_eq_left]
    exact ⟨fun same => same ▸ decides, fun also => decides.unique also⟩
  | next undecided _ ih => simp [ih, undecided]

end Fought

/-- A fight goes on until it is decided or its rounds are used up. -/
theorem Encounter.bouts_fought (tactics : Tactics) (points : Count) (most : Nat)
    (changes : List ConditionEvent) (encounter : Encounter) :
    Always (fun bouts => Fought most bouts (bouts.findSome? Bout.outcome?))
      (encounter.bouts tactics points most changes) := by
  induction most generalizing changes encounter with
  | zero => exact .undecided
  | succ most ih =>
    unfold bouts
    rw [always_bind]
    refine (encounter.closeRound_follows tactics points).mono fun closing follows => ?_
    -- What the round comes to is found first, whichever way it has decided the encounter.
    cases follows with
    | decided ends decides =>
      have whole : Fought (most + 1) [⟨changes, closing⟩]
          ([Bout.mk changes closing].findSome? Bout.outcome?) := by
        have first : Bout.outcome? ⟨changes, closing⟩ = some _ := ends
        rw [List.findSome?_cons, first]
        exact .decided decides
      cases aftermath : closing.aftermath with
      | ended standing => exact whole
      | lapsed events standing => exact whole
      | next events commits =>
        rw [Closing.outcome?, aftermath] at ends
        cases ends
    | next opens undecided =>
      simp only [opens]
      rw [always_bind]
      refine (ih _ closing.encounter).mono fun later fought => ?_
      have first : Bout.outcome? ⟨changes, closing⟩ = none := by
        rw [Bout.outcome?, Closing.outcome?, opens]
      simp only [pure_eq, always_done, List.findSome?_cons, first]
      exact .next undecided fought

theorem Setup.bouts_fought (setup : Setup) (tactics : Tactics) (points : Count) (most : Nat) :
    Always (fun bouts => Fought most bouts (bouts.findSome? Bout.outcome?))
      (setup.bouts tactics points most) := by
  unfold bouts
  rw [always_bind]
  exact always_of_forall (fun opened => Encounter.bouts_fought ..) _

end Fray
