import Fray.Proofs.Simulation.Hosting
import Fray.Simulation

/-!
# The course of a simulation

A simulation reads what is heard of its encounter, and stops at the end of the encounter or
when a round beyond the limit is started. So the limit shows one notice later than the round
that it is about: the last permitted round is resolved, and then it is the start of the next
one that ends the simulation, unless the checks at its opening decide the encounter.

Rounds are counted up to `2 ^ 32 - 1`, and the round after that one has this number again. So
the greatest number is a limit that is never exceeded.

## Main results

`followCourse_tells`: what is told from an open round on, by induction on the rounds that may
still be resolved. `simulate_tells`: the same from the beginning.
-/

namespace Fray

open Draws

/-! ### Reading notices -/

/-- A notice that lets a simulation go on. -/
def Notice.IsPlain (maxRounds : Count) (notice : Notice) : Prop :=
  notice.isBeyond maxRounds = false ∧ notice.standing? = none

section

variable {maxRounds : Count}

theorem finishAmong_append {front : List Notice}
    (plain : ∀ notice ∈ front, notice.IsPlain maxRounds) (rest : List Notice) :
    finishAmong maxRounds (front ++ rest)
      = (front ++ (finishAmong maxRounds rest).1, (finishAmong maxRounds rest).2) := by
  induction front with
  | nil => rfl
  | cons first others ih =>
    obtain ⟨⟨within, ongoing⟩, later⟩ := List.forall_mem_cons.mp plain
    simp only [List.cons_append, finishAmong, within, ongoing, ih later, Bool.false_eq_true,
      if_false]

theorem Closing.heard_plain (closing : Closing) (number : Nat) (room : String) (round : Count) :
    ∀ notice ∈ closing.heard number room round, notice.IsPlain maxRounds := by
  refine List.forall_mem_append.mpr ⟨List.forall_mem_map.mpr fun _ _ => ⟨rfl, rfl⟩, ?_⟩
  exact List.forall_mem_singleton.mpr ⟨rfl, rfl⟩

theorem finishAmong_plain {notice : Notice} (plain : notice.IsPlain maxRounds) :
    finishAmong maxRounds [notice] = ([notice], none) :=
  finishAmong_append (List.forall_mem_singleton.mpr plain) []

/-- A simulation goes on with a round that is within the limit, or if there is no limit. -/
theorem Notice.roundStarted_plain {number : Nat} {room : String} {round : Count}
    {events : List ConditionEvent} (within : maxRounds = 0 ∨ round ≤ maxRounds) :
    (roundStarted number room round events).IsPlain maxRounds := by
  refine ⟨?_, rfl⟩
  rcases within with rfl | within
  · rfl
  · have early : ¬maxRounds < round := Nat.not_lt.mpr within
    simp [isBeyond, early]

theorem finishAmong_beyond {number : Nat} {room : String} {round : Count}
    {events : List ConditionEvent} (capped : 1 ≤ maxRounds) (beyond : maxRounds < round) :
    finishAmong maxRounds [.roundStarted number room round events] = ([], some .limit) := by
  have positive : 0 < maxRounds := capped
  simp [finishAmong, Notice.isBeyond, beyond, positive]

end

/-! ### Telling rounds -/

/-- A round is started, and then resolved. -/
def Bout.notices (room : String) (round : Count) (bout : Bout) : List Notice :=
  .roundStarted 0 room round bout.changes :: bout.closing.heard 0 room round

/-- What is told of the rounds of a fight, the first of which has a number. -/
def Bout.allNotices (room : String) : Count → List Bout → List Notice
  | _, [] => []
  | round, bout :: rest => bout.notices room round ++ allNotices room (round + 1) rest

variable {σ : Type}

/-- A course tells some notices, and ends like a fight that has come to an outcome or to none. -/
inductive Course.Tells (maxRounds : Count) (room : String) (told : List Notice) :
    Option Standing → Course σ → Prop
  | decided (standing : Standing) (warden : Warden σ) :
      Tells maxRounds room told (some standing) ⟨told, .decided standing, warden⟩
  | limited {warden : Warden σ} (small : maxRounds.toNat < 2 ^ 32 - 1)
      (left : warden.HasGivenUp room) : Tells maxRounds room told none ⟨told, .limit, warden⟩
  /-- The round after the greatest number has this number again. -/
  | endless (greatest : maxRounds.toNat = 2 ^ 32 - 1) (events : List ConditionEvent)
      (warden : Warden σ) : Tells maxRounds room told none
        ⟨told ++ [.roundStarted 0 room maxRounds events], .endless, warden⟩

/-- What was told before comes in front. -/
theorem Course.Tells.behind {course : Course σ} {maxRounds : Count} {room : String}
    {told : List Notice} {outcome : Option Standing}
    (tells : Tells maxRounds room told outcome course) (front : List Notice) :
    Tells maxRounds room (front ++ told) outcome
      { course with notices := front ++ course.notices } := by
  cases tells with
  | decided standing warden => exact .decided standing warden
  | limited small left => exact .limited small left
  | endless greatest events warden =>
    rw [← List.append_assoc]
    exact .endless greatest events warden

variable [RandomSource σ]

section

variable {pace : Pace} {room : String} {most : Nat} {warden : Warden σ} {latest : List Notice}

theorem followCourse_ends {finish : Finish}
    (read : finishAmong pace.maxRounds latest = ([], some finish)) :
    followCourse pace room most warden latest = ⟨[], finish, finish.leave room warden⟩ := by
  unfold followCourse
  rw [read]

/-- Notices that do not end a simulation are told. -/
theorem followCourse_append {front : List Notice}
    (plain : ∀ notice ∈ front, notice.IsPlain pace.maxRounds) (rest : List Notice) :
    followCourse pace room most warden (front ++ rest) =
      let course := followCourse pace room most warden rest
      { course with notices := front ++ course.notices } := by
  unfold followCourse
  rw [finishAmong_append plain]
  rcases finishAmong pace.maxRounds rest with ⟨told, _ | finish⟩
  · cases most with
    | zero => rfl
    | succ most => simp only [List.append_assoc]
  · rfl

/-- Without an end the next deadline is met. -/
theorem followCourse_next {told : List Notice}
    (read : finishAmong pace.maxRounds latest = (told, none)) :
    followCourse pace room (most + 1) warden latest =
      let passed := warden.pass pace.duration
      let rest := followCourse pace room most passed.2 passed.1
      { rest with notices := told ++ rest.notices } := by
  rw [followCourse, read]

/-! ### One round -/

/-- A round is told, and then it is looked at what is heard at last. -/
theorem Warden.Hosts.close {encounter : Encounter} {changes : List ConditionEvent}
    (hosts : warden.Hosts room encounter) (settings : warden.settings = pace.rounds)
    (lasting : 1 ≤ pace.duration)
    (within : pace.maxRounds = 0 ∨ encounter.round ≤ pace.maxRounds) (most : Nat) :
    let closed := (encounter.closeRound warden.tactics pace.points).run warden.source
    ∃ passed : Warden σ, passed.settings = warden.settings ∧ passed.tactics = warden.tactics ∧
      passed.source = closed.2 ∧
      (∀ events commits, closed.1.aftermath = .next events commits →
        closed.1.encounter.isOver = false → passed.Hosts room closed.1.encounter) ∧
      followCourse pace room (most + 1) warden [.roundStarted 0 room encounter.round changes] =
        let rest := followCourse pace room most passed [closed.1.lastHeard 0 room]
        { rest with
          notices := Bout.notices room encounter.round ⟨changes, closed.1⟩ ++ rest.notices } := by
  intro closed
  have duration : warden.settings.duration = pace.duration := by rw [settings]; rfl
  have points : warden.settings.points = pace.points := by rw [settings]; rfl
  obtain ⟨passed, pass, kept, tactics, source, stays⟩ := hosts.pass (duration ▸ lasting)
  rw [duration, points] at pass
  rw [points] at source stays
  refine ⟨passed, kept, tactics, source, stays, ?_⟩
  have told : followCourse pace room most passed
      (closed.1.heard 0 room encounter.round ++ [closed.1.lastHeard 0 room]) = _ :=
    followCourse_append (closed.1.heard_plain 0 room encounter.round) _
  rw [followCourse_next (finishAmong_plain (Notice.roundStarted_plain within)), pass]
  show Course.mk ([_] ++ (followCourse pace room most passed (closed.1.heard .. ++ _)).notices)
    _ _ = _
  rw [told]
  rfl

/-- A warden with an open round, and as many rounds may be resolved until the limit. -/
structure Warden.Reports (warden : Warden σ) (pace : Pace) (room : String)
    (encounter : Encounter) (most : Nat) : Prop where
  hosts : warden.Hosts room encounter
  settings : warden.settings = pace.rounds
  tactics : warden.tactics = .everyone
  most_le : most ≤ pace.maxRounds.toNat
  round : encounter.round = Count.ofNat (pace.maxRounds.toNat + 1 - most)

omit [RandomSource σ] in
theorem Warden.Reports.within {encounter : Encounter}
    (reports : warden.Reports pace room encounter (most + 1)) :
    encounter.round.toNat + most = pace.maxRounds.toNat := by
  have counted := pace.maxRounds.le_greatest
  have less := reports.most_le
  rw [reports.round, Count.toNat_ofNat]
  omega

/-- Within the limit a round is told, and one less may be resolved after it. -/
theorem Warden.Reports.close {encounter : Encounter}
    (reports : warden.Reports pace room encounter (most + 1)) (lasting : 1 ≤ pace.duration)
    (changes : List ConditionEvent) :
    let closed := (encounter.closeRound .everyone pace.points).run warden.source
    ∃ passed : Warden σ, passed.source = closed.2 ∧
      (∀ events commits, closed.1.aftermath = .next events commits →
        passed.Reports pace room closed.1.encounter most) ∧
      followCourse pace room (most + 1) warden [.roundStarted 0 room encounter.round changes] =
        let rest := followCourse pace room most passed [closed.1.lastHeard 0 room]
        { rest with
          notices := Bout.notices room encounter.round ⟨changes, closed.1⟩ ++ rest.notices } := by
  intro closed
  have left := reports.within
  have within : encounter.round ≤ pace.maxRounds := by
    rw [Count.le_iff]
    omega
  obtain ⟨passed, settings, tactics, source, stays, course⟩ :=
    reports.hosts.close reports.settings lasting (.inr within) most
  rw [reports.tactics] at source stays course
  refine ⟨passed, source, fun events commits next => ?_, course⟩
  cases (encounter.closeRound_follows .everyone pace.points).run warden.source with
  | decided ends =>
    rw [Closing.outcome?, next] at ends
    cases ends
  | next opens undecided isOver round =>
    refine ⟨stays events commits next (isOver.trans reports.hosts.going),
      settings.trans reports.settings, tactics.trans reports.tactics, by omega, ?_⟩
    refine round.trans (Count.ext ?_)
    rw [Count.toNat_add, Count.toNat_ofNat, Count.toNat_one]
    omega

end

/-! ### All rounds -/

section

variable {pace : Pace} {room : String} {standing : Standing} {most : Nat} {warden : Warden σ}
  {closing : Closing} {round : Count} {changes : List ConditionEvent}

theorem finishAmong_lastHeard_ended (ends : closing.outcome? = some standing) :
    finishAmong pace.maxRounds [closing.lastHeard 0 room] = ([], some (.decided standing)) := by
  have last : closing.lastHeard 0 room = .ended 0 room standing := by
    unfold Closing.outcome? at ends
    unfold Closing.lastHeard
    split at ends
    next aftermath => simpa [aftermath] using ends
    next aftermath => simpa [aftermath] using ends
    next => cases ends
  rw [last]
  rfl

theorem tells_decided (ends : closing.outcome? = some standing) :
    let rest := followCourse pace room most warden [closing.lastHeard 0 room]
    Course.Tells pace.maxRounds room (Bout.allNotices room round [⟨changes, closing⟩])
      ([Bout.mk changes closing].findSome? Bout.outcome?)
      { rest with notices := Bout.notices room round ⟨changes, closing⟩ ++ rest.notices } := by
  have first : Bout.outcome? ⟨changes, closing⟩ = some standing := ends
  rw [followCourse_ends (finishAmong_lastHeard_ended ends), List.findSome?_cons, first]
  exact .decided standing warden

omit [RandomSource σ] in
/-- A round that does not end the encounter is told in front of the later ones. -/
theorem tells_next {later : List Bout} {course : Course σ} (ongoing : closing.outcome? = none)
    (rest : Course.Tells pace.maxRounds room (Bout.allNotices room (round + 1) later)
      (later.findSome? Bout.outcome?) course) :
    Course.Tells pace.maxRounds room (Bout.allNotices room round (⟨changes, closing⟩ :: later))
      ((Bout.mk changes closing :: later).findSome? Bout.outcome?)
      { course with
        notices := Bout.notices room round ⟨changes, closing⟩ ++ course.notices } := by
  have first : Bout.outcome? ⟨changes, closing⟩ = none := ongoing
  rw [List.findSome?_cons, first]
  exact rest.behind _

/-- When the last permitted round is resolved, the start of the next one ends the simulation,
unless there is no number beyond the limit. -/
theorem tells_exhausted {encounter : Encounter} (reports : warden.Reports pace room encounter 0)
    (capped : 1 ≤ pace.maxRounds) (changes : List ConditionEvent) :
    Course.Tells pace.maxRounds room [] none
      (followCourse pace room 0 warden [.roundStarted 0 room encounter.round changes]) := by
  have counted := pace.maxRounds.le_greatest
  have number : encounter.round.toNat = min (pace.maxRounds.toNat + 1) 4294967295 := by
    rw [reports.round]
    rfl
  by_cases small : pace.maxRounds.toNat < 2 ^ 32 - 1
  · have beyond : pace.maxRounds < encounter.round := by
      rw [Count.lt_iff]
      omega
    rw [followCourse_ends (finishAmong_beyond capped beyond)]
    exact .limited small reports.hosts.giveUp
  · -- The number of the next round is the limit again, which it does not exceed.
    have again : encounter.round = pace.maxRounds := by
      refine Count.ext ?_
      omega
    have within : encounter.round ≤ pace.maxRounds := again ▸ Nat.le_refl _
    rw [followCourse, finishAmong_plain (Notice.roundStarted_plain (.inr within)), again]
    exact .endless (by omega) changes warden

end

/-- From an open round on, rounds are told until the encounter is decided or they are used up. -/
theorem followCourse_tells {pace : Pace} {room : String} {most : Nat} {warden : Warden σ}
    {encounter : Encounter} (reports : warden.Reports pace room encounter most)
    (lasting : 1 ≤ pace.duration) (capped : 1 ≤ pace.maxRounds)
    (changes : List ConditionEvent) :
    let bouts := ((encounter.bouts .everyone pace.points most changes).run warden.source).1
    Course.Tells pace.maxRounds room (Bout.allNotices room encounter.round bouts)
      (bouts.findSome? Bout.outcome?)
      (followCourse pace room most warden [.roundStarted 0 room encounter.round changes]) := by
  -- The encounter, the source and the changes go on with each round that is closed.
  induction most generalizing warden encounter changes with
  | zero => exact tells_exhausted reports capped changes
  | succ most ih =>
    intro bouts
    obtain ⟨passed, source, stays, course⟩ := reports.close lasting changes
    rw [course]
    cases (encounter.closeRound_follows .everyone pace.points).run warden.source with
    | decided ends decides =>
      rw [show bouts = _ from Encounter.run_bouts_decided ends]
      exact tells_decided ends
    | @next events commits opens undecided isOver round =>
      let closing := ((encounter.closeRound .everyone pace.points).run warden.source).1
      have ongoing : closing.outcome? = none := by rw [Closing.outcome?, opens]
      have last : closing.lastHeard 0 room
          = .roundStarted 0 room closing.encounter.round events := by
        rw [Closing.lastHeard, opens]
      have rest := ih (stays events commits opens) events
      rw [show bouts = _ from Encounter.run_bouts_next opens, ← source, last, round]
      rw [round] at rest
      exact tells_next ongoing rest

/-- From its beginning on, a simulation with a limit tells the rounds of its fight. -/
theorem simulate_tells {pace : Pace} (lasting : 1 ≤ pace.duration) (capped : 1 ≤ pace.maxRounds)
    (setup : Setup) (source : σ) :
    let bouts := ((setup.bouts .everyone pace.points pace.maxRounds.toNat).run source).1
    Course.Tells pace.maxRounds setup.room (Bout.allNotices setup.room 1 bouts)
      (bouts.findSome? Bout.outcome?) (simulate pace setup source).2 := by
  intro bouts
  let opened := (Warden.firstRound setup .everyone pace.points).run source
  have begins : opened.1.2.Begins setup := (Warden.firstRound_begins setup _ _).run source
  obtain ⟨begun, started, settings, tactics, left, hosts⟩ :=
    Warden.begin_hosts pace.rounds .everyone source setup
  have same : bouts = ((opened.1.2.encounter.bouts .everyone pace.points pace.maxRounds.toNat
      opened.1.1).run begun.source).1 := by
    rw [left]
    exact congrArg Prod.fst (run_bind ..)
  have bound : pace.roundBound = pace.maxRounds.toNat := by
    refine if_neg fun none => ?_
    rw [none] at capped
    exact absurd capped (by decide)
  have reports : begun.Reports pace setup.room opened.1.2.encounter pace.maxRounds.toNat := by
    refine ⟨hosts, settings, tactics, Nat.le_refl _, begins.round.trans ?_⟩
    rw [Nat.add_sub_cancel_left]
    rfl
  have tells := followCourse_tells reports lasting capped opened.1.1
  rw [← begins.round, same]
  simp only [simulate, started, bound]
  exact tells

end Fray
