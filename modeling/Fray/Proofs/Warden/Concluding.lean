import Fray.Proofs.Encounter.Mustering
import Fray.Proofs.Warden.Steering
import Fray.Proofs.Warden.Upholding

/-!
# Rounds that end with the last player

Where the tactics steer whoever is not a player, their queues are closed from the opening
of a round on, so that the round waits for the players only. The exception is whoever is
under a condition that forbids to pass: it keeps the points that its action has left, and
then the round waits for its deadline.

## Main result

`rounds_conclude`: what the tactics leave of every open round, and when a submission
resolves it.
-/

namespace Fray

open Draws

/-! ### Since the tactics had the round -/

/-- A queue that is done stays done. -/
theorem Queue.isSubmitted_enqueue {queue longer : Queue} {action : Action}
    (accepted : queue.enqueue action = .ok longer) (done : queue.isSubmitted = true) :
    longer.isSubmitted = true := by
  rw [enqueue_eq accepted]
  simp only [isSubmitted, Bool.or_eq_true, decide_eq_true_eq, List.any_append] at done ⊢
  rcases done with none | passed
  · left
    split
    · rfl
    · ext
      rw [Count.toNat_sub, none]
      exact Nat.zero_sub _
  · exact .inr (.inl passed)

namespace Encounter

variable {opened encounter : Encounter} {history : List Acceptance}

theorem Since.trans {middle : Encounter} {early late : List Acceptance}
    (first : Since opened early middle) (second : Since middle late encounter) :
    Since opened (early ++ late) encounter := by
  induction second with
  | opened => rwa [List.append_nil]
  | accepted since accepts ih =>
    rw [← List.append_assoc]
    exact ih.accepted accepts
  | refused since refuses ih => exact ih.refused refuses
  | answered since aside source ih => exact ih.answered aside source
  | markedOver since ih => exact ih.markedOver

theorem Since.queueAll (tactics : Tactics) (opened : Encounter) :
    ∃ history, Since opened history (tactics.queueAll opened) := by
  refine tactics.muster_induction (fun muster => ∃ history, Since opened history muster.encounter)
    ?_ opened ⟨[], .opened⟩
  rintro muster committed id action accepts ⟨history, since⟩
  exact ⟨_, since.accepted accepts⟩

theorem Since.submitted (since : Since opened history encounter) {id : String}
    (done : (opened.queues.get? id).any Queue.isSubmitted = true) :
    (encounter.queues.get? id).any Queue.isSubmitted = true := by
  apply since.induction fun _ current => (current.queues.get? id).any Queue.isSubmitted = true
  · exact done
  · intro _ current committed name action accepts done
    obtain ⟨queue, longer, present, _, enqueued, rfl⟩ := commit_cases accepts
    simp only [Table.get?_insert]
    split
    next same =>
      subst same
      rw [present, Option.any_some] at done
      exact Queue.isSubmitted_enqueue enqueued done
    · exact done
  · intro _ current after _ _ queues done
    rwa [queues]

/--
An encounter in a round that was opened with some points and then left to the tactics,
whatever has happened in the round since.
-/
structure InRound (encounter : Encounter) (tactics : Tactics) (points : Count)
    (opened : Encounter) : Prop where
  fresh : Fresh points opened
  distinct : opened.ids.Nodup
  since : ∃ history, Since (tactics.queueAll opened) history encounter

variable {tactics : Tactics} {points : Count}

theorem InRound.opens (fresh : Fresh points opened) (distinct : opened.ids.Nodup) :
    (tactics.queueAll opened).InRound tactics points opened :=
  ⟨fresh, distinct, [], .opened⟩

theorem InRound.fromOpening (round : encounter.InRound tactics points opened) :
    ∃ history, Since opened history encounter := by
  obtain ⟨early, first⟩ := Since.queueAll tactics opened
  obtain ⟨late, second⟩ := round.since
  exact ⟨_, first.trans second⟩

theorem InRound.ids (round : encounter.InRound tactics points opened) :
    encounter.ids.Nodup := by
  obtain ⟨history, since⟩ := round.fromOpening
  have names : encounter.ids = opened.ids := ids_of_persons since.stands.1
  rw [names]
  exact round.distinct

/-- Whoever is alive and steered has closed its queue, unless it must not pass. -/
theorem InRound.submitted (round : encounter.InRound tactics points opened)
    {combatant : Combatant} (living : combatant ∈ encounter.living)
    (steers : tactics.steers combatant = true) (mayPass : opened.MayPass combatant.id) :
    (encounter.queues.get? combatant.id).any Queue.isSubmitted = true := by
  obtain ⟨whole, since⟩ := round.fromOpening
  obtain ⟨persons, keeps⟩ := since.stands
  have listed : encounter.living.any
      (fun other => other.id = combatant.id && tactics.steers other) = true :=
    List.any_eq_true.mpr ⟨combatant, living, by simp [steers]⟩
  -- It was alive at the opening, and on the same side.
  have before := keeps.any_living persons (fun _ => rfl) listed
  obtain ⟨actor, stood, both⟩ := List.any_eq_true.mp before
  obtain ⟨named, steered⟩ := Bool.and_eq_true_iff.mp both
  have named : actor.id = combatant.id := by simpa using named
  obtain ⟨queue, present, shut⟩ :=
    (tactics.queueAll_shuts round.fresh round.distinct).each actor stood steered
  rw [named] at present
  obtain ⟨_, _, closed⟩ := shut.passed (named ▸ mayPass)
  obtain ⟨history, later⟩ := round.since
  refine later.submitted ?_
  rw [present, Option.any_some]
  exact closed

/-- A round that is left to the tactics waits for the players, where everybody else may pass. -/
theorem InRound.allSubmitted_iff (round : encounter.InRound .npcsOnly points opened)
    (mayPass : ∀ npc ∈ encounter.living, npc.isPlayer = false → opened.MayPass npc.id) :
    encounter.allSubmitted = true ↔
      ∀ player ∈ encounter.living, player.isPlayer = true →
        (encounter.queues.get? player.id).any Queue.isSubmitted = true := by
  rw [allSubmitted, List.all_eq_true]
  refine ⟨fun all player living _ => all player living, fun players combatant living => ?_⟩
  cases side : combatant.isPlayer with
  | true => exact players combatant living side
  | false =>
    have steers : Tactics.npcsOnly.steers combatant = true := by simp [Tactics.steers, side]
    exact round.submitted living steers (mayPass combatant living side)

end Encounter

/-! ### Wardens -/

theorem Closing.tells_resolution (closing : Closing) (number : Nat) (room : String)
    (round : Count) (time : Nat) :
    Notice.roundResolved number room round closing.resolution.events
      ∈ (closing.entries number room round time).filterMap Entry.notice? := by
  refine List.mem_filterMap.mpr ⟨.told (.roundResolved number room round _), ?_, rfl⟩
  unfold entries
  split <;> simp [Entry.tellRound]

namespace Encounter

/-- As long as an encounter is not over, its round was left to the tactics when it was opened. -/
theorem inRound_upholds (tactics : Tactics) (points : Count) :
    Upholds (fun setup => (setup.combatants.map Combatant.id).Nodup) tactics points
      (fun encounter => encounter.isOver = false →
        ∃ opened, encounter.InRound tactics points opened) := by
  let Opened (next : Encounter) : Prop := Fresh points next ∧ next.ids.Nodup
  have opens (before : Encounter) (distinct : before.ids.Nodup) :
      Always (fun result => Opened result.2) (before.openRound points) := by
    refine ((openRound_fresh before points).and (openRound_opens before points)).mono
      fun result both => ⟨both.1, ?_⟩
    rw [both.2.ids]
    exact distinct
  refine ⟨?start, ?accept, ?close, ?mark, ?intervene⟩
  case start =>
    intro setup distinct
    have opensFirst (combatants : List Combatant)
        (same : combatants.map Combatant.id = setup.combatants.map Combatant.id) :=
      opens (begin { setup with combatants := combatants })
        (nodup_ids_begin (show (combatants.map Combatant.id).Nodup from same ▸ distinct))
    have leaves := Warden.firstRound_leaves tactics points (rollInitiative_ids setup.combatants)
      opensFirst
    refine leaves.mono ?_
    rintro result ⟨next, ⟨fresh, names⟩, steered⟩ _
    rw [steered]
    exact ⟨next, .opens fresh names⟩
  case accept =>
    intro current committed id action accepts holds going
    obtain ⟨_, _, _, _, _, same⟩ := commit_cases accepts
    have before : current.isOver = false := by
      rw [same] at going
      exact going
    obtain ⟨opened, fresh, distinct, history, since⟩ := holds before
    exact ⟨opened, fresh, distinct, _, since.accepted accepts⟩
  case close =>
    intro current going holds
    obtain ⟨before, round⟩ := holds going
    have opensNext (resolution : Resolution) (framed : Framed current resolution.encounter) :=
      opens resolution.encounter (framed.ids.symm ▸ round.ids)
    have leaves := closeRound_leaves tactics points current.resolve_framed opensNext
    refine leaves.mono fun closing both going => ?_
    cases both.2 with
    | ended decided marked | lapsed opened decided marked =>
      rw [marked] at going
      cases going
    | next opened steered =>
      rw [steered]
      exact ⟨_, .opens opened.1 opened.2⟩
  case mark =>
    intro current _ going
    cases going
  case intervene =>
    intro current request aside holds τ _ source going
    have elsewhere : request.fillsQueues = false := by
      cases request <;> first | rfl | cases aside
    have before := ((answer_same current request).run source).isOver.symm.trans going
    obtain ⟨opened, fresh, distinct, history, since⟩ := holds before
    exact ⟨opened, fresh, distinct, _, since.answered elsewhere source⟩

end Encounter

namespace Warden

variable {σ : Type} [RandomSource σ]

/-- An accepted submission resolves the open round just if everybody alive is done. -/
theorem submit_resolves {warden : Warden σ} {room id : String} {action : Action} {number : Nat}
    {encounter committed : Encounter} (active : warden.encounter? room = some (number, encounter))
    (going : encounter.isOver = false) (accepted : encounter.commit id action = .ok committed) :
    ∃ result, warden.submit room id action = .ok result ∧
      ((∃ events, .roundResolved number room encounter.round events ∈ result.1) ↔
        committed.allSubmitted = true) := by
  obtain ⟨_, _, _, _, _, same⟩ := Encounter.commit_cases accepted
  have round : committed.round = encounter.round := by rw [same]
  have goingOn : committed.isOver = false := by
    rw [same]
    exact going
  have entered : (warden.accept number committed ⟨id, action⟩).2.encounter? room
      = some (number, committed) := by
    obtain ⟨registered, present⟩ := encounter?_eq_some.mp active
    refine encounter?_eq_some.mpr ⟨registered, ?_⟩
    exact List.getElem?_set_self (List.getElem?_eq_some_iff.mp present).1
  simp only [submit, active, accepted, Except.ok.injEq, exists_eq_left']
  cases done : committed.allSubmitted with
  | true =>
    rw [if_pos rfl, resolve_eq entered goingOn, ← round]
    exact iff_of_true ⟨_, Closing.tells_resolution ..⟩ rfl
  -- Nobody hears of the submission alone.
  | false =>
    refine iff_of_false ?_ Bool.false_ne_true
    rintro ⟨events, told⟩
    cases told

/--
The tactics close what they steer. Right after a round was opened, in any encounter with
any conditions in which names are distinct, all living combatants that they steer are left
with at most one action, the first of their plan that is accepted, and with a pass after
it, unless a condition of theirs forbids to pass. Nothing else changes.

Hence, where they steer whoever is not a player, and whatever a warden has been ordered
and others have done to the conditions in its encounters: the open round of an active
encounter was left to the tactics when it was opened, and if no condition forbade to pass
then, an accepted submission resolves it just if all living players have submitted.
-/
theorem rounds_conclude :
    (∀ (tactics : Tactics) (points : Count) (before : Encounter), before.ids.Nodup →
      Always (fun result => tactics.Shuts result.2 (tactics.queueAll result.2))
        (before.openRound points)) ∧
    ∀ (settings : RoundSettings) (warden : Warden σ),
      Driven (fun setup => (setup.combatants.map Combatant.id).Nodup) settings .npcsOnly warden →
      ∀ (room : String) (number : Nat) (encounter : Encounter),
        warden.encounter? room = some (number, encounter) → encounter.isOver = false →
        (∃ opened, encounter.InRound .npcsOnly settings.points opened) ∧
        ∀ opened, encounter.InRound .npcsOnly settings.points opened →
          ∀ (id : String) (action : Action) (committed : Encounter),
            encounter.commit id action = .ok committed →
            (∀ npc ∈ committed.living, npc.isPlayer = false → opened.MayPass npc.id) →
            ∃ result, warden.submit room id action = .ok result ∧
              ((∃ events, .roundResolved number room encounter.round events ∈ result.1) ↔
                ∀ player ∈ committed.living, player.isPlayer = true →
                  (committed.queues.get? player.id).any Queue.isSubmitted = true) := by
  refine ⟨fun tactics points before distinct => Encounter.openRound_shut tactics distinct points,
    fun settings warden driven room number encounter active going => ?_⟩
  have upheld := driven.upheld (Encounter.inRound_upholds .npcsOnly settings.points)
  obtain ⟨_, present⟩ := encounter?_eq_some.mp active
  refine ⟨upheld.each encounter (List.mem_of_getElem? present) going, ?_⟩
  intro opened round id action committed accepted mayPass
  obtain ⟨history, since⟩ := round.since
  have later : committed.InRound .npcsOnly settings.points opened :=
    ⟨round.fresh, round.distinct, _, since.accepted accepted⟩
  rw [← later.allSubmitted_iff mayPass]
  exact submit_resolves active going accepted

/-! ### A watch at the gate -/

/-- A condition under which nobody can pass. -/
def sampleDuty : Condition :=
  { Condition.prone with id := "duty", restricted := ["pass"] }

def sampleGate : Setup :=
  { room := "gate"
    zone := "town"
    combatants := [
      { id := "ann", name := "Ann", side := .player, maxHp := 6, hp := 6, armorClass := 12 },
      { id := "rat", name := "Rat", side := .npc, maxHp := 9, hp := 9, armorClass := 9 }]
    codex := Codex.core.register sampleDuty }

/-- A warden with the first round open, in which the rat is steered. -/
def sampleWarden : Warden Fixed := ((new {} .npcsOnly (⟨10⟩ : Fixed)).step (.begin sampleGate)).2

/-- The first round as it was opened. -/
def sampleOpened : Encounter :=
  ((Encounter.begin { sampleGate with
      combatants := ((rollInitiative sampleGate.combatants).run (⟨10⟩ : Fixed)).1 }).openRound
    3).run (⟨10⟩ : Fixed) |>.1.2

/-- The first round once Ann has passed. -/
def sampleCommitted : Encounter :=
  let steered := Tactics.npcsOnly.queueAll sampleOpened
  steered.orKeep (steered.commit "ann" .pass)

theorem sampleWarden_driven :
    Driven (fun setup => (setup.combatants.map Combatant.id).Nodup) {} .npcsOnly sampleWarden := by
  refine .ordered (.new _) (.begin sampleGate) ?_
  rintro setup ⟨⟩
  decide

theorem sampleOpened_inRound :
    (Tactics.npcsOnly.queueAll sampleOpened).InRound .npcsOnly 3 sampleOpened :=
  .opens ((Encounter.openRound_fresh _ 3).run (⟨10⟩ : Fixed)) (by decide +kernel)

/-- The rat has its strike and its pass, so the round ends when Ann passes. -/
theorem rounds_conclude_sample :
    (Encounter.begin sampleGate).ids.Nodup ∧
    Always (fun result => Tactics.npcsOnly.Shuts result.2 (Tactics.npcsOnly.queueAll result.2))
      ((Encounter.begin sampleGate).openRound 3) ∧
    ∃ result, sampleWarden.submit "gate" "ann" .pass = .ok result ∧
      ∃ events, .roundResolved 0 "gate" sampleOpened.round events ∈ result.1 := by
  obtain ⟨opening, driving⟩ := rounds_conclude (σ := Fixed)
  have distinct : (Encounter.begin sampleGate).ids.Nodup := by decide +kernel
  have active : sampleWarden.encounter? "gate"
      = some (0, Tactics.npcsOnly.queueAll sampleOpened) := rfl
  have accepted : (Tactics.npcsOnly.queueAll sampleOpened).commit "ann" .pass
      = .ok sampleCommitted := rfl
  obtain ⟨_, resolves⟩ := driving {} sampleWarden sampleWarden_driven "gate" 0 _ active rfl
  obtain ⟨result, submitted, resolved⟩ := resolves sampleOpened sampleOpened_inRound "ann" .pass
    sampleCommitted accepted (by decide +kernel)
  exact ⟨distinct, opening .npcsOnly 3 _ distinct, result, submitted,
    resolved.mpr (by decide +kernel)⟩

/-- The round of a rat on duty. -/
def sampleOnDuty : Encounter :=
  ((Encounter.play [.afflict "rat" "duty" 1 none, .openRound 3]
    (Encounter.begin sampleGate)).run (⟨10⟩ : Fixed)).1

/-- The rat strikes and keeps a point, and its queue stays open. -/
theorem rounds_conclude_barred :
    sampleOnDuty.ids.Nodup ∧
    (∃ rat ∈ sampleOnDuty.living, rat.id = "rat" ∧ Tactics.npcsOnly.steers rat = true) ∧
    let left : Queue := ⟨"rat", 3, 1, [.strike "Ann"]⟩
    (Tactics.npcsOnly.queueAll sampleOnDuty).queues.get? "rat" = some left ∧
      left.isSubmitted = false := by
  decide +kernel

end Warden

end Fray
