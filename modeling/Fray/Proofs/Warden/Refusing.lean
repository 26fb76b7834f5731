import Fray.Proofs.Warden.Housekeeping

/-!
# Requests in vain

A request that a warden does not carry out leaves no trace: neither the registry nor
an encounter, a timer, the source or the journal is touched, although initiative is
rolled, queues are filled and timers are stopped on the way of those that succeed.

## Main result

`run_ignores`: after every run it is clear which requests fail and with which fault, and
exactly those that fail or come too late change nothing, now and for all that follows.
-/

namespace Fray

/-! ### Refused actions -/

namespace Encounter

/-- Why an encounter does not accept an action. -/
inductive Refuses (encounter : Encounter) (id : String) (action : Action) : Refusal → Prop
  | unknown (absent : encounter.queues.get? id = none) :
      Refuses encounter id action (.unknownCombatant id)
  | restricted {queue : Queue} {condition : String}
      (present : encounter.queues.get? id = some queue)
      (barred : (encounter.afflictionsOf id).restriction? action.kind = some condition) :
      Refuses encounter id action (.restricted id action.kind condition)
  | invalid {queue : Queue} (present : encounter.queues.get? id = some queue)
      (free : (encounter.afflictionsOf id).restriction? action.kind = none)
      (unchosen : action.kind = .unknown) :
      Refuses encounter id action (.invalidAction queue.combatant)
  | unaffordable {queue : Queue} (present : encounter.queues.get? id = some queue)
      (free : (encounter.afflictionsOf id).restriction? action.kind = none)
      (chosen : action.kind ≠ .unknown) (acts : action.kind ≠ .pass)
      (dear : ¬ action.kind.cost ≤ queue.left) :
      Refuses encounter id action (.insufficientPoints action.kind.cost queue.left)

end Encounter

theorem Encounter.commit_error {encounter : Encounter} {id : String} {action : Action}
    {refusal : Refusal} :
    encounter.commit id action = .error refusal ↔ encounter.Refuses id action refusal := by
  constructor
  -- The checks are made in the order of the constructors, and the first that fails answers.
  · intro refused
    unfold commit at refused
    split at refused
    next absent =>
      cases refused
      exact .unknown absent
    next queue present =>
      split at refused
      next condition barred =>
        cases refused
        exact .restricted present barred
      next free =>
        cases enqueued : queue.enqueue action with
        | ok longer =>
          rw [enqueued] at refused
          cases refused
        | error cause =>
          rw [enqueued] at refused
          cases refused
          rcases Queue.enqueue_error.mp enqueued with
            ⟨unchosen, rfl⟩ | ⟨chosen, acts, dear, rfl⟩
          · exact .invalid present free unchosen
          · exact .unaffordable present free chosen acts dear
  · intro refuses
    cases refuses with
    | unknown absent => simp only [commit, absent]
    | restricted present barred => simp only [commit, present, barred]
    | @invalid queue present free unchosen =>
      have refused : queue.enqueue action = _ := Queue.enqueue_error.mpr (.inl ⟨unchosen, rfl⟩)
      simp only [commit, present, free, refused]
      rfl
    | @unaffordable queue present free chosen acts dear =>
      have refused : queue.enqueue action = _ :=
        Queue.enqueue_error.mpr (.inr ⟨chosen, acts, dear, rfl⟩)
      simp only [commit, present, free, refused]
      rfl

namespace Warden

variable {σ : Type} {admits : Setup → Prop} {warden : Warden σ}

/-! ### Requests that fail or come too late -/

/-- Requests that a warden does not carry out. -/
inductive Vain (warden : Warden σ) : Order → Prop
  | begin {setup : Setup} (occupied : warden.rooms.contains setup.room = true) :
      Vain warden (.begin setup)
  | submitNowhere {room id : String} {action : Action} (vacant : warden.encounter? room = none) :
      Vain warden (.submit room id action)
  | submitRefused {room id : String} {action : Action} {number : Nat} {encounter : Encounter}
      {refusal : Refusal} (active : warden.encounter? room = some (number, encounter))
      (refuses : encounter.Refuses id action refusal) : Vain warden (.submit room id action)
  | resolveNowhere {room : String} {round : Count} (vacant : warden.encounter? room = none) :
      Vain warden (.resolve room round)
  | resolveStale {room : String} {round : Count} {number : Nat} {encounter : Encounter}
      (active : warden.encounter? room = some (number, encounter))
      (stale : encounter.round ≠ round) : Vain warden (.resolve room round)
  | abort {room : String} (vacant : warden.encounter? room = none) : Vain warden (.abort room)

/-- A room without an encounter has no timer that could be stopped. -/
theorem abort_nowhere {room : String} (sound : warden.Sound admits) (tidy : warden.Tidy)
    (vacant : warden.encounter? room = none) : warden.abort room = (false, warden) := by
  have unarmed : warden.timers.get? room = none := by
    have housed := (tidy room).housed
    simpa [Table.contains, sound.vacant vacant] using housed
  simp only [abort, vacant, Table.erase_of_absent unarmed]

theorem abort_eq_false {room : String} :
    (warden.abort room).1 = false ↔ warden.encounter? room = none := by
  unfold abort
  cases warden.encounter? room <;> simp

variable [RandomSource σ]

theorem begin_error {setup : Setup} {fault : WardenFault} :
    warden.begin setup = .error fault ↔
      warden.rooms.contains setup.room = true ∧ fault = .alreadyActive setup.room := by
  unfold begin
  cases warden.rooms.contains setup.room <;> simp [eq_comm]

theorem submit_error {room id : String} {action : Action} {fault : WardenFault} :
    warden.submit room id action = .error fault ↔
      (warden.encounter? room = none ∧ fault = .notFound room) ∨
      ∃ number encounter refusal, warden.encounter? room = some (number, encounter) ∧
        encounter.Refuses id action refusal ∧ fault = .refused refusal := by
  unfold submit
  cases active : warden.encounter? room with
  | none => simp [eq_comm]
  | some found =>
    obtain ⟨number, encounter⟩ := found
    simp only [← Encounter.commit_error]
    cases accepted : encounter.commit id action with
    | error refusal => simp [accepted, eq_comm]
    | ok committed => simp [accepted]

theorem Vain.step_eq {order : Order} (sound : warden.Sound admits) (tidy : warden.Tidy)
    (vain : warden.Vain order) : warden.step order = ([], warden) := by
  cases vain with
  | begin occupied => simp only [step, begin_error.mpr ⟨occupied, rfl⟩]
  | submitNowhere vacant => simp only [step, submit_error.mpr (.inl ⟨vacant, rfl⟩)]
  | submitRefused active refuses =>
    simp only [step, submit_error.mpr (.inr ⟨_, _, _, active, refuses, rfl⟩)]
  | resolveNowhere vacant => simp only [step, resolve, vacant]
  | resolveStale active stale =>
    have closed (ended : Bool) : (ended || (_ != _)) = true :=
      Bool.or_eq_true_iff.mpr (.inr (bne_iff_ne.mpr stale))
    simp only [step, resolve, active, if_pos (closed _)]
  | abort vacant => simp only [step, abort_nowhere sound tidy vacant]

/-! ### All other requests leave a trace -/

omit [RandomSource σ] in
theorem settle_journal (warden : Warden σ) (room : String) (number : Nat) (encounter : Encounter)
    (closing : Closing) :
    warden.journal.length < (warden.settle room number encounter closing).2.journal.length := by
  show _ < (List.reverse _ ++ (warden.putClosed room number encounter closing).journal).length
  rw [putClosed_journal, List.length_append, List.length_reverse, Closing.entries,
    List.length_cons]
  omega

theorem resolve_journal (warden : Warden σ) (room : String) (round : Count) :
    warden.journal.length ≤ (warden.resolve room round).2.journal.length := by
  rcases warden.resolve_cases room round with ignored | ⟨number, encounter, active, going, rfl⟩
  · rw [ignored]
  · obtain ⟨closing, source, _, settled⟩ := resolve_open active going
    rw [settled]
    have longer := settle_journal { warden with source := source } room number encounter closing
    exact Nat.le_of_lt longer

/-- What is done at the request of somebody is in the journal. -/
theorem step_journal {order : Order} {room : String} (sound : warden.Sound admits)
    (about : order.room? = some room) (useful : ¬ warden.Vain order) :
    warden.journal.length < (warden.step order).2.journal.length := by
  -- Every way to get no further is one of the ways to be of no use.
  cases order with
  | begin setup =>
    have free : ¬ warden.rooms.contains setup.room = true := fun occupied =>
      useful (.begin occupied)
    simp only [step, begin, if_neg free]
    show _ < (List.reverse _ ++ warden.journal).length
    rw [List.length_append, List.length_reverse, Muster.entries, List.length_append,
      List.length_cons]
    omega
  | submit room id action =>
    cases active : warden.encounter? room with
    | none => exact absurd (.submitNowhere active) useful
    | some found =>
      obtain ⟨number, encounter⟩ := found
      cases accepted : encounter.commit id action with
      | error refusal =>
        exact absurd (.submitRefused active (Encounter.commit_error.mp accepted)) useful
      | ok committed =>
        have noted : warden.journal.length
            < (warden.accept number committed ⟨id, action⟩).2.journal.length :=
          Nat.lt_succ_self _
        simp only [step, submit, active, accepted]
        split
        · exact Nat.lt_of_lt_of_le noted (resolve_journal ..)
        · exact noted
  | resolve room round =>
    cases active : warden.encounter? room with
    | none => exact absurd (.resolveNowhere active) useful
    | some found =>
      obtain ⟨number, encounter⟩ := found
      by_cases same : encounter.round = round
      · subst same
        obtain ⟨closing, source, _, settled⟩ := resolve_open active (sound.active_open active).2.1
        simp only [step, settled]
        exact settle_journal { warden with source := source } room number encounter closing
      · exact absurd (.resolveStale active same) useful
  | abort room =>
    cases active : warden.encounter? room with
    | none => exact absurd (.abort active) useful
    | some found =>
      simp only [step, abort, active]
      exact Nat.lt_succ_self _
  | pass duration => cases about

/-! ### Runs -/

theorem run_append (early late : List Order) (warden : Warden σ) :
    warden.run (early ++ late) = ((warden.run early).1 ++ ((warden.run early).2.run late).1,
      ((warden.run early).2.run late).2) := by
  induction early generalizing warden with
  | nil => rfl
  | cons order rest ih => simp only [List.cons_append, run, ih, List.append_assoc]

/--
After every run a warden refuses exactly the beginnings in rooms with an encounter, the
submissions to rooms without one or to an encounter that refuses the action, and the
abortions in rooms without one. These requests and those to resolve a round that is not
open are the ones that nobody notices: nothing is told, the warden is the same, and a run
that goes on after such a request goes on as if it had not been made.
-/
theorem run_ignores (settings : RoundSettings) (tactics : Tactics) (source : σ)
    (early : List Order) :
    let warden := ((new settings tactics source).run early).2
    (∀ setup fault, warden.begin setup = .error fault ↔
      warden.rooms.contains setup.room = true ∧ fault = .alreadyActive setup.room) ∧
    (∀ room id action fault, warden.submit room id action = .error fault ↔
      (warden.encounter? room = none ∧ fault = .notFound room) ∨
      ∃ number encounter refusal, warden.encounter? room = some (number, encounter) ∧
        encounter.Refuses id action refusal ∧ fault = .refused refusal) ∧
    (∀ room, (warden.abort room).1 = false ↔ warden.encounter? room = none) ∧
    ∀ order, order.room?.isSome = true → (warden.Vain order ↔ warden.step order = ([], warden)) ∧
      (warden.Vain order → ∀ late, (new settings tactics source).run (early ++ order :: late)
        = (new settings tactics source).run (early ++ late)) := by
  intro warden
  have sound : warden.Sound fun _ => True :=
    run_sound settings tactics source fun _ _ => trivial
  have tidy : warden.Tidy := run_tidy settings tactics source early
  refine ⟨fun _ _ => begin_error, fun _ _ _ _ => submit_error, fun _ => abort_eq_false, ?_⟩
  intro order named
  obtain ⟨room, about⟩ := Option.isSome_iff_exists.mp named
  refine ⟨⟨fun vain => vain.step_eq sound tidy, fun unchanged => ?_⟩, fun vain late => ?_⟩
  · by_contra useful
    have longer := step_journal sound about useful
    rw [unchanged] at longer
    exact Nat.lt_irrefl _ longer
  · -- The run reaches the warden that the request leaves as it is.
    have skipped : warden.run (order :: late) = warden.run late := by
      simp only [run, vain.step_eq sound tidy, List.nil_append]
    rw [run_append, run_append, skipped]

end Warden

end Fray
