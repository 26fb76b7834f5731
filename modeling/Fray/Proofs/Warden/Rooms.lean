import Fray.Proofs.Warden.Waking

/-!
# One room at a time

Every request to a warden names a room, and what it does stays within that room: the
registration, the timer and the encounters of the other rooms are as before. Whatever
is asked, only a few things can happen in a room, and time is the only thing that
concerns all rooms at once.

## Main results

`step_acts` says that an order that names a room consists of such deeds in the room and
tells of nothing else, `Acts.within` that it stays within the room, and `run_keeps` that
a run keeps whatever each of its deeds keeps.
-/

namespace Fray

open Relation Draws

/-- The room that a notice is about. -/
def Notice.room : Notice → String
  | roundStarted _ room _ _ | damaged _ room _ _ | roundResolved _ room _ _
  | ended _ room _ => room

/-- The room that an order is about; the passing of time is about all of them. -/
def Warden.Order.room? : Warden.Order → Option String
  | .begin setup => some setup.room
  | .submit room _ _ | .resolve room _ | .abort room => some room
  | .pass _ => none

namespace Warden

variable {σ : Type} {admits : Setup → Prop} {warden changed final : Warden σ} {room other : String}

/-- The encounters that were begun in a room, in order. -/
def begunIn (warden : Warden σ) (room : String) : List Encounter :=
  warden.encounters.filter (·.room = room)

/-! ### Changes within a room -/

/-- What has changed in a room has left the other rooms as they were. -/
structure Within (room : String) (warden changed : Warden σ) : Prop where
  settings : changed.settings = warden.settings
  tactics : changed.tactics = warden.tactics
  rooms : ∀ other, other ≠ room → changed.rooms.get? other = warden.rooms.get? other
  timers : ∀ other, other ≠ room → changed.timers.get? other = warden.timers.get? other
  encounters : ∀ (number : Nat) (encounter : Encounter), encounter.room ≠ room →
    (changed.encounters[number]? = some encounter ↔ warden.encounters[number]? = some encounter)

namespace Within

theorem refl (room : String) (warden : Warden σ) : Within room warden warden :=
  ⟨rfl, rfl, fun _ _ => rfl, fun _ _ => rfl, fun _ _ _ => Iff.rfl⟩

theorem trans (first : Within room warden changed) (second : Within room changed final) :
    Within room warden final := by
  constructor
  case settings => exact second.settings.trans first.settings
  case tactics => exact second.tactics.trans first.tactics
  case rooms =>
    intro other apart
    rw [second.rooms other apart, first.rooms other apart]
  case timers =>
    intro other apart
    rw [second.timers other apart, first.timers other apart]
  case encounters =>
    intro number encounter apart
    rw [second.encounters number encounter apart, first.encounters number encounter apart]

/-- The active encounter of another room is the same. -/
theorem encounter? (within : Within room warden changed) (sound : warden.Sound admits)
    (apart : other ≠ room) : changed.encounter? other = warden.encounter? other := by
  cases registered : warden.rooms.get? other with
  | none =>
    have vacant := (within.rooms other apart).trans registered
    simp only [Warden.encounter?, registered, vacant, Option.bind_eq_bind, Option.bind_none]
  | some number =>
    obtain ⟨encounter, present, rfl⟩ := sound.active other number registered
    have still := (within.encounters number encounter apart).mpr present
    rw [encounter?_eq_some.mpr ⟨registered, present⟩]
    exact encounter?_eq_some.mpr ⟨(within.rooms _ apart).trans registered, still⟩

end Within

/-- Lists with the same chosen elements at the same places have the same chosen elements. -/
theorem filter_eq_of_same_places {α : Type} {chosen : α → Bool} {first second : List α}
    (same : ∀ (place : Nat) (value : α), chosen value = true →
      (first[place]? = some value ↔ second[place]? = some value)) :
    first.filter chosen = second.filter chosen := by
  induction first generalizing second with
  | nil =>
    refine (List.filter_eq_nil_iff.mpr fun value member kept => ?_).symm
    obtain ⟨place, found⟩ := List.mem_iff_getElem?.mp member
    cases (same place value kept).mpr found
  | cons head rest ih =>
    cases second with
    | nil =>
      refine List.filter_eq_nil_iff.mpr fun value member kept => ?_
      obtain ⟨place, found⟩ := List.mem_iff_getElem?.mp member
      cases (same place value kept).mp found
    | cons other more =>
      have rests := @ih more fun place value kept => by simpa using same (place + 1) value kept
      have heads (value : α) (kept : chosen value = true) : head = value ↔ other = value := by
        simpa using same 0 value kept
      -- The heads are the same if one of them is chosen, and are left out otherwise.
      by_cases kept : chosen head = true
      · have equal := (heads head kept).mp rfl
        subst equal
        simp only [List.filter_cons, kept, if_true, rests]
      · have left : chosen other ≠ true := by
          intro found
          exact kept ((heads other found).mpr rfl ▸ found)
        simp only [List.filter_cons, kept, left, if_false, rests, Bool.false_eq_true]

theorem Within.begunIn (within : Within room warden changed) (apart : other ≠ room) :
    changed.begunIn other = warden.begunIn other := by
  refine filter_eq_of_same_places fun number encounter inside => ?_
  have elsewhere : encounter.room = other := by simpa using inside
  exact within.encounters number encounter (elsewhere ▸ apart)

/-! ### Deeds -/

/-- One thing that happens in a room. -/
inductive Deed (admits : Setup → Prop) (room : String) : Warden σ → Warden σ → Prop
  | enter {warden : Warden σ} {setup : Setup} {muster : Muster} (source : σ)
      (events : List ConditionEvent) (admitted : admits setup) (named : setup.room = room)
      (free : warden.rooms.contains room = false)
      (played : (firstRound setup warden.tactics warden.settings.points).Yields (events, muster)) :
      Deed admits room warden ({ warden with source := source }.enter room events muster).2
  | accept {warden : Warden σ} {id : String} {number : Nat} {action : Action}
      {encounter committed : Encounter} (active : warden.encounter? room = some (number, encounter))
      (accepted : encounter.commit id action = .ok committed) :
      Deed admits room warden (warden.accept number committed ⟨id, action⟩).2
  | settle {warden : Warden σ} {number : Nat} {encounter : Encounter} {closing : Closing}
      (source : σ) (active : warden.encounter? room = some (number, encounter))
      (played : (encounter.closeRound warden.tactics warden.settings.points).Yields closing)
      (onward : encounter.round.toNat ≤ closing.encounter.round.toNat) :
      Deed admits room warden
        ({ warden with source := source }.settle room number encounter closing).2
  | giveUp {warden : Warden σ} {number : Nat} {encounter : Encounter}
      (active : warden.encounter? room = some (number, encounter)) :
      Deed admits room warden (warden.giveUp room number encounter)
  | disarm {warden : Warden σ} (vacant : warden.encounter? room = none) :
      Deed admits room warden { warden with timers := warden.timers.erase room }
  | awake {warden : Warden σ} {timer : Timer Count} (sleeper : Sleeper)
      (present : warden.timers.get? room = some timer) (asleep : sleeper ∈ timer.sleepers) :
      Deed admits room warden (warden.awake room timer sleeper)

theorem Deed.change (deed : Deed admits room warden changed) : Change admits warden changed := by
  cases deed with
  | enter source events admitted named free played =>
    subst named
    exact .enter source events admitted free played
  | accept active accepted => exact .accept active accepted
  | settle source active played onward => exact .settle source active played
  | giveUp active => exact .giveUp active
  | disarm vacant => exact .idle warden.clock _
  | awake sleeper present asleep => exact .idle _ _

/-- A property of wardens that every deed keeps is kept by all of them. -/
theorem deeds_induction {property : Warden σ → Prop}
    (deeds : ReflTransGen (Deed admits room) warden changed) (sound : warden.Sound admits)
    (start : property warden)
    (step : ∀ {early late : Warden σ}, early.Sound admits → Deed admits room early late →
      property early → property late) : changed.Sound admits ∧ property changed := by
  induction deeds with
  | refl => exact ⟨sound, start⟩
  | tail _ deed ih => exact ⟨deed.change.sound ih.1, step ih.1 deed ih.2⟩

/-! ### Deeds stay within their room -/

theorem Replaces.within {number : Nat} {before after : Encounter}
    (replaces : Replaces warden changed number before after)
    (active : warden.encounter? before.room = some (number, before))
    (settings : changed.settings = warden.settings) (tactics : changed.tactics = warden.tactics)
    (timers : ∀ other, other ≠ before.room →
      changed.timers.get? other = warden.timers.get? other) :
    Within before.room warden changed := by
  refine ⟨settings, tactics, replaces.others, timers, fun place encounter apart => ?_⟩
  obtain ⟨_, present⟩ := encounter?_eq_some.mp active
  have inside : number < warden.encounters.length := (List.getElem?_eq_some_iff.mp present).1
  rw [replaces.encounters]
  by_cases same : place = number
  · subst same
    -- At this place there is an encounter of the room, before and after.
    rw [List.getElem?_set_self inside, present, Option.some.injEq, Option.some.injEq]
    constructor
    · rintro rfl
      exact absurd replaces.room apart
    · rintro rfl
      exact absurd rfl apart
  · rw [List.getElem?_set_ne (Ne.symm same)]

/-- The journal and the source have nothing to do with any room. -/
theorem Within.of_same {begun ended : Warden σ} (within : Within room warden changed)
    (start : begun = { warden with source := begun.source, journal := begun.journal })
    (finish : ended = { changed with source := ended.source, journal := ended.journal }) :
    Within room begun ended := by
  rw [start, finish]
  exact ⟨within.settings, within.tactics, within.rooms, within.timers, within.encounters⟩

theorem enter_within (warden : Warden σ) (events : List ConditionEvent) {muster : Muster}
    (named : muster.encounter.room = room) :
    Within room warden (warden.enter room events muster).2 := by
  constructor
  case settings => rfl
  case tactics => rfl
  case rooms =>
    intro other apart
    exact (Table.get?_insert ..).trans (if_neg apart)
  case timers =>
    intro other apart
    exact (Table.get?_insert ..).trans (if_neg apart)
  case encounters =>
    intro number encounter apart
    show (warden.encounters ++ [muster.encounter])[number]? = some encounter ↔ _
    rw [List.getElem?_append]
    split
    · exact Iff.rfl
    next beyond =>
      rw [List.getElem?_eq_none (Nat.le_of_not_lt beyond), List.getElem?_singleton]
      split
      · rw [Option.some.injEq]
        constructor
        · rintro rfl
          exact absurd named apart
        · intro never
          cases never
      · exact Iff.rfl

theorem putClosed_timers (warden : Warden σ) (number : Nat) (encounter : Encounter)
    (closing : Closing) (apart : other ≠ room) :
    (warden.putClosed room number encounter closing).timers.get? other
      = warden.timers.get? other := by
  unfold putClosed
  cases closing.aftermath with
  | ended standing => exact (Table.get?_erase ..).trans (if_neg apart)
  | lapsed events standing => exact (Table.get?_erase ..).trans (if_neg apart)
  | next events commits => exact (Table.get?_insert ..).trans (if_neg apart)

theorem Deed.within (deed : Deed admits room warden changed) (sound : warden.Sound admits) :
    Within room warden changed := by
  cases deed with
  | enter source events admitted named free played =>
    have room := (Muster.begins_of_played played).room.trans named
    have within := enter_within { warden with source := source } events room
    exact within.of_same rfl rfl
  | accept active accepted =>
    obtain ⟨rfl, _⟩ := sound.active_open active
    have within := (accept_replaces active accepted).within active rfl rfl fun _ _ => rfl
    exact within.of_same rfl rfl
  | @settle number encounter closing source active played onward =>
    obtain ⟨rfl, _, _, commits, keeps, _⟩ := sound.active_open active
    let later : Warden σ := { warden with source := source }
    have holds : later.encounter? encounter.room = some (number, encounter) := active
    have closes := closing.closes_of_played played commits keeps
    have within := (putClosed_replaces holds closes).within holds
      (putClosed_settings ..) (putClosed_tactics ..)
      fun other apart => putClosed_timers later number encounter closing apart
    exact within.of_same rfl rfl
  | giveUp active =>
    obtain ⟨rfl, _⟩ := sound.active_open active
    have within := (giveUp_replaces warden _ _).within active rfl rfl
      fun other apart => (Table.get?_erase ..).trans (if_neg apart)
    exact within.of_same rfl rfl
  | disarm vacant =>
    refine ⟨rfl, rfl, fun _ _ => rfl, fun other apart => ?_, fun _ _ _ => Iff.rfl⟩
    exact (Table.get?_erase ..).trans (if_neg apart)
  | awake sleeper present asleep =>
    refine ⟨rfl, rfl, fun _ _ => rfl, fun other apart => ?_, fun _ _ _ => Iff.rfl⟩
    exact (Table.get?_insert ..).trans (if_neg apart)

/-! ### Operations -/

/-- An operation consists of deeds in a room, and tells of this room only. -/
structure Acts (admits : Setup → Prop) (room : String) (warden : Warden σ)
    (result : List Notice × Warden σ) : Prop where
  deeds : ReflTransGen (Deed admits room) warden result.2
  told : ∀ notice ∈ result.1, notice.room = room

namespace Acts

variable {result : List Notice × Warden σ}

theorem refl (warden : Warden σ) : Acts admits room warden ([], warden) :=
  ⟨.refl, fun _ member => nomatch member⟩

theorem single (deed : Deed admits room warden changed) : Acts admits room warden ([], changed) :=
  ⟨.single deed, fun _ member => nomatch member⟩

theorem head (deed : Deed admits room warden changed) (acts : Acts admits room changed result) :
    Acts admits room warden result :=
  ⟨acts.deeds.head deed, acts.told⟩

theorem sound (acts : Acts admits room warden result) (sound : warden.Sound admits) :
    result.2.Sound admits :=
  (deeds_induction acts.deeds sound trivial fun _ _ _ => trivial).1

theorem within (acts : Acts admits room warden result) (sound : warden.Sound admits) :
    Within room warden result.2 := by
  refine (deeds_induction acts.deeds sound (.refl room warden) ?_).2
  intro early late sound deed within
  exact within.trans (deed.within sound)

end Acts

/-- What is noted of a room is told of the room. -/
theorem told_note {entries : List Entry}
    (about : ∀ entry ∈ entries, ∀ notice, entry.notice? = some notice → notice.room = room) :
    ∀ notice ∈ (warden.note entries).1, notice.room = room := by
  intro notice member
  obtain ⟨entry, inside, same⟩ := List.mem_filterMap.mp member
  exact about entry inside notice same

theorem enter_told (warden : Warden σ) (room : String) (events : List ConditionEvent)
    (muster : Muster) :
    ∀ notice ∈ (warden.enter room events muster).1, notice.room = room := by
  refine told_note ?_
  simp only [Muster.entries, List.forall_mem_cons, List.forall_mem_append, List.forall_mem_map,
    List.not_mem_nil, Entry.notice?, Notice.room, Option.some.injEq, forall_eq', reduceCtorEq,
    false_implies, implies_true, and_self]

theorem settle_told (warden : Warden σ) (room : String) (number : Nat) (encounter : Encounter)
    (closing : Closing) :
    ∀ notice ∈ (warden.settle room number encounter closing).1, notice.room = room := by
  refine told_note ?_
  simp only [Closing.entries, Entry.tellRound]
  split <;>
    simp only [List.forall_mem_cons, List.forall_mem_append, List.forall_mem_map,
      List.not_mem_nil, Entry.notice?, Notice.room, Option.some.injEq, forall_eq', reduceCtorEq,
      false_implies, implies_true, and_self]

variable [RandomSource σ]

theorem begin_acts {setup : Setup} {number : Nat} {result : List Notice × Warden σ}
    (admitted : admits setup) (begun : warden.begin setup = .ok (number, result)) :
    Acts admits setup.room warden result := by
  unfold begin at begun
  split at begun
  · cases begun
  next occupied =>
    cases begun
    have played := (always_yields (firstRound setup warden.tactics warden.settings.points)).run
      warden.source
    constructor
    · exact .single (.enter _ _ admitted rfl (by simpa using occupied) played)
    · intro notice member
      exact enter_told _ _ _ _ notice member

/-- A round that is closed is followed by the next one, if any. -/
theorem closeRound_onward (encounter : Encounter) (tactics : Tactics) (points : Count) :
    Draws.Always (fun closing => encounter.round.toNat ≤ closing.encounter.round.toNat)
      (encounter.closeRound tactics points) := by
  refine Encounter.closeRound_always fun closing played => ?_
  have onward {resolution : Resolution} {events : List ConditionEvent} {opened : Encounter}
      (resolves : encounter.resolve.Yields resolution)
      (opens : (resolution.encounter.openRound points).Yields (events, opened)) :
      encounter.round.toNat ≤ opened.round.toNat := by
    have framed := resolves.holds encounter.resolve_framed
    have opens := opens.holds (Encounter.openRound_opens resolution.encounter points)
    rw [opens.round, framed.round, Count.toNat_add]
    have bound := encounter.round.le_greatest
    omega
  cases played with
  | ended resolves _ =>
    have framed := resolves.holds encounter.resolve_framed
    exact Nat.le_of_eq (congrArg Count.toNat framed.round.symm)
  | lapsed resolves _ opens _ => exact (onward resolves opens :)
  | next resolves _ opens _ =>
    rw [Tactics.muster_encounter]
    exact (onward resolves opens :)

/-- Resolving the open round of an encounter closes it. -/
theorem resolve_acts (warden : Warden σ) (room : String) (round : Count) :
    Acts admits room warden (warden.resolve room round) := by
  rcases warden.resolve_cases room round with ignored | ⟨number, encounter, active, going, rfl⟩
  · rw [ignored]
    exact .refl warden
  · have onward := (closeRound_onward encounter warden.tactics warden.settings.points).run
      warden.source
    have played := (always_yields (encounter.closeRound warden.tactics warden.settings.points)).run
      warden.source
    rw [resolve_eq active going]
    constructor
    · exact .single (.settle _ active played onward)
    · intro notice member
      exact settle_told _ _ _ _ _ notice member

theorem submit_acts {id : String} {action : Action} {result : List Notice × Warden σ}
    (submitted : warden.submit room id action = .ok result) :
    Acts admits room warden result := by
  unfold submit at submitted
  split at submitted
  · cases submitted
  next number encounter active =>
    split at submitted
    · cases submitted
    next committed accepted =>
      have first : Deed admits room warden _ := .accept active accepted
      cases submitted
      split
      · exact .head first (resolve_acts ..)
      · exact .single first

omit [RandomSource σ] in
theorem abort_acts (warden : Warden σ) (room : String) :
    Acts admits room warden ([], (warden.abort room).2) := by
  refine .single ?_
  unfold abort
  split
  next vacant => exact .disarm vacant
  next number encounter active => exact .giveUp active

theorem wake_acts {timer : Timer Count} {sleeper : Sleeper}
    (present : warden.timers.get? room = some timer) (asleep : sleeper ∈ timer.sleepers) :
    Acts admits room warden (warden.wake room sleeper) := by
  have first : Deed admits room warden _ := .awake sleeper present asleep
  rw [wake_eq present]
  split
  · exact .single first
  · exact .head first (resolve_acts ..)

/-- An order that names a room stays within the room. -/
theorem step_acts {order : Order} (about : order.room? = some room)
    (admitted : ∀ setup, order = .begin setup → admits setup) :
    Acts admits room warden (warden.step order) := by
  cases order with
  | begin setup =>
    cases about
    simp only [step]
    split
    next begun => exact begin_acts (admitted setup rfl) begun
    · exact .refl warden
  | submit room id action =>
    cases about
    simp only [step]
    split
    next submitted => exact submit_acts submitted
    · exact .refl warden
  | resolve room round =>
    cases about
    exact resolve_acts warden room round
  | abort room =>
    cases about
    exact abort_acts warden room
  | pass duration => cases about

/-- What no operation on a room changes is the same after every order that names one. -/
theorem step_same {β : Type} {order : Order} (reading : Warden σ → β)
    (about : order.room? = some room)
    (enter : ∀ (source : σ) (room : String) (events : List ConditionEvent) (muster : Muster),
      reading ({ warden with source := source }.enter room events muster).2
        = reading { warden with source := source })
    (play : ∀ {α : Type} (computation : Draws α),
      reading (warden.play computation).2 = reading warden)
    (accept : ∀ number committed commit,
      reading (warden.accept number committed commit).2 = reading warden)
    (resolve : ∀ (warden : Warden σ) room round,
      reading (warden.resolve room round).2 = reading warden)
    (abort : ∀ room, reading (warden.abort room).2 = reading warden) :
    reading (warden.step order).2 = reading warden := by
  cases order with
  | begin setup =>
    simp only [step, begin]
    by_cases occupied : warden.rooms.contains setup.room = true
    · simp only [if_pos occupied]
    · simp only [if_neg occupied]
      exact (enter ..).trans (play _)
  | submit id name action =>
    simp only [step, submit]
    cases warden.encounter? id with
    | none => rfl
    | some found =>
      simp only
      cases found.2.commit name action with
      | error refusal => rfl
      | ok committed =>
        simp only
        split
        · exact (resolve ..).trans (accept ..)
        · exact accept ..
  | resolve room round => exact resolve warden room round
  | abort room => exact abort room
  | pass duration => cases about

/-! ### Runs -/

section Keeping

variable {property : Warden σ → Prop}
  (keeps : ∀ {room : String} {early late : Warden σ}, early.Sound admits →
    Deed admits room early late → property early → property late)

include keeps

theorem wakeUntil_keeps (sound : warden.Sound admits) (start : property warden) (time most : Nat) :
    property (wakeUntil time most warden).2 := by
  induction most generalizing warden with
  | zero => exact start
  | succ most ih =>
    rcases warden.due_cases time with late | ⟨room, sleeper, first, isDue⟩
    · rw [wakeUntil_idle late]
      exact start
    · obtain ⟨timer, present, asleep⟩ := mem_sleepers.mp (Sleeper.earliest_mem first)
      have acts : Acts admits room warden (warden.wake room sleeper) := wake_acts present asleep
      have woken := deeds_induction acts.deeds sound start fun sound deed => keeps sound deed
      rw [wakeUntil_due first isDue]
      exact ih woken.1 woken.2

variable (timeless : ∀ (warden : Warden σ) (clock : Clock), property warden →
  property { warden with clock := clock })

include timeless

theorem step_keeps (sound : warden.Sound admits) (start : property warden) (order : Order)
    (admitted : ∀ setup, order = .begin setup → admits setup) :
    property (warden.step order).2 := by
  cases about : order.room? with
  | some room =>
    have acts : Acts admits room warden (warden.step order) := step_acts about admitted
    exact (deeds_induction acts.deeds sound start fun sound deed => keeps sound deed).2
  | none =>
    cases order with
    | pass duration => exact timeless _ _ (wakeUntil_keeps keeps sound start ..)
    | _ => cases about

/-- What is kept by every deed, and has nothing to do with the time, is kept by every run. -/
theorem run_keeps (sound : warden.Sound admits) (start : property warden) {orders : List Order}
    (admitted : ∀ setup, .begin setup ∈ orders → admits setup) :
    property (warden.run orders).2 := by
  induction orders generalizing warden with
  | nil => exact start
  | cons order rest ih =>
    have first (setup : Setup) (same : order = .begin setup) : admits setup :=
      admitted setup (same ▸ List.mem_cons_self)
    have leads := step_leads warden order first
    refine ih (changes_sound leads.changes sound) ?_ fun setup member =>
      admitted setup (List.mem_cons_of_mem _ member)
    exact step_keeps keeps timeless sound start order first

end Keeping

end Warden

end Fray
