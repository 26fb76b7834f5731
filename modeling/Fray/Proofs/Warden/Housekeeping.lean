import Fray.Proofs.Warden.Rooms

/-!
# Rooms in order

A room has a timer exactly while it has an active encounter, a pending alarm is meant
for the open round, and the active encounter is the last that was begun in the room.
Encounters keep their numbers and rooms for ever, and their rounds only go on. This is
so at any pace of the rounds, even if they last no time at all.

## Main results

`run_tidy` and `run_older`: rooms are in order after every run, and encounters go on.
-/

namespace Fray

namespace Warden

variable {σ : Type} {admits : Setup → Prop} {warden changed final : Warden σ} {room other : String}

/-! ### Rooms in order -/

/-- The registration, the timer and the encounters of a room go together. -/
structure TidyAt (warden : Warden σ) (room : String) : Prop where
  housed : warden.timers.contains room = warden.rooms.contains room
  aimed : ∀ timer round, warden.timers.get? room = some timer → timer.pending = some round →
    ∃ number encounter, warden.encounter? room = some (number, encounter) ∧
      encounter.round = round
  last : ∀ number, warden.rooms.get? room = some number →
    ∀ (later : Nat) (encounter : Encounter), number < later →
      warden.encounters[later]? = some encounter → encounter.room ≠ room

/-- All rooms are in order. -/
def Tidy (warden : Warden σ) : Prop := ∀ room, warden.TidyAt room

theorem new_tidy (settings : RoundSettings) (tactics : Tactics) (source : σ) :
    (new settings tactics source).Tidy := by
  intro room
  constructor
  · rfl
  · intro timer round present
    cases present
  · intro number registered
    cases registered

/-- A change within a room leaves the other rooms in order. -/
theorem Within.tidyAt (within : Within room warden changed) (sound : warden.Sound admits)
    (apart : other ≠ room) (tidy : warden.TidyAt other) : changed.TidyAt other := by
  constructor
  case housed =>
    simp only [Table.contains, within.timers other apart, within.rooms other apart]
    exact tidy.housed
  case aimed =>
    intro timer round present pending
    rw [within.timers other apart] at present
    rw [within.encounter? sound apart]
    exact tidy.aimed timer round present pending
  case last =>
    intro number registered later encounter after found same
    rw [within.rooms other apart] at registered
    subst same
    have kept := (within.encounters later encounter apart).mp found
    exact tidy.last number registered later encounter after kept rfl

/-- A room without an encounter and a timer is in order. -/
theorem tidyAt_of_vacant (rooms : warden.rooms.get? room = none)
    (timers : warden.timers.get? room = none) : warden.TidyAt room := by
  constructor
  case housed => simp only [Table.contains, rooms, timers, Option.isSome_none]
  case aimed =>
    intro timer round present
    cases timers.symm.trans present
  case last =>
    intro number registered
    cases rooms.symm.trans registered

/-- A room is in order if its timer is set for the open round of its last encounter. -/
theorem tidyAt_of_set {timer : Timer Count} {number : Nat} {encounter : Encounter}
    (present : warden.timers.get? room = some timer)
    (active : warden.encounter? room = some (number, encounter))
    (aimed : ∀ round, timer.pending = some round → encounter.round = round)
    (last : ∀ (later : Nat) (encounter : Encounter), number < later →
      warden.encounters[later]? = some encounter → encounter.room ≠ room) :
    warden.TidyAt room := by
  obtain ⟨registered, _⟩ := encounter?_eq_some.mp active
  constructor
  case housed => simp only [Table.contains, registered, present, Option.isSome_some]
  case aimed =>
    intro found round same pending
    cases present.symm.trans same
    exact ⟨number, encounter, active, aimed round pending⟩
  case last =>
    intro found same
    cases registered.symm.trans same
    exact last

/-- An encounter that is replaced is still the last of its room. -/
theorem Replaces.last {number : Nat} {before after : Encounter}
    (replaces : Replaces warden changed number before after)
    (active : warden.encounter? before.room = some (number, before))
    (tidy : warden.TidyAt before.room) :
    ∀ (later : Nat) (encounter : Encounter), number < later →
      changed.encounters[later]? = some encounter → encounter.room ≠ before.room := by
  intro later encounter after found
  rw [replaces.encounters, List.getElem?_set_ne (Nat.ne_of_lt after)] at found
  exact tidy.last number (encounter?_eq_some.mp active).1 later encounter after found

/-- A room that is kept has the replaced encounter. -/
theorem Replaces.encounter? {number : Nat} {before after : Encounter}
    (replaces : Replaces warden changed number before after)
    (active : warden.encounter? before.room = some (number, before))
    (kept : changed.rooms.get? before.room = some number) :
    changed.encounter? before.room = some (number, after) := by
  obtain ⟨_, present⟩ := encounter?_eq_some.mp active
  have inside : number < warden.encounters.length := (List.getElem?_eq_some_iff.mp present).1
  refine encounter?_eq_some.mpr ⟨kept, ?_⟩
  rw [replaces.encounters, List.getElem?_set_self inside]

theorem TidyAt.note (tidy : warden.TidyAt room) (entries : List Entry) :
    (warden.note entries).2.TidyAt room :=
  ⟨tidy.housed, tidy.aimed, tidy.last⟩

theorem enter_tidyAt (warden : Warden σ) (room : String) (events : List ConditionEvent)
    (muster : Muster) : (warden.enter room events muster).2.TidyAt room := by
  have active : (warden.enter room events muster).2.encounter? room
      = some (warden.encounters.length, muster.encounter) := by
    refine encounter?_eq_some.mpr ⟨(Table.get?_insert ..).trans (if_pos rfl), ?_⟩
    exact List.getElem?_concat_length
  refine tidyAt_of_set ((Table.get?_insert ..).trans (if_pos rfl)) active ?_ ?_
  · intro round pending
    exact Option.some.inj pending
  · intro later encounter after found
    -- Nothing comes after the encounter that has just been entered.
    have beyond : (warden.encounters ++ [muster.encounter]).length ≤ later := by
      rw [List.length_append, List.length_singleton]
      exact after
    have nobody : (warden.encounters ++ [muster.encounter])[later]? = none :=
      List.getElem?_eq_none beyond
    cases nobody.symm.trans found

theorem accept_tidyAt {number : Nat} {encounter committed : Encounter} {id : String}
    {action : Action} (sound : warden.Sound admits) (tidy : warden.TidyAt room)
    (active : warden.encounter? room = some (number, encounter))
    (accepted : encounter.commit id action = .ok committed) :
    (warden.accept number committed ⟨id, action⟩).2.TidyAt room := by
  obtain ⟨rfl, _⟩ := sound.active_open active
  have replaces := accept_replaces active accepted
  obtain ⟨registered, _⟩ := encounter?_eq_some.mp active
  obtain ⟨_, _, _, _, _, same⟩ := Encounter.commit_cases accepted
  have now := replaces.encounter? active registered
  have kept : (warden.setEncounter number committed).TidyAt encounter.room := by
    refine ⟨tidy.housed, ?_, ?_⟩
    · intro timer round present pending
      obtain ⟨_, _, found, aimed⟩ := tidy.aimed timer round present pending
      cases active.symm.trans found
      refine ⟨number, committed, now, ?_⟩
      rw [same]
      exact aimed
    · intro found same
      cases registered.symm.trans same
      exact replaces.last active tidy
  exact kept.note _

theorem settle_tidyAt {number : Nat} {encounter : Encounter} {closing : Closing}
    (sound : warden.Sound admits) (tidy : warden.TidyAt room)
    (active : warden.encounter? room = some (number, encounter))
    (closes : ∀ commits, encounter.Keeps commits → closing.Closes encounter commits) :
    (warden.settle room number encounter closing).2.TidyAt room := by
  obtain ⟨rfl, _, _, commits, keeps, _⟩ := sound.active_open active
  have replaces := putClosed_replaces active (closes commits keeps)
  refine TidyAt.note ?_ _
  unfold putClosed at replaces ⊢
  cases kind : closing.aftermath with
  | ended standing =>
    exact tidyAt_of_vacant ((Table.get?_erase ..).trans (if_pos rfl))
      ((Table.get?_erase ..).trans (if_pos rfl))
  | lapsed events standing =>
    exact tidyAt_of_vacant ((Table.get?_erase ..).trans (if_pos rfl))
      ((Table.get?_erase ..).trans (if_pos rfl))
  | next events commits =>
    rw [kind] at replaces
    have now := replaces.encounter? active (encounter?_eq_some.mp active).1
    refine tidyAt_of_set ((get?_arm ..).trans (if_pos rfl)) now ?_ (replaces.last active tidy)
    intro round pending
    exact Option.some.inj pending

theorem awake_tidyAt {timer : Timer Count} (tidy : warden.TidyAt room)
    (present : warden.timers.get? room = some timer) (sleeper : Sleeper) :
    (warden.awake room timer sleeper).TidyAt room := by
  have own : (warden.awake room timer sleeper).timers.get? room = some (timer.wake sleeper).2 :=
    (Table.get?_insert ..).trans (if_pos rfl)
  refine ⟨?_, ?_, tidy.last⟩
  · have inside : warden.timers.contains room = true := by
      rw [Table.contains, present]
      rfl
    show (warden.awake room timer sleeper).timers.contains room = warden.rooms.contains room
    rw [Table.contains, own, ← tidy.housed, inside]
    rfl
  · intro found round same pending
    cases own.symm.trans same
    refine tidy.aimed timer round present ?_
    -- Waking takes the alarm or leaves it.
    unfold Timer.wake at pending
    split at pending
    · cases pending
    · exact pending

/-- A room without an active encounter is not registered. -/
theorem Sound.vacant (sound : warden.Sound admits) (nobody : warden.encounter? room = none) :
    warden.rooms.get? room = none := by
  cases registered : warden.rooms.get? room with
  | none => rfl
  | some number =>
    obtain ⟨encounter, present, _⟩ := sound.active room number registered
    cases nobody.symm.trans (encounter?_eq_some.mpr ⟨registered, present⟩)

theorem Deed.tidyAt (deed : Deed admits room warden changed) (sound : warden.Sound admits)
    (tidy : warden.TidyAt room) : changed.TidyAt room := by
  cases deed with
  | enter source events admitted named free played => exact enter_tidyAt ..
  | accept active accepted => exact accept_tidyAt sound tidy active accepted
  | settle source active played onward =>
    exact settle_tidyAt (sound.of_source source) ⟨tidy.housed, tidy.aimed, tidy.last⟩ active
      (Closing.closes_of_played played)
  | giveUp active =>
    refine TidyAt.note (tidyAt_of_vacant ?_ ?_) _
    · exact (Table.get?_erase ..).trans (if_pos rfl)
    · exact (Table.get?_erase ..).trans (if_pos rfl)
  | disarm vacant =>
    exact tidyAt_of_vacant (sound.vacant vacant) ((Table.get?_erase ..).trans (if_pos rfl))
  | awake sleeper present asleep => exact awake_tidyAt tidy present sleeper

theorem Deed.tidy (deed : Deed admits room warden changed) (sound : warden.Sound admits)
    (tidy : warden.Tidy) : changed.Tidy := by
  intro other
  by_cases same : other = room
  · subst same
    exact deed.tidyAt sound (tidy other)
  · exact (deed.within sound).tidyAt sound same (tidy other)

theorem Acts.tidy {result : List Notice × Warden σ} (acts : Acts admits room warden result)
    (sound : warden.Sound admits) (tidy : warden.Tidy) : result.2.Tidy :=
  (deeds_induction acts.deeds sound tidy fun sound deed tidy => deed.tidy sound tidy).2

theorem Tidy.of_source (tidy : warden.Tidy) (source : σ) :
    ({ warden with source := source } : Warden σ).Tidy := by
  intro room
  exact ⟨(tidy room).housed, (tidy room).aimed, (tidy room).last⟩

/-! ### Encounters go on -/

/-- Encounters keep their numbers and their rooms, and their rounds only go on. -/
def Older (warden changed : Warden σ) : Prop :=
  ∀ (number : Nat) (encounter : Encounter), warden.encounters[number]? = some encounter →
    ∃ later, changed.encounters[number]? = some later ∧ later.room = encounter.room ∧
      encounter.round.toNat ≤ later.round.toNat

theorem Older.refl (warden : Warden σ) : Older warden warden :=
  fun _ encounter present => ⟨encounter, present, rfl, Nat.le_refl _⟩

theorem Older.trans (first : Older warden changed) (second : Older changed final) :
    Older warden final := by
  intro number encounter present
  obtain ⟨later, found, same, onward⟩ := first number encounter present
  obtain ⟨last, kept, equal, further⟩ := second number later found
  exact ⟨last, kept, equal.trans same, Nat.le_trans onward further⟩

theorem Replaces.older {number : Nat} {before after : Encounter}
    (replaces : Replaces warden changed number before after)
    (active : warden.encounter? before.room = some (number, before))
    (onward : before.round.toNat ≤ after.round.toNat) : Older warden changed := by
  intro other encounter present
  obtain ⟨_, there⟩ := encounter?_eq_some.mp active
  have inside : number < warden.encounters.length := (List.getElem?_eq_some_iff.mp there).1
  rw [replaces.encounters]
  by_cases same : other = number
  · subst same
    cases present.symm.trans there
    exact ⟨after, List.getElem?_set_self inside, replaces.room, onward⟩
  · exact ⟨encounter, (List.getElem?_set_ne (Ne.symm same)).trans present, rfl, Nat.le_refl _⟩

theorem Deed.older (deed : Deed admits room warden changed) (sound : warden.Sound admits) :
    Older warden changed := by
  cases deed with
  | enter source events admitted named free played =>
    intro number encounter present
    have inside := (List.getElem?_eq_some_iff.mp present).1
    exact ⟨encounter, (List.getElem?_append_left inside).trans present, rfl, Nat.le_refl _⟩
  | accept active accepted =>
    obtain ⟨rfl, _⟩ := sound.active_open active
    obtain ⟨_, _, _, _, _, same⟩ := Encounter.commit_cases accepted
    refine (accept_replaces active accepted).older active ?_
    rw [same]
  | @settle number encounter closing source active played onward =>
    obtain ⟨rfl, _, _, commits, keeps, _⟩ := sound.active_open active
    let later : Warden σ := { warden with source := source }
    have holds : later.encounter? encounter.room = some (number, encounter) := active
    have closes := closing.closes_of_played played commits keeps
    exact (putClosed_replaces holds closes).older holds onward
  | @giveUp number encounter active =>
    obtain ⟨rfl, _⟩ := sound.active_open active
    exact (giveUp_replaces warden number encounter).older active (Nat.le_refl _)
  | disarm vacant => exact .refl warden
  | awake sleeper present asleep => exact .refl warden

/-! ### Runs -/

theorem Tidy.timeless (tidy : warden.Tidy) (clock : Clock) :
    ({ warden with clock := clock } : Warden σ).Tidy := by
  intro room
  exact ⟨(tidy room).housed, (tidy room).aimed, (tidy room).last⟩

variable [RandomSource σ]

theorem step_tidy (sound : warden.Sound admits) (tidy : warden.Tidy) (order : Order)
    (admitted : ∀ setup, order = .begin setup → admits setup) : (warden.step order).2.Tidy :=
  step_keeps (fun sound deed tidy => deed.tidy sound tidy)
    (fun _ clock tidy => tidy.timeless clock) sound tidy order admitted

/-- The rooms of a warden are in order after every run. -/
theorem run_tidy (settings : RoundSettings) (tactics : Tactics) (source : σ)
    (orders : List Order) : ((new settings tactics source).run orders).2.Tidy := by
  have sound : (new settings tactics source).Sound fun _ => True := new_sound ..
  have tidy : (new settings tactics source).Tidy := new_tidy settings tactics source
  exact run_keeps (fun sound deed tidy => deed.tidy sound tidy)
    (fun _ clock tidy => tidy.timeless clock) sound tidy fun _ _ => trivial

theorem step_older (sound : warden.Sound admits) (order : Order)
    (admitted : ∀ setup, order = .begin setup → admits setup) :
    Older warden (warden.step order).2 :=
  step_keeps (fun sound deed older => older.trans (deed.older sound)) (fun _ _ older => older)
    sound (.refl warden) order admitted

/-- Encounters go on in every run. -/
theorem run_older (sound : warden.Sound admits) {orders : List Order}
    (admitted : ∀ setup, .begin setup ∈ orders → admits setup) :
    Older warden (warden.run orders).2 :=
  run_keeps (fun sound deed older => older.trans (deed.older sound)) (fun _ _ older => older)
    sound (.refl warden) admitted

end Warden

end Fray
