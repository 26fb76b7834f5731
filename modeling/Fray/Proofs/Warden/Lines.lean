import Fray.Proofs.Warden.Housekeeping

/-!
# Sleepers in line

All deadlines of a warden are equally long, so those who sleep for a room wake in the
order in which they were put to bed, and nobody is due before now. Of all the sleepers of
a house the one that wakes first is therefore the first of its own room, and it is its
time when it wakes.

## Main results

`Orderly.head` says who wakes first, `wake_orderly` and `step_orderly` that sleepers stay
in line.
-/

namespace Fray

/-! ### The line of a timer -/

namespace Timer

variable {α : Type} {timer : Timer α} {since latest places : Nat}

/-- Who sleeps for a timer is due in a span of time, in the order of the places. -/
structure Lined (since latest places : Nat) (timer : Timer α) : Prop where
  line : timer.sleepers.Pairwise fun first second =>
    first.due ≤ second.due ∧ first.place < second.place
  span : ∀ sleeper ∈ timer.sleepers,
    since ≤ sleeper.due ∧ sleeper.due ≤ latest ∧ sleeper.place < places

theorem Lined.idle (since latest places : Nat) : (idle : Timer α).Lined since latest places :=
  ⟨.nil, fun _ member => nomatch member⟩

theorem Lined.mono {longer more : Nat} (lined : timer.Lined since latest places)
    (later : latest ≤ longer) (further : places ≤ more) : timer.Lined since longer more := by
  refine ⟨lined.line, fun sleeper member => ?_⟩
  have span := lined.span sleeper member
  omega

/-- The sleeper of a new alarm goes to the end of the line. -/
theorem Lined.arm {clock : Clock} {duration : Nat}
    (lined : timer.Lined since (clock.now + duration) clock.sleepers) (early : since ≤ clock.now)
    (task : α) :
    (timer.arm clock duration task).1.Lined since (clock.now + duration) (clock.sleepers + 1) := by
  constructor
  · -- Nobody is due later than a whole duration from now, when the new one is.
    refine List.pairwise_append.mpr ⟨lined.line, List.pairwise_singleton .., ?_⟩
    intro sleeper member new last
    cases List.mem_singleton.mp last
    exact ⟨(lined.span sleeper member).2.1, (lined.span sleeper member).2.2⟩
  · intro sleeper member
    rcases List.mem_append.mp member with old | new
    · have span := lined.span sleeper old
      omega
    · cases List.mem_singleton.mp new
      exact ⟨Nat.le_trans early (Nat.le_add_right ..), Nat.le_refl _, Nat.lt_succ_self _⟩

theorem Lined.wake (lined : timer.Lined since latest places) (sleeper : Sleeper) :
    (timer.wake sleeper).2.Lined since latest places := by
  refine ⟨?_, fun other member => lined.span other (mem_wake member)⟩
  rw [wake_sleepers]
  exact lined.line.sublist List.erase_sublist

/-- Nobody in a line is to wake before the first. -/
theorem Lined.first {sleeper head : Sleeper} {rest : List Sleeper}
    (lined : timer.Lined since latest places) (line : timer.sleepers = head :: rest)
    (member : sleeper ∈ timer.sleepers) (least : head.before sleeper = false) :
    sleeper = head := by
  rw [line] at member
  rcases List.mem_cons.mp member with same | inside
  · exact same
  · have ordered := lined.line
    rw [line] at ordered
    have after := (List.pairwise_cons.mp ordered).1 sleeper inside
    have follows := Sleeper.before_eq_false.mp least
    omega

end Timer

/-! ### The lines of a warden -/

namespace Warden

variable {σ : Type} {admits : Setup → Prop} {warden changed : Warden σ} {room : String}
  {since : Nat}

/-- In every room the sleepers are in line, and due after a time that has come. -/
structure Queued (since : Nat) (warden : Warden σ) : Prop where
  early : since ≤ warden.clock.now
  lined : ∀ room timer, warden.timers.get? room = some timer →
    timer.Lined since (warden.clock.now + warden.settings.duration) warden.clock.sleepers

/-- Nobody who sleeps is due before now. -/
def Orderly (warden : Warden σ) : Prop := warden.Queued warden.clock.now

theorem new_orderly (settings : RoundSettings) (tactics : Tactics) (source : σ) :
    (new settings tactics source).Orderly :=
  ⟨Nat.le_refl _, fun _ _ present => nomatch present⟩

theorem Queued.of_same (queued : warden.Queued since) (clock : changed.clock = warden.clock)
    (settings : changed.settings = warden.settings) (timers : changed.timers = warden.timers) :
    changed.Queued since := by
  constructor
  · rw [clock]
    exact queued.early
  · rw [clock, settings, timers]
    exact queued.lined

theorem Queued.arm (queued : warden.Queued since) (room : String) (round : Count) :
    (warden.arm room round).Queued since := by
  refine ⟨queued.early, fun other timer present => ?_⟩
  rw [get?_arm] at present
  split at present
  · cases present
    refine Timer.Lined.arm ?_ queued.early round
    cases found : warden.timers.get? room with
    | none => exact .idle ..
    | some old => exact queued.lined room old found
  · exact (queued.lined other timer present).mono (Nat.le_refl _) (Nat.le_succ _)

theorem Queued.erase (queued : warden.Queued since) (room : String)
    (clock : changed.clock = warden.clock) (settings : changed.settings = warden.settings)
    (timers : changed.timers = warden.timers.erase room) : changed.Queued since := by
  constructor
  · rw [clock]
    exact queued.early
  · intro other timer present
    rw [timers, Table.get?_erase] at present
    split at present
    · cases present
    · rw [clock, settings]
      exact queued.lined other timer present

theorem Queued.awake (queued : warden.Queued since) {timer : Timer Count}
    (present : warden.timers.get? room = some timer) (sleeper : Sleeper) :
    (warden.awake room timer sleeper).Queued since := by
  have later : warden.clock.now ≤ (warden.awake room timer sleeper).clock.now :=
    Nat.le_max_left ..
  refine ⟨Nat.le_trans queued.early later, fun other found same => ?_⟩
  change (warden.timers.insert room (timer.wake sleeper).2).get? other = some found at same
  rw [Table.get?_insert] at same
  have old : found.Lined since (warden.clock.now + warden.settings.duration)
      warden.clock.sleepers := by
    split at same
    · cases same
      exact (queued.lined room timer present).wake sleeper
    · exact queued.lined other found same
  exact old.mono (Nat.add_le_add_right later _) (Nat.le_refl _)

/-- Whatever happens in a room, the sleepers stay in line. -/
theorem Deed.queued (deed : Deed admits room warden changed) (queued : warden.Queued since) :
    changed.Queued since := by
  cases deed with
  | @enter setup muster source events admitted named free played =>
    have entered : ({ warden with
        rooms := warden.rooms.insert room warden.encounters.length
        encounters := warden.encounters ++ [muster.encounter] } : Warden σ).Queued since :=
      queued.of_same rfl rfl rfl
    exact (entered.arm room muster.encounter.round).of_same rfl rfl rfl
  | accept active accepted => exact queued.of_same rfl rfl rfl
  | @settle number encounter closing source active played onward =>
    unfold Warden.settle putClosed
    cases closing.aftermath with
    | ended standing => exact queued.erase room rfl rfl rfl
    | lapsed events standing => exact queued.erase room rfl rfl rfl
    | next events commits =>
      have followed : (({ warden with source := source } : Warden σ).followEncounter number
          encounter closing.encounter).Queued since := queued.of_same rfl rfl rfl
      exact (followed.arm room closing.encounter.round).of_same rfl rfl rfl
  | giveUp active => exact queued.erase room rfl rfl rfl
  | disarm vacant => exact queued.erase room rfl rfl rfl
  | awake sleeper present asleep => exact queued.awake present sleeper

theorem Acts.queued {result : List Notice × Warden σ} (acts : Acts admits room warden result)
    (sound : warden.Sound admits) (queued : warden.Queued since) : result.2.Queued since :=
  (deeds_induction acts.deeds sound queued fun _ deed queued => deed.queued queued).2

/-- Whoever wakes first is the first in the line of its room. -/
theorem Orderly.head {sleeper : Sleeper} (orderly : warden.Orderly)
    (first : Sleeper.earliest warden.sleepers = some (room, sleeper)) :
    ∃ timer rest, warden.timers.get? room = some timer ∧ timer.sleepers = sleeper :: rest := by
  obtain ⟨timer, present, asleep⟩ := mem_sleepers.mp (Sleeper.earliest_mem first)
  cases line : timer.sleepers with
  | nil =>
    rw [line] at asleep
    cases asleep
  | cons head rest =>
    have inside : (room, head) ∈ warden.sleepers :=
      mem_sleepers.mpr ⟨timer, present, line ▸ List.mem_cons_self⟩
    have same := (orderly.lined room timer present).first line asleep
      (Sleeper.earliest_first first _ inside)
    exact ⟨timer, rest, present, same ▸ line⟩

/-- The first sleeper wakes at its time, when nobody else is due. -/
theorem Orderly.awake {timer : Timer Count} {sleeper : Sleeper} (orderly : warden.Orderly)
    (first : Sleeper.earliest warden.sleepers = some (room, sleeper))
    (present : warden.timers.get? room = some timer) :
    (warden.awake room timer sleeper).Queued sleeper.due ∧
      (warden.awake room timer sleeper).clock.now = sleeper.due := by
  obtain ⟨found, there, asleep⟩ := mem_sleepers.mp (Sleeper.earliest_mem first)
  have future := ((orderly.lined room found there).span sleeper asleep).1
  have now : (warden.awake room timer sleeper).clock.now = sleeper.due := Nat.max_eq_right future
  have still := Queued.awake orderly present sleeper
  refine ⟨⟨Nat.le_of_eq now.symm, fun other found same => ?_⟩, now⟩
  have lined := still.lined other found same
  refine ⟨lined.line, fun one member => ⟨?_, (lined.span one member).2⟩⟩
  -- Whoever still sleeps was asleep before, and is due no earlier than the first.
  change (warden.timers.insert room (timer.wake sleeper).2).get? other = some found at same
  rw [Table.get?_insert] at same
  split at same
  next own =>
    cases same
    exact Sleeper.earliest_le first (room, one)
      (mem_sleepers.mpr ⟨timer, present, Timer.mem_wake member⟩)
  · exact Sleeper.earliest_le first (other, one) (mem_sleepers.mpr ⟨found, same, member⟩)

variable [RandomSource σ]

theorem now_resolve (warden : Warden σ) (room : String) (round : Count) :
    (warden.resolve room round).2.clock.now = warden.clock.now := by
  rcases warden.resolve_cases room round with ignored | ⟨number, encounter, active, going, rfl⟩
  · rw [ignored]
  · obtain ⟨closing, source, _, settled⟩ := resolve_open active going
    rw [settled]
    exact now_settle ..

/-- When the first sleeper wakes it is its time, and the others stay in line. -/
theorem wake_orderly {sleeper : Sleeper} (sound : warden.Sound admits) (orderly : warden.Orderly)
    (first : Sleeper.earliest warden.sleepers = some (room, sleeper)) :
    (warden.wake room sleeper).2.Orderly ∧
      (warden.wake room sleeper).2.clock.now = sleeper.due := by
  obtain ⟨timer, present, _⟩ := mem_sleepers.mp (Sleeper.earliest_mem first)
  obtain ⟨queued, now⟩ := orderly.awake first present
  have awakeSound : (warden.awake room timer sleeper).Sound admits :=
    Change.sound (.idle _ _) sound
  unfold Orderly
  rw [wake_eq present]
  cases (timer.wake sleeper).1 with
  | none =>
    simp only [now]
    exact ⟨queued, trivial⟩
  | some round =>
    have acts : Acts admits room _ ((warden.awake room timer sleeper).resolve room round) :=
      resolve_acts ..
    simp only [now_resolve, now]
    exact ⟨acts.queued awakeSound queued, trivial⟩

/-- No time passes while an order about a room is carried out. -/
theorem now_step {order : Order} (about : order.room? = some room) :
    (warden.step order).2.clock.now = warden.clock.now := by
  refine step_same (fun warden => warden.clock.now) about (fun _ _ _ _ => rfl) (fun _ => rfl)
    (fun _ _ _ => rfl) now_resolve fun room => ?_
  unfold abort
  split <;> rfl

theorem step_orderly {order : Order} (sound : warden.Sound admits) (orderly : warden.Orderly)
    (about : order.room? = some room) (admitted : ∀ setup, order = .begin setup → admits setup) :
    (warden.step order).2.Orderly := by
  have acts : Acts admits room warden (warden.step order) := step_acts about admitted
  unfold Orderly
  rw [now_step about]
  exact acts.queued sound orderly

/-! ### While time passes -/

/-- What holds of a warden at any time, also when not everybody who is due has been woken. -/
structure Poised (admits : Setup → Prop) (warden : Warden σ) : Prop where
  sound : warden.Sound admits
  tidy : warden.Tidy
  orderly : warden.Orderly

/-- All of it still holds after the first sleeper has woken. -/
theorem Poised.wake {sleeper : Sleeper} (poised : warden.Poised admits)
    (first : Sleeper.earliest warden.sleepers = some (room, sleeper)) :
    (warden.wake room sleeper).2.Poised admits := by
  obtain ⟨timer, present, asleep⟩ := mem_sleepers.mp (Sleeper.earliest_mem first)
  have acts : Acts admits room warden (warden.wake room sleeper) := wake_acts present asleep
  exact ⟨acts.sound poised.sound, acts.tidy poised.sound poised.tidy,
    (wake_orderly poised.sound poised.orderly first).1⟩

end Warden

end Fray
