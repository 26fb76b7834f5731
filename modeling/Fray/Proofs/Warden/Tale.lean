import Fray.Proofs.Warden.Changes

/-!
# The tale of an encounter

The journal of a warden, read for one encounter at a time, is a tale of rounds:
a round is opened and actions are accepted in it until it is resolved, whereupon
the next one is opened or the encounter is over. A tale carries the encounter along, as
it was begun, as it accepted each action and as each round has left it; at the end it is
the one that the warden keeps.

## Main result

`run_sound`: after every run the tale of every encounter is well formed, and an
encounter holds a room exactly as long as its tale goes on.
-/

namespace Fray

open Relation

/-! ### What the journal says of an encounter -/

/-- The number of the encounter that a notice is about. -/
def Notice.encounter : Notice → Nat
  | roundStarted encounter _ _ _ | damaged encounter _ _ _ | roundResolved encounter _ _ _
  | ended encounter _ _ => encounter

/-- The number of the encounter that an entry is about. -/
def Entry.encounter : Entry → Nat
  | opened encounter _ _ _ _ | committed encounter _ _ | resolved encounter _ _
  | aborted encounter => encounter
  | told notice => notice.encounter

/-- All that has happened in an encounter, in order. -/
def Warden.historyOf {σ : Type} (warden : Warden σ) (number : Nat) : List Entry :=
  warden.history.filter (·.encounter = number)

theorem Closing.entries_encounter (closing : Closing) (number : Nat) (room : String)
    (round : Count) (time : Nat) :
    ∀ entry ∈ closing.entries number room round time, entry.encounter = number := by
  simp only [entries, Entry.tellRound]
  split <;>
    simp only [List.forall_mem_cons, List.forall_mem_append, List.forall_mem_map,
      Entry.encounter, Notice.encounter, List.not_mem_nil, false_implies, implies_true, and_self]

theorem Muster.entries_encounter (muster : Muster) (number : Nat) (room : String) (time : Nat)
    (events : List ConditionEvent) :
    ∀ entry ∈ muster.entries number room time events, entry.encounter = number := by
  simp only [entries, List.forall_mem_cons, List.forall_mem_append, List.forall_mem_map,
    Entry.encounter, Notice.encounter, List.not_mem_nil, false_implies, implies_true, and_self]

/-! ### Tales -/

/-- Where the tale of an encounter stands. -/
inductive Stage where
  /-- A round is open since a time; these actions were accepted in it. -/
  | open (round : Count) (time : Nat) (commits : List Commit)
  | closed

/-- Where the tale stands once a round has been closed. -/
def Closing.stage (closing : Closing) (time : Nat) : Stage :=
  match closing.aftermath with
  | .next _ commits => .open closing.encounter.round time commits
  | .ended _ | .lapsed _ _ => .closed

/-- The entries of an encounter in a room, with the encounter as it stands after them. -/
inductive Tale (admits : Setup → Prop) (tactics : Tactics) (points : Count) (number : Nat)
    (room : String) : Stage → Encounter → List Entry → Prop
  | begun {setup : Setup} {muster : Muster} {events : List ConditionEvent} (time : Nat)
      (admitted : admits setup) (named : setup.room = room)
      (played : (Warden.firstRound setup tactics points).Yields (events, muster)) :
      Tale admits tactics points number room (.open 1 time muster.commits) muster.encounter
        (.opened number room 1 time events :: muster.commits.map (.committed number 1)
          ++ [.told (.roundStarted number room 1 events)])
  | accepted {round : Count} {time : Nat} {commits : List Commit} {entries : List Entry}
      {encounter committed : Encounter} {commit : Commit}
      (tale : Tale admits tactics points number room (.open round time commits) encounter entries)
      (accepts : encounter.commit commit.combatant commit.action = .ok committed) :
      Tale admits tactics points number room (.open round time (commits ++ [commit])) committed
        (entries ++ [.committed number round commit])
  | closed {encounter : Encounter} {closing : Closing} {time : Nat} {commits : List Commit}
      {entries : List Entry}
      (tale : Tale admits tactics points number room (.open encounter.round time commits) encounter
        entries)
      (keeps : encounter.Keeps commits)
      (played : (encounter.closeRound tactics points).Yields closing) (now : Nat) :
      Tale admits tactics points number room (closing.stage now) closing.encounter
        (entries ++ closing.entries number room encounter.round now)
  | aborted {round : Count} {time : Nat} {commits : List Commit} {entries : List Entry}
      {encounter : Encounter}
      (tale : Tale admits tactics points number room (.open round time commits) encounter entries) :
      Tale admits tactics points number room .closed encounter.markOver
        (entries ++ [.aborted number])

/-- The encounter of a tale is in its room, and its combatants are those of its setup. -/
theorem Tale.admitted {admits : Setup → Prop} {tactics : Tactics} {points : Count} {number : Nat}
    {room : String} {stage : Stage} {encounter : Encounter} {entries : List Entry}
    (tale : Tale admits tactics points number room stage encounter entries) :
    ∃ setup, admits setup ∧ encounter.room = setup.room ∧
      encounter.ids.Perm (setup.combatants.map Combatant.id) := by
  induction tale with
  | @begun setup muster events time admitted named played =>
    have begins := Muster.begins_of_played played
    exact ⟨setup, admitted, begins.room, begins.ids⟩
  | accepted tale accepts ih =>
    obtain ⟨_, _, _, _, _, rfl⟩ := Encounter.commit_cases accepts
    exact ih
  | @closed encounter closing time commits entries tale keeps played now ih =>
    have closes := closing.closes_of_played played commits keeps
    rw [closes.room, closes.ids]
    exact ih
  | aborted tale ih => exact ih

namespace Warden

variable {σ : Type}

/-! ### Sound wardens -/

/-- A warden agrees with the tale of one of its encounters. -/
def Stands (warden : Warden σ) (number : Nat) (encounter : Encounter) : Stage → Prop
  | .open round _ commits =>
    warden.rooms.get? encounter.room = some number ∧ encounter.round = round ∧
      encounter.isOver = false ∧ encounter.Keeps commits
  | .closed => warden.rooms.get? encounter.room ≠ some number

/-- The registry and the journal of a warden describe the same encounters. -/
structure Sound (admits : Setup → Prop) (warden : Warden σ) : Prop where
  active : ∀ room number, warden.rooms.get? room = some number →
    ∃ encounter, warden.encounters[number]? = some encounter ∧ encounter.room = room
  tales : ∀ number encounter, warden.encounters[number]? = some encounter →
    ∃ stage, Tale admits warden.tactics warden.settings.points number encounter.room stage
        encounter (warden.historyOf number) ∧
      warden.Stands number encounter stage
  unborn : ∀ number, warden.encounters.length ≤ number → warden.historyOf number = []

variable {admits : Setup → Prop}

theorem new_sound (settings : RoundSettings) (tactics : Tactics) (source : σ) :
    (new settings tactics source).Sound admits := by
  constructor
  · intro room number registered
    cases registered
  · intro number encounter present
    cases present
  · intro number _
    rfl

/-- Every encounter was begun with combatants of these names. -/
theorem Sound.begun {warden : Warden σ} (sound : warden.Sound admits) (encounter : Encounter)
    (member : encounter ∈ warden.encounters) :
    ∃ setup, admits setup ∧ encounter.room = setup.room ∧
      encounter.ids.Perm (setup.combatants.map Combatant.id) := by
  obtain ⟨number, present⟩ := List.mem_iff_getElem?.mp member
  obtain ⟨stage, tale, _⟩ := sound.tales number encounter present
  exact tale.admitted

/-- The tale of the encounter that holds a room goes on. -/
theorem Stands.open_of_active {warden : Warden σ} {number : Nat} {encounter : Encounter}
    {stage : Stage} (stands : warden.Stands number encounter stage)
    (registered : warden.rooms.get? encounter.room = some number) :
    ∃ time commits, stage = .open encounter.round time commits ∧ encounter.isOver = false ∧
      encounter.Keeps commits := by
  cases stage with
  | «open» round time commits =>
    obtain ⟨_, rfl, going, keeps⟩ := stands
    exact ⟨time, commits, rfl, going, keeps⟩
  | closed => exact absurd registered stands

/-- Whether an encounter holds its room is all that a warden says of where it stands. -/
theorem Stands.of_iff {warden changed : Warden σ} {number : Nat} {encounter : Encounter}
    {stage : Stage} (stands : warden.Stands number encounter stage)
    (same : changed.rooms.get? encounter.room = some number ↔
      warden.rooms.get? encounter.room = some number) :
    changed.Stands number encounter stage := by
  cases stage with
  | «open» round time commits => exact ⟨same.mpr stands.1, stands.2⟩
  | closed => exact mt same.mp stands

theorem historyOf_note (warden : Warden σ) (entries : List Entry) (number : Nat) :
    (warden.note entries).2.historyOf number
      = warden.historyOf number ++ entries.filter (·.encounter = number) := by
  simp [historyOf, history, note]

theorem filter_encounter_self {entries : List Entry} {number : Nat}
    (about : ∀ entry ∈ entries, entry.encounter = number) :
    entries.filter (·.encounter = number) = entries :=
  List.filter_eq_self.mpr fun entry member => by simpa using about entry member

theorem filter_encounter_other {entries : List Entry} {number other : Nat}
    (about : ∀ entry ∈ entries, entry.encounter = number) (different : other ≠ number) :
    entries.filter (·.encounter = other) = [] :=
  List.filter_eq_nil_iff.mpr fun entry member => by
    simpa [about entry member] using different.symm

/-! ### Changes keep wardens sound -/

/-- What changes when an encounter that holds its room is replaced. -/
structure Replaces (warden changed : Warden σ) (number : Nat) (before after : Encounter) :
    Prop where
  encounters : changed.encounters = warden.encounters.set number after
  room : after.room = before.room
  others : ∀ room, room ≠ before.room → changed.rooms.get? room = warden.rooms.get? room
  own : changed.rooms.get? before.room = some number ∨ changed.rooms.get? before.room = none
  journal : changed.journal = warden.journal
  settings : changed.settings = warden.settings
  tactics : changed.tactics = warden.tactics

theorem Sound.replace {warden changed : Warden σ} {number : Nat} {before after : Encounter}
    {entries : List Entry} {stage : Stage} (sound : warden.Sound admits)
    (active : warden.encounter? before.room = some (number, before))
    (replaces : Replaces warden changed number before after)
    (about : ∀ entry ∈ entries, entry.encounter = number)
    (tale : Tale admits warden.tactics warden.settings.points number before.room stage after
      (warden.historyOf number ++ entries))
    (stands : changed.Stands number after stage) : (changed.note entries).2.Sound admits := by
  obtain ⟨registered, present⟩ := encounter?_eq_some.mp active
  have inside : number < warden.encounters.length := (List.getElem?_eq_some_iff.mp present).1
  have encounters : (changed.note entries).2.encounters = warden.encounters.set number after :=
    replaces.encounters
  have history (other : Nat) : (changed.note entries).2.historyOf other
      = warden.historyOf other ++ entries.filter (·.encounter = other) := by
    rw [historyOf_note]
    simp only [historyOf, history, replaces.journal]
  -- Nobody but this encounter holds its room.
  have elsewhere {other : Nat} {encounter : Encounter} (different : other ≠ number)
      (kept : warden.encounters[other]? = some encounter) :
      (changed.note entries).2.rooms.get? encounter.room = some other ↔
        warden.rooms.get? encounter.room = some other := by
    by_cases sameRoom : encounter.room = before.room
    · rw [sameRoom, registered]
      show changed.rooms.get? before.room = _ ↔ _
      rcases replaces.own with own | own <;> simp [own, different.symm]
    · exact iff_of_eq (congrArg (· = some other) (replaces.others _ sameRoom))
  constructor
  -- The room of the encounter is still its own, or it is free; the others are as before.
  · intro room other found
    change changed.rooms.get? room = some other at found
    rw [encounters]
    by_cases sameRoom : room = before.room
    · subst sameRoom
      rcases replaces.own with own | own
      · cases own.symm.trans found
        exact ⟨after, by simp [inside], replaces.room⟩
      · cases own.symm.trans found
    · rw [replaces.others room sameRoom] at found
      obtain ⟨encounter, kept, same⟩ := sound.active room other found
      have different : other ≠ number := by
        rintro rfl
        cases kept.symm.trans present
        exact sameRoom same.symm
      exact ⟨encounter, by rw [List.getElem?_set_ne different.symm, kept], same⟩
  -- Only the tale of this encounter goes on; the others stand where they stood.
  · intro other encounter kept
    rw [encounters] at kept
    rw [history]
    show ∃ stage, Tale admits changed.tactics changed.settings.points _ _ _ _ _ ∧ _
    rw [replaces.settings, replaces.tactics]
    by_cases different : other = number
    · subst different
      rw [List.getElem?_set_self inside] at kept
      cases kept
      rw [filter_encounter_self about, replaces.room]
      exact ⟨stage, tale, stands⟩
    · rw [List.getElem?_set_ne (Ne.symm different)] at kept
      rw [filter_encounter_other about different, List.append_nil]
      obtain ⟨stage, told, stood⟩ := sound.tales other encounter kept
      exact ⟨stage, told, stood.of_iff (elsewhere different kept)⟩
  · intro other beyond
    rw [encounters, List.length_set] at beyond
    rw [history, sound.unborn other beyond, List.nil_append]
    exact filter_encounter_other about (by omega)

theorem Replaces.of_erase {warden changed : Warden σ} {number : Nat} {before after : Encounter}
    (encounters : changed.encounters = warden.encounters.set number after)
    (room : after.room = before.room) (rooms : changed.rooms = warden.rooms.erase before.room)
    (journal : changed.journal = warden.journal) (settings : changed.settings = warden.settings)
    (tactics : changed.tactics = warden.tactics) :
    Replaces warden changed number before after := by
  refine ⟨encounters, room, fun other different => ?_, .inr ?_, journal, settings, tactics⟩
  · rw [rooms, Table.get?_erase, if_neg different]
  · rw [rooms, Table.get?_erase, if_pos rfl]

theorem stands_closed {changed : Warden σ} {number : Nat} {encounter : Encounter}
    (vacant : changed.rooms.get? encounter.room = none) :
    changed.Stands number encounter .closed := by
  simp [Stands, vacant]

theorem enter_sound {warden : Warden σ} {setup : Setup} {muster : Muster}
    {events : List ConditionEvent} (sound : warden.Sound admits) (admitted : admits setup)
    (free : warden.rooms.contains setup.room = false)
    (played : (firstRound setup warden.tactics warden.settings.points).Yields (events, muster)) :
    (warden.enter setup.room events muster).2.Sound admits := by
  have begins := Muster.begins_of_played played
  have vacant : warden.rooms.get? setup.room = none := by
    simpa [Table.contains] using free
  have journal (number : Nat) :
      (warden.enter setup.room events muster).2.historyOf number = warden.historyOf number ++ _ :=
    historyOf_note ..
  have about := muster.entries_encounter warden.encounters.length setup.room warden.clock.now events
  have rooms (room : String) : (warden.enter setup.room events muster).2.rooms.get? room
      = if room = setup.room then some warden.encounters.length else warden.rooms.get? room :=
    Table.get?_insert ..
  have encounters : (warden.enter setup.room events muster).2.encounters
      = warden.encounters ++ [muster.encounter] := rfl
  constructor
  -- The new encounter comes last, so the old ones keep their numbers.
  · intro room number registered
    rw [rooms] at registered
    rw [encounters]
    split at registered
    next same =>
      cases registered
      exact ⟨muster.encounter, by simp, begins.room.trans same.symm⟩
    next different =>
      obtain ⟨encounter, kept, same⟩ := sound.active room number registered
      have inside := (List.getElem?_eq_some_iff.mp kept).1
      exact ⟨encounter, by rw [List.getElem?_append_left inside, kept], same⟩
  · intro number encounter kept
    rw [encounters] at kept
    rw [journal]
    rcases Nat.lt_trichotomy number warden.encounters.length with inside | rfl | beyond
    · rw [List.getElem?_append_left inside] at kept
      rw [filter_encounter_other about (by omega), List.append_nil]
      obtain ⟨stage, tale, stands⟩ := sound.tales number encounter kept
      refine ⟨stage, tale, stands.of_iff ?_⟩
      rw [rooms]
      split
      next same => simp [same, vacant, Nat.ne_of_gt inside]
      · exact Iff.rfl
    · simp only [List.getElem?_concat_length, Option.some.injEq] at kept
      subst kept
      -- Nothing was told under the new number yet, so its tale begins here.
      rw [filter_encounter_self about, sound.unborn _ (Nat.le_refl _), begins.room, Muster.entries,
        begins.round]
      refine ⟨_, .begun warden.clock.now admitted rfl played, ?_⟩
      refine ⟨?_, begins.round, begins.isOver, begins.keeps⟩
      rw [rooms, begins.room, if_pos rfl]
    · have outside : (warden.encounters ++ [muster.encounter]).length ≤ number := by
        simp only [List.length_append, List.length_singleton]
        omega
      rw [List.getElem?_eq_none outside] at kept
      cases kept
  · intro number beyond
    rw [encounters, List.length_append, List.length_singleton] at beyond
    rw [journal, sound.unborn number (by omega), List.nil_append]
    exact filter_encounter_other about (by omega)

theorem accept_replaces {warden : Warden σ} {id : String} {number : Nat} {action : Action}
    {encounter committed : Encounter}
    (active : warden.encounter? encounter.room = some (number, encounter))
    (accepted : encounter.commit id action = .ok committed) :
    Replaces warden (warden.setEncounter number committed) number encounter committed := by
  obtain ⟨_, queue, _, _, _, rfl⟩ := Encounter.commit_cases accepted
  exact ⟨rfl, rfl, fun _ _ => rfl, .inl (encounter?_eq_some.mp active).1, rfl, rfl, rfl⟩

theorem putClosed_replaces {warden : Warden σ} {number : Nat} {encounter : Encounter}
    {closing : Closing} {commits : List Commit}
    (active : warden.encounter? encounter.room = some (number, encounter))
    (closes : closing.Closes encounter commits) :
    Replaces warden (warden.putClosed encounter.room number encounter closing) number encounter
      closing.encounter := by
  unfold putClosed
  cases closing.aftermath with
  | ended standing => exact .of_erase rfl closes.room rfl rfl rfl rfl
  | lapsed events standing => exact .of_erase rfl closes.room rfl rfl rfl rfl
  | next events commits =>
    exact ⟨rfl, closes.room, fun _ _ => rfl, .inl (encounter?_eq_some.mp active).1, rfl, rfl,
      rfl⟩

theorem giveUp_replaces (warden : Warden σ) (number : Nat) (encounter : Encounter) :
    Replaces warden ((warden.setEncounter number encounter.markOver).release encounter.room) number
      encounter encounter.markOver :=
  .of_erase rfl rfl rfl rfl rfl rfl

/-- The encounter that holds a room is the one that was begun in it, and its tale goes on. -/
theorem Sound.active_open {warden : Warden σ} {room : String} {number : Nat}
    {encounter : Encounter} (sound : warden.Sound admits)
    (active : warden.encounter? room = some (number, encounter)) :
    encounter.room = room ∧ encounter.isOver = false ∧ ∃ time commits,
      encounter.Keeps commits ∧ Tale admits warden.tactics warden.settings.points number room
        (.open encounter.round time commits) encounter (warden.historyOf number) := by
  obtain ⟨registered, present⟩ := encounter?_eq_some.mp active
  obtain ⟨_, kept, rfl⟩ := sound.active room number registered
  cases kept.symm.trans present
  obtain ⟨stage, tale, stands⟩ := sound.tales number encounter present
  obtain ⟨time, commits, rfl, going, keeps⟩ := stands.open_of_active registered
  exact ⟨rfl, going, time, commits, keeps, tale⟩

theorem accept_sound {warden : Warden σ} {room id : String} {number : Nat} {action : Action}
    {encounter committed : Encounter} (sound : warden.Sound admits)
    (active : warden.encounter? room = some (number, encounter))
    (accepted : encounter.commit id action = .ok committed) :
    (warden.accept number committed ⟨id, action⟩).2.Sound admits := by
  obtain ⟨rfl, going, time, commits, keeps, tale⟩ := sound.active_open active
  have longer := keeps.commit accepted
  have replaces := accept_replaces active accepted
  obtain ⟨_, queue, _, _, _, same⟩ := Encounter.commit_cases accepted
  have round : committed.round = encounter.round := by rw [same]
  have stood : (warden.setEncounter number committed).Stands number committed
      (.open encounter.round time (commits ++ [⟨id, action⟩])) := by
    refine ⟨?_, round, by rw [same]; exact going, longer⟩
    rw [replaces.room]
    exact (encounter?_eq_some.mp active).1
  refine sound.replace active replaces ?_ ?_ stood
  · simp [Entry.encounter]
  · rw [round]
    exact tale.accepted accepted

theorem settle_sound {warden : Warden σ} {room : String} {number : Nat} {encounter : Encounter}
    {closing : Closing} (sound : warden.Sound admits)
    (active : warden.encounter? room = some (number, encounter))
    (played : (encounter.closeRound warden.tactics warden.settings.points).Yields closing) :
    (warden.settle room number encounter closing).2.Sound admits := by
  obtain ⟨rfl, going, time, commits, keeps, tale⟩ := sound.active_open active
  have closed := closing.closes_of_played played commits keeps
  refine sound.replace active (putClosed_replaces active closed)
    (closing.entries_encounter number encounter.room encounter.round warden.clock.now)
    (tale.closed keeps played warden.clock.now) ?_
  have aftermath := closed.aftermath
  have vacant : (warden.rooms.erase encounter.room).get? closing.encounter.room = none := by
    rw [closed.room, Table.get?_erase, if_pos rfl]
  unfold putClosed Closing.stage
  cases kind : closing.aftermath with
  | ended standing => exact stands_closed vacant
  | lapsed events standing => exact stands_closed vacant
  | next events commits =>
    rw [kind] at aftermath
    obtain ⟨_, isOver, keeps⟩ := aftermath
    refine ⟨?_, rfl, isOver.trans going, keeps⟩
    rw [closed.room]
    exact (encounter?_eq_some.mp active).1

theorem giveUp_sound {warden : Warden σ} {room : String} {number : Nat} {encounter : Encounter}
    (sound : warden.Sound admits) (active : warden.encounter? room = some (number, encounter)) :
    (warden.giveUp room number encounter).Sound admits := by
  obtain ⟨rfl, going, time, commits, keeps, tale⟩ := sound.active_open active
  refine sound.replace active (giveUp_replaces ..) ?_ tale.aborted (stands_closed ?_)
  · simp [Entry.encounter]
  · exact (Table.get?_erase ..).trans (if_pos rfl)

/-- The source, the clock, the timers and the calls of a warden do not matter. -/
theorem Sound.of_same {warden changed : Warden σ} (sound : warden.Sound admits)
    (rooms : changed.rooms = warden.rooms) (encounters : changed.encounters = warden.encounters)
    (journal : changed.journal = warden.journal) (settings : changed.settings = warden.settings)
    (tactics : changed.tactics = warden.tactics) : changed.Sound admits := by
  cases warden
  cases changed
  cases rooms
  cases encounters
  cases journal
  cases settings
  cases tactics
  exact ⟨sound.active, sound.tales, sound.unborn⟩

theorem Sound.of_source {warden : Warden σ} (sound : warden.Sound admits) (source : σ) :
    ({ warden with source := source } : Warden σ).Sound admits :=
  sound.of_same rfl rfl rfl rfl rfl

theorem Change.sound {warden changed : Warden σ} (change : Change admits warden changed)
    (sound : warden.Sound admits) : changed.Sound admits := by
  cases change with
  | enter source events admitted free played =>
    exact enter_sound (sound.of_source source) admitted free played
  | accept active accepted => exact accept_sound sound active accepted
  | settle source active played =>
    exact settle_sound (sound.of_source source) active played
  | giveUp active => exact giveUp_sound sound active
  | idle clock timers => exact sound.of_same rfl rfl rfl rfl rfl

theorem changes_sound {warden changed : Warden σ}
    (changes : ReflTransGen (Change admits) warden changed) (sound : warden.Sound admits) :
    changed.Sound admits := by
  induction changes with
  | refl => exact sound
  | tail _ change ih => exact change.sound ih

/-- Every run of a new warden ends with the registry and the journal in agreement. -/
theorem run_sound [RandomSource σ] (settings : RoundSettings) (tactics : Tactics) (source : σ)
    {orders : List Order} (admitted : ∀ setup, .begin setup ∈ orders → admits setup) :
    ((new settings tactics source).run orders).2.Sound admits :=
  changes_sound (run_leads _ admitted).changes (new_sound settings tactics source)

/-! ### A short run -/

def sampleSetup : Setup :=
  { room := "cellar"
    zone := "house"
    combatants := [
      { id := "ann", name := "Ann", side := .player, maxHp := 9, hp := 9, armorClass := 12 },
      { id := "rat", name := "Rat", side := .npc, maxHp := 30, hp := 30, armorClass := 9 }] }

/-- A round that ends with the last submission, one that lasts until its deadline, and no third. -/
def sampleOrders : List Order :=
  [.begin sampleSetup, .submit "cellar" "ann" (.attack "Rat"), .submit "cellar" "ann" .pass,
    .submit "cellar" "ann" (.attack "Bat"), .resolve "cellar" 1, .pass 6000, .abort "cellar"]

end Warden

end Fray
