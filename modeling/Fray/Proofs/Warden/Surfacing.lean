import Fray.Proofs.Warden.Tale

/-!
# Changes of conditions and who hears of them

Whenever a round is opened, conditions run out and the dying make their checks. An
observer hears of these changes when it hears that the round has started. If the
checks decide the encounter, the round never starts for the observer: it hears of
the end alone, and the changes that brought it about are lost.

## Main result

`run_surfaces`: in every run all changes are heard of once and in order, but for
those of a last opening that decides the encounter.
-/

namespace Fray

namespace Entry

/-- What the opening of a round does to conditions, with its room and its round. -/
def changes? : Entry → Option (String × Count × List ConditionEvent)
  | opened _ room round _ events => some (room, round, events)
  | committed .. | resolved .. | aborted _ | told _ => none

/-- What an observer hears of such changes. -/
def heardChanges? : Entry → Option (String × Count × List ConditionEvent)
  | told (.roundStarted _ room round events) => some (room, round, events)
  | _ => none

end Entry

/-- All changes of conditions are heard of, each once and in order. -/
def Surface (entries : List Entry) : Prop :=
  entries.filterMap Entry.heardChanges? = entries.filterMap Entry.changes?

theorem Surface.append {early late : List Entry} (first : Surface early) (second : Surface late) :
    Surface (early ++ late) := by
  unfold Surface at *
  simp only [List.filterMap_append, first, second]

/-- The history of an encounter that was decided by the opening of a round. -/
inductive Lapses (number : Nat) (room : String) : List Entry → Prop
  | last {early : List Entry} (surface : Surface early) (round next : Count)
      (resolution : Resolution) (time : Nat) (events : List ConditionEvent) {standing : Standing}
      (decided : standing ≠ .ongoing) :
      Lapses number room
        (early ++ .resolved number round resolution :: .opened number room next time events ::
          (Entry.tellRound number room round resolution.damage resolution.events
            ++ [.told (.ended number room standing)]))

/-- Nobody hears of the last changes. -/
theorem Lapses.lost {number : Nat} {room : String} {entries : List Entry}
    (lapses : Lapses number room entries) :
    ∃ round events, entries.filterMap Entry.changes?
      = entries.filterMap Entry.heardChanges? ++ [(room, round, events)] := by
  obtain ⟨surface, round, next, resolution, time, events, decided⟩ := lapses
  refine ⟨next, events, ?_⟩
  unfold Surface at surface
  -- What is told of the round itself has nothing to do with conditions.
  simp [Entry.tellRound, List.filterMap_cons, List.filterMap_map, Function.comp_def,
    Entry.changes?, Entry.heardChanges?, surface]

/-! ### Tales -/

theorem Closing.surfaces (closing : Closing) (number : Nat) (room : String) (round : Count)
    (time : Nat) (calm : ∀ events standing, closing.aftermath ≠ .lapsed events standing) :
    Surface (closing.entries number room round time) := by
  unfold Surface entries Entry.tellRound
  cases kind : closing.aftermath with
  | lapsed events standing => exact absurd kind (calm events standing)
  | _ =>
    simp [List.filterMap_cons, List.filterMap_map, Function.comp_def, Entry.changes?,
      Entry.heardChanges?]

/-- As long as a tale goes on, all changes in it have been heard of. -/
theorem Tale.surfaces {admits : Setup → Prop} {tactics : Tactics} {points : Count}
    {number : Nat} {room : String} {stage : Stage} {encounter : Encounter} {entries : List Entry}
    (tale : Tale admits tactics points number room stage encounter entries) :
    Surface entries ∨ stage = .closed ∧ Lapses number room entries := by
  induction tale with
  | begun time admitted named played =>
    left
    simp [Surface, List.filterMap_cons, Entry.changes?, Entry.heardChanges?, List.filterMap_map,
      Function.comp_def]
  -- The tale goes on, so nothing has been lost before.
  | accepted tale accepts ih =>
    have before := ih.resolve_right (by simp)
    exact .inl (before.append rfl)
  | @closed encounter closing time commits entries tale keeps played now ih =>
    have before := ih.resolve_right (by simp)
    cases kind : closing.aftermath with
    | ended standing =>
      exact .inl (before.append (closing.surfaces _ _ _ _ (by simp [kind])))
    | next events commits =>
      exact .inl (before.append (closing.surfaces _ _ _ _ (by simp [kind])))
    -- The opening has decided the encounter, so that its end is all that is heard of it.
    | lapsed events standing =>
      have decided := (closing.closes_of_played played commits keeps).aftermath
      rw [kind] at decided
      refine .inr ⟨by simp [Closing.stage, kind], ?_⟩
      have lapses : Lapses number room _ := .last before encounter.round closing.encounter.round
        closing.resolution now events decided.1
      simpa only [Closing.entries, kind, List.cons_append] using lapses
  | aborted tale ih =>
    have before := ih.resolve_right (by simp)
    exact .inl (before.append rfl)

/-! ### Runs -/

namespace Warden

variable {σ : Type}

/-- The changes of conditions in an encounter, opening by opening. -/
def changesMade (warden : Warden σ) (number : Nat) :
    List (String × Count × List ConditionEvent) :=
  (warden.historyOf number).filterMap Entry.changes?

/-- The changes of conditions that are heard of in an encounter. -/
def changesHeard (warden : Warden σ) (number : Nat) :
    List (String × Count × List ConditionEvent) :=
  (warden.historyOf number).filterMap Entry.heardChanges?

/--
In every run the changes of conditions are heard of for the room of their encounter,
all of them once and in order, while the encounter is active and when it is given up or
decided by a resolution. If the opening of a round decides it, the changes of this
opening are made but not heard of, and all changes before them are.
-/
theorem run_surfaces [RandomSource σ] (settings : RoundSettings) (tactics : Tactics) (source : σ)
    (orders : List Order) :
    let result := (new settings tactics source).run orders
    result.1 = result.2.history.filterMap Entry.notice? ∧
    (∀ number encounter, result.2.encounters[number]? = some encounter →
      result.2.changesHeard number = result.2.changesMade number ∨
      result.2.rooms.get? encounter.room ≠ some number ∧
        Lapses number encounter.room (result.2.historyOf number) ∧
        ∃ round events, result.2.changesMade number
          = result.2.changesHeard number ++ [(encounter.room, round, events)]) ∧
    ∀ number, result.2.encounters.length ≤ number →
      result.2.changesMade number = [] ∧ result.2.changesHeard number = [] := by
  have leads : Leads (fun _ => True) _ ((new settings tactics source).run orders) :=
    run_leads _ fun _ _ => trivial
  have sound := changes_sound leads.changes (new_sound settings tactics source)
  have heard := leads.heard
  generalize (new settings tactics source).run orders = result at *
  obtain ⟨notices, warden⟩ := result
  refine ⟨heard.symm, fun number encounter present => ?_, fun number beyond => ?_⟩
  · obtain ⟨stage, tale, stands⟩ := sound.tales number encounter present
    rcases tale.surfaces with surface | ⟨rfl, lapses⟩
    · exact .inl surface
    · exact .inr ⟨stands, lapses, lapses.lost⟩
  · have silent := sound.unborn number beyond
    simp [changesMade, changesHeard, silent]

/-! ### A last check that nobody hears of -/

def sampleDeathbed : Setup :=
  { room := "cellar"
    zone := "house"
    combatants := [
      { id := "p1", name := "Alice", side := .player, maxHp := 4, hp := 4, armorClass := 10 },
      { id := "g1", name := "Goblin", side := .npc, maxHp := 30, hp := 30, armorClass := 9 }] }

/-- The player goes down in the first round, and no check helps. -/
def sampleVigil : List Order :=
  [.begin sampleDeathbed, .resolve "cellar" 1, .resolve "cellar" 2, .resolve "cellar" 3]

/-- The player dies when the fourth round is opened, and nobody hears that its dying ends. -/
theorem run_surfaces_lost :
    let result := (new {} .npcsOnly (⟨10⟩ : Fixed)).run sampleVigil
    (result.2.changesMade 0).drop 3
      = [("cellar", 4, [⟨"p1", "Alice", "dying", "Dying", 4, .removed⟩])] ∧
    result.2.changesHeard 0 = (result.2.changesMade 0).take 3 ∧
    result.1.filterMap (fun notice => (Entry.told notice).heardChanges?)
      = (result.2.changesMade 0).take 3 ∧
    result.2.changesHeard 0 ≠ result.2.changesMade 0 := by
  decide +kernel

end Warden

end Fray
