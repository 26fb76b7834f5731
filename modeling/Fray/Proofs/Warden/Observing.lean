import Fray.Proofs.Warden.Tale
import Mathlib.Algebra.GroupWithZero.Nat
import Mathlib.Data.List.Nodup

/-!
# What an observer hears

An observer hears of an encounter in a fixed order: its first round is started,
and every round that was started is resolved, after the damage done in it, when
either the next round is started or the encounter is ended. It may be given up
as long as a round is open, and then nothing more is heard of it.

## Main result

`run_heard`: so it is in every run, whichever of the last submission, the
deadline and a request comes first, as long as the rounds can be counted.
-/

namespace Fray

/-! ### A grammar of notices -/

/-- What is heard of an encounter until it is given up, with the round that is open at the end. -/
inductive Hears (number : Nat) (room : String) : Option Count → List Entry → Prop
  | started {round : Count} (first : round.toNat = 1) (events : List ConditionEvent) :
      Hears number room (some round) [.told (.roundStarted number room round events)]
  | next {round following : Count} {heard : List Entry}
      (hears : Hears number room (some round) heard) (hurts : List (String × Count))
      (events : List RoundEvent) (successor : following.toNat = round.toNat + 1)
      (changes : List ConditionEvent) :
      Hears number room (some following)
        (heard ++ (Entry.tellRound number room round hurts events
          ++ [.told (.roundStarted number room following changes)]))
  | ended {round : Count} {heard : List Entry} (hears : Hears number room (some round) heard)
      (hurts : List (String × Count)) (events : List RoundEvent) {standing : Standing}
      (decided : standing ≠ .ongoing) :
      Hears number room none
        (heard ++ (Entry.tellRound number room round hurts events
          ++ [.told (.ended number room standing)]))
  | aborted {round : Count} {heard : List Entry} (hears : Hears number room (some round) heard) :
      Hears number room none (heard ++ [.aborted number])

namespace Entry

/-- Whether an entry is heard by an observer, or is the end of all that is heard. -/
def isHeard : Entry → Bool
  | told _ | aborted _ => true
  | opened .. | committed .. | resolved .. => false

/-- The round of an opening, and its time. -/
def opening? : Entry → Option (Count × Nat)
  | opened _ _ round time _ => some (round, time)
  | committed .. | resolved .. | aborted _ | told _ => none

/-- The round that is heard to be resolved. -/
def resolvedRound? : Entry → Option Count
  | told (.roundResolved _ _ round _) => some round
  | _ => none

end Entry

/-! ### Every round once -/

theorem resolvedRounds_tellRound (number : Nat) (room : String) (round : Count)
    (hurts : List (String × Count)) (events : List RoundEvent) :
    (Entry.tellRound number room round hurts events).filterMap Entry.resolvedRound? = [round] := by
  simp [Entry.tellRound, List.filterMap_map, Function.comp_def, Entry.resolvedRound?]

/-- The rounds are resolved one by one from the first, up to the one before the open round. -/
theorem Hears.resolvedRounds {number : Nat} {room : String} {live : Option Count}
    {heard : List Entry} (hears : Hears number room live heard) :
    ∃ count, (heard.filterMap Entry.resolvedRound?).map Count.toNat = List.range' 1 count ∧
      ∀ round, live = some round → round.toNat = count + 1 := by
  induction hears with
  | started first events =>
    refine ⟨0, rfl, ?_⟩
    rintro _ ⟨rfl⟩
    exact first
  | next hears hurts events successor changes ih =>
    obtain ⟨count, rounds, current⟩ := ih
    have present := current _ rfl
    refine ⟨count + 1, ?_, ?_⟩
    · rw [List.filterMap_append, List.filterMap_append, resolvedRounds_tellRound, List.map_append,
        rounds, List.range'_1_concat]
      simp [Entry.resolvedRound?, present, Nat.add_comm]
    · rintro _ ⟨rfl⟩
      rw [successor, present]
  | ended hears hurts events decided ih =>
    obtain ⟨count, rounds, current⟩ := ih
    have present := current _ rfl
    refine ⟨count + 1, ?_, by simp⟩
    rw [List.filterMap_append, List.filterMap_append, resolvedRounds_tellRound, List.map_append,
      rounds, List.range'_1_concat]
    simp [Entry.resolvedRound?, present, Nat.add_comm]
  | aborted hears ih =>
    obtain ⟨count, rounds, _⟩ := ih
    refine ⟨count, ?_, by simp⟩
    rw [List.filterMap_append, List.map_append, rounds]
    simp [Entry.resolvedRound?]

/-- No round is heard to be resolved twice. -/
theorem Hears.nodup_resolved {number : Nat} {room : String} {live : Option Count}
    {heard : List Entry} (hears : Hears number room live heard) :
    (heard.filterMap Entry.resolvedRound?).Nodup := by
  obtain ⟨count, rounds, _⟩ := hears.resolvedRounds
  have distinct : ((heard.filterMap Entry.resolvedRound?).map Count.toNat).Nodup := by
    rw [rounds]
    exact List.nodup_range' 1
  exact List.Nodup.of_map _ distinct

/-! ### From tales to what is heard -/

/-- The open round of a tale. -/
@[simp] def Stage.round? : Stage → Option Count
  | .open round _ _ => some round
  | .closed => none

theorem Muster.entries_openings (muster : Muster) (number : Nat) (room : String) (time : Nat)
    (events : List ConditionEvent) :
    (muster.entries number room time events).filterMap Entry.opening?
      = [(muster.encounter.round, time)] := by
  simp [entries, List.filterMap_cons, List.filterMap_map, Function.comp_def, Entry.opening?]

namespace Closing

variable (closing : Closing) (number : Nat) (room : String) (round : Count) (time : Nat)

/-- A closed round opens the next one unless the encounter ends at once. -/
theorem entries_openings :
    (closing.entries number room round time).filterMap Entry.opening? =
      match closing.aftermath with
      | .ended _ => []
      | .lapsed _ _ | .next _ _ => [(closing.encounter.round, time)] := by
  unfold entries Entry.tellRound
  cases closing.aftermath <;>
    simp [List.filterMap_cons, List.filterMap_map, Function.comp_def, Entry.opening?]

theorem entries_heard :
    (closing.entries number room round time).filter Entry.isHeard =
      Entry.tellRound number room round closing.resolution.damage closing.resolution.events ++
        match closing.aftermath with
        | .ended standing | .lapsed _ standing => [.told (.ended number room standing)]
        | .next events _ => [.told (.roundStarted number room closing.encounter.round events)] := by
  unfold entries Entry.tellRound
  cases closing.aftermath <;>
    simp [List.filter_cons, List.filter_map, Function.comp_def, Entry.isHeard]

end Closing

namespace Tale

variable {admits : Setup → Prop} {tactics : Tactics} {points : Count} {number : Nat}
  {room : String} {stage : Stage} {encounter : Encounter} {entries : List Entry}

/-- The open round counts the openings, as far as a count goes. -/
theorem round_toNat (tale : Tale admits tactics points number room stage encounter entries) :
    ∀ round, stage.round? = some round →
      round.toNat = min (entries.filterMap Entry.opening?).length 4294967295 := by
  induction tale with
  | begun time admitted named played =>
    rintro _ ⟨rfl⟩
    have one := Count.toNat_one
    simp [List.filterMap_cons, List.filterMap_map, Function.comp_def, Entry.opening?, one]
  | accepted tale accepts ih =>
    intro round current
    simpa [List.filterMap_cons, Entry.opening?] using ih round current
  | @closed encounter closing time commits entries tale keeps played now ih =>
    intro round current
    -- The closed round was counted by the opening before; a next one adds its own.
    have before := ih encounter.round rfl
    have aftermath := (closing.closes_of_played played commits keeps).aftermath
    rw [List.filterMap_append, closing.entries_openings, List.length_append]
    unfold Closing.stage at current
    cases kind : closing.aftermath with
    | ended standing =>
      rw [kind] at current
      cases current
    | lapsed events standing =>
      rw [kind] at current
      cases current
    | next events commits =>
      rw [kind] at current aftermath
      cases current
      rw [aftermath.1, Count.toNat_add, before]
      have one := Count.toNat_one
      simp only [one, List.length_singleton]
      omega
  | aborted tale ih =>
    rintro round ⟨⟩

/-- What is heard of a tale whose rounds can be counted. -/
theorem hears (tale : Tale admits tactics points number room stage encounter entries)
    (few : (entries.filterMap Entry.opening?).length < 4294967295) :
    Hears number room stage.round? (entries.filter Entry.isHeard) := by
  induction tale with
  | @begun setup muster events time admitted named played =>
    have started : Hears number room (some 1) [.told (.roundStarted number room 1 events)] :=
      .started rfl events
    simpa [List.filter_cons, List.filter_map, Function.comp_def, Entry.isHeard] using started
  | accepted tale accepts ih =>
    have heard := ih (by simpa [List.filterMap_cons, Entry.opening?] using few)
    simpa [List.filter_cons, Entry.isHeard] using heard
  | @closed encounter closing time commits entries tale keeps played now ih =>
    rw [List.filterMap_append, List.length_append] at few
    have heard := ih (by omega)
    have counted := tale.round_toNat encounter.round rfl
    have aftermath := (closing.closes_of_played played commits keeps).aftermath
    rw [List.filter_append, closing.entries_heard]
    rw [closing.entries_openings] at few
    unfold Closing.stage
    cases kind : closing.aftermath with
    | ended standing =>
      rw [kind] at aftermath
      exact heard.ended _ _ aftermath
    | lapsed events standing =>
      rw [kind] at aftermath
      exact heard.ended _ _ aftermath.1
    | next events commits =>
      rw [kind] at aftermath few
      -- The count is not exhausted yet, so the next round follows this one without a gap.
      refine heard.next _ _ ?_ events
      rw [aftermath.1, Count.toNat_add, counted]
      have one := Count.toNat_one
      simp only [one, List.length_singleton] at few ⊢
      omega
  | aborted tale ih =>
    have heard := ih (by simpa [List.filterMap_cons, Entry.opening?] using few)
    simpa [List.filter_cons, Entry.isHeard] using heard.aborted

end Tale

/-! ### Runs -/

namespace Warden

variable {σ : Type}

/-- What is heard of an encounter, and that it was given up, in order. -/
def heardOf (warden : Warden σ) (number : Nat) : List Entry :=
  (warden.historyOf number).filter Entry.isHeard

/-- The rounds that were opened in an encounter, with the times. -/
def openings (warden : Warden σ) (number : Nat) : List (Count × Nat) :=
  (warden.historyOf number).filterMap Entry.opening?

/-- The open round of an encounter, if it is active in its room. -/
def openRound? (warden : Warden σ) (number : Nat) (encounter : Encounter) : Option Count :=
  if warden.rooms.get? encounter.room = some number then some encounter.round else none

theorem Stands.openRound? {warden : Warden σ} {number : Nat} {encounter : Encounter}
    {stage : Stage} (stands : warden.Stands number encounter stage) :
    warden.openRound? number encounter = stage.round? := by
  cases stage with
  | «open» round time commits =>
    obtain ⟨registered, rfl, _⟩ := stands
    exact if_pos registered
  | closed => exact if_neg stands

/--
In every run the notices are what is heard of the encounters, and what is heard
of each follows the grammar up to its open round; nothing is heard of others.
-/
theorem run_heard [RandomSource σ] (settings : RoundSettings) (tactics : Tactics) (source : σ)
    (orders : List Order)
    (few : ∀ number,
      (((new settings tactics source).run orders).2.openings number).length < 2 ^ 32 - 1) :
    let result := (new settings tactics source).run orders
    result.1 = result.2.history.filterMap Entry.notice? ∧
    (∀ number encounter, result.2.encounters[number]? = some encounter →
      Hears number encounter.room (result.2.openRound? number encounter)
        (result.2.heardOf number)) ∧
    (∀ number, result.2.encounters.length ≤ number → result.2.heardOf number = []) ∧
    ∀ number, ((result.2.heardOf number).filterMap Entry.resolvedRound?).Nodup := by
  have leads : Leads (fun _ => True) _ ((new settings tactics source).run orders) :=
    run_leads _ fun _ _ => trivial
  have sound := changes_sound leads.changes (new_sound settings tactics source)
  have heard := leads.heard
  generalize (new settings tactics source).run orders = result at *
  obtain ⟨notices, warden⟩ := result
  have hears : ∀ number encounter, warden.encounters[number]? = some encounter →
      Hears number encounter.room (warden.openRound? number encounter)
        (warden.heardOf number) := by
    intro number encounter present
    obtain ⟨stage, tale, stands⟩ := sound.tales number encounter present
    rw [stands.openRound?]
    exact tale.hears (few number)
  have silent : ∀ number, warden.encounters.length ≤ number → warden.heardOf number = [] := by
    intro number beyond
    rw [heardOf, sound.unborn number beyond, List.filter_nil]
  refine ⟨heard.symm, hears, silent, fun number => ?_⟩
  by_cases inside : number < warden.encounters.length
  · exact (hears number _ (List.getElem?_eq_getElem inside)).nodup_resolved
  · rw [silent number (by omega)]
    exact List.nodup_nil

theorem length_openings_le (warden : Warden σ) (number : Nat) :
    (warden.openings number).length ≤ warden.journal.length := by
  calc (warden.openings number).length
      ≤ (warden.historyOf number).length := List.length_filterMap_le ..
    _ ≤ warden.history.length := List.length_filter_le ..
    _ = warden.journal.length := List.length_reverse ..

/-- A fight that is closed by a submission, by its deadline, and at last given up. -/
theorem run_heard_sample :
    let warden := ((new {} .npcsOnly (⟨9⟩ : Fixed)).run sampleOrders).2
    (∀ number, (warden.openings number).length < 2 ^ 32 - 1) ∧
    ∀ number encounter, warden.encounters[number]? = some encounter →
      Hears number encounter.room (warden.openRound? number encounter) (warden.heardOf number) := by
  have few (number : Nat) :
      (((new {} .npcsOnly (⟨9⟩ : Fixed)).run sampleOrders).2.openings number).length < 2 ^ 32 - 1 :=
    Nat.lt_of_le_of_lt (length_openings_le ..) (by decide +kernel)
  exact ⟨few, (run_heard {} .npcsOnly (⟨9⟩ : Fixed) sampleOrders few).2.1⟩

end Warden

end Fray
