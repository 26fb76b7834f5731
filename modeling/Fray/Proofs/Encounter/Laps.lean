import Fray.Proofs.Encounter.Cursor

/-!
# Laps around the living

A lap is a row of requests that asks whose turn it is and moves on, as often as there are
living combatants. Rounds may be opened and resolved in the meantime: if nobody dies, the
lap meets everybody alive once, in the order of turns.

## Main results

`playVisits_onTour`: what the visits are after any number of looks.
`Reached.takes_turns`: where the turn is in every reachable encounter, and how it goes around.
-/

namespace Fray

open Draws

namespace Encounter

variable {encounter before after : Encounter}

/-! ### The cursor of a reachable encounter -/

theorem answer_cursor (encounter : Encounter) {request : Request}
    (other : request.isAboutTurns = false) :
    Always (fun after => after.cursor = encounter.cursor) (encounter.answer request) := by
  refine answer_frame request
    (fun points _ => (openRound_opens encounter points).mono fun _ opens => opens.cursor)
    (fun _ => encounter.resolve_framed.mono fun _ framed => framed.cursor)
    (fun _ _ _ _ => rfl) (fun _ _ => rfl) (fun about => ?_)
  rw [other] at about
  cases about

theorem SameFight.length (same : SameFight before after) :
    after.combatants.length = before.combatants.length := by
  simpa using congrArg List.length same.persons

theorem answer_stands (stands : encounter.CursorStands) (request : Request) :
    Always CursorStands (encounter.answer request) := by
  cases about : request.isAboutTurns with
  | false =>
    refine ((answer_cursor encounter about).and (answer_same encounter request)).mono
      fun after both => ?_
    rw [CursorStands, both.1, both.2.length]
    exact stands
  | true =>
    cases request with
    | currentTurn => exact (seekTurn_keeps _ stands).1
    | advanceTurn => exact stands.advance
    | openRound | commit | resolve | afflict | relieve => cases about

theorem play_stands (stands : encounter.CursorStands) (requests : List Request) :
    Always CursorStands (play requests encounter) :=
  play_induction (fun request _ _ stands => answer_stands stands request) stands

theorem Reached.stands {setup : Setup} {reports : List (String × Count)}
    (reached : Reached setup reports encounter) : encounter.CursorStands := by
  refine Reached.induction CursorStands reached ?_
    (fun current request stands => answer_stands stands request) fun _ stands => stands
  show 0 < _ ∨ _ ∧ 0 = 0
  omega

/-- The combatants stay in the order of their initiative. -/
theorem Reached.falling {setup : Setup} {reports : List (String × Count)}
    (reached : Reached setup reports encounter) :
    encounter.combatants.Pairwise fun early late => late.initiative ≤ early.initiative := by
  have same := congrArg (List.map Combatant.initiative) reached.same.1
  simp only [List.map_map, Function.comp_def, Combatant.person, Combatant.profile] at same
  rw [← List.pairwise_map (R := fun early late => late ≤ early), same, List.pairwise_map]
  exact pairwise_sortByInitiative setup.combatants

/-! ### Deaths -/

/-- Whoever is dead in the second encounter is dead in the first already. -/
def NobodyDies (before after : Encounter) : Prop :=
  ∀ place, after.isDeadAt place = true → before.isDeadAt place = true

theorem NobodyDies.of_same
    (same : after.combatants.map Combatant.isDead = before.combatants.map Combatant.isDead) :
    NobodyDies before after := by
  intro place dead
  have there := congrArg (fun deaths => (deaths[place]?).all id) same
  simp only [List.getElem?_map, Option.all_map] at there
  exact there.symm.trans dead

theorem KeepsDead.raisesNobody (keeps : KeepsDead before after) (same : SameFight before after) :
    NobodyDies after before := by
  intro place dead
  unfold Encounter.isDeadAt at dead ⊢
  cases found : before.combatants[place]? with
  | none =>
    have beyond : after.combatants[place]? = none := by
      rw [List.getElem?_eq_none_iff, same.length]
      exact List.getElem?_eq_none_iff.mp found
    rw [beyond]
    rfl
  | some combatant =>
    rw [found] at dead
    obtain ⟨gone, there, still, _⟩ := keeps place combatant found dead
    rw [there]
    exact still

theorem answer_raises_nobody (encounter : Encounter) (request : Request) :
    Always (NobodyDies · encounter) (encounter.answer request) :=
  ((answer_keepsDead encounter request).and (answer_same encounter request)).mono
    fun _ both => both.1.raisesNobody both.2

theorem play_raises_nobody (requests : List Request) (encounter : Encounter) :
    Always (NobodyDies · encounter) (play requests encounter) :=
  ((play_keepsDead requests encounter).and (play_same requests encounter)).mono
    fun _ both => both.1.raisesNobody both.2

theorem currentTurn_same (encounter : Encounter) : SameFight encounter encounter.currentTurn.2 :=
  answer_same encounter .currentTurn

theorem isDeadAt_currentTurn (encounter : Encounter) (place : Nat) :
    encounter.currentTurn.2.isDeadAt place = encounter.isDeadAt place := by
  unfold isDeadAt currentTurn
  rw [seekTurn_same]

theorem turnOrder_congr (size : after.combatants.length = before.combatants.length)
    (cursor : after.cursor = before.cursor)
    (dead : ∀ place, after.isDeadAt place = before.isDeadAt place) :
    after.turnOrder = before.turnOrder := by
  unfold turnOrder placeAfter
  simp only [size, cursor, dead]

/-! ### Visits -/

/-- A look at whose turn it is: where the cursor comes to stand, and who is found. -/
structure Visit where
  place : Nat
  combatant : Option Combatant

def visit (encounter : Encounter) : Visit :=
  ⟨encounter.currentTurn.2.cursor, encounter.currentTurn.1⟩

def Request.visits (encounter : Encounter) : Request → List Visit
  | currentTurn => [encounter.visit]
  | advanceTurn | openRound _ | commit _ _ | resolve | afflict _ _ _ _ | relieve _ _ => []

theorem visits_of_other {request : Request} (other : request.isAboutTurns = false) :
    request.visits encounter = [] := by
  cases request with
  | openRound | commit | resolve | afflict | relieve => rfl
  | currentTurn | advanceTurn => cases other

/-- Answer requests one after another, and note the visits. -/
def playVisits : List Request → Encounter → Draws (List Visit × Encounter)
  | [], encounter => return ([], encounter)
  | request :: rest, encounter => do
    let answered ← encounter.answer request
    let (visits, last) ← playVisits rest answered
    return (request.visits encounter ++ visits, last)

/-- Noting the visits changes nothing. -/
theorem always_playVisits {property : Encounter → Prop} {requests : List Request} :
    Always (fun played => property played.2) (playVisits requests encounter) ↔
      Always property (play requests encounter) := by
  induction requests generalizing encounter with
  | nil => exact Iff.rfl
  | cons request rest ih =>
    simp only [playVisits, play]
    rw [always_bind, always_bind]
    simp only [always_bind, pure_eq, always_done, ih]

/-- A visit finds the person that an encounter has at the place, and alive. -/
def Visit.Meets (visit : Visit) (encounter : Encounter) : Prop :=
  ∃ met standing, visit.combatant = some met ∧ met.isDead = false ∧
    encounter.combatants[visit.place]? = some standing ∧ met.person = standing.person

theorem Visit.Meets.of_same {visit : Visit} (meets : visit.Meets after)
    (same : SameFight before after) : visit.Meets before := by
  obtain ⟨met, standing, found, alive, there, person⟩ := meets
  have persons := congrArg (·[visit.place]?) same.persons
  simp only [List.getElem?_map, there, Option.map_some] at persons
  obtain ⟨stood, here, same⟩ := Option.map_eq_some_iff.mp persons.symm
  exact ⟨met, stood, found, alive, here, person.trans same.symm⟩

/-- A look finds the first of the order of turns, which stays as it is. -/
theorem CursorStands.visit (stands : encounter.CursorStands) (anybody : encounter.turnOrder ≠ []) :
    encounter.visit.Meets encounter ∧ ∃ later,
      encounter.turnOrder = encounter.visit.place :: later ∧
      encounter.currentTurn.2.turnOrder = encounter.visit.place :: later ∧
      encounter.currentTurn.2.isDeadAt encounter.visit.place = false := by
  have keeps : encounter.currentTurn.2.CursorStands ∧
      encounter.currentTurn.2.turnOrder = encounter.turnOrder := seekTurn_keeps _ stands
  have finds := stands.finds
  unfold Encounter.visit
  generalize encounter.currentTurn = looked at keeps finds ⊢
  obtain ⟨found, after⟩ := looked
  cases finds with
  | nobody dead =>
    obtain ⟨place, member⟩ := List.exists_mem_of_ne_nil _ anybody
    obtain ⟨combatant, there, alive⟩ := isDeadAt_eq_false.mp (mem_turnOrder.mp member)
    rw [dead combatant (List.mem_of_getElem? there)] at alive
    cases alive
  | @turn combatant steps within passed found alive =>
    have here : encounter.isDeadAt (encounter.placeAfter steps) = false :=
      isDeadAt_eq_false.mpr ⟨combatant, found, alive⟩
    obtain ⟨later, order⟩ := turnOrder_of_alive
      (show isDeadAt { encounter with cursor := encounter.placeAfter steps } _ = false from here)
    exact ⟨⟨combatant, combatant, rfl, alive, found, rfl⟩, later, keeps.2 ▸ order, order, here⟩

/-! ### Laps -/

/-- So many looks, each followed by moving on. -/
def lap (looks : Nat) : List Request :=
  (List.replicate looks [Request.currentTurn, .advanceTurn]).flatten

/-- What is left to ask about turns: first to move on, if somebody has the turn. -/
def due (asked : Bool) (looks : Nat) : List Request :=
  (if asked then [.advanceTurn] else []) ++ lap looks

theorem due_currentTurn {asked : Bool} {looks : Nat} {rest : List Request}
    (about : .currentTurn :: rest = due asked looks) :
    asked = false ∧ ∃ more, looks = more + 1 ∧ rest = due true more := by
  cases asked with
  | true => cases about
  | false =>
    cases looks with
    | zero => cases about
    | succ more => exact ⟨rfl, more, rfl, (List.cons.inj about).2⟩

theorem due_advanceTurn {asked : Bool} {looks : Nat} {rest : List Request}
    (about : .advanceTurn :: rest = due asked looks) :
    asked = true ∧ rest = due false looks := by
  cases asked with
  | true => exact ⟨rfl, (List.cons.inj about).2⟩
  | false => cases looks <;> cases about

/-- The order of the turns to come. -/
def ahead (encounter : Encounter) (asked : Bool) : List Nat :=
  if asked then encounter.turnOrder.rotate 1 else encounter.turnOrder

/-- So many visits have gone along an order, and the next one goes on with it. -/
structure Tours (encounter : Encounter) (order : List Nat) (looks : Nat) (visits : List Visit)
    (last : Encounter) : Prop where
  places : visits.map Visit.place = order.take looks
  meets : ∀ visit ∈ visits, visit.Meets encounter
  left : last.turnOrder = order.rotate looks

variable {order : List Nat} {looks : Nat} {visits : List Visit} {last : Encounter}

theorem Tours.of_same (tours : after.Tours order looks visits last)
    (same : SameFight before after) : before.Tours order looks visits last where
  places := tours.places
  meets visit member := (tours.meets visit member).of_same same
  left := tours.left

/-- A look comes before a tour that begins with moving on. -/
theorem Tours.look (stands : encounter.CursorStands) (few : looks < encounter.turnOrder.length)
    (tours : encounter.currentTurn.2.Tours (encounter.currentTurn.2.ahead true) looks visits last) :
    encounter.Tours encounter.turnOrder (looks + 1) (encounter.visit :: visits) last := by
  obtain ⟨meets, later, order, same, _⟩ := stands.visit (List.ne_nil_of_length_pos (by omega))
  have moved : encounter.currentTurn.2.ahead true = later ++ [encounter.visit.place] := by
    simp [ahead, same]
  have long : looks ≤ later.length := by
    rw [order, List.length_cons] at few
    omega
  -- Whoever has been found goes to the end, which the other looks do not reach.
  refine ⟨?_, fun visit member => ?_, ?_⟩
  · rw [List.map_cons, tours.places, moved, order, List.take_succ_cons,
      List.take_append_of_le_length long]
  · rcases List.mem_cons.mp member with rfl | more
    · exact meets
    · exact (tours.meets visit more).of_same (currentTurn_same encounter)
  · rw [tours.left, moved, order, List.rotate_cons_succ]

/-- If nobody dies and there are as many turns left as looks, the visits go along what is ahead.
Whoever has the turn is alive. -/
def OnTour (encounter : Encounter) (asked : Bool) (looks : Nat)
    (played : List Visit × Encounter) : Prop :=
  NobodyDies encounter played.2 → looks ≤ encounter.turnOrder.length →
    (asked = true → encounter.isDeadAt encounter.cursor = false) →
    encounter.Tours (encounter.ahead asked) looks played.1 played.2

theorem OnTour.look (stands : encounter.CursorStands)
    (touring : encounter.currentTurn.2.OnTour true looks (visits, last)) :
    encounter.OnTour false (looks + 1) (encounter.visit :: visits, last) := by
  intro spared few _
  obtain ⟨_, _, order, same, alive⟩ := stands.visit (List.ne_nil_of_length_pos (by omega))
  have spares : NobodyDies encounter.currentTurn.2 last := fun place gone =>
    (isDeadAt_currentTurn encounter place).trans (spared place gone)
  have fewer : looks ≤ encounter.currentTurn.2.turnOrder.length := by
    rw [same, ← order]
    omega
  exact (touring spares fewer fun _ => alive).look stands few

theorem OnTour.move (stands : encounter.CursorStands)
    (touring : encounter.advanceTurn.OnTour false looks (visits, last)) :
    encounter.OnTour true looks (visits, last) := by
  intro spared few ready
  have moved : encounter.advanceTurn.turnOrder = encounter.ahead true := by
    rw [stands.turnOrder_advance, ready rfl]
    rfl
  have fewer : looks ≤ encounter.advanceTurn.turnOrder.length := by
    rw [moved, ahead, if_pos rfl, List.length_rotate]
    exact few
  have toured := (touring spared fewer fun asked => absurd asked Bool.false_ne_true).of_same
    (answer_same encounter .advanceTurn)
  exact moved ▸ toured

/-- A request about something else changes nothing of this: nobody has died in the end, so nobody
has died in the meantime. -/
theorem OnTour.wait {asked : Bool} (cursor : after.cursor = before.cursor)
    (same : SameFight before after) (raised : NobodyDies after before)
    (kept : NobodyDies last after) (touring : after.OnTour asked looks (visits, last)) :
    before.OnTour asked looks (visits, last) := by
  intro spared few ready
  have dead (place : Nat) : after.isDeadAt place = before.isDeadAt place :=
    Bool.eq_iff_iff.mpr ⟨fun gone => spared place (kept place gone), raised place⟩
  have order := turnOrder_congr same.length cursor dead
  have spares : NobodyDies after last := fun place gone => raised place (spared place gone)
  have alive : asked = true → after.isDeadAt after.cursor = false := fun asked => by
    rw [dead, cursor]
    exact ready asked
  have toured := (touring spares (order ▸ few) alive).of_same same
  rwa [ahead, order] at toured

theorem playVisits_onTour {requests : List Request} {asked : Bool} {looks : Nat}
    (stands : encounter.CursorStands)
    (about : requests.filter Request.isAboutTurns = due asked looks) :
    Always (encounter.OnTour asked looks) (playVisits requests encounter) := by
  induction requests generalizing encounter asked looks with
  | nil =>
    cases asked with
    | true => cases about
    | false =>
      cases looks with
      | zero => exact fun _ _ _ => ⟨rfl, by simp, (List.rotate_zero _).symm⟩
      | succ looks => cases about
  | cons request rest ih =>
    simp only [playVisits]
    rw [always_bind]
    cases turns : request.isAboutTurns with
    | false =>
      have later : rest.filter Request.isAboutTurns = due asked looks := by
        simpa [turns] using about
      refine (((answer_cursor encounter turns).and (answer_same encounter request)).and
        ((answer_raises_nobody encounter request).and (answer_stands stands request))).mono
          fun answered facts => ?_
      obtain ⟨⟨cursor, same⟩, raised, still⟩ := facts
      rw [always_bind]
      refine ((ih still later).and (always_playVisits.mpr (play_raises_nobody rest answered))).mono
        fun played both => ?_
      simpa [visits_of_other turns] using both.1.wait cursor same raised both.2
    | true =>
      cases request with
      | currentTurn =>
        obtain ⟨rfl, more, rfl, later⟩ := due_currentTurn about
        simp only [answer]
        rw [pure_eq, always_done, always_bind]
        exact (ih (seekTurn_keeps _ stands).1 later).mono fun played touring => touring.look stands
      | advanceTurn =>
        obtain ⟨rfl, later⟩ := due_advanceTurn about
        simp only [answer]
        rw [pure_eq, always_done, always_bind]
        exact (ih stands.advance later).mono fun played touring => touring.move stands
      | openRound | commit | resolve | afflict | relieve => cases turns

/-! ### Going around -/

/-- The visits meet everybody alive once, in the order of turns, and then begin again. -/
structure GoesAround (encounter : Encounter) (visits : List Visit) (last : Encounter) : Prop where
  order : visits.map Visit.place = encounter.turnOrder
  once : (visits.map Visit.place).Nodup
  everyone : ∀ place, place ∈ visits.map Visit.place ↔ encounter.isDeadAt place = false
  meets : ∀ visit ∈ visits, visit.Meets encounter
  again : ∀ first ∈ visits.head?, last.visit.place = first.place ∧
    last.visit.combatant.map Combatant.person = first.combatant.map Combatant.person

/-- At one place one person is met. -/
theorem Visit.Meets.person {one other : Visit} (meets : one.Meets encounter)
    (also : other.Meets encounter) (same : one.place = other.place) :
    one.combatant.map Combatant.person = other.combatant.map Combatant.person := by
  obtain ⟨met, standing, found, _, there, person⟩ := meets
  obtain ⟨met', standing', found', _, there', person'⟩ := also
  rw [same, there', Option.some_inj] at there
  rw [found, found', Option.map_some, Option.map_some, person, person', there]

theorem Tours.goesAround (tours : encounter.Tours encounter.turnOrder looks visits last)
    (all : looks = encounter.turnOrder.length) (stands : last.CursorStands)
    (same : SameFight encounter last) : encounter.GoesAround visits last := by
  subst all
  have places := tours.places
  have left := tours.left
  rw [List.take_length] at places
  rw [List.rotate_length] at left
  refine ⟨places, places ▸ encounter.nodup_turnOrder, fun place => ?_, tours.meets,
    fun first begins => ?_⟩
  · rw [places]
    exact mem_turnOrder
  · obtain ⟨rest, rfl⟩ := List.head?_eq_some_iff.mp begins
    rw [List.map_cons] at places
    obtain ⟨meets, later, order, _⟩ := stands.visit (by simp [left, ← places])
    have back : last.visit.place = first.place := by
      rw [left, ← places] at order
      exact (List.cons.inj order).1.symm
    exact ⟨back, (meets.of_same same).person (tours.meets first List.mem_cons_self) back⟩

/-- In every reachable encounter the cursor is at a combatant, and the combatants stand in the
order of initiative. Looking whose turn it is finds the first living combatant at the cursor or
after it, moves the cursor there and changes nothing else; looking again changes nothing. If
nobody dies during a lap, it meets everybody alive once, in order around the end, and the next
look finds the first one again. -/
theorem Reached.takes_turns {setup : Setup} {reports : List (String × Count)}
    (reached : Reached setup reports encounter) :
    encounter.CursorStands ∧
    encounter.combatants.Pairwise (fun early late => late.initiative ≤ early.initiative) ∧
    (encounter.currentTurn.1 = none ↔
      ∀ combatant ∈ encounter.combatants, combatant.isDead = true) ∧
    encounter.Finds encounter.currentTurn.1 encounter.currentTurn.2 ∧
    encounter.currentTurn.2.currentTurn = encounter.currentTurn ∧
    ∀ requests, requests.filter Request.isAboutTurns = lap encounter.living.length →
      Always (fun played => NobodyDies encounter played.2 →
          encounter.GoesAround played.1 played.2)
        (playVisits requests encounter) := by
  have stands := reached.stands
  refine ⟨stands, reached.falling, stands.finds.none_iff, stands.finds, stands.currentTurn_again,
    fun requests about => ?_⟩
  have tours := playVisits_onTour stands (show _ = due false _ from about)
  have lasting : Always (fun last => last.CursorStands ∧ SameFight encounter last)
      (Encounter.play requests encounter) :=
    (play_stands stands requests).and (play_same requests encounter)
  refine (tours.and (always_playVisits.mpr lasting)).mono fun played both spared => ?_
  obtain ⟨toured, still, same⟩ := both
  have all := encounter.length_turnOrder
  have untouched : false = true → encounter.isDeadAt encounter.cursor = false := fun asked =>
    absurd asked Bool.false_ne_true
  exact (toured spared all.ge untouched).goesAround all.symm still same

/-! ### Around a dead one -/

def sampleChase : Setup :=
  { room := "cellar"
    zone := "house"
    combatants := [
      { id := "ann", name := "Ann", side := .player, maxHp := 6, hp := 6, armorClass := 12,
        initiative := 9 },
      { id := "rat", name := "Rat", side := .npc, maxHp := 3, hp := 3, armorClass := 9,
        initiative := 7 },
      { id := "cat", name := "Cat", side := .npc, maxHp := 9, hp := 9, armorClass := 9,
        initiative := 5 }] }

/-- The rat is dead, and Ann has moved on to its place. -/
def sampleChasing : Encounter :=
  ((play [.openRound 3, .commit "ann" (.attack "Rat"), .resolve, .advanceTurn]
    (begin sampleChase)).run (⟨15⟩ : Fixed)).1

def sampleLap : List Request :=
  [.currentTurn, .openRound 3, .advanceTurn, .currentTurn, .commit "cat" .pass, .advanceTurn]

theorem takes_turns_sample :
    let played := ((playVisits sampleLap sampleChasing).run (⟨15⟩ : Fixed)).1
    (∃ reports, Reached sampleChase reports sampleChasing) ∧
    sampleChasing.cursor = 1 ∧ sampleChasing.isDeadAt 1 = true ∧
    NobodyDies sampleChasing played.2 ∧
    sampleChasing.GoesAround played.1 played.2 ∧ played.1.map Visit.place = [2, 0] := by
  intro played
  have arrived : ∃ reports, Reached sampleChase reports sampleChasing :=
    reached_play sampleChase _ (⟨15⟩ : Fixed)
  obtain ⟨reports, reached⟩ := arrived
  have fallen : played.2.combatants.map Combatant.isDead
      = sampleChasing.combatants.map Combatant.isDead := by decide +kernel
  have spared := NobodyDies.of_same fallen
  have alive : sampleChasing.living.length = 2 := by decide +kernel
  have laps := reached.takes_turns.2.2.2.2.2 sampleLap (by rw [alive]; rfl)
  exact ⟨⟨reports, reached⟩, by decide +kernel, by decide +kernel, spared,
    laps.run (⟨15⟩ : Fixed) spared, by decide +kernel⟩

end Encounter

end Fray
