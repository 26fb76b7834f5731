import Fray.Proofs.Initiative
import Fray.Proofs.Random.Contracts
import Fray.Round

/-!
# Checks

Initiative, attacks, saves and recovery are decided by the same die of twenty sides. With a source
that keeps its contract every such check shows a face from one to twenty, whatever else is drawn
before it and after it.

## Main results

`resolve_fair`: so does the die of every attack that a round tells. `AlwaysSuits.dependable` puts
together what a source is relied on for, and `sources_dependable` says that there is no other
source.
-/

namespace Fray

open Draws

/-- A face of the die of all checks. -/
def Score.IsCheck (roll : Score) : Prop := 1 ≤ roll.toInt ∧ roll.toInt ≤ 20

theorem Suits.isCheck {drawn : Count} (suits : Suits checkDie drawn) : (faceOf drawn).IsCheck := by
  obtain ⟨least, most⟩ := suits.face (by decide)
  exact ⟨least, Int.le_trans most (by decide)⟩

theorem check_fair : Fair Score.IsCheck (die checkDie) := fun _ suits => suits.isCheck

/-! ### Initiative and recovery -/

theorem rollInitiative_fair (combatants : List Combatant) :
    Fair (List.Forall₂ (fun combatant ready => ∃ face : Score, face.IsCheck ∧
        ready = combatant.withRoll face) combatants)
      (rollInitiative combatants) := by
  induction combatants with
  | nil => exact .nil
  | cons combatant rest ih =>
    simp only [rollInitiative, Combatant.rollInitiative, bind_assoc, pure_eq, bind_done]
    refine check_fair.bind fun face check => ?_
    exact ih.bind fun others rolled => .cons ⟨face, check, rfl⟩ rolled

theorem recoveryCheck_fair (combatant : Combatant) (set : Afflictions) (codex : Codex) :
    Fair (fun opening => set.has Condition.dying.id = true →
        ∃ roll : Score, roll.IsCheck ∧ opening = combatant.recover set codex roll)
      (combatant.recoveryCheck set codex) := by
  unfold Combatant.recoveryCheck
  split
  · exact check_fair.bind fun roll check _ => ⟨roll, check, rfl⟩
  next well => exact fun dying => absurd dying well

/-! ### Saves -/

theorem savesAgainst_fair (explosive : Explosive) (damage : Score) (targets : List Combatant) :
    Fair (List.Forall₂ (fun target blast => ∃ roll : Score, roll.IsCheck ∧
        blast.target = target.id ∧ blast.saveTotal = roll + target.dexterity) targets)
      (savesAgainst explosive damage targets) := by
  induction targets with
  | nil => exact .nil
  | cons target rest ih =>
    simp only [savesAgainst, saveAgainst, bind_assoc, pure_eq, bind_done]
    refine check_fair.bind fun roll check => ?_
    exact ih.bind fun others saved => .cons ⟨roll, check, rfl, rfl⟩ saved

/-! ### Attacks -/

theorem meleeRoll_fair (attacker target : Combatant) :
    Fair (fun attack => attack.roll.IsCheck) (meleeRoll attacker target) := by
  unfold meleeRoll
  refine check_fair.bind fun roll check => ?_
  rw [fair_bind]
  -- Damage is drawn after the check and leaves its face alone.
  exact (always_of_forall (fun _ => check) _).fair

theorem shotRoll_fair (dice : Dice.Evaluator) (attacker target : Combatant) (weapon : Weapon)
    (range : Score) :
    Fair (fun attack => attack.roll.IsCheck) (shotRoll dice attacker target weapon range) := by
  unfold shotRoll
  refine check_fair.bind fun roll check => ?_
  simp only
  rw [fair_bind]
  exact (always_of_forall (fun _ => check) _).fair

/-- Every attack that is told shows a face of its die. -/
def ChecksTold (events : List RoundEvent) : Prop :=
  ∀ event ∈ events, ∀ attack ∈ event.attack, attack.roll.IsCheck

theorem checksTold_nil : ChecksTold [] := List.forall_mem_nil _

theorem checksTold_append {early late : List RoundEvent} :
    ChecksTold (early ++ late) ↔ ChecksTold early ∧ ChecksTold late :=
  List.forall_mem_append

theorem checksTold_plain {events : List RoundEvent}
    (plain : ∀ event ∈ events, event.attack = none) : ChecksTold events := by
  intro event member attack recorded
  rw [plain event member] at recorded
  cases recorded

theorem checksTold_attack {event : RoundEvent} {attack : Attack}
    (recorded : event.attack = some attack) (check : attack.roll.IsCheck) :
    ChecksTold [event] := by
  intro other member told same
  rw [List.mem_singleton.mp member, recorded] at same
  cases same
  exact check

namespace Scene

theorem shotOrBlow_fair (dice : Dice.Evaluator) (attacker defender : Combatant)
    (weapon : Option Weapon) :
    Fair (fun attack => attack.roll.IsCheck) (shotOrBlow dice attacker defender weapon) := by
  cases weapon with
  | some weapon => exact shotRoll_fair dice attacker defender weapon 0
  | none => exact meleeRoll_fair attacker defender

/-- Hooks can change the total of an attack, but not its die. -/
theorem swing_fair (scene : Scene) (actor target : Nat) (penalty : Score) :
    Fair (fun result => ∀ attack ∈ result.1, attack.roll.IsCheck)
      (scene.swing actor target penalty) := by
  unfold swing
  split
  · refine (meleeRoll_fair _ _).bind fun rolled check attack same => ?_
    cases same
    exact check
  · exact fun _ never => by cases never

/-- What a swing tells of its attack. -/
private theorem checksTold_swing {result : Option Attack} {tell : Attack → RoundEvent}
    (tells : ∀ attack, (tell attack).attack = some attack)
    (checks : ∀ attack ∈ result, attack.roll.IsCheck) : ChecksTold (result.toList.map tell) := by
  cases result with
  | none => exact checksTold_nil
  | some attack => exact checksTold_attack (tells attack) (checks attack rfl)

theorem shoot_fair (scene : Scene) (actor target : Nat) (weapon : Option Weapon) :
    Fair (fun result => ∀ hit ∈ result, hit.attack.roll.IsCheck)
      (scene.shoot actor target weapon) := by
  unfold shoot
  split
  · refine (shotOrBlow_fair ..).bind fun rolled check hit same => ?_
    cases same
    exact check
  · exact fun _ never => by cases never

theorem shootOn_fair (actor : Actor) (target : Nat) (name : String) (weapon : Option Weapon)
    (shots : Nat) (scene : Scene) :
    Fair (fun result => ChecksTold result.1) (shootOn actor target name weapon shots scene) := by
  induction shots generalizing scene with
  | zero => exact checksTold_nil
  | succ shots ih =>
    simp only [shootOn]
    refine (shoot_fair scene actor.index target weapon).bind fun result checks => ?_
    cases result with
    | none => exact checksTold_nil
    | some hit =>
      have first : ChecksTold [shotEvent actor .burst name hit] :=
        checksTold_attack rfl (checks hit rfl)
      simp only
      split
      · exact first
      · exact (ih hit.scene).bind fun rest later => checksTold_append.mpr ⟨first, later⟩

theorem shootEach_fair (actor : Actor) (weapon : Option Weapon) (targets : List Nat)
    (scene : Scene) :
    Fair (fun result => ChecksTold result.1) (shootEach actor weapon targets scene) := by
  induction targets generalizing scene with
  | nil => exact checksTold_nil
  | cons target rest ih =>
    simp only [shootEach]
    refine (shoot_fair scene actor.index target weapon).bind fun result checks => ?_
    cases result with
    | none => exact ih scene
    | some hit =>
      have first : ChecksTold [shotEvent actor .automatic (scene.encounter.nameAt target) hit] :=
        checksTold_attack rfl (checks hit rfl)
      exact (ih hit.scene).bind fun rest later => checksTold_append.mpr ⟨first, later⟩

/-! ### Actions -/

private theorem checksTold_event (actor : Actor) (kind : ActionKind) (narrative : String) :
    ChecksTold [actor.event kind narrative] :=
  checksTold_plain fun _ member => by rw [List.mem_singleton.mp member]; rfl

theorem blastEach_plain (actor : Actor) (explosive : Explosive) (targets : List (Nat × Blast))
    (scene : Scene) :
    ∀ event ∈ (blastEach actor explosive targets scene).1, event.attack = none := by
  induction targets generalizing scene with
  | nil => exact List.forall_mem_nil _
  | cons target rest ih => exact List.forall_mem_cons.mpr ⟨rfl, ih _⟩

theorem performAttack_fair (scene : Scene) (actor : Actor) (action : Action) :
    Fair (fun result => ChecksTold result.1) (scene.performAttack actor action) := by
  unfold performAttack
  split
  · exact checksTold_event _ _ _
  · exact (swing_fair ..).bind fun result checks => checksTold_swing (fun _ => rfl) checks

theorem performStrike_fair (scene : Scene) (actor : Actor) (action : Action) :
    Fair (fun result => ChecksTold result.1) (scene.performStrike actor action) := by
  unfold performStrike
  split
  · exact checksTold_append.mpr ⟨checksTold_event _ _ _, checksTold_event _ _ _⟩
  · refine (swing_fair ..).bind fun result checks => ?_
    simp only
    split
    · exact checksTold_append.mpr ⟨checksTold_swing (fun _ => rfl) checks, checksTold_event _ _ _⟩
    · exact (swing_fair ..).bind fun again more => checksTold_append.mpr
        ⟨checksTold_swing (fun _ => rfl) checks, checksTold_swing (fun _ => rfl) more⟩

theorem performBurst_fair (scene : Scene) (actor : Actor) (action : Action) :
    Fair (fun result => ChecksTold result.1) (scene.performBurst actor action) := by
  unfold performBurst
  split
  · exact checksTold_event _ _ _
  · exact shootOn_fair ..

theorem performAutomatic_fair (scene : Scene) (actor : Actor) (action : Action) :
    Fair (fun result => ChecksTold result.1) (scene.performAutomatic actor action) := by
  simp only [performAutomatic]
  split
  · exact checksTold_event _ _ _
  · exact shootEach_fair ..

theorem performThrow_fair (scene : Scene) (actor : Actor) (action : Action) :
    Fair (fun result => ChecksTold result.1) (scene.performThrow actor action) := by
  unfold performThrow
  split
  · exact checksTold_event _ _ _
  · split
    · exact checksTold_event _ _ _
    · simp only
      rw [fair_bind]
      -- A throw tells damage but no attack, so what its dice show is not told.
      refine (always_of_forall (fun blasts => ?_) _).fair
      split
      · exact checksTold_event _ _ _
      · exact checksTold_plain (blastEach_plain _ _ _ _)

theorem perform_fair (scene : Scene) (actor : Actor) (action : Action) :
    Fair (fun result => ChecksTold result.1) (scene.perform actor action) := by
  unfold perform
  split
  · exact checksTold_nil
  · exact checksTold_event _ _ _
  · exact performAttack_fair ..
  · exact performStrike_fair ..
  · exact checksTold_event _ _ _
  · exact performBurst_fair ..
  · exact performAutomatic_fair ..
  · exact performThrow_fair ..

/-! ### Turns -/

theorem performAll_fair (actor : Actor) (actions : List Action) (scene : Scene) :
    Fair (fun result => ∀ block ∈ result.1, ChecksTold block.events)
      (performAll actor actions scene) := by
  induction actions generalizing scene with
  | nil => exact List.forall_mem_nil _
  | cons action rest ih =>
    simp only [performAll]
    refine (perform_fair scene actor action).bind fun first performed => ?_
    exact (ih first.2).bind fun _ later => List.forall_mem_cons.mpr ⟨performed, later⟩

theorem takeTurn_fair (index : Nat) (scene : Scene) :
    Fair (fun result => ∀ turn ∈ result.1, ∀ block ∈ turn.blocks, ChecksTold block.events)
      (takeTurn index scene) := by
  unfold takeTurn
  split
  · exact List.forall_mem_nil _
  · split
    · exact List.forall_mem_singleton.mpr (List.forall_mem_nil _)
    · split
      · exact List.forall_mem_singleton.mpr (List.forall_mem_nil _)
      · exact (performAll_fair ..).bind fun _ performed => List.forall_mem_singleton.mpr performed

theorem takeTurns_fair (indices : List Nat) (scene : Scene) :
    Fair (fun result => ∀ turn ∈ result.1, ∀ block ∈ turn.blocks, ChecksTold block.events)
      (takeTurns indices scene) := by
  induction indices generalizing scene with
  | nil => exact List.forall_mem_nil _
  | cons index rest ih =>
    simp only [takeTurns]
    refine (takeTurn_fair index scene).bind fun first taken => ?_
    exact (ih first.2).bind fun others later => List.forall_mem_append.mpr ⟨taken, later⟩

end Scene

/-- The die of every attack that a round tells shows a face from one to twenty. -/
theorem Encounter.resolve_fair (encounter : Encounter) :
    Fair (fun resolution => ChecksTold resolution.events) encounter.resolve := by
  unfold resolve
  refine (Scene.takeTurns_fair ..).bind fun result taken event member => ?_
  obtain ⟨block, inside, told⟩ := List.mem_flatMap.mp member
  obtain ⟨turn, came, acted⟩ := List.mem_flatMap.mp inside
  exact taken turn came block acted event told

/-! ### Sources -/

/-- What the rules of the game rely on a source for. -/
structure Dependable (σ : Type) [RandomSource σ] : Prop where
  /-- Draws in any number, with any bounds. -/
  row : ∀ (bounds : List Count) (source : σ),
    List.Forall₂ Suits bounds (answers bounds source)
  /-- A die, after any draws. -/
  die : ∀ (before : List Count) (sides : Count) (source : σ), 0 < sides →
    let face := (rollDie sides (afterDraws before source)).1
    1 ≤ face.toInt ∧ face.toInt ≤ min (sides.toNat : Int) 2147483647
  /-- All draws of a computation. -/
  drawn : ∀ {α : Type} (computation : Draws α) (source : σ),
    ∀ entry ∈ computation.drawn source, Suits entry.1 entry.2
  /-- All checks of a computation. -/
  check : ∀ {α : Type} (computation : Draws α) (source : σ) (drawn : Count),
    (checkDie, drawn) ∈ computation.drawn source → (faceOf drawn).IsCheck
  initiative : ∀ (combatants : List Combatant) (source : σ),
    List.Forall₂ (fun combatant ready => ∃ face : Score, face.IsCheck ∧
      ready = combatant.withRoll face) combatants ((rollInitiative combatants).run source).1
  recovery : ∀ (combatant : Combatant) (set : Afflictions) (codex : Codex) (source : σ),
    set.has Condition.dying.id = true → ∃ roll : Score, roll.IsCheck ∧
      ((combatant.recoveryCheck set codex).run source).1 = combatant.recover set codex roll
  save : ∀ (explosive : Explosive) (damage : Score) (targets : List Combatant) (source : σ),
    List.Forall₂ (fun target blast => ∃ roll : Score, roll.IsCheck ∧
      blast.target = target.id ∧ blast.saveTotal = roll + target.dexterity) targets
      ((savesAgainst explosive damage targets).run source).1
  attack : ∀ (encounter : Encounter) (source : σ),
    ∀ event ∈ (encounter.resolve.run source).1.events, ∀ attack ∈ event.attack,
      attack.roll.IsCheck

theorem AlwaysSuits.dependable {σ : Type} [RandomSource σ] (suits : AlwaysSuits σ) :
    Dependable σ where
  row := suits.row
  die := fun before _ source some => suits.die before some source
  drawn := suits_of_mem_drawn suits
  check := fun computation source _ member =>
    (suits_of_mem_drawn suits computation source _ member).isCheck
  initiative := fun combatants => (rollInitiative_fair combatants).run suits
  recovery := fun combatant set codex => (recoveryCheck_fair combatant set codex).run suits
  save := fun explosive damage targets => (savesAgainst_fair explosive damage targets).run suits
  attack := fun encounter => encounter.resolve_fair.run suits

/--
Every source keeps to its bounds over any row of draws, be it a fixed value, a list of values or a
generator of words, whatever these are. So every check of the game shows a face from one to
twenty. A list tells its values in turn, each as far as the bound of its own draw allows, whatever
the other bounds are.
-/
theorem sources_dependable :
    Dependable Fixed ∧ Dependable Cycle ∧ (∀ (ρ : Type) [Generator ρ], Dependable (Sampler ρ)) ∧
    ∀ (values bounds : List Count) (place : Nat),
      (answers bounds (Cycle.mk values 0))[place]?
        = bounds[place]?.map fun bound =>
            min (values.getD (place % values.length) 0) (bound - 1) :=
  ⟨Fixed.alwaysSuits.dependable, Cycle.alwaysSuits.dependable,
    fun _ _ => Sampler.alwaysSuits.dependable, Cycle.getElem?_answers⟩

end Fray
