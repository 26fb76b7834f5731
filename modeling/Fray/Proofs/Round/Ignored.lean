import Fray.Proofs.Encounter.Playing
import Fray.Proofs.Round.Ebb

/-!
# Answers without effect

A hook has a say only through an answer of the right kind: a finite number about a roll or
about damage, a plain refusal about a condition. With any other answers a round goes as it
would have gone without hooks. The two rounds are compared operation by operation, for as
long as no answer has counted.

## Main result

`resolve_ignored`: if no answer of a round counts, then its turns, its reports, its draws and
what it leaves behind are those of the round without hooks.
-/

namespace Fray

open Draws

/-! ### Answers -/

/-- Whether an answer to a call has no effect. -/
def HookCall.IsIgnored (call : HookCall) (answer : Option HookValue) : Prop :=
  if call.hook = Hooks.onAttackRoll ∨ call.hook = Hooks.onDamageRoll then
    ∀ value : Float, answer = some (.number value) → value.isFinite = false
  else if call.hook = Hooks.onConditionApply then answer ≠ some (.flag false)
  else True

/-- No answer is as good as one that is ignored. -/
theorem HookCall.isIgnored_none (call : HookCall) : call.IsIgnored none := by
  unfold IsIgnored
  split
  · intro value number
    cases number
  · split
    · rintro ⟨⟩
    · trivial

/-- An answer about a total or about damage gives a score only if it counts. -/
theorem HookCall.IsIgnored.no_score {call : HookCall} {answer : Option HookValue}
    (ignored : call.IsIgnored answer)
    (asks : call.hook = Hooks.onAttackRoll ∨ call.hook = Hooks.onDamageRoll) :
    answer.bind HookValue.score? = none := by
  rw [IsIgnored, if_pos asks] at ignored
  cases answer with
  | none => rfl
  | some value =>
    cases value with
    | nil | flag | text => rfl
    | number value => simp [HookValue.score?, ignored value rfl]

theorem HookCall.IsIgnored.no_refusal {call : HookCall} {answer : Option HookValue}
    (ignored : call.IsIgnored answer) (asks : call.hook = Hooks.onConditionApply) :
    answer.any HookValue.isFalse = false := by
  have other : ¬(call.hook = Hooks.onAttackRoll ∨ call.hook = Hooks.onDamageRoll) := by
    rw [asks]
    decide
  rw [IsIgnored, if_neg other, if_pos asks] at ignored
  cases answer with
  | none => rfl
  | some value =>
    cases value with
    | nil | number | text => rfl
    | flag allowed =>
      cases allowed with
      | true => rfl
      | false => exact absurd rfl ignored

/-- A table gives no answer for a function that fails or answers nil. -/
theorem HookTable.isIgnored {table : HookTable} {call : HookCall}
    (useless : ∀ function, table.function? call.zone call.hook = some function →
      ∀ value, function call.args = .ok value → call.IsIgnored (some value)) :
    call.IsIgnored (table.answer call) := by
  unfold answer
  cases found : table.function? call.zone call.hook with
  | none => exact call.isIgnored_none
  | some function =>
    have values := useless function found
    rw [Option.bind_some]
    split
    · exact call.isIgnored_none
    · exact call.isIgnored_none
    next value _ answered => exact values value answered

namespace Encounter

/-- The encounter in a zone that has no hooks. -/
def unhooked (encounter : Encounter) : Encounter := { encounter with hooks := .none }

/-- No answer counts that was given between two moments. -/
def Ignored (before after : Encounter) : Prop :=
  ∀ call earlier, call :: earlier <:+ after.calls → before.calls <:+ earlier →
    call.IsIgnored (before.hooks earlier call)

theorem Ignored.early {first second third : Encounter} (ignored : Ignored first third)
    (late : Heeds second third) : Ignored first second := fun call earlier made =>
  ignored call earlier (made.trans late.calls)

theorem Ignored.late {first second third : Encounter} (ignored : Ignored first third)
    (early : Heeds first second) : Ignored second third := by
  intro call earlier made since
  rw [early.hooks]
  exact ignored call earlier made (early.calls.trans since)

end Encounter

/-! ### Results with and without hooks -/

/-- A result that holds an encounter, and what it would be if that had no hooks. -/
class Hooked (α : Type) where
  encounter : α → Encounter
  unhooked : α → α

instance : Hooked Encounter := ⟨id, Encounter.unhooked⟩

instance : Hooked Scene := ⟨Scene.encounter, (·.within Encounter.unhooked)⟩

instance : Hooked Scene.Hit :=
  ⟨fun hit => hit.scene.encounter, fun hit => { hit with scene := Hooked.unhooked hit.scene }⟩

instance {α β : Type} [Hooked β] : Hooked (α × β) :=
  ⟨fun result => Hooked.encounter result.2, fun result => (result.1, Hooked.unhooked result.2)⟩

open Hooked Encounter

/-- A result is what it would be without hooks, provided that no answer has counted. -/
structure Echoes {α : Type} [Hooked α] (before : Encounter) (real bare : α) : Prop where
  heeds : Heeds before (encounter real)
  same : Ignored before (encounter real) → bare = unhooked real

variable {α β : Type} [Hooked α] [Hooked β]

/-- Without a call there is no answer that could count. -/
theorem echoes_of_heeds {before : Encounter} {result : α} (heeds : Heeds before (encounter result)) :
    Echoes before result (unhooked result) := ⟨heeds, fun _ => rfl⟩

theorem Echoes.bind {before : Encounter} {real bare : α} (next : α → β)
    (one : Echoes before real bare)
    (two : Echoes (encounter real) (next real) (next (unhooked real))) :
    Echoes before (next real) (next bare) where
  heeds := one.heeds.trans two.heeds
  same ignored := by
    rw [one.same (ignored.early two.heeds)]
    exact two.same (ignored.late one.heeds)

private theorem related_branch {γ : Type} (related : γ → γ → Prop) {question : Prop}
    {real bare : Decidable question} {yes no yea nay : γ} (one : question → related yes yea)
    (two : ¬question → related no nay) :
    related (@ite _ question real yes no) (@ite _ question bare yea nay) := by
  by_cases holds : question
  · rw [if_pos holds, if_pos holds]
    exact one holds
  · rw [if_neg holds, if_neg holds]
    exact two holds

/-- Both results depend on the same question. -/
theorem Echoes.branch {before : Encounter} {question : Prop} {real bare : Decidable question}
    {yes no yea nay : α} (one : question → Echoes before yes yea)
    (two : ¬question → Echoes before no nay) :
    Echoes before (@ite _ question real yes no) (@ite _ question bare yea nay) :=
  related_branch (Echoes before) one two

theorem Echoes.pair {γ : Type} {before : Encounter} {real bare : α} (value : γ)
    (echoes : Echoes before real bare) : Echoes before (value, real) (value, bare) :=
  ⟨echoes.heeds, fun ignored => congrArg (value, ·) (echoes.same ignored)⟩

/-- The same for a computation, whose draws are to be the same as well. -/
structure Mimics (before : Encounter) (real bare : Draws α) : Prop where
  heeds : ∀ {σ : Type} [RandomSource σ] (source : σ),
    Heeds before (encounter (real.run source).1)
  same : ∀ {σ : Type} [RandomSource σ] (source : σ),
    Ignored before (encounter (real.run source).1) →
      bare.run source = (unhooked (real.run source).1, (real.run source).2)

theorem Echoes.done {before : Encounter} {real bare : α} (echoes : Echoes before real bare) :
    Mimics before (Draws.done real) (Draws.done bare) where
  heeds _ := echoes.heeds
  same source ignored := congrArg (·, source) (echoes.same ignored)

/-- A computation that goes on from a result. -/
theorem Echoes.follow {before : Encounter} {real bare : α} (next other : α → Draws β)
    (one : Echoes before real bare)
    (two : Mimics (encounter real) (next real) (other (unhooked real))) :
    Mimics before (next real) (other bare) where
  heeds source := one.heeds.trans (two.heeds source)
  same source ignored := by
    rw [one.same (ignored.early (two.heeds source))]
    exact two.same source (ignored.late one.heeds)

theorem Mimics.bind {before : Encounter} {real bare : Draws α} {next other : α → Draws β}
    (one : Mimics before real bare)
    (two : ∀ result, Mimics (encounter result) (next result) (other (unhooked result))) :
    Mimics before (real >>= next) (bare >>= other) where
  heeds source := by
    rw [run_bind]
    exact (one.heeds source).trans ((two _).heeds _)
  same source ignored := by
    rw [run_bind] at ignored ⊢
    rw [run_bind, one.same source (ignored.early ((two _).heeds _))]
    exact (two _).same _ (ignored.late (one.heeds source))

/-- A draw that asks no hook is made in both computations. -/
theorem Mimics.draw {γ : Type} {before : Encounter} (draws : Draws γ)
    {next other : γ → Draws β} (later : ∀ drawn, Mimics before (next drawn) (other drawn)) :
    Mimics before (draws >>= next) (draws >>= other) where
  heeds source := by
    rw [run_bind]
    exact (later _).heeds _
  same source ignored := by
    rw [run_bind] at ignored ⊢
    rw [run_bind]
    exact (later _).same _ ignored

/-- Both computations decide a question alike. -/
theorem Mimics.branch {before : Encounter} {question : Prop} {real bare : Decidable question}
    {yes no yea nay : Draws α} (one : question → Mimics before yes yea)
    (two : ¬question → Mimics before no nay) :
    Mimics before (@ite _ question real yes no) (@ite _ question bare yea nay) :=
  related_branch (Mimics before) one two

theorem mimics_nothing {γ : Type} (value : γ) (result : α) :
    Mimics (encounter result) (Draws.done (value, result))
      (Draws.done (value, unhooked result)) :=
  Echoes.done ⟨.refl _, fun _ => rfl⟩

/-- What is told beside a computation has no part in it. -/
theorem Mimics.tell {γ δ : Type} {before : Encounter} {real bare : Draws (γ × α)}
    (mimics : Mimics before real bare) (tell : γ → δ) :
    Mimics before (real >>= fun result => Draws.done (tell result.1, result.2))
      (bare >>= fun result => Draws.done (tell result.1, result.2)) :=
  mimics.bind fun result => mimics_nothing (tell result.1) result.2

namespace Encounter

/-! ### Conditions -/

theorem consult_echoes (encounter : Encounter) (hook : String) (args : List HookValue) :
    Echoes encounter (encounter.consult hook args).2 (encounter.unhooked.consult hook args).2 :=
  ⟨.of_same rfl (List.suffix_cons ..) rfl, fun _ => rfl⟩

@[simp] theorem combatants_unhooked (encounter : Encounter) :
    encounter.unhooked.combatants = encounter.combatants := rfl

@[simp] theorem afflictionsOf_unhooked (encounter : Encounter) (id : String) :
    encounter.unhooked.afflictionsOf id = encounter.afflictionsOf id := rfl

@[simp] theorem hasCondition_unhooked (encounter : Encounter) (id condition : String) :
    encounter.unhooked.hasCondition id condition = encounter.hasCondition id condition := rfl

theorem afflict_unhooked (encounter : Encounter) (id condition : String) (stack : Count)
    (duration : Option Count) :
    encounter.unhooked.afflict id condition stack duration
      = (encounter.afflict id condition stack duration).map unhooked := by
  simp only [afflict, unhooked]
  cases encounter.codex.get? condition with
  | none => rfl
  | some known => cases encounter.afflictions.get? id <;> rfl

theorem calls_afflictIfAllowed (encounter : Encounter) (id condition : String) (stack : Count)
    (duration : Option Count) :
    (encounter.afflictIfAllowed id condition stack duration).calls
      = ⟨encounter.zone, Hooks.onConditionApply, [.text id, .text condition, .ofCount stack]⟩
        :: encounter.calls := by
  simp only [afflictIfAllowed]
  split
  · rfl
  · split
    next accepted => exact calls_of_afflict accepted
    · rfl

theorem afflictIfAllowed_echoes (encounter : Encounter) (id condition : String) (stack : Count)
    (duration : Option Count) :
    Echoes encounter (encounter.afflictIfAllowed id condition stack duration)
      (encounter.unhooked.afflictIfAllowed id condition stack duration) := by
  refine ⟨afflictIfAllowed_heeds .., fun ignored => ?_⟩
  let call : HookCall :=
    ⟨encounter.zone, Hooks.onConditionApply, [.text id, .text condition, .ofCount stack]⟩
  have made : call :: encounter.calls
      <:+ (encounter.afflictIfAllowed id condition stack duration).calls :=
    ⟨[], (calls_afflictIfAllowed ..).symm⟩
  have allowed : (encounter.hooks encounter.calls call).any HookValue.isFalse = false :=
    (ignored call encounter.calls made List.suffix_rfl).no_refusal rfl
  -- Nobody objects, so both encounters go on to the codex.
  let asked := (encounter.consult call.hook call.args).2
  have real : encounter.afflictIfAllowed id condition stack duration
      = asked.orKeep (asked.afflict id condition stack duration) :=
    if_neg (Bool.eq_false_iff.mp allowed)
  have bare : encounter.unhooked.afflictIfAllowed id condition stack duration
      = asked.unhooked.orKeep (asked.unhooked.afflict id condition stack duration) := rfl
  rw [real, bare, afflict_unhooked]
  cases asked.afflict id condition stack duration <;> rfl

theorem beginDying_echoes (encounter : Encounter) (target : Nat) :
    Echoes encounter (encounter.beginDying target) (encounter.unhooked.beginDying target) := by
  have unchanged : Echoes encounter encounter encounter.unhooked :=
    ⟨.refl encounter, fun _ => rfl⟩
  simp only [beginDying, combatants_unhooked, hasCondition_unhooked, afflictionsOf_unhooked]
  cases encounter.combatants[target]? with
  | none => exact unchanged
  | some combatant =>
    apply Echoes.branch
    · exact fun _ => afflictIfAllowed_echoes ..
    · exact fun _ => unchanged

theorem afterSwing_echoes (encounter : Encounter) (attacker target : Combatant)
    (outcome : Outcome) :
    Echoes encounter (encounter.afterSwing attacker target outcome)
      (encounter.unhooked.afterSwing attacker target outcome) := by
  cases outcome with
  | criticalFailure | criticalSuccess => exact afflictIfAllowed_echoes ..
  | success | failure => exact ⟨.refl encounter, fun _ => rfl⟩

end Encounter

namespace Scene

/-- The scene in a zone that has no hooks. -/
abbrev unhooked (scene : Scene) : Scene := scene.within Encounter.unhooked

@[simp] theorem combatants_unhooked (scene : Scene) :
    scene.unhooked.encounter.combatants = scene.encounter.combatants := rfl

/-! ### Hits -/

theorem within_echoes (scene : Scene) (change : Encounter → Encounter)
    (echoes : Echoes scene.encounter (change scene.encounter) (change scene.encounter.unhooked)) :
    Echoes scene.encounter (scene.within change) (scene.unhooked.within change) where
  heeds := echoes.heeds
  same ignored := congrArg (Scene.mk · scene.damage) (echoes.same ignored)

theorem hurt_echoes (scene : Scene) (target : Nat) (damage : Score) :
    Echoes scene.encounter (scene.hurt target damage) (scene.unhooked.hurt target damage) := by
  have same : scene.unhooked.hurt target damage = (scene.hurt target damage).unhooked := by
    unfold hurt
    split
    · rfl
    · rw [combatants_unhooked]
      cases scene.encounter.combatants[target]? <;> rfl
  rw [same]
  exact echoes_of_heeds (hurt_heeds ..)

theorem attackTotal_echoes (scene : Scene) (attacker target : Combatant) (total : Score) :
    Echoes scene.encounter (scene.attackTotal attacker target total)
      (scene.unhooked.attackTotal attacker target total) where
  heeds := .of_same rfl (List.suffix_cons ..) rfl
  same ignored := by
    have asked := ignored ⟨scene.encounter.zone, Hooks.onAttackRoll, [.text attacker.id,
      .text target.id, .ofScore total, .ofScore target.armorClass]⟩ scene.encounter.calls
      List.suffix_rfl List.suffix_rfl
    have given : (scene.attackTotal attacker target total).1 = total :=
      congrArg (·.getD total) (asked.no_score (.inl rfl))
    exact Prod.ext given.symm rfl

theorem attackDamage_echoes (scene : Scene) (attacker target : Combatant) (damage : Score) :
    Echoes scene.encounter (scene.attackDamage attacker target damage)
      (scene.unhooked.attackDamage attacker target damage) := by
  unfold attackDamage
  split
  · exact ⟨.refl _, fun _ => rfl⟩
  · refine ⟨.of_same rfl (List.suffix_cons ..) rfl, fun ignored => ?_⟩
    have asked := ignored ⟨scene.encounter.zone, Hooks.onDamageRoll, [.text attacker.id,
      .text target.id, .ofScore damage]⟩ scene.encounter.calls List.suffix_rfl List.suffix_rfl
    exact Prod.ext (congrArg (·.getD damage) (asked.no_score (.inr rfl))).symm rfl

theorem land_echoes (scene : Scene) (attacker target : Combatant) (index : Nat) (attack : Attack) :
    Echoes scene.encounter (scene.land attacker target index attack)
      (scene.unhooked.land attacker target index attack) := by
  let dealt (attack : Attack) (result : Score × Scene) : Hit :=
    ⟨attack, result.1, result.2.hurt index result.1⟩
  have deals (attack : Attack) (result : Score × Scene) :
      Echoes result.2.encounter (dealt attack result)
        (dealt attack (result.1, result.2.unhooked)) := by
    have hurts := hurt_echoes result.2 index result.1
    exact ⟨hurts.heeds, fun ignored => congrArg (Hit.mk attack result.1) (hurts.same ignored)⟩
  -- The total comes first, and the damage is looked at once it is known.
  refine (attackTotal_echoes scene attacker target attack.total).bind (fun result =>
    let attack := { attack with total := result.1, outcome := .of result.1 target.armorClass }
    dealt attack (result.2.attackDamage attacker target attack.damage)) ?_
  exact (attackDamage_echoes ..).bind _ (deals ..)

/-! ### Swings and shots -/

theorem swing_mimics (scene : Scene) (actor target : Nat) (penalty : Score) :
    Mimics scene.encounter (scene.swing actor target penalty)
      (scene.unhooked.swing actor target penalty) := by
  simp only [swing, combatants_unhooked]
  cases attackerAt : scene.encounter.combatants[actor]? with
  | none => exact mimics_nothing none scene
  | some attacker =>
    cases defenderAt : scene.encounter.combatants[target]? with
    | none => exact mimics_nothing none scene
    | some defender =>
      apply Mimics.draw
      intro rolled
      apply Echoes.done
      refine (land_echoes ..).bind (fun hit : Hit =>
        (some hit.attack, hit.scene.within fun encounter =>
          (encounter.afterSwing attacker defender hit.attack.outcome).beginDying target)) ?_
      apply Echoes.pair
      apply within_echoes
      exact (afterSwing_echoes ..).bind (·.beginDying target) (beginDying_echoes ..)

theorem changeAt_echoes (scene : Scene) (index : Nat) (change : Combatant → Combatant) :
    Echoes scene.encounter (scene.within (·.changeAt index change))
      (scene.unhooked.within (·.changeAt index change)) :=
  ⟨.of_same rfl List.suffix_rfl rfl, fun _ => rfl⟩

/-- A shot, with whatever follows it, whether or not there is somebody to fire it at. -/
theorem shoot_mimics (scene : Scene) (actor target : Nat) (weapon : Option Weapon)
    {next other : Option Hit → Draws β}
    (missed : Mimics scene.encounter (next none) (other none))
    (landed : ∀ hit : Hit, Mimics hit.scene.encounter (next (some hit))
      (other (some { hit with scene := hit.scene.unhooked }))) :
    Mimics scene.encounter (scene.shoot actor target weapon >>= next)
      (scene.unhooked.shoot actor target weapon >>= other) := by
  simp only [shoot, combatants_unhooked]
  cases attackerAt : scene.encounter.combatants[actor]? with
  | none => exact missed
  | some attacker =>
    cases defenderAt : scene.encounter.combatants[target]? with
    | none => exact missed
    | some defender =>
      simp only [LawfulMonad.bind_assoc]
      apply Mimics.draw
      intro rolled
      -- What follows the hit asks no hooks but those of a condition.
      let fired (hit : Hit) : Hit :=
        let after := hit.scene.within (·.beginDying target)
        { hit with
          scene := if weapon.isSome then
              after.within (·.changeAt actor fun self => { self with loadout := self.loadout.fire })
            else after }
      have fires (hit : Hit) : Echoes hit.scene.encounter (fired hit)
          (fired { hit with scene := hit.scene.unhooked }) := by
        have dying := within_echoes hit.scene (·.beginDying target) (beginDying_echoes ..)
        have used : Echoes hit.scene.encounter (fired hit).scene
            (fired { hit with scene := hit.scene.unhooked }).scene := by
          simp only [fired]
          split
          · exact dying.bind (fun scene => scene.within
              (·.changeAt actor fun self => { self with loadout := self.loadout.fire }))
              (changeAt_echoes ..)
          · exact dying
        exact ⟨used.heeds, fun ignored =>
          congrArg (Hit.mk hit.attack hit.damage) (used.same ignored)⟩
      have shot := (land_echoes scene attacker defender target rolled).bind fired (fires _)
      exact shot.follow (fun hit => next (some hit)) (fun hit => other (some hit)) (landed _)

/-! ### Actions -/

section Unhooked

variable (scene : Scene)

@[simp] theorem livingNamed_unhooked :
    scene.unhooked.encounter.livingNamed = scene.encounter.livingNamed := rfl

@[simp] theorem livingCalled_unhooked :
    scene.unhooked.encounter.livingCalled = scene.encounter.livingCalled := rfl

@[simp] theorem queues_unhooked :
    scene.unhooked.encounter.queues = scene.encounter.queues := rfl

@[simp] theorem inventory_unhooked :
    scene.unhooked.encounter.inventory = scene.encounter.inventory := rfl

end Unhooked

theorem shootOn_mimics (actor : Actor) (target : Nat) (name : String) (weapon : Option Weapon)
    (shots : Nat) (scene : Scene) :
    Mimics scene.encounter (shootOn actor target name weapon shots scene)
      (shootOn actor target name weapon shots scene.unhooked) := by
  induction shots generalizing scene with
  | zero => exact mimics_nothing [] scene
  | succ shots ih =>
    simp only [shootOn]
    apply shoot_mimics
    · exact mimics_nothing [] scene
    · intro hit
      apply Mimics.branch
      · exact fun dies => mimics_nothing _ hit.scene
      · exact fun lives => (ih hit.scene).tell (shotEvent actor .burst name hit :: ·)

theorem shootEach_mimics (actor : Actor) (weapon : Option Weapon) (targets : List Nat)
    (scene : Scene) :
    Mimics scene.encounter (shootEach actor weapon targets scene)
      (shootEach actor weapon targets scene.unhooked) := by
  induction targets generalizing scene with
  | nil => exact mimics_nothing [] scene
  | cons target rest ih =>
    simp only [shootEach]
    apply shoot_mimics
    · exact ih scene
    · intro hit
      exact (ih hit.scene).tell (shotEvent actor .automatic (scene.encounter.nameAt target) hit :: ·)

theorem blastEach_echoes (actor : Actor) (explosive : Explosive) (targets : List (Nat × Blast))
    (scene : Scene) :
    Echoes scene.encounter (blastEach actor explosive targets scene)
      (blastEach actor explosive targets scene.unhooked) := by
  induction targets generalizing scene with
  | nil => exact ⟨.refl _, fun _ => rfl⟩
  | cons first rest ih =>
    obtain ⟨target, blast⟩ := first
    have struck := (hurt_echoes scene target blast.damage).bind
      (·.within (·.beginDying target)) (within_echoes _ _ (beginDying_echoes ..))
    have others := struck.bind (blastEach actor explosive rest) (ih _)
    exact others.bind (fun result => (_ :: result.1, result.2)) ⟨.refl _, fun _ => rfl⟩

theorem performAttack_mimics (scene : Scene) (actor : Actor) (action : Action) :
    Mimics scene.encounter (scene.performAttack actor action)
      (scene.unhooked.performAttack actor action) := by
  simp only [performAttack, livingNamed_unhooked]
  cases action.target.bind scene.encounter.livingNamed with
  | none => exact mimics_nothing _ scene
  | some target => exact (swing_mimics ..).tell fun attack : Option Attack => attack.toList.map _

theorem performStrike_mimics (scene : Scene) (actor : Actor) (action : Action) :
    Mimics scene.encounter (scene.performStrike actor action)
      (scene.unhooked.performStrike actor action) := by
  simp only [performStrike, livingNamed_unhooked]
  cases action.target.bind scene.encounter.livingNamed with
  | none => exact mimics_nothing _ scene
  | some target =>
    refine (swing_mimics ..).bind fun first => ?_
    apply Mimics.branch
    · exact fun dies => mimics_nothing _ first.2
    · intro lives
      exact (swing_mimics ..).tell fun second : Option Attack => _ ++ second.toList.map _

theorem performReload_echoes (scene : Scene) (actor : Actor) (action : Action) :
    Echoes scene.encounter (scene.performReload actor action)
      (scene.unhooked.performReload actor action) := by
  have full := changeAt_echoes scene actor.index fun self =>
    { self with loadout := self.loadout.reload }
  have asked := full.bind (·.within fun encounter =>
    (encounter.consult Hooks.onReload [.text actor.id, .text (action.weapon.getD "")]).2)
    (within_echoes _ _ (consult_echoes ..))
  exact asked.pair _

theorem performBurst_mimics (scene : Scene) (actor : Actor) (action : Action) :
    Mimics scene.encounter (scene.performBurst actor action)
      (scene.unhooked.performBurst actor action) := by
  simp only [performBurst, livingCalled_unhooked]
  cases action.target.bind scene.encounter.livingCalled with
  | none => exact mimics_nothing _ scene
  | some target => exact shootOn_mimics ..

theorem performAutomatic_mimics (scene : Scene) (actor : Actor) (action : Action) :
    Mimics scene.encounter (scene.performAutomatic actor action)
      (scene.unhooked.performAutomatic actor action) := by
  simp only [performAutomatic]
  apply Mimics.branch
  · exact fun alone => mimics_nothing _ scene
  · exact fun opposed => shootEach_mimics ..

theorem performThrow_mimics (scene : Scene) (actor : Actor) (action : Action) :
    Mimics scene.encounter (scene.performThrow actor action)
      (scene.unhooked.performThrow actor action) := by
  simp only [performThrow, inventory_unhooked]
  cases scene.encounter.inventory with
  | none => exact mimics_nothing _ scene
  | some inventory =>
    simp only
    cases action.explosive.bind inventory.explosives.get? with
    | none => exact mimics_nothing _ scene
    | some explosive =>
      let args : List HookValue := [.text actor.id, .text explosive.id]
      have asked := within_echoes scene
        (fun encounter => (encounter.consult Hooks.onExplosiveThrow args).2) (consult_echoes ..)
      let told (result : List RoundEvent × Scene) : Draws (List RoundEvent × Scene) :=
        if result.1.isEmpty then
          return ([actor.event .throw (actor.name ++ " throws " ++ explosive.name
            ++ " but no targets are in range.")], result.2)
        else return (result.1, result.2)
      let thrown (asked : Scene) : Draws (List RoundEvent × Scene) := do
        let targets := asked.encounter.opponents actor.index
        let blasts ← blastRoll asked.encounter.dice explosive
          (targets.filterMap (asked.encounter.combatants[·]?))
        told (blastEach actor explosive (targets.zip blasts) asked)
      -- The answer to the throw is not looked at, and the saves are rolled without hooks.
      refine asked.follow thrown thrown ?_
      apply Mimics.draw
      intro blasts
      have tells (result : List RoundEvent × Scene) :
          Mimics result.2.encounter (told result) (told (result.1, result.2.unhooked)) := by
        apply Mimics.branch
        · exact fun none => mimics_nothing _ result.2
        · exact fun some => mimics_nothing _ result.2
      exact (blastEach_echoes ..).follow told told (tells _)

/-- What an action comes to without hooks, if no answer counts. -/
theorem perform_mimics (scene : Scene) (actor : Actor) (action : Action) :
    Mimics scene.encounter (scene.perform actor action) (scene.unhooked.perform actor action) := by
  unfold perform
  cases action.kind with
  | unknown | pass => exact mimics_nothing _ scene
  | attack => exact performAttack_mimics ..
  | strike => exact performStrike_mimics ..
  | reload => exact (performReload_echoes ..).done
  | burst => exact performBurst_mimics ..
  | automatic => exact performAutomatic_mimics ..
  | throw => exact performThrow_mimics ..

/-! ### Turns -/

theorem performAll_mimics (actor : Actor) (actions : List Action) (scene : Scene) :
    Mimics scene.encounter (performAll actor actions scene)
      (performAll actor actions scene.unhooked) := by
  induction actions generalizing scene with
  | nil => exact mimics_nothing [] scene
  | cons action rest ih =>
    simp only [performAll]
    refine (perform_mimics scene actor action).bind fun result => ?_
    exact (ih result.2).tell fun blocks : List Block => _ :: blocks

theorem takeTurn_mimics (index : Nat) (scene : Scene) :
    Mimics scene.encounter (takeTurn index scene) (takeTurn index scene.unhooked) := by
  simp only [takeTurn, combatants_unhooked, queues_unhooked]
  cases scene.encounter.combatants[index]? with
  | none => exact mimics_nothing [] scene
  | some combatant =>
    apply Mimics.branch
    · exact fun dead => mimics_nothing _ scene
    · intro alive
      cases scene.encounter.queues.get? combatant.id with
      | none => exact mimics_nothing _ scene
      | some queue =>
        exact (performAll_mimics ..).tell fun blocks => [Turn.mk combatant blocks]

theorem takeTurns_mimics (indices : List Nat) (scene : Scene) :
    Mimics scene.encounter (takeTurns indices scene) (takeTurns indices scene.unhooked) := by
  induction indices generalizing scene with
  | nil => exact mimics_nothing [] scene
  | cons index rest ih =>
    simp only [takeTurns]
    refine (takeTurn_mimics index scene).bind fun first => ?_
    exact (ih first.2).tell (first.1 ++ ·)

end Scene

namespace Encounter

/--
If no answer counts that the hooks give while a round is resolved, then the round is the
one without hooks: the same turns with the same events, the same reports of damage and the
same source afterwards, and the encounter is left as it would be, except that it still has
its hooks. For a recorded source the same source means the same draws.
-/
theorem resolve_ignored {σ : Type} [RandomSource σ] (encounter : Encounter) (source : σ)
    (ignored : Ignored encounter (encounter.resolve.run source).1.encounter) :
    let real := encounter.resolve.run source
    let bare := encounter.unhooked.resolve.run source
    bare.1.turns = real.1.turns ∧ bare.1.damage = real.1.damage ∧
      bare.1.encounter = real.1.encounter.unhooked ∧ bare.2 = real.2 := by
  have mimics := Scene.takeTurns_mimics (List.range encounter.combatants.length) ⟨encounter, []⟩
  have played (encounter : Encounter) : encounter.resolve.run source =
      let result := (Scene.takeTurns (List.range encounter.combatants.length)
        ⟨encounter, []⟩).run source
      (⟨result.1.1, result.1.2.damage, result.1.2.encounter⟩, result.2) := by
    rw [resolve, run_bind]
    rfl
  rw [played] at ignored
  have same : (Scene.takeTurns (List.range encounter.unhooked.combatants.length)
      ⟨encounter.unhooked, []⟩).run source = _ := mimics.same source ignored
  rw [played, played, same]
  exact ⟨rfl, rfl, rfl, rfl⟩

/-! ### A script that is of no use -/

/-- Functions that fail, answer in words or answer nil. -/
def sampleFunctions : List (String × HookFunction) :=
  [(Hooks.onAttackRoll, fun _ => .error "no such function"),
    (Hooks.onDamageRoll, fun _ => .ok (.text "much")),
    (Hooks.onConditionApply, fun _ => .ok .nil)]

def sampleScript : HookTable := .ofList [(HookTable.globalZone, .ofList sampleFunctions)]

theorem sampleScript_isIgnored (call : HookCall) : call.IsIgnored (sampleScript.answer call) := by
  apply HookTable.isIgnored
  intro function found value answered
  obtain ⟨functions, zone, named⟩ := Option.bind_eq_some_iff.mp found
  have only : functions = .ofList sampleFunctions := by
    rcases Option.or_eq_some_iff.mp ((Option.orElse_eq_or ..).symm.trans zone) with own | ⟨_, all⟩
    · exact (Prod.mk.inj (List.mem_singleton.mp (Table.mem_of_get?_ofList own))).2
    · exact (Prod.mk.inj (List.mem_singleton.mp (Table.mem_of_get?_ofList all))).2
  rw [only] at named
  have listed := Table.mem_of_get?_ofList named
  simp only [sampleFunctions, List.mem_cons, List.not_mem_nil, or_false, Prod.mk.injEq] at listed
  rcases listed with ⟨_, rfl⟩ | ⟨hook, rfl⟩ | ⟨hook, rfl⟩
  · cases answered
  · cases answered
    simp [HookCall.IsIgnored, hook]
  · cases answered
    simp [HookCall.IsIgnored, hook]

def sampleSpook : Setup :=
  { room := "cellar"
    zone := "house"
    combatants := [
      { id := "ann", name := "Ann", side := .player, maxHp := 9, hp := 9, armorClass := 12 },
      { id := "rat", name := "Rat", side := .npc, maxHp := 30, hp := 30, armorClass := 6 }]
    hooks := sampleScript.hooks }

def samplePlans : List Request := [.openRound 3, .commit "ann" (.strike "Rat")]

/-- The fight before its first round is resolved. -/
def sampleSpooked : Encounter := ((play samplePlans (begin sampleSpook)).run (⟨15⟩ : Fixed)).1

/-- The script is asked five times, and the round goes as it would without it. -/
theorem resolve_ignored_sample :
    let real := sampleSpooked.resolve.run (⟨15⟩ : Fixed)
    let bare := sampleSpooked.unhooked.resolve.run (⟨15⟩ : Fixed)
    Ignored sampleSpooked real.1.encounter ∧ real.1.encounter.calls.length = 5 ∧
    bare.1.turns = real.1.turns ∧ bare.1.damage = real.1.damage ∧
      bare.1.encounter = real.1.encounter.unhooked ∧ bare.2 = real.2 := by
  have hooks : sampleSpooked.hooks = sampleScript.hooks :=
    ((play_same samplePlans (begin sampleSpook)).run (⟨15⟩ : Fixed)).hooks
  have ignored : Ignored sampleSpooked (sampleSpooked.resolve.run (⟨15⟩ : Fixed)).1.encounter := by
    intro call earlier _ _
    rw [hooks]
    exact sampleScript_isIgnored call
  exact ⟨ignored, by decide +kernel, resolve_ignored sampleSpooked (⟨15⟩ : Fixed) ignored⟩

end Encounter

end Fray
