import Fray.Proofs.Dying.Chain
import Fray.Proofs.Dying.Checks
import Fray.Proofs.Dying.Hits
import Fray.Proofs.Encounter.Playing

/-!
# Fates of the dying

In a fight with the built-in conditions, in which nobody gives or takes conditions
from outside, only the opening of a round changes the stacks of a dying combatant:
by its check. So it leaves the dying chain after a few openings, whatever is done to
it in between.

## Main results

`play_chain`: how the chain of a combatant goes on in any run. `play_lastStack`: who
has four stacks of dying.
-/

namespace Fray

open Draws

namespace Encounter

/-! ### The rule for everybody -/

/-- Everybody keeps to the rules of dying, under names of its own. -/
structure ByRule (encounter : Encounter) : Prop where
  distinct : encounter.ids.Nodup
  codex : encounter.codex = Codex.core
  each : ∀ (index : Nat) (combatant : Combatant), encounter.combatants[index]? = some combatant →
    combatant.ByRule (encounter.afflictionsOf combatant.id)

theorem ByRule.keyed {encounter : Encounter} (rule : encounter.ByRule) : encounter.codex.Keyed :=
  rule.codex ▸ Codex.core_keyed

/-- Only the combatants, the codex and the conditions of dying matter. -/
theorem ByRule.of_same {before after : Encounter} (rule : before.ByRule)
    (combatants : after.combatants = before.combatants) (codex : after.codex = before.codex)
    (same : ∀ who id, id = Condition.dying.id ∨ id = Condition.wounded.id →
      after.affliction? who id = before.affliction? who id) : after.ByRule where
  distinct := by
    rw [ids, combatants]
    exact rule.distinct
  codex := codex.trans rule.codex
  each index combatant found := by
    rw [combatants] at found
    exact (rule.each index combatant found).of_same rfl rfl (fun down => down) (same combatant.id)

/-- A change that hurts at most does not matter either. -/
theorem ByRule.changeAt {encounter : Encounter} (rule : encounter.ByRule) (index : Nat)
    {change : Combatant → Combatant}
    (keeps : ∀ combatant, (change combatant).profile = combatant.profile)
    (down : ∀ combatant, combatant.hp = 0 → (change combatant).hp = 0) :
    (encounter.changeAt index change).ByRule where
  distinct := (changeAt_framed encounter index keeps).ids ▸ rule.distinct
  codex := rule.codex
  each position combatant found := by
    simp only [Encounter.changeAt, List.getElem?_modify] at found
    obtain ⟨self, at_, changed⟩ := Option.map_eq_some_iff.mp found
    have ruled := rule.each position self at_
    split at changed
    · subst changed
      have named := congrArg Combatant.id (keeps self)
      have player := congrArg Combatant.isPlayer (keeps self)
      have dead := congrArg Combatant.dead (keeps self)
      rw [show (change self).id = self.id from named]
      exact ruled.of_same player dead (down self) fun _ _ => rfl
    · subst changed
      exact ruled

theorem afterSwing_byRule {encounter : Encounter} (rule : encounter.ByRule)
    (attacker target : Combatant) (outcome : Outcome) :
    (encounter.afterSwing attacker target outcome).ByRule := by
  refine rule.of_same (combatants_afterSwing ..) (afterSwing_framed ..).codex ?_
  rintro who id (rfl | rfl)
  · exact affliction?_afterSwing rule.keyed attacker target outcome (by decide) who
  · exact affliction?_afterSwing rule.keyed attacker target outcome (by decide) who

/-- Dying begins with one stack more than there are wounds. -/
theorem beginDying_byRule {encounter : Encounter} (rule : encounter.ByRule) (target : Nat) :
    (encounter.beginDying target).ByRule := by
  have framed := beginDying_framed encounter target
  rcases beginDying_cases encounter target with
    ⟨same, _⟩ | ⟨self, at_, player, alive, down, well, begun⟩
  · rw [same]
    exact rule
  have wounded (who : String) : (encounter.beginDying target).affliction? who Condition.wounded.id
      = encounter.affliction? who Condition.wounded.id := by
    rw [begun]
    exact affliction?_afflictIfAllowed rule.keyed _ _ _ _ (.inr (by decide))
  refine ⟨framed.ids ▸ rule.distinct, framed.codex.trans rule.codex, ?_⟩
  intro index combatant found
  rw [combatants_beginDying] at found
  have ruled := rule.each index combatant found
  have unchanged (dying : (encounter.beginDying target).affliction? combatant.id Condition.dying.id
      = encounter.affliction? combatant.id Condition.dying.id) :
      combatant.ByRule ((encounter.beginDying target).afflictionsOf combatant.id) := by
    refine ruled.of_same rfl rfl (fun down => down) ?_
    rintro id (rfl | rfl)
    · exact dying
    · exact wounded combatant.id
  by_cases hit : target = index
  · subst hit
    cases at_.symm.trans found
    rcases affliction?_afflictIfAllowed_absent rule.keyed well
      ((encounter.afflictionsOf self.id).stackOf Condition.wounded.id + 1) none with
      spared | ⟨known, entered, fresh⟩
    · rw [← begun] at spared
      exact unchanged (spared.trans well.symm)
    · rw [rule.codex, Codex.core_dying] at entered
      cases entered
      rw [← begun] at fresh
      have one := Count.toNat_one
      have wounds := ruled.wounds
      have stack :=
        Count.toNat_add ((encounter.afflictionsOf self.id).stackOf Condition.wounded.id) 1
      exact ruled.worse player alive down fresh (wounded self.id) (by omega) (by omega)
  -- The condition goes to one name, which nobody else bears.
  · have apart : combatant.id ≠ self.id := fun same =>
      hit (index_eq_of_id rule.distinct at_ found same.symm)
    refine unchanged ?_
    rw [begun]
    exact affliction?_afflictIfAllowed rule.keyed _ _ _ _ (.inl apart)

end Encounter

namespace Scene

open Encounter

theorem hurt_byRule {scene : Scene} (rule : scene.encounter.ByRule) (target : Nat)
    (damage : Score) : (scene.hurt target damage).encounter.ByRule := by
  unfold hurt
  split
  · exact rule
  · split
    · exact rule
    · refine rule.changeAt target (fun _ => rfl) fun combatant down => ?_
      ext
      show combatant.hp.toNat - damage.toCount.toNat = 0
      rw [down]
      exact Nat.zero_sub _

theorem Step.byRule {before after : Scene} (step : Step before after)
    (rule : before.encounter.ByRule) : after.encounter.ByRule := by
  cases step with
  | ask hook args => exact ⟨rule.distinct, rule.codex, rule.each⟩
  | reload index => exact rule.changeAt index Combatant.profile_reload fun _ down => down
  | fire index => exact rule.changeAt index Combatant.profile_fire fun _ down => down
  | @hit target damage _ => exact beginDying_byRule (hurt_byRule rule target damage) target
  | @swing _ target attacker defender damage outcome _ _ _ =>
    have swung := afterSwing_byRule (hurt_byRule rule target damage) attacker defender outcome
    exact beginDying_byRule swung target

theorem Reaches.byRule {before after : Scene} (reached : Reaches before after)
    (rule : before.encounter.ByRule) : after.encounter.ByRule := by
  induction reached with
  | refl => exact rule
  | tail _ step ih => exact step.byRule ih

end Scene

namespace Encounter

theorem resolve_byRule {encounter : Encounter} (rule : encounter.ByRule) :
    Always (fun resolution => resolution.encounter.ByRule) encounter.resolve :=
  encounter.resolve_reaches.mono fun _ reached => Scene.Reaches.byRule reached rule

theorem openRound_byRule {encounter : Encounter} (rule : encounter.ByRule) (points : Count) :
    Always (fun result => result.2.ByRule) (encounter.openRound points) := by
  have opens := openRound_opens encounter points
  unfold openRound at opens ⊢
  rw [always_bind] at opens ⊢
  have all := openAll_opens encounter.codex encounter.combatants encounter.afflictions
    rule.distinct
  refine (opens.and all).mono fun opened both => ?_
  obtain ⟨opens, openings, all⟩ := both
  refine ⟨opens.ids ▸ rule.distinct, rule.codex, fun index combatant found => ?_⟩
  obtain ⟨before, listed, opening, treated, rfl, conditions⟩ :=
    all.of_mem (List.mem_of_getElem? found)
  obtain ⟨position, at_⟩ := List.mem_iff_getElem?.mp listed
  rw [rule.codex] at treated
  have ruled := treated.byRule (rule.each position before at_)
  rw [← conditions] at ruled
  exact ruled

theorem answer_byRule {encounter : Encounter} (rule : encounter.ByRule) {request : Request}
    (inside : request.intervenes = false) : Always ByRule (encounter.answer request) := by
  refine answer_frame request (fun points _ => openRound_byRule rule points)
    (fun _ => resolve_byRule rule) (fun _ _ _ _ => ⟨rule.distinct, rule.codex, rule.each⟩)
    (fun intervenes => ?_) (fun _ _ => ⟨rule.distinct, rule.codex, rule.each⟩)
  rw [inside] at intervenes
  cases intervenes

theorem play_byRule {encounter : Encounter} (rule : encounter.ByRule) {requests : List Request}
    (inside : ∀ request ∈ requests, request.intervenes = false) :
    Always ByRule (play requests encounter) :=
  play_induction (fun request member _ still => answer_byRule still (inside request member)) rule

/-! ### One request -/

/-- The combatant at a position, with its conditions, is in some state. -/
def At (encounter : Encounter) (index : Nat) (is : Combatant → Afflictions → Prop) : Prop :=
  ∃ combatant, encounter.combatants[index]? = some combatant ∧
    is combatant (encounter.afflictionsOf combatant.id)

/-- A round changes nothing for those who are dying. -/
theorem resolve_keepsDying {encounter : Encounter} (rule : encounter.ByRule)
    {index depth wounds : Nat} (is : encounter.At index (Combatant.IsDying depth wounds)) :
    Always (fun resolution => resolution.encounter.At index (Combatant.IsDying depth wounds))
      encounter.resolve := by
  obtain ⟨combatant, found, is⟩ := is
  have resolves := ((resolve_diesFrom rule.keyed).and encounter.resolve_framed).and
    (resolve_byRule rule)
  refine resolves.mono fun resolution facts => ?_
  obtain ⟨⟨dies, framed⟩, still⟩ := facts
  have place := congrArg (·[index]?) framed.profiles
  simp only [List.getElem?_map, found, Option.map_some] at place
  obtain ⟨self, there, same⟩ := Option.map_eq_some_iff.mp place
  have profile := congrArg Combatant.id same
  have named : self.id = combatant.id := profile
  -- Whoever has the condition does not begin to die once more.
  have dying : (resolution.encounter.afflictionsOf self.id).get? Condition.dying.id
      = (encounter.afflictionsOf combatant.id).get? Condition.dying.id := by
    rw [named]
    rcases dies.dying combatant.id with kept | ⟨well, _⟩
    · exact kept
    · have has := is.dying
      rw [show (encounter.afflictionsOf combatant.id).has Condition.dying.id = false from
        congrArg Option.isSome well] at has
      cases has
  have has := (congrArg Option.isSome dying).trans is.dying
  obtain ⟨player, alive, _⟩ := (still.each index self there).down has
  refine ⟨self, there, is.of_same ?_ dying ?_⟩
  · exact (Combatant.isDead_of_player player).trans alive
  · rw [named]
    exact dies.wounds combatant.id

/-- Only the opening of a round changes anything for those who are dying. -/
theorem answer_keepsDying {encounter : Encounter} (rule : encounter.ByRule)
    {index depth wounds : Nat} (is : encounter.At index (Combatant.IsDying depth wounds))
    {request : Request} (inside : request.intervenes = false) (later : request.opensRound = false) :
    Always (fun after => after.At index (Combatant.IsDying depth wounds))
      (encounter.answer request) := by
  refine answer_frame request (fun points opens => ?_) (fun _ => resolve_keepsDying rule is)
    (fun _ _ _ _ => is) (fun intervenes => ?_) (fun _ _ => is)
  · subst opens
    cases later
  · rw [inside] at intervenes
    cases intervenes

section Runs

variable {σ : Type} [RandomSource σ]

theorem isChecked_of_dying {encounter : Encounter} (rule : encounter.ByRule)
    {index depth wounds : Nat} {combatant : Combatant}
    (found : encounter.combatants[index]? = some combatant)
    (is : combatant.IsDying depth wounds (encounter.afflictionsOf combatant.id)) :
    combatant.isChecked (encounter.afflictionsOf combatant.id) = true := by
  have same := (rule.each index combatant found).tick_same Condition.dying.id (.inl rfl)
  have has := (congrArg Option.isSome same).trans is.dying
  rw [Combatant.isChecked, Combatant.isAlive, is.alive]
  exact has

/-- The check of a combatant decides how its chain goes on. -/
theorem openRound_fate {encounter : Encounter} (rule : encounter.ByRule) (fair : FairChecks σ)
    {index depth wounds : Nat} (is : encounter.At index (Combatant.IsDying depth wounds))
    (points : Count) (source : σ) :
    let roll := (rollDie checkDie (afterChecks (encounter.checksBefore index) source)).1
    ((encounter.openRound points).run source).1.2.At index (Combatant.Fate roll depth wounds) := by
  obtain ⟨combatant, found, is⟩ := is
  have ruled := rule.each index combatant found
  obtain ⟨_, each⟩ := openRound_rolls rule.distinct points source
  obtain ⟨there, conditions⟩ := each index combatant found (isChecked_of_dying rule found is)
  -- The check comes after the count of durations, which neither condition has.
  have ticked : combatant.IsDying depth wounds (encounter.afflictionsOf combatant.id).tick.2 :=
    is.of_same is.alive (ruled.tick_same _ (.inl rfl)) (ruled.tick_same _ (.inr rfl))
  rw [rule.codex] at there conditions
  refine ⟨_, there, ?_⟩
  rw [Combatant.id_recover, conditions]
  exact (ruled.tick.recovers _).fate ruled.tick ticked (fair _).2

/-! ### Rows of requests -/

/-- How many of some requests open a round. -/
def openings (requests : List Request) : Nat := requests.countP Request.opensRound

theorem openings_cons (request : Request) (rest : List Request) :
    openings (request :: rest) = openings [request] + openings rest := by
  rw [openings, ← List.singleton_append, List.countP_append]
  rfl

/-- No opening at all is few enough for every chain. -/
theorem openings_nil_lt (depth : Nat) : openings [] < max 1 (4 - depth) :=
  Nat.lt_of_lt_of_le Nat.one_pos (Nat.le_max_left ..)

/-- The encounter after the first of some requests. -/
def afterFirst (encounter : Encounter) (requests : List Request) (source : σ) (count : Nat) :
    Encounter :=
  ((play (requests.take count) encounter).run source).1

theorem answer_openRound (encounter : Encounter) (points : Count) (source : σ) :
    ((encounter.answer (.openRound points)).run source).1
      = ((encounter.openRound points).run source).1.2 := by
  simp only [answer, run_bind]
  rfl

theorem afterFirst_cons (encounter : Encounter) (request : Request) (rest : List Request)
    (source : σ) (count : Nat) :
    encounter.afterFirst (request :: rest) source (count + 1)
      = ((encounter.answer request).run source).1.afterFirst rest
          ((encounter.answer request).run source).2 count := by
  simp only [afterFirst, List.take_succ_cons, play, run_bind]

/-- Through the first of some requests a combatant gets a stack with every opening. -/
def Declines (encounter : Encounter) (requests : List Request) (source : σ)
    (index depth wounds count : Nat) : Prop :=
  ∀ n ≤ count, (encounter.afterFirst requests source n).At index
    (Combatant.IsDying (depth + openings (requests.take n)) wounds)

/-- A combatant is dying through all requests, or until an opening that ends its chain. -/
inductive Chain (encounter : Encounter) (requests : List Request) (source : σ)
    (index depth wounds : Nat) : Prop
  | goesOn (few : openings requests < max 1 (4 - depth))
      (declines : encounter.Declines requests source index depth wounds requests.length)
  | ends {count : Nat} {points : Count} (opens : requests[count]? = some (.openRound points))
      (few : openings (requests.take count) < max 1 (4 - depth))
      (declines : encounter.Declines requests source index depth wounds count)
      (left : (encounter.afterFirst requests source (count + 1)).At index
          (Combatant.HasRecovered wounds) ∨
        (encounter.afterFirst requests source (count + 1)).At index Combatant.HasDied)

theorem Declines.cons {encounter : Encounter} {request : Request} {rest : List Request}
    {source : σ} {index depth wounds count : Nat}
    (is : encounter.At index (Combatant.IsDying depth wounds))
    (later : ((encounter.answer request).run source).1.Declines rest
      ((encounter.answer request).run source).2 index (depth + openings [request]) wounds count) :
    encounter.Declines (request :: rest) source index depth wounds (count + 1) := by
  intro n most
  cases n with
  | zero => exact is
  | succ n =>
    rw [afterFirst_cons, List.take_succ_cons, openings_cons, ← Nat.add_assoc]
    exact later n (Nat.le_of_succ_le_succ most)

theorem Chain.cons {encounter : Encounter} {request : Request} {rest : List Request}
    {source : σ} {index depth wounds : Nat}
    (is : encounter.At index (Combatant.IsDying depth wounds))
    (short : openings [request] = 0 ∨ openings [request] = 1 ∧ depth + 1 < 4)
    (later : ((encounter.answer request).run source).1.Chain rest
      ((encounter.answer request).run source).2 index (depth + openings [request]) wounds) :
    encounter.Chain (request :: rest) source index depth wounds := by
  cases later with
  | goesOn few declines =>
    refine .goesOn ?_ (declines.cons is)
    rw [openings_cons]
    omega
  | @ends count points opens few declines left =>
    refine .ends (show (request :: rest)[count + 1]? = _ from opens) ?_ (declines.cons is) ?_
    · rw [List.take_succ_cons, openings_cons]
      omega
    · rw [afterFirst_cons]
      exact left

theorem declines_zero {encounter : Encounter} {index depth wounds : Nat}
    (is : encounter.At index (Combatant.IsDying depth wounds)) (requests : List Request)
    (source : σ) : encounter.Declines requests source index depth wounds 0 := by
  intro n none
  obtain rfl := Nat.le_zero.mp none
  exact is

theorem Chain.now {encounter : Encounter} {points : Count} {rest : List Request} {source : σ}
    {index depth wounds : Nat} (is : encounter.At index (Combatant.IsDying depth wounds))
    (left : ((encounter.openRound points).run source).1.2.At index
        (Combatant.HasRecovered wounds) ∨
      ((encounter.openRound points).run source).1.2.At index Combatant.HasDied) :
    encounter.Chain (.openRound points :: rest) source index depth wounds := by
  refine .ends (show (Request.openRound points :: rest)[0]? = _ from rfl)
    (openings_nil_lt depth) (declines_zero is _ source) ?_
  rw [afterFirst_cons, answer_openRound]
  exact left

/-- Every opening is a step down the chain or the last one. -/
theorem chain_of_byRule {encounter : Encounter} (rule : encounter.ByRule) (fair : FairChecks σ)
    {index depth wounds : Nat} (is : encounter.At index (Combatant.IsDying depth wounds))
    {requests : List Request} (inside : ∀ request ∈ requests, request.intervenes = false)
    (source : σ) : encounter.Chain requests source index depth wounds := by
  -- Requests change the encounter, the source and the stacks; the wounds stay.
  induction requests generalizing encounter source depth with
  | nil => exact .goesOn (openings_nil_lt depth) (declines_zero is [] source)
  | cons request rest ih =>
    have calm := inside request List.mem_cons_self
    have still := (answer_byRule rule calm).run source
    have others : ∀ other ∈ rest, other.intervenes = false := fun other member =>
      inside other (List.mem_cons_of_mem _ member)
    cases opens : request.opensRound with
    | false =>
      have none : openings [request] = 0 := by simp [openings, opens]
      have kept := (answer_keepsDying rule is calm opens).run source
      refine .cons is (.inl none) (ih still ?_ others _)
      rw [none]
      exact kept
    | true =>
      obtain ⟨points, rfl⟩ := Request.eq_openRound opens
      obtain ⟨combatant, there, fate⟩ := openRound_fate rule fair is points source
      cases fate with
      | recovered high recovered => exact .now is (.inl ⟨combatant, there, recovered⟩)
      | died low last died => exact .now is (.inr ⟨combatant, there, died⟩)
      | worse low more dying =>
        refine .cons is (.inr ⟨rfl, more⟩) (ih still ?_ others _)
        rw [answer_openRound]
        exact ⟨combatant, there, dying⟩

/-! ### From the beginning -/

theorem begin_byRule {setup : Setup} (distinct : (setup.combatants.map Combatant.id).Nodup)
    (core : setup.codex = Codex.core) : (begin setup).ByRule where
  distinct := nodup_ids_begin distinct
  codex := core
  each index combatant found := by
    rw [afflictionsOf_begin]
    exact Combatant.byRule_of_well rfl (Nat.zero_le _) fun _ never => by cases never

/--
In every run with the built-in conditions, in which nobody gives or takes conditions
from outside, and with every honest die: whoever is dying makes exactly one check when a
round is opened, which is the one after those of the dying in front of it. The check
decides between recovery with a wound, one more stack, and death at the fourth.
Nothing else changes the stacks or the wounds. So the chain ends, with one of the first
openings, in recovery or death, and as long as it has not ended every opening has
added one stack.
-/
theorem play_chain {setup : Setup} {before : List Request}
    (distinct : (setup.combatants.map Combatant.id).Nodup) (core : setup.codex = Codex.core)
    (inside : ∀ request ∈ before, request.intervenes = false) (fair : FairChecks σ) (start : σ) :
    let encounter := ((play before (begin setup)).run start).1
    ∀ index depth wounds : Nat, encounter.At index (Combatant.IsDying depth wounds) →
      (∀ (points : Count) (source : σ),
        let opened := (encounter.openRound points).run source
        let roll := (rollDie checkDie (afterChecks (encounter.checksBefore index) source)).1
        opened.2 = afterChecks (encounter.checksBefore encounter.combatants.length) source ∧
        encounter.checksBefore (index + 1) = encounter.checksBefore index + 1 ∧
        opened.1.2.At index (Combatant.Fate roll depth wounds)) ∧
      ∀ requests : List Request, (∀ request ∈ requests, request.intervenes = false) →
        ∀ source : σ, encounter.Chain requests source index depth wounds := by
  have rule := (play_byRule (begin_byRule distinct core) inside).run start
  intro encounter index depth wounds is
  refine ⟨fun points source => ⟨?_, ?_, openRound_fate rule fair is points source⟩, ?_⟩
  · exact (openRound_rolls rule.distinct points source).1
  · obtain ⟨combatant, found, dying⟩ := is
    exact checksBefore_succ found (isChecked_of_dying rule found dying)
  · exact fun requests calm source => chain_of_byRule rule fair is calm source

/-! ### A player that dies -/

def sampleFall : Setup :=
  { room := "cellar"
    zone := "house"
    combatants := [
      { id := "ann", name := "Ann", side := .player, maxHp := 6, hp := 6, armorClass := 12 },
      { id := "rat", name := "Rat", side := .npc, maxHp := 30, hp := 30, armorClass := 9 }] }

/-- A round in which the rat attacks. -/
def sampleRound : List Request := [.openRound 3, .commit "rat" (.attack "Ann"), .resolve]

/-- The fight after its first round. -/
def sampleFallen : Encounter := ((play sampleRound (begin sampleFall)).run (⟨15⟩ : Fixed)).1

def sampleOpenings : List Request := [.openRound 3, .openRound 3, .openRound 3]

/-- Three openings end the chain, whatever is rolled; here by death. -/
theorem play_chain_sample :
    (sampleFall.combatants.map Combatant.id).Nodup ∧ sampleFall.codex = Codex.core ∧
    (∀ request ∈ sampleRound, request.intervenes = false) ∧ FairChecks Fixed ∧
    sampleFallen.At 0 (Combatant.IsDying 1 0) ∧
    ∃ count < 3,
      (sampleFallen.afterFirst sampleOpenings (⟨0⟩ : Fixed) (count + 1)).At 0
          (Combatant.HasRecovered 0) ∨
        (sampleFallen.afterFirst sampleOpenings (⟨0⟩ : Fixed) (count + 1)).At 0
          Combatant.HasDied := by
  have distinct : (sampleFall.combatants.map Combatant.id).Nodup := by decide
  have inside : ∀ request ∈ sampleRound, request.intervenes = false := by decide
  have calm : ∀ request ∈ sampleOpenings, request.intervenes = false := by decide
  have stood : (sampleFallen.combatants[0]?).map (fun ann => (ann.isDead,
      (sampleFallen.afflictionsOf ann.id).has Condition.dying.id,
      ((sampleFallen.afflictionsOf ann.id).stackOf Condition.dying.id).toNat,
      ((sampleFallen.afflictionsOf ann.id).stackOf Condition.wounded.id).toNat))
        = some (false, true, 1, 0) := by decide +kernel
  obtain ⟨ann, found, facts⟩ := Option.map_eq_some_iff.mp stood
  simp only [Prod.mk.injEq] at facts
  obtain ⟨alive, dying, depth, wounds⟩ := facts
  have is : sampleFallen.At 0 (Combatant.IsDying 1 0) :=
    ⟨ann, found, alive, dying, depth, wounds⟩
  have chain := (play_chain distinct rfl inside Fixed.fairChecks (⟨15⟩ : Fixed) 0 1 0 is).2
    sampleOpenings calm ⟨0⟩
  refine ⟨distinct, rfl, inside, Fixed.fairChecks, is, ?_⟩
  cases chain with
  | goesOn few _ => exact absurd few (by decide)
  | @ends count _ opens _ _ left =>
    obtain ⟨short, _⟩ := List.getElem?_eq_some_iff.mp opens
    exact ⟨count, short, left⟩

/--
In every run with the built-in conditions, in which nobody gives or takes conditions
from outside, nobody has more than four stacks of dying, and those who have four of
them are those who are dying with three wounds.
-/
theorem play_lastStack {setup : Setup} {requests : List Request}
    (distinct : (setup.combatants.map Combatant.id).Nodup) (core : setup.codex = Codex.core)
    (inside : ∀ request ∈ requests, request.intervenes = false) (source : σ) :
    let encounter := ((play requests (begin setup)).run source).1
    ∀ combatant ∈ encounter.combatants,
      (encounter.afflictionsOf combatant.id).stackOf Condition.dying.id ≤ deathStacks ∧
      (deathStacks ≤ (encounter.afflictionsOf combatant.id).stackOf Condition.dying.id ↔
        encounter.hasCondition combatant.id Condition.dying.id = true ∧
        (encounter.afflictionsOf combatant.id).stackOf Condition.wounded.id = 3) := by
  have rule := (play_byRule (begin_byRule distinct core) inside).run source
  intro encounter combatant member
  obtain ⟨index, found⟩ := List.mem_iff_getElem?.mp member
  exact (rule.each index combatant found).lastStack

/-! ### A player that goes down again and again -/

/-- The same round four times. -/
def sampleRelapses : List Request := sampleRound ++ sampleRound ++ sampleRound ++ sampleRound

def sampleRelapsed : Encounter := ((play sampleRelapses (begin sampleFall)).run (⟨15⟩ : Fixed)).1

/-- The four stacks come from three wounds. -/
theorem play_lastStack_sample :
    (sampleFall.combatants.map Combatant.id).Nodup ∧ sampleFall.codex = Codex.core ∧
    (∀ request ∈ sampleRelapses, request.intervenes = false) ∧
    ∃ ann ∈ sampleRelapsed.combatants, ann.isDead = false ∧
      (sampleRelapsed.afflictionsOf ann.id).stackOf Condition.wounded.id = 3 := by
  have distinct : (sampleFall.combatants.map Combatant.id).Nodup := by decide
  have inside : ∀ request ∈ sampleRelapses, request.intervenes = false := by decide
  have stood : (sampleRelapsed.combatants[0]?).map (fun ann => (ann.isDead,
      decide (deathStacks ≤ (sampleRelapsed.afflictionsOf ann.id).stackOf Condition.dying.id)))
        = some (false, true) := by decide +kernel
  obtain ⟨ann, found, facts⟩ := Option.map_eq_some_iff.mp stood
  obtain ⟨alive, full⟩ := Prod.mk.inj facts
  have member := List.mem_of_getElem? found
  have wounds := ((play_lastStack distinct rfl inside (⟨15⟩ : Fixed) ann member).2.mp
    (of_decide_eq_true full)).2
  exact ⟨distinct, rfl, inside, ann, member, alive, wounds⟩

/-- Who goes down for the fourth time has four stacks at once, and lives. -/
theorem play_lastStack_alive :
    (sampleFall.combatants.map Combatant.id).Nodup ∧
    (∀ combatant ∈ sampleFall.combatants,
      combatant.isDead = false ∧ 1 ≤ combatant.hp ∧ combatant.hp = combatant.maxHp) ∧
    sampleFall.codex = Codex.core ∧ sampleFall.hooks = Hooks.none ∧
    (∀ request ∈ sampleRelapses, request.isOfRounds = true) ∧
    ∃ combatant ∈ sampleRelapsed.combatants, combatant.isDead = false ∧
      deathStacks ≤ (sampleRelapsed.afflictionsOf combatant.id).stackOf Condition.dying.id := by
  refine ⟨by decide, by decide, rfl, rfl, by decide, ?_⟩
  decide +kernel

end Runs

end Encounter

end Fray
