import Fray.Proofs.Encounter.Coverage
import Fray.Proofs.Round.Ebb
import Fray.Proofs.Round.Works

/-!
# Intact encounters

Whatever is asked of an encounter, its parts go on fitting together: everybody has one
place, one set of conditions and at most one queue, each under the right name, and no
more hit points than it may have. Hit points come back only to those who recover from
dying when a round is opened.

## Main results

`Coherent.answer`: every request keeps the parts of an encounter coherent. `answer_raises`:
what has happened to whoever has more hit points after a request. `Reached.intact` puts
both together for every reachable encounter.
-/

namespace Fray

open Draws

/-! ### Sets of conditions -/

/-- Every condition of a set is entered under its own name. -/
def Afflictions.Named (set : Afflictions) : Prop :=
  ∀ id affliction, set.get? id = some affliction → affliction.condition.id = id

namespace Afflictions.Named

variable {set : Afflictions}

/-- A condition that is applied again stays the one that is there. -/
theorem apply (named : set.Named) (condition : Condition) (stack : Count)
    (duration : Option Count) : (set.apply condition stack duration).Named :=
  Each.apply named rfl fun _ same => same

theorem applyKnown (named : set.Named) (codex : Codex) (id : String) (stack : Count) :
    (set.applyKnown codex id stack).Named := by
  unfold Afflictions.applyKnown
  split
  · exact named.apply _ stack none
  · exact named

theorem erase (named : set.Named) (id : String) : Named (Table.erase set id) :=
  Each.erase named id

theorem tick (named : set.Named) : Named set.tick.2 :=
  Each.tick named fun _ before same => before.condition_countdown.symm ▸ same

end Afflictions.Named

theorem Combatant.Opens.named {codex : Codex} {combatant : Combatant} {set : Afflictions}
    {opening : Opening} (opens : combatant.Opens codex set opening) (named : set.Named) :
    opening.afflictions.Named :=
  opens.keeps (fun _ named => named.erase _)
    (fun _ id stack _ named => named.applyKnown codex id stack) (fun _ named => named.tick) named

/-! ### Hit points at the opening of a round -/

namespace Combatant

/-- A recovery check gives hit points only where it succeeds, and then one at most. -/
theorem hp_recover (combatant : Combatant) (set : Afflictions) (codex : Codex) (roll : Score) :
    (combatant.recover set codex roll).combatant.hp ≤ combatant.hp ∨
      recoveryDifficulty ≤ roll ∧ (combatant.recover set codex roll).combatant.hp ≤ 1 := by
  have capped : min (1 : Count) combatant.maxHp ≤ 1 := by
    rw [Count.le_iff, Count.toNat_min]
    exact Nat.min_le_left _ _
  simp only [recover]
  split
  next full =>
    have more : recoveryDifficulty ≤ fullRecovery := by decide
    exact .inr ⟨Int.le_trans more full, capped⟩
  · split
    next enough => exact .inr ⟨enough, capped⟩
    · split
      · exact .inl (Nat.zero_le _)
      · exact .inl (Nat.le_refl _)

/-- Somebody who was down has recovered from dying by a check, and has one hit point. -/
structure Revived (codex : Codex) (combatant : Combatant) (set : Afflictions)
    (left : Combatant) : Prop where
  alive : combatant.isDead = false
  down : combatant.hp = 0
  dying : set.tick.2.has Condition.dying.id = true
  recovers : ∃ roll, recoveryDifficulty ≤ roll ∧
    left = (combatant.recover set.tick.2 codex roll).combatant
  one : left.hp = 1

theorem Opens.revived {codex : Codex} {combatant : Combatant} {set : Afflictions}
    {opening : Opening} (opens : combatant.Opens codex set opening)
    (rises : combatant.hp < opening.combatant.hp) :
    Revived codex combatant set opening.combatant := by
  cases opens with
  | dead _ => exact absurd rises (Nat.lt_irrefl _)
  | counted _ _ => exact absurd rises (Nat.lt_irrefl _)
  | checked alive dying roll =>
    have fewer : combatant.hp.toNat
        < (combatant.recover set.tick.2 codex roll).combatant.hp.toNat := rises
    rcases combatant.hp_recover set.tick.2 codex roll with falls | ⟨enough, few⟩
    · exact absurd fewer (Nat.not_lt.mpr falls)
    · have most : (combatant.recover set.tick.2 codex roll).combatant.hp.toNat ≤ 1 := few
      clear rises
      refine ⟨alive, Count.ext ?_, dying, ⟨roll, enough, rfl⟩, Count.ext ?_⟩
      · show combatant.hp.toNat = 0
        omega
      · show (combatant.recover set.tick.2 codex roll).combatant.hp.toNat = 1
        omega

theorem Opens.health {codex : Codex} {combatant : Combatant} {set : Afflictions}
    {opening : Opening} (opens : combatant.Opens codex set opening)
    (health : combatant.hp ≤ combatant.maxHp) :
    opening.combatant.hp ≤ opening.combatant.maxHp := by
  cases opens with
  | dead _ => exact health
  | counted _ _ => exact health
  | checked _ _ roll =>
    have capped : min (1 : Count) combatant.maxHp ≤ combatant.maxHp := by
      rw [Count.le_iff, Count.toNat_min]
      exact Nat.min_le_right _ _
    simp only [recover]
    split
    · exact capped
    · split
      · exact capped
      · split
        · exact Nat.zero_le _
        · exact health

end Combatant

/-! ### What a round leaves intact -/

namespace Encounter

/-- All conditions of everybody are entered under their own names. -/
def Named (encounter : Encounter) : Prop := ∀ id, (encounter.afflictionsOf id).Named

/-- Nobody changes but for the worse, and conditions stay under their names. -/
structure Wears (before after : Encounter) : Prop where
  stands : ∀ (index : Nat) (combatant : Combatant), before.combatants[index]? = some combatant →
    ∃ left, after.combatants[index]? = some left ∧ left.profile = combatant.profile ∧
      left.hp ≤ combatant.hp
  named : before.Named → after.Named

theorem Wears.of_same {before after : Encounter} (combatants : after.combatants = before.combatants)
    (named : before.Named → after.Named) : Wears before after where
  stands _ combatant found := ⟨combatant, combatants ▸ found, rfl, Nat.le_refl _⟩
  named := named

theorem Wears.trans {first second third : Encounter} (one : Wears first second)
    (two : Wears second third) : Wears first third where
  stands index combatant found := by
    obtain ⟨middle, there, named, less⟩ := one.stands index combatant found
    obtain ⟨left, here, same, least⟩ := two.stands index middle there
    exact ⟨left, here, same.trans named, Nat.le_trans least less⟩
  named start := two.named (one.named start)

variable {encounter : Encounter}

theorem Named.afflict {afflicted : Encounter} {id condition : String} {stack : Count}
    {duration : Option Count} (named : encounter.Named)
    (accepted : encounter.afflict id condition stack duration = .ok afflicted) :
    afflicted.Named :=
  afflict_sets accepted (fun known _ _ held => held.apply known stack duration) named

end Encounter

namespace Scene

open Encounter

theorem named_carries :
    Carries (fun _ => True) fun before after => before.Named → after.Named :=
  .of_conditions (fun one two named => two (one named)) (fun _ _ => trivial)
    (fun _ _ same named id => same id ▸ named id) fun _ _ accepted named => named.afflict accepted

/-- No guard is needed, since conditions are entered under names that they bring along. -/
theorem wears_carries : Carries (fun _ => True) Wears where
  refl _ _ := .of_same rfl id
  trans := .trans
  guarded _ _ := trivial
  ask _ _ _ := .of_same rfl id
  reload _ index :=
    ⟨(changeAt_ebbs _ index Combatant.profile_reload fun _ => Nat.le_refl _).stands, id⟩
  fire _ index :=
    ⟨(changeAt_ebbs _ index Combatant.profile_fire fun _ => Nat.le_refl _).stands, id⟩
  hurt {scene} holds target damage :=
    ⟨(hurt_ebbs scene target damage).stands, named_carries.hurt holds target damage⟩
  swing holds attacker defender outcome :=
    .of_same (combatants_afterSwing ..) (named_carries.swing holds attacker defender outcome)
  die holds target := .of_same (combatants_beginDying ..) (named_carries.die holds target)

end Scene

namespace Encounter

theorem resolve_wears (encounter : Encounter) :
    Always (fun resolution => Wears encounter resolution.encounter) encounter.resolve :=
  encounter.resolve_reaches.mono fun _ reached => Scene.wears_carries.reaches reached trivial

variable {encounter : Encounter}

/-! ### Coherence -/

/-- The parts of an encounter fit together. -/
structure Coherent (encounter : Encounter) : Prop where
  health : ∀ combatant ∈ encounter.combatants, combatant.hp ≤ combatant.maxHp
  sets : ∀ id, encounter.afflictions.contains id = true ↔ id ∈ encounter.ids
  named : encounter.Named
  queues : ∀ id queue, encounter.queues.get? id = some queue →
    id ∈ encounter.ids ∧ queue.combatant = id

theorem coherent_begin {setup : Setup}
    (health : ∀ combatant ∈ setup.combatants, combatant.hp ≤ combatant.maxHp) :
    (begin setup).Coherent where
  health combatant member := health combatant ((sortByInitiative_perm _).mem_iff.mp member)
  sets id := by
    constructor
    · intro inside
      obtain ⟨set, found⟩ := Option.isSome_iff_exists.mp inside
      obtain ⟨combatant, member, entered⟩ := List.mem_map.mp (Table.mem_of_get?_ofList found)
      exact List.mem_map.mpr ⟨combatant, member, congrArg Prod.fst entered⟩
    · intro listed
      obtain ⟨combatant, member, rfl⟩ := List.mem_map.mp listed
      exact Table.isSome_get?_ofList (List.mem_map.mpr ⟨combatant, member, rfl⟩)
  named id := by
    rw [afflictionsOf_begin]
    exact Afflictions.each_empty
  queues _ _ found := by cases found

/-- An opening sees to everybody and to nobody else. -/
theorem Coherent.openRound (coherent : encounter.Coherent) (distinct : encounter.ids.Nodup)
    (points : Count) :
    Always (fun result => result.2.Coherent) (encounter.openRound points) := by
  have opens := encounter.openRound_opens points
  unfold Encounter.openRound at opens ⊢
  rw [always_bind] at opens ⊢
  have sets : Always (fun opened => ∀ id, (opened.afflictions.conditionsOf id).Named)
      (openAll encounter.codex encounter.combatants encounter.afflictions) :=
    openAll_sets (fun _ _ _ opens => opens.named) encounter.combatants coherent.named
  have all := openAll_opens encounter.codex encounter.combatants encounter.afflictions distinct
  refine ((opens.and sets).and all).mono fun opened facts => ?_
  obtain ⟨⟨opens, named⟩, openings, all⟩ := facts
  have opens : OpensRound encounter _ := opens
  constructor
  · intro combatant member
    obtain ⟨before, listed, opening, opens, rfl, _⟩ := all.of_mem member
    exact opens.health (coherent.health before listed)
  · intro id
    rw [opens.ids]
    constructor
    · intro inside
      by_contra outside
      rw [Table.contains, all.others id outside] at inside
      exact outside ((coherent.sets id).mp inside)
    · intro listed
      exact all.contains id ((coherent.sets id).mpr listed)
  · exact named
  · intro id queue present
    obtain ⟨⟨combatant, member, _, rfl⟩, rfl⟩ := freshQueues_iff.mp present
    exact ⟨List.mem_map_of_mem member, rfl⟩

theorem Coherent.commit {committed : Encounter} {id : String} {action : Action}
    (coherent : encounter.Coherent) (accepted : encounter.commit id action = .ok committed) :
    committed.Coherent := by
  obtain ⟨queue, longer, present, _, enqueued, rfl⟩ := commit_cases accepted
  refine { coherent with queues := fun other found there => ?_ }
  simp only [Table.get?_insert] at there
  split at there
  next same =>
    cases there
    obtain ⟨known, owner⟩ := coherent.queues id queue present
    rw [same, Queue.enqueue_eq enqueued]
    exact ⟨known, owner⟩
  · exact coherent.queues other found there

/-- A set of conditions that is entered for somebody who has one already. -/
theorem Coherent.insert (coherent : encounter.Coherent) {id : String} {set : Afflictions}
    (present : encounter.afflictions.contains id = true) (named : set.Named) :
    Coherent { encounter with afflictions := encounter.afflictions.insert id set } := by
  refine { coherent with sets := fun other => ?_, named := fun other => ?_ }
  · show (encounter.afflictions.insert id set).contains other = true ↔ other ∈ encounter.ids
    rw [Table.contains_insert, Bool.or_eq_true, decide_eq_true_eq, coherent.sets]
    refine ⟨fun either => ?_, .inr⟩
    rcases either with rfl | known
    · exact (coherent.sets other).mp present
    · exact known
  · simp only [afflictionsOf, Table.get?_insert]
    split
    · exact named
    · exact coherent.named other

theorem Coherent.afflict (coherent : encounter.Coherent) (id condition : String) (stack : Count)
    (duration : Option Count) :
    (encounter.orKeep (encounter.afflict id condition stack duration)).Coherent := by
  unfold Encounter.afflict
  split
  · exact coherent
  next known _ =>
    split
    · exact coherent
    next set present =>
      have inside : encounter.afflictions.contains id = true := congrArg Option.isSome present
      have own : encounter.afflictionsOf id = set := by
        rw [afflictionsOf, present, Option.getD_some]
      have named : set.Named := own ▸ coherent.named id
      exact coherent.insert inside (named.apply known stack duration)

theorem Coherent.relieve (coherent : encounter.Coherent) (id condition : String) :
    (encounter.orKeep (encounter.relieve id condition)).Coherent := by
  unfold Encounter.relieve
  split
  · exact coherent
  next set present =>
    have inside : encounter.afflictions.contains id = true := congrArg Option.isSome present
    have own : encounter.afflictionsOf id = set := by
      rw [afflictionsOf, present, Option.getD_some]
    have named : set.Named := own ▸ coherent.named id
    exact coherent.insert inside (named.erase condition)

theorem Coherent.resolve (coherent : encounter.Coherent) :
    Always (fun resolution => resolution.encounter.Coherent) encounter.resolve := by
  refine (encounter.resolve_framed.and encounter.resolve_wears).mono fun resolution both => ?_
  obtain ⟨framed, wears⟩ := both
  constructor
  · intro left member
    obtain ⟨index, there⟩ := List.mem_iff_getElem?.mp member
    obtain ⟨combatant, stood, _⟩ := framed.stood there
    obtain ⟨same, here, named, less⟩ := wears.stands index combatant stood
    cases there.symm.trans here
    have most : left.maxHp = combatant.maxHp := (congrArg Combatant.maxHp named :)
    have health := coherent.health combatant (List.mem_of_getElem? stood)
    rw [most]
    exact Nat.le_trans less health
  · intro id
    rw [framed.afflicted, framed.ids]
    exact coherent.sets id
  · exact wears.named coherent.named
  · rw [framed.queues, framed.ids]
    exact coherent.queues

theorem Coherent.answer (coherent : encounter.Coherent) (distinct : encounter.ids.Nodup)
    (request : Request) : Always Coherent (encounter.answer request) := by
  cases request with
  | openRound points =>
    simp only [Encounter.answer]
    rw [always_bind]
    exact coherent.openRound distinct points
  | commit id action =>
    show Coherent (encounter.orKeep _)
    cases answered : encounter.commit id action with
    | error refusal => exact coherent
    | ok committed => exact coherent.commit answered
  | resolve =>
    simp only [Encounter.answer]
    rw [always_bind]
    exact coherent.resolve
  | afflict id condition stack duration => exact coherent.afflict id condition stack duration
  | relieve id condition => exact coherent.relieve id condition
  | currentTurn =>
    show Coherent (seekTurn _ encounter).2
    rw [seekTurn_same]
    exact { coherent with }
  | advanceTurn => exact { coherent with }

theorem Reached.coherent {setup : Setup} {reports : List (String × Count)}
    (reached : Reached setup reports encounter)
    (distinct : (setup.combatants.map Combatant.id).Nodup)
    (health : ∀ combatant ∈ setup.combatants, combatant.hp ≤ combatant.maxHp) :
    encounter.Coherent := by
  have kept := Reached.induction (fun current => current.ids.Nodup ∧ current.Coherent) reached
    ⟨nodup_ids_begin distinct, coherent_begin health⟩ (fun current request holds => ?_)
    fun _ holds => ⟨holds.1, { holds.2 with }⟩
  · exact kept.2
  · obtain ⟨apart, coherent⟩ := holds
    have answered := (answer_same current request).and (coherent.answer apart request)
    refine answered.mono fun after both => ?_
    obtain ⟨same, still⟩ := both
    exact ⟨same.ids ▸ apart, still⟩

/-! ### Gains of hit points -/

/-- Hit points rise only at the opening of a round, and only those of the dying who recover. -/
def Raises (request : Request) (before after : Encounter) : Prop :=
  ∀ (index : Nat) (combatant left : Combatant), before.combatants[index]? = some combatant →
    after.combatants[index]? = some left → combatant.hp < left.hp →
      request.opensRound = true ∧
        combatant.Revived before.codex (before.afflictionsOf combatant.id) left

theorem raises_of_same {before after : Encounter} (request : Request)
    (same : after.combatants = before.combatants) : Raises request before after := by
  intro index combatant left stood there rises
  rw [same] at there
  cases stood.symm.trans there
  exact absurd rises (Nat.lt_irrefl _)

theorem answer_raises (distinct : encounter.ids.Nodup) (request : Request) :
    Always (Raises request encounter) (encounter.answer request) := by
  refine answer_frame request (fun points opens => ?opens) (fun _ => ?resolves)
    (fun _ _ _ _ => raises_of_same _ rfl) (fun _ _ => raises_of_same _ rfl)
    (fun _ _ => raises_of_same _ rfl)
  case opens =>
    subst opens
    unfold Encounter.openRound
    rw [always_bind]
    refine (openAll_opens encounter.codex encounter.combatants encounter.afflictions
      distinct).mono fun opened facts index combatant left stood there rises => ?_
    obtain ⟨openings, all⟩ := facts
    have there : opened.combatants[index]? = some left := there
    rw [all.combatants, List.getElem?_map] at there
    obtain ⟨opening, listed, rfl⟩ := Option.map_eq_some_iff.mp there
    -- The openings stand in the order of those who are opened.
    obtain ⟨inside, rfl⟩ := List.getElem?_eq_some_iff.mp stood
    obtain ⟨within, rfl⟩ := List.getElem?_eq_some_iff.mp listed
    obtain ⟨opens, _⟩ := all.each.get inside within
    exact ⟨rfl, opens.revived rises⟩
  case resolves =>
    refine encounter.resolve_wears.mono fun resolution wears => ?_
    intro index combatant left stood there rises
    obtain ⟨same, here, _, less⟩ := wears.stands index combatant stood
    cases here.symm.trans there
    exact absurd rises (Nat.not_lt.mpr less)

/-! ### Reachable encounters -/

/-- An encounter is intact if its parts are those of the setup and fit together. -/
structure Intact (setup : Setup) (encounter : Encounter) : Prop where
  health : ∀ combatant ∈ encounter.combatants, combatant.hp ≤ combatant.maxHp
  /-- A person is a combatant apart from its hit points, its mark of death and its loaded rounds. -/
  persons : encounter.combatants.map Combatant.person
    = (sortByInitiative setup.combatants).map Combatant.person
  complete : (encounter.combatants.map Combatant.person).Perm
    (setup.combatants.map Combatant.person)
  ordered : encounter.combatants.Pairwise fun early late => late.initiative ≤ early.initiative
  ties : ∀ value : Score,
    (encounter.combatants.filter (·.initiative = value)).map Combatant.person
      = (setup.combatants.filter (·.initiative = value)).map Combatant.person
  sets : encounter.afflictions.keys.Perm encounter.ids
  named : ∀ id set condition affliction, encounter.afflictions.get? id = some set →
    set.get? condition = some affliction → affliction.condition.id = condition
  queues : ∀ id queue, encounter.queues.get? id = some queue →
    id ∈ encounter.ids ∧ queue.combatant = id

/-- Initiative belongs to the person. -/
theorem filter_person (combatants : List Combatant) (value : Score) :
    (combatants.filter (·.initiative = value)).map Combatant.person
      = (combatants.map Combatant.person).filter (·.initiative = value) := by
  rw [List.filter_map]
  rfl

theorem intact_of_coherent {setup : Setup} (coherent : encounter.Coherent)
    (distinct : encounter.ids.Nodup)
    (persons : encounter.combatants.map Combatant.person
      = (sortByInitiative setup.combatants).map Combatant.person) : Intact setup encounter where
  health := coherent.health
  persons := persons
  complete := by
    rw [persons]
    exact (sortByInitiative_perm setup.combatants).map Combatant.person
  ordered := by
    have sorted := pairwise_sortByInitiative setup.combatants
    have mapped : ((sortByInitiative setup.combatants).map Combatant.person).Pairwise
        fun early late => late.initiative ≤ early.initiative := List.pairwise_map.mpr sorted
    rw [← persons] at mapped
    exact List.pairwise_map.mp mapped
  ties value := by
    rw [filter_person, persons, ← filter_person, filter_sortByInitiative]
  sets := by
    refine (List.perm_ext_iff_of_nodup (Table.nodup_keys _) distinct).mpr fun id => ?_
    rw [Table.mem_keys, coherent.sets]
  named id set condition affliction present found := by
    have own : encounter.afflictionsOf id = set := by
      rw [afflictionsOf, present, Option.getD_some]
    have named : set.Named := own ▸ coherent.named id
    exact named condition affliction found
  queues := coherent.queues

/--
Begin with combatants of distinct names who have no more hit points than they may have, and
ask for anything, with any rules, hooks and sources. Then hit points are still within
their bounds, and the combatants are the persons of the setup in the order of their
initiative, in the order of the setup where it is the same. Everybody has one set of
conditions, in which each is entered under its own name, and whoever has a queue is a
combatant and owns it. Whatever is asked next, who gains hit points was down and dying,
and has recovered by a check with one hit point when a round was opened.
-/
theorem Reached.intact {setup : Setup} {reports : List (String × Count)}
    (reached : Reached setup reports encounter)
    (distinct : (setup.combatants.map Combatant.id).Nodup)
    (health : ∀ combatant ∈ setup.combatants, combatant.hp ≤ combatant.maxHp) :
    Intact setup encounter ∧
      ∀ request, Always (Raises request encounter) (encounter.answer request) := by
  have apart := reached.distinct distinct
  have coherent := reached.coherent distinct health
  exact ⟨intact_of_coherent coherent apart reached.same.1, answer_raises apart⟩

/-! ### Back on her feet -/

def sampleAlley : Setup :=
  { room := "cellar"
    zone := "house"
    combatants := [
      { id := "ann", name := "Ann", side := .player, maxHp := 6, hp := 6, armorClass := 9 },
      { id := "rat", name := "Rat", side := .npc, maxHp := 9, hp := 9, armorClass := 9,
        initiative := 4 }] }

/-- The rat acts first, and strikes Ann down. -/
def sampleMugging : List Request := [.openRound 3, .commit "rat" (.strike "Ann"), .resolve]

def sampleMugged : Encounter := ((play sampleMugging (begin sampleAlley)).run (⟨15⟩ : Fixed)).1

/-- Ann has come to when the next round is open, since she was down and dying. -/
theorem intact_sample :
    (sampleAlley.combatants.map Combatant.id).Nodup ∧
    (∀ combatant ∈ sampleAlley.combatants, combatant.hp ≤ combatant.maxHp) ∧
    (∃ reports, Reached sampleAlley reports sampleMugged) ∧
    Intact sampleAlley sampleMugged ∧
    sampleMugged.ids = ["rat", "ann"] ∧
    ∃ ann left, sampleMugged.combatants[1]? = some ann ∧
      ((sampleMugged.answer (.openRound 3)).run (⟨15⟩ : Fixed)).1.combatants[1]? = some left ∧
      ann.Revived sampleMugged.codex (sampleMugged.afflictionsOf ann.id) left := by
  have distinct : (sampleAlley.combatants.map Combatant.id).Nodup := by decide +kernel
  have health : ∀ combatant ∈ sampleAlley.combatants, combatant.hp ≤ combatant.maxHp := by
    decide +kernel
  have arrived : ∃ reports, Reached sampleAlley reports sampleMugged :=
    reached_play sampleAlley sampleMugging (⟨15⟩ : Fixed)
  obtain ⟨reports, reached⟩ := arrived
  have facts := reached.intact distinct health
  have order : sampleMugged.ids = ["rat", "ann"] := by decide +kernel
  have stood : (sampleMugged.combatants[1]?).map (·.hp.toNat) = some 0 := by decide +kernel
  have stands : (((sampleMugged.answer (.openRound 3)).run (⟨15⟩ : Fixed)).1.combatants[1]?).map
      (·.hp.toNat) = some 1 := by decide +kernel
  obtain ⟨ann, there, none⟩ := Option.map_eq_some_iff.mp stood
  obtain ⟨left, here, one⟩ := Option.map_eq_some_iff.mp stands
  have rises : ann.hp.toNat < left.hp.toNat := by omega
  have raises := (facts.2 (.openRound 3)).run (⟨15⟩ : Fixed)
  exact ⟨distinct, health, ⟨reports, reached⟩, facts.1, order, ann, left, there, here,
    (raises 1 ann left there here rises).2⟩

end Encounter

end Fray
