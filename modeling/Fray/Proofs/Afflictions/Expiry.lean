import Fray.Proofs.Afflictions.Stacks

/-!
# When conditions run out

A condition that counts rounds is applied when it was absent, and again while it is there.
Every application lasts its rounds from then on, and one round at least; the condition ends
when the last of them does, and the tick that ends it reports it. A condition without a
countdown, or one that does not count rounds, outlasts every tick.

An application cannot end a condition, but it can bring the end nearer: one without a
countdown gets the countdown of the application.

## Main results

`has_afterAll_iff`: how long an entry lasts, over any steps that do not take it away.
`afterAll_expires` adds when it is reported, and what is never reported.
`apply_outlasts` compares a condition with the same one applied once more.
-/

namespace Fray

namespace Afflictions

variable {set : Afflictions} {id : String}

/-! ### Ticks and ends -/

/-- What runs out is what a tick takes away. -/
theorem mem_tick_iff :
    id ∈ set.tick.1 ↔ set.has id = true ∧ set.tick.2.has id = false := by
  constructor
  · intro lapsed
    obtain ⟨affliction, found, -⟩ := mem_tick.mp lapsed
    exact ⟨congrArg Option.isSome found, congrArg Option.isSome (get?_tick_of_mem lapsed)⟩
  · rintro ⟨there, gone⟩
    -- A condition that does not run out is only counted down, so it would still be there.
    by_contra lasts
    have stays := congrArg Option.isSome (get?_tick_of_not_mem lasts)
    rw [Option.isSome_map] at stays
    exact Bool.false_ne_true (gone.symm.trans (stays.trans there))

/-- The number of rounds that pass. -/
def ticks (steps : List Step) : Nat := steps.count .tick

/-- The ticks at which the applications of a condition end, when some have passed before. -/
def ends (id : String) : Nat → List Step → List Nat
  | _, [] => []
  | passed, .apply condition _ duration :: rest =>
    if condition.id = id then
      (duration.map fun rounds => passed + max rounds.toNat 1).toList ++ ends id passed rest
    else ends id passed rest
  | passed, .remove _ :: rest => ends id passed rest
  | passed, .tick :: rest => ends id (passed + 1) rest

/-- Whether a condition is never removed, and applied only while it is there. -/
def isUnbroken (id : String) : Afflictions → List Step → Bool
  | _, [] => true
  | set, .apply condition stack duration :: rest =>
    (condition.id != id || set.has id) && isUnbroken id (set.apply condition stack duration) rest
  | set, .remove other :: rest => other != id && isUnbroken id (set.erase other) rest
  | set, .tick :: rest => isUnbroken id set.tick.2 rest

@[simp] theorem ticks_nil : ticks [] = 0 := rfl

@[simp] theorem ticks_cons_tick (rest : List Step) : ticks (.tick :: rest) = ticks rest + 1 := by
  simp [ticks]

@[simp] theorem ticks_cons_apply (condition : Condition) (stack : Count) (duration : Option Count)
    (rest : List Step) : ticks (.apply condition stack duration :: rest) = ticks rest := by
  simp [ticks]

@[simp] theorem ticks_cons_remove (other : String) (rest : List Step) :
    ticks (.remove other :: rest) = ticks rest := by
  simp [ticks]

@[simp] theorem ticks_append (early late : List Step) :
    ticks (early ++ late) = ticks early + ticks late := List.count_append ..

theorem isUnbroken_append (set : Afflictions) (early late : List Step) :
    isUnbroken id set (early ++ late)
      = (isUnbroken id set early && isUnbroken id (set.afterAll early) late) := by
  induction early generalizing set with
  | nil => rfl
  | cons step rest ih =>
    cases step with
    | apply => simp only [List.cons_append, isUnbroken, ih, Bool.and_assoc, afterAll_cons, after]
    | remove => simp only [List.cons_append, isUnbroken, ih, Bool.and_assoc, afterAll_cons, after]
    | tick => simp only [List.cons_append, isUnbroken, ih, afterAll_cons, after]

/-- What is absent stays absent where nothing brings it back. -/
theorem get?_afterAll_of_isUnbroken {steps : List Step} (passed : Nat)
    (absent : set.get? id = none) (unbroken : isUnbroken id set steps = true) :
    ends id passed steps = [] ∧ (set.afterAll steps).get? id = none := by
  induction steps generalizing set passed with
  | nil => exact ⟨rfl, absent⟩
  | cons step rest ih =>
    -- An application would need the condition to be there.
    have away : set.has id = false := congrArg Option.isSome absent
    cases step with
    | apply condition stack duration =>
      simp only [isUnbroken, away, Bool.or_false, Bool.and_eq_true, bne_iff_ne] at unbroken
      rw [ends, if_neg unbroken.1]
      refine ih passed ?_ unbroken.2
      rwa [after, get?_apply, if_neg (Ne.symm unbroken.1)]
    | remove other =>
      simp only [isUnbroken, Bool.and_eq_true] at unbroken
      refine ih passed ?_ unbroken.2
      rw [after, Table.get?_erase, absent, ite_self]
    | tick =>
      refine ih (passed + 1) ?_ unbroken
      rw [after, get?_tick, absent]
      rfl

/-! ### How long an entry lasts -/

theorem get?_apply_again {affliction : Affliction} {condition : Condition}
    (found : set.get? condition.id = some affliction) (stack : Count) (duration : Option Count) :
    (set.apply condition stack duration).get? condition.id
      = some (affliction.again condition stack duration) := by
  rw [get?_apply, if_pos rfl, found]

/-- A countdown ends at one, and at zero just so. -/
theorem get?_tick_counted {affliction : Affliction} {left : Count}
    (found : set.get? id = some affliction) (rounds : affliction.condition.lasting = .rounds)
    (counted : affliction.left = some left) :
    set.tick.2.get? id =
      if left.toNat ≤ 1 then none else some { affliction with left := some (left - 1) } := by
  have short : left - 1 = 0 ↔ left.toNat ≤ 1 := by
    have one := Count.toNat_one
    have zero : (0 : Count).toNat = 0 := rfl
    rw [Count.ext_iff, Count.toNat_sub, one, zero]
    omega
  rw [get?_tick, found, Option.map_some, Affliction.countdown, if_pos rounds, counted]
  simp only [Option.map_some, Option.filter_some, Affliction.isOver, rounds, Option.some.injEq,
    short, decide_true, Bool.true_and, Bool.not_eq_true', decide_eq_false_iff_not, ite_not]

theorem le_foldl_max (first : Nat) (rest : List Nat) : first ≤ rest.foldl max first := by
  induction rest generalizing first with
  | nil => exact Nat.le_refl _
  | cons second rest ih => exact Nat.le_trans (Nat.le_max_left ..) (ih _)

/-- An entry that counts rounds lasts until the latest of its ends. -/
theorem has_afterAll_iff {affliction : Affliction} {left : Count} {early late : List Step}
    (passed : Nat) (found : set.get? id = some affliction)
    (rounds : affliction.condition.lasting = .rounds) (counted : affliction.left = some left)
    (unbroken : isUnbroken id set (early ++ late) = true) :
    (set.afterAll early).has id = true ↔
      passed + ticks early
        < (ends id passed (early ++ late)).foldl max (passed + max left.toNat 1) := by
  -- The countdown of the entry stands for the ends so far, and `late` for those to come.
  induction early generalizing set affliction left passed with
  | nil =>
    have now := le_foldl_max (passed + max left.toNat 1) (ends id passed late)
    have there : set.has id = true := congrArg Option.isSome found
    simp only [afterAll_nil, there, ticks_nil, List.nil_append, true_iff]
    omega
  | cons step rest ih =>
    cases step with
    | apply condition stack duration =>
      simp only [List.cons_append, isUnbroken, Bool.and_eq_true] at unbroken
      simp only [List.cons_append, afterAll_cons, after, ticks_cons_apply]
      by_cases own : condition.id = id
      · subst own
        have renewed := get?_apply_again found stack duration
        rw [ends, if_pos rfl]
        cases duration with
        | none =>
          have kept : longer affliction.left none = some left := by
            rw [counted]
            rfl
          exact ih passed renewed rounds kept unbroken.2
        | some more =>
          have longest : longer affliction.left (some more) = some (max left more) := by
            rw [counted]
            rfl
          have latest : max (passed + max left.toNat 1) (passed + max more.toNat 1)
              = passed + max (max left more).toNat 1 := by
            rw [Count.toNat_max]
            omega
          rw [Option.map_some, Option.toList_some, List.singleton_append, List.foldl_cons, latest]
          exact ih passed renewed rounds longest unbroken.2
      · rw [ends, if_neg own]
        refine ih passed ?_ rounds counted unbroken.2
        rw [get?_apply, if_neg (Ne.symm own), found]
    | remove other =>
      simp only [List.cons_append, isUnbroken, Bool.and_eq_true, bne_iff_ne] at unbroken
      simp only [List.cons_append, afterAll_cons, after, ticks_cons_remove, ends]
      refine ih passed ?_ rounds counted unbroken.2
      rw [Table.get?_erase, if_neg (Ne.symm unbroken.1), found]
    | tick =>
      simp only [List.cons_append, isUnbroken] at unbroken
      simp only [List.cons_append, afterAll_cons, after, ticks_cons_tick, ends]
      have ticked := get?_tick_counted found rounds counted
      by_cases short : left.toNat ≤ 1
      · -- The condition ends here, so nothing that follows is about it.
        rw [if_pos short] at ticked
        have nothing := (get?_afterAll_of_isUnbroken (passed + 1) ticked unbroken).1
        rw [isUnbroken_append, Bool.and_eq_true] at unbroken
        have gone : (set.tick.2.afterAll rest).has id = false :=
          congrArg Option.isSome (get?_afterAll_of_isUnbroken passed ticked unbroken.1).2
        rw [gone, nothing, List.foldl_nil]
        simp only [Bool.false_eq_true, false_iff]
        omega
      -- The countdown falls as the ticks that have passed rise, so the end stays where it is.
      · rw [if_neg short] at ticked
        have lasts := ih (passed + 1) ticked rounds rfl unbroken
        have one := Count.toNat_one
        rw [Count.toNat_sub, one] at lasts
        rw [← Nat.add_assoc, Nat.add_right_comm, lasts]
        rw [show passed + 1 + max (left.toNat - 1) 1 = passed + max left.toNat 1 by omega]

/-! ### Entries without an end -/

/-- No application gives the condition an end: it counts no rounds, or none are asked for. -/
def IsTimeless (id : String) (steps : List Step) : Prop :=
  (∀ condition stack duration, .apply condition stack duration ∈ steps → condition.id = id →
    condition.lasting ≠ .rounds) ∨
  ∀ condition stack duration, .apply condition stack duration ∈ steps → condition.id = id →
    duration = none

theorem endless_of_isTimeless {steps : List Step} (absent : set.get? id = none)
    (timeless : IsTimeless id steps) {affliction : Affliction}
    (found : (set.afterAll steps).get? id = some affliction)
    (rounds : affliction.condition.lasting = .rounds) : affliction.left = none := by
  have start (property : Affliction → Prop) :
      set.Each fun name affliction => name = id → property affliction := by
    rintro name affliction there rfl
    cases absent.symm.trans there
  -- The two ways to be timeless are kept apart: an application gives a countdown to the entry
  -- that is there, whose condition is that of the first application.
  rcases timeless with others | never
  · have each := (start (·.condition.lasting ≠ .rounds)).afterAll
      (fun condition stack duration member =>
        ⟨others condition stack duration member, fun _ other => other⟩)
      (fun name affliction other => affliction.condition_countdown.symm ▸ other)
    exact absurd rounds (each id affliction found rfl)
  · refine (start (·.left = none)).afterAll (fun condition stack duration member => ?_)
      (fun name affliction endless own => ?_) id affliction found rfl
    · constructor
      · intro own
        exact never condition stack duration member own
      · intro affliction endless own
        rw [Affliction.again, endless own, never condition stack duration member own, longer]
    · rw [(Affliction.countdown_endless fun _ => endless own).1]
      exact endless own

/-! ### The law of expiry -/

/-- A condition lasts until a tick, counted from some ticks before these steps, and that tick
alone reports it. -/
structure Expires (id : String) (set : Afflictions) (passed last : Nat) (steps : List Step) :
    Prop where
  lasts : ∀ early, early <+: steps → passed + ticks early < last →
    (set.afterAll early).has id = true
  gone : ∀ early, early <+: steps → last ≤ passed + ticks early →
    (set.afterAll early).has id = false
  told : ∀ early, early ++ [.tick] <+: steps →
    (id ∈ (set.afterAll early).tick.1 ↔ passed + ticks early + 1 = last)

/-- When a condition is reported follows from when it is there. -/
theorem expires_of_has_iff {passed last : Nat} {steps : List Step}
    (there : ∀ early, early <+: steps →
      ((set.afterAll early).has id = true ↔ passed + ticks early < last)) :
    Expires id set passed last steps where
  lasts early cut := (there early cut).mpr
  gone early cut ended := by
    rw [Bool.eq_false_iff, Ne, there early cut]
    omega
  told early cut := by
    have before := there early ((List.prefix_append ..).trans cut)
    have after := there _ cut
    rw [afterAll_concat, ticks_append, ticks_cons_tick, ticks_nil] at after
    rw [mem_tick_iff, Bool.eq_false_iff, before]
    constructor
    · rintro ⟨now, gone⟩
      have ended := mt after.mpr gone
      omega
    · intro last
      refine ⟨by omega, fun there => ?_⟩
      have earlier := after.mp there
      omega

/--
Whatever is done to a set, a condition that was absent and counts rounds is there from its
first application until the last of its applications has lasted its rounds, each for one round
at least, if it is not removed and not applied after its end; and the tick that ends it, and no
other, reports it. What is done about other conditions does not matter. A condition that does
not count rounds, or is never applied for a number of them, is neither taken away nor reported
by any tick. The report of a tick has the conditions that the tick takes away, in order and
each of them once.
-/
theorem afterAll_expires {set : Afflictions} {id : String} (absent : set.has id = false) :
    (∀ condition stack rounds rest passed, condition.id = id → condition.lasting = .rounds →
      isUnbroken id (set.apply condition stack (some rounds)) rest = true →
        ∃ last, (ends id passed (.apply condition stack (some rounds) :: rest)).max? = some last ∧
          Expires id (set.apply condition stack (some rounds)) passed last rest) ∧
    (∀ steps, IsTimeless id steps →
      id ∉ (set.afterAll steps).tick.1 ∧
        (set.afterAll steps).tick.2.get? id = (set.afterAll steps).get? id) ∧
    ∀ other : Afflictions, other.tick.1.Pairwise (· < ·) ∧
      ∀ name, name ∈ other.tick.1 ↔ other.has name = true ∧ other.tick.2.has name = false := by
  have gone : set.get? id = none := Option.not_isSome_iff_eq_none.mp (Bool.eq_false_iff.mp absent)
  refine ⟨?_, ?_, fun other => ⟨Table.sorted_keys _, fun name => mem_tick_iff⟩⟩
  · intro condition stack rounds rest passed same counts unbroken
    have entry := get?_apply_new same gone stack (some rounds)
    have greatest : (ends id passed (.apply condition stack (some rounds) :: rest)).max?
        = some ((ends id passed rest).foldl max (passed + max rounds.toNat 1)) := by
      rw [ends, if_pos same, Option.map_some, Option.toList_some, List.singleton_append,
        List.max?_cons']
    refine ⟨_, greatest, expires_of_has_iff fun early cut => ?_⟩
    obtain ⟨late, rfl⟩ := cut
    exact has_afterAll_iff passed entry counts rfl unbroken
  · intro steps timeless
    have still := get?_tick_endless fun _ found => endless_of_isTimeless gone timeless found
    refine ⟨fun lapsed => ?_, still⟩
    obtain ⟨there, away⟩ := mem_tick_iff.mp lapsed
    rw [has, Table.contains, still] at away
    exact Bool.false_ne_true (away.symm.trans there)

/-- A fright that is renewed before it ends, by one that ends sooner and by one that ends
later, while its victim is stunned for a shorter time. -/
def sampleRenewals : List Step :=
  [.apply .frightened 1 (some 3), .apply .stunned 1 (some 1), .tick, .apply .frightened 1 (some 1),
    .remove "prone", .tick, .apply .frightened 0 none, .apply .frightened 2 (some 0), .tick, .tick]

/-- The fright comes at the second tick of its victim's history, first for no rounds at all. -/
theorem afterAll_expires_sample :
    Afflictions.has (afterAll .empty [.apply .prone 1 none, .tick, .tick]) "frightened" = false ∧
    (∃ last, (ends "frightened" 2 (.apply .frightened 1 (some 0) :: sampleRenewals)).max?
        = some last ∧ last = 5 ∧
      Expires "frightened" ((afterAll .empty [.apply .prone 1 none, .tick, .tick]).apply
        .frightened 1 (some 0)) 2 last sampleRenewals) ∧
    "prone" ∉ (afterAll .empty [.apply .prone 1 (some 1)]).tick.1 := by
  have absent : Afflictions.has (afterAll .empty [.apply .prone 1 none, .tick, .tick]) "frightened"
      = false := by decide +kernel
  obtain ⟨last, greatest, expires⟩ := (afterAll_expires absent).1 .frightened 1 0 sampleRenewals 2
    rfl rfl (by decide +kernel)
  have five : (ends "frightened" 2 (.apply .frightened 1 (some 0) :: sampleRenewals)).max?
      = some 5 := by decide +kernel
  refine ⟨absent, ⟨last, greatest, Option.some.inj (greatest.symm.trans five), expires⟩, ?_⟩
  have standing : Afflictions.has (.empty : Afflictions) "prone" = false := rfl
  refine ((afterAll_expires standing).2.1 [.apply .prone 1 (some 1)] (.inl ?_)).1
  rintro condition stack duration member -
  cases List.mem_singleton.mp member
  decide

/-! ### Applied once more -/

/-- Rounds in which nothing is done. -/
def idle (count : Nat) : List Step := List.replicate count .tick

theorem ends_idle (id : String) (passed count : Nat) : ends id passed (idle count) = [] := by
  induction count generalizing passed with
  | zero => rfl
  | succ count ih => exact ih (passed + 1)

theorem ticks_idle (count : Nat) : ticks (idle count) = count := List.count_replicate_self

theorem isUnbroken_idle (id : String) (set : Afflictions) (count : Nat) :
    isUnbroken id set (idle count) = true := by
  induction count generalizing set with
  | zero => rfl
  | succ count ih => exact ih set.tick.2

theorem get?_afterAll_idle {affliction : Affliction} (found : set.get? id = some affliction)
    (endless : affliction.condition.lasting = .rounds → affliction.left = none) (count : Nat) :
    (set.afterAll (idle count)).get? id = some affliction := by
  induction count generalizing set with
  | zero => exact found
  | succ count ih =>
    refine ih ((get?_tick_endless fun other there => ?_).trans found)
    cases found.symm.trans there
    exact endless

end Afflictions

/-- Whether an affliction is still there after some rounds in which nothing is done. -/
def Affliction.outlasts (affliction : Affliction) (count : Nat) : Bool :=
  affliction.condition.lasting ≠ .rounds || affliction.left.all fun left => count < max left.toNat 1

theorem Affliction.outlasts_iff {affliction : Affliction} {count : Nat} :
    affliction.outlasts count = true ↔
      (affliction.condition.lasting = .rounds →
        ∀ left, affliction.left = some left → count < max left.toNat 1) := by
  simp only [outlasts, Bool.or_eq_true, Option.all_eq_true, decide_eq_true_eq, ne_eq,
    ← imp_iff_not_or]

namespace Afflictions

variable {set : Afflictions} {id : String} {affliction : Affliction}

theorem has_afterAll_idle (found : set.get? id = some affliction) (count : Nat) :
    (set.afterAll (idle count)).has id = affliction.outlasts count := by
  have stays (endless : affliction.condition.lasting = .rounds → affliction.left = none) :
      (set.afterAll (idle count)).has id = true :=
    congrArg Option.isSome (get?_afterAll_idle found endless count)
  rw [Bool.eq_iff_iff, Affliction.outlasts_iff]
  by_cases rounds : affliction.condition.lasting = .rounds
  · cases counted : affliction.left with
    | none => exact iff_of_true (stays fun _ => counted) fun _ _ => nofun
    | some left =>
      have unbroken : isUnbroken id set (idle count ++ []) = true :=
        (List.append_nil _).symm ▸ isUnbroken_idle id set count
      have lasts := has_afterAll_iff 0 found rounds counted unbroken
      rw [List.append_nil, ends_idle, List.foldl_nil, Nat.zero_add, Nat.zero_add, ticks_idle]
        at lasts
      simp only [lasts, rounds, forall_const, Option.some.injEq, forall_eq']
  · exact iff_of_true (stays fun counts => absurd counts rounds) fun counts =>
      absurd counts rounds

/-- The stacks stay the same as long as the condition is there. -/
theorem stackOf_afterAll_idle (found : set.get? id = some affliction) (count : Nat) :
    (set.afterAll (idle count)).stackOf id
      = if affliction.outlasts count then affliction.stack else 0 := by
  have start : set.Each fun name other => name = id → other.stack = affliction.stack := by
    rintro name other there rfl
    cases found.symm.trans there
    rfl
  have each : (set.afterAll (idle count)).Each
      fun name other => name = id → other.stack = affliction.stack :=
    start.afterAll (by simp [idle]) fun name other same => other.stack_countdown.symm ▸ same
  rw [← has_afterAll_idle found count]
  unfold stackOf has Table.contains
  cases later : (set.afterAll (idle count)).get? id with
  | none => rfl
  | some other => exact each id other later rfl

/--
A condition that would still be there after some rounds is applied once more first. Then it is
there after them all the same, unless it has no countdown although it counts rounds: in this
case it is gone if the new application is for no more rounds than these, where none count
for one.
-/
theorem apply_outlasts {set : Afflictions} {condition : Condition} {present : Affliction}
    (found : set.get? condition.id = some present) {count : Nat}
    (lasts : (set.afterAll (idle count)).has condition.id = true)
    (stack : Count) (duration : Option Count) :
    ((set.apply condition stack duration).afterAll (idle count)).has condition.id = false ↔
      present.condition.lasting = .rounds ∧ present.left = none ∧
        ∃ rounds, duration = some rounds ∧ max rounds.toNat 1 ≤ count := by
  rw [has_afterAll_idle found, Affliction.outlasts_iff] at lasts
  rw [has_afterAll_idle (get?_apply_again found stack duration), Bool.eq_false_iff, Ne,
    Affliction.outlasts_iff]
  simp only [Affliction.again]
  constructor
  · intro gone
    obtain ⟨counts, left, longest, few⟩ : present.condition.lasting = .rounds ∧
        ∃ left, longer present.left duration = some left ∧ max left.toNat 1 ≤ count := by
      simpa only [not_forall, Nat.not_lt, exists_prop] using gone
    -- A countdown that is there is not shortened, and would have lasted.
    cases before : present.left with
    | none =>
      rw [before] at longest
      exact ⟨counts, rfl, left, longest, few⟩
    | some rounds =>
      have enough := lasts counts rounds before
      rw [before] at longest
      cases duration with
      | none =>
        cases longest
        omega
      | some more =>
        cases longest
        rw [Count.toNat_max] at few
        omega
  · rintro ⟨counts, before, rounds, rfl, few⟩ stays
    have enough := stays counts rounds (before ▸ rfl)
    omega

/-- A fright without an end. -/
def sampleFright : Afflictions := .apply .empty .frightened 1 none

/-- The fright outlasts two rounds if it is applied again for three, and not if for two. -/
theorem apply_outlasts_sample :
    (sampleFright.afterAll (idle 2)).has "frightened" = true ∧
    ((sampleFright.apply .frightened 1 (some 3)).afterAll (idle 2)).has "frightened" ≠ false ∧
    ((sampleFright.apply .frightened 1 (some 2)).afterAll (idle 2)).has "frightened" = false := by
  have lasts : (sampleFright.afterAll (idle 2)).has "frightened" = true := by decide +kernel
  have found : sampleFright.get? Condition.frightened.id = some (.new .frightened 1 none) := rfl
  refine ⟨lasts, ?_, ?_⟩
  · intro gone
    obtain ⟨-, -, rounds, same, few⟩ := (apply_outlasts found lasts 1 (some 3)).mp gone
    cases same
    exact absurd few (by decide)
  · exact (apply_outlasts found lasts 1 (some 2)).mpr ⟨rfl, rfl, 2, rfl, by decide⟩

/-- A fright without an end is over after one round if it is applied again for that round. -/
theorem apply_outlasts_cut :
    ¬ ∀ (set : Afflictions) (condition : Condition) (stack : Count) (duration : Option Count)
      (count : Nat), set.has condition.id = true →
        (set.afterAll (idle count)).has condition.id = true →
          ((set.apply condition stack duration).afterAll (idle count)).has condition.id = true :=
  fun never => absurd
    (never sampleFright .frightened 1 (some 1) 1 (by decide +kernel) (by decide +kernel))
    (by decide +kernel)

end Afflictions

end Fray
