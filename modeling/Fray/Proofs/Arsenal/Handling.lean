import Fray.Arsenal.Loadout
import Mathlib.Algebra.GroupWithZero.Nat
import Mathlib.Algebra.Order.Group.Nat

/-!
# Loadouts in use

Whatever is done with a loadout, what is in the hand was valid when it was taken up, and
a firearm has as many rounds as fit into it, less those that were taken out since it was
taken up or reloaded.

A definition that passes its checks has room in its magazine, so that taking it up fails
for no other reason than those checks (`Held.new_eq`). The number of rounds is a balance
over the uses that succeeded, which every use keeps (`Held.Sound`).

## Main result

`afterAll_handled`: what is in the hand after any row of uses, and what fails next.
-/

namespace Fray

/-! ### Taking a weapon up -/

theorem Arsenal.problems_eq_nil {checks : List (Bool × String)} :
    problems checks = [] ↔ ∀ check ∈ checks, check.1 = false := by
  simp [problems, List.filter_eq_nil_iff]

namespace Weapon

variable {weapon : Weapon}

theorem validate_eq_ok : weapon.validate = .ok () ↔ weapon.problems = [] := by
  unfold validate
  cases weapon.problems <;> simp

theorem validate_eq_error {fault : Arsenal.Fault} :
    weapon.validate = .error fault ↔
      weapon.problems ≠ [] ∧ fault = .invalidWeapon weapon.id weapon.problems := by
  unfold validate
  cases weapon.problems <;> simp [eq_comm]

/-- The last of the checks of a definition is about its magazine. -/
theorem capacity_pos (valid : weapon.validate = .ok ()) (firearm : weapon.isFirearm = true) :
    0 < weapon.magazineCapacity.toNat := by
  have passed := Arsenal.problems_eq_nil.mp (validate_eq_ok.mp valid)
  simp only [List.forall_mem_cons, firearm, Bool.true_and, decide_eq_false_iff_not] at passed
  exact Nat.pos_of_ne_zero fun zero => passed.2.2.2.2.1 (Count.ext zero)

end Weapon

/-- A full magazine for a weapon. -/
def Magazine.full (weapon : Weapon) : Magazine :=
  ⟨weapon.id, weapon.magazineCapacity, weapon.magazineCapacity⟩

/-- A valid weapon as it is taken up. -/
def Held.ready (weapon : Weapon) : Held :=
  ⟨weapon, if weapon.isFirearm then some (.full weapon) else none⟩

/-- Only the checks of the definition can fail; its magazine is never too small. -/
theorem Held.new_eq (weapon : Weapon) : Held.new weapon = weapon.validate.map fun _ => ready weapon := by
  unfold Held.new
  cases valid : weapon.validate with
  | error fault => rfl
  | ok passed =>
    show (if weapon.isFirearm = true then _ else _) = Except.ok (ready weapon)
    split
    next firearm =>
      have room : weapon.magazineCapacity ≠ 0 := by
        intro zero
        have positive := Weapon.capacity_pos valid firearm
        rw [zero] at positive
        exact absurd positive (Nat.lt_irrefl 0)
      simp only [Magazine.new, if_neg room, ready, if_pos firearm]
      rfl
    next other => simp only [ready, if_neg other]; rfl

namespace Loadout

/-! ### Uses -/

/-- What can be done with a loadout. -/
inductive Use where
  | equip (weapon : Weapon)
  | unequip
  | consume (rounds : Count)
  | reload

/-- What a use comes to; nothing if it needs a magazine and there is none. -/
def attempt (loadout : Loadout) : Use → Option (Except Arsenal.Fault Loadout)
  | .equip weapon => some (loadout.equip weapon)
  | .unequip => some (.ok loadout.unequip)
  | .consume rounds => loadout.consume? rounds
  | .reload => loadout.magazine?.map fun _ => .ok loadout.reload

/-- The loadout after a use; one that fails leaves it as it is. -/
def after (loadout : Loadout) (use : Use) : Loadout :=
  match loadout.attempt use with
  | some (.ok changed) => changed
  | some (.error _) | none => loadout

def afterAll (loadout : Loadout) (uses : List Use) : Loadout := uses.foldl after loadout

/-- Those of a row of uses that succeed, in order. -/
def successesOf (loadout : Loadout) : List Use → List Use
  | [] => []
  | use :: rest =>
    match loadout.attempt use with
    | some (.ok changed) => use :: changed.successesOf rest
    | some (.error _) | none => loadout.successesOf rest

namespace Use

/-- Whether a use fills a magazine, a new one or the one that is there. -/
def fills : Use → Bool
  | equip _ | reload => true
  | unequip | consume _ => false

/-- The rounds that a use takes out. -/
def rounds : Use → Nat
  | consume rounds => rounds.toNat
  | equip _ | unequip | reload => 0

/-- What is in the hand after a use of what was there. -/
def holding : Option Weapon → Use → Option Weapon
  | _, equip weapon => some weapon
  | _, unequip => none
  | held, consume _ | held, reload => held

end Use

/-- The weapon that was taken up last, unless it was put away. -/
def heldAfter (successes : List Use) : Option Weapon := successes.foldl Use.holding none

/-- All rounds that were taken out since a magazine was filled. -/
def spentSince (successes : List Use) : Nat :=
  ((successes.reverse.takeWhile (!·.fills)).map Use.rounds).sum

theorem heldAfter_concat (successes : List Use) (use : Use) :
    heldAfter (successes ++ [use]) = Use.holding (heldAfter successes) use := by
  rw [heldAfter, List.foldl_append]
  rfl

theorem spentSince_of_fills {use : Use} (fills : use.fills = true) (successes : List Use) :
    spentSince (successes ++ [use]) = 0 := by
  simp [spentSince, fills]

theorem spentSince_concat {use : Use} (keeps : use.fills = false) (successes : List Use) :
    spentSince (successes ++ [use]) = use.rounds + spentSince successes := by
  simp [spentSince, keeps]

end Loadout

/-! ### The balance of a magazine -/

/-- A magazine of a weapon, with all rounds in it but those that were taken out. -/
structure Magazine.Feeds (magazine : Magazine) (weapon : Weapon) (spent : Nat) : Prop where
  owner : magazine.weapon = weapon.id
  capacity : magazine.capacity = weapon.magazineCapacity
  roomy : 0 < magazine.capacity.toNat
  balance : magazine.loaded.toNat + spent = magazine.capacity.toNat

/-- A valid weapon in the hand, with a magazine just if it is a firearm. -/
structure Held.Sound (held : Held) (spent : Nat) : Prop where
  valid : held.weapon.validate = .ok ()
  armed : held.magazine.isSome = held.weapon.isFirearm
  feeds : ∀ magazine ∈ held.magazine, magazine.Feeds held.weapon spent

theorem Held.ready_sound {weapon : Weapon} (valid : weapon.validate = .ok ()) :
    (ready weapon).Sound 0 where
  valid := valid
  armed := by
    unfold ready
    cases weapon.isFirearm <;> rfl
  feeds := by
    intro magazine there
    unfold ready at there
    split at there
    next firearm =>
      cases there
      exact ⟨rfl, rfl, Weapon.capacity_pos valid firearm, rfl⟩
    · cases there

/-- The weapon stays when its magazine is changed. -/
theorem Held.Sound.change {held : Held} {spent later : Nat} {change : Magazine → Magazine}
    (sound : held.Sound spent)
    (keeps : ∀ magazine ∈ held.magazine, magazine.Feeds held.weapon spent →
      (change magazine).Feeds held.weapon later) :
    Held.Sound { held with magazine := held.magazine.map change } later where
  valid := sound.valid
  armed := Option.isSome_map.trans sound.armed
  feeds := by
    intro changed there
    obtain ⟨magazine, inside, rfl⟩ := Option.map_eq_some_iff.mp there
    exact keeps magazine inside (sound.feeds magazine inside)

theorem Magazine.Feeds.reload {magazine : Magazine} {weapon : Weapon} {spent : Nat}
    (feeds : magazine.Feeds weapon spent) : magazine.reload.Feeds weapon 0 :=
  ⟨feeds.owner, feeds.capacity, feeds.roomy, rfl⟩

theorem Magazine.consume_eq_ok {magazine used : Magazine} {rounds : Count} :
    magazine.consume rounds = .ok used ↔
      rounds ≤ magazine.loaded ∧ used = { magazine with loaded := magazine.loaded - rounds } := by
  unfold consume
  split
  next enough => simp [enough, eq_comm]
  next few => simp [few]

theorem Magazine.consume_eq_error {magazine : Magazine} {rounds : Count} {fault : Arsenal.Fault} :
    magazine.consume rounds = .error fault ↔
      magazine.loaded < rounds ∧ fault = .insufficientRounds rounds magazine.loaded := by
  unfold consume
  simp only [Count.lt_iff, Count.le_iff, ← Nat.not_le]
  split
  next enough => simp [enough]
  next few => simp [few, eq_comm]

theorem Magazine.Feeds.consume {magazine used : Magazine} {weapon : Weapon} {spent : Nat}
    {rounds : Count} (feeds : magazine.Feeds weapon spent)
    (taken : magazine.consume rounds = .ok used) : used.Feeds weapon (rounds.toNat + spent) := by
  obtain ⟨enough, rfl⟩ := consume_eq_ok.mp taken
  have less : rounds.toNat ≤ magazine.loaded.toNat := enough
  have balance := feeds.balance
  refine ⟨feeds.owner, feeds.capacity, feeds.roomy, ?_⟩
  show (magazine.loaded - rounds).toNat + (rounds.toNat + spent) = magazine.capacity.toNat
  rw [Count.toNat_sub]
  omega

/-! ### Every use keeps the balance -/

namespace Loadout

/-- What was done with a loadout explains what is in the hand. -/
structure Sound (loadout : Loadout) (successes : List Use) : Prop where
  weapon : loadout.mainHand.map Held.weapon = heldAfter successes
  held : ∀ held ∈ loadout.mainHand, held.Sound (spentSince successes)

theorem empty_sound : empty.Sound [] := ⟨rfl, fun _ there => nomatch there⟩

theorem equip_eq_ok {loadout equipped : Loadout} {weapon : Weapon} :
    loadout.equip weapon = .ok equipped ↔
      weapon.validate = .ok () ∧ equipped = ⟨some (.ready weapon)⟩ := by
  rw [equip, Held.new_eq]
  cases weapon.validate with
  | error fault => exact ⟨nofun, fun both => nomatch both.1⟩
  | ok passed =>
    refine ⟨fun taken => ?_, ?_⟩
    · cases taken
      exact ⟨rfl, rfl⟩
    · rintro ⟨-, rfl⟩
      rfl

theorem equip_eq_error {loadout : Loadout} {weapon : Weapon} {fault : Arsenal.Fault} :
    loadout.equip weapon = .error fault ↔
      weapon.problems ≠ [] ∧ fault = .invalidWeapon weapon.id weapon.problems := by
  rw [equip, Held.new_eq, ← Weapon.validate_eq_error]
  cases weapon.validate with
  | error other => exact ⟨fun same => by cases same; rfl, fun same => by cases same; rfl⟩
  | ok passed => exact ⟨nofun, nofun⟩

/-- A change of the magazine leaves the weapon in the hand. -/
theorem Sound.withMagazine {loadout : Loadout} {successes : List Use} {use : Use}
    {change : Magazine → Magazine} (sound : loadout.Sound successes)
    (holds : Use.holding (heldAfter successes) use = heldAfter successes)
    (keeps : ∀ weapon, ∀ magazine ∈ loadout.magazine?,
      magazine.Feeds weapon (spentSince successes) →
      (change magazine).Feeds weapon (spentSince (successes ++ [use]))) :
    (loadout.withMagazine change).Sound (successes ++ [use]) where
  weapon := by
    rw [heldAfter_concat, holds, ← sound.weapon, Loadout.withMagazine, Option.map_map]
    rfl
  held := by
    intro changed there
    obtain ⟨held, inside, rfl⟩ := Option.map_eq_some_iff.mp there
    refine (sound.held held inside).change fun magazine loaded => keeps held.weapon magazine ?_
    exact Option.bind_eq_some_iff.mpr ⟨held, inside, loaded⟩

/-- Every use that succeeds keeps the balance. -/
theorem Sound.attempt {loadout changed : Loadout} {successes : List Use} {use : Use}
    (sound : loadout.Sound successes) (succeeds : loadout.attempt use = some (.ok changed)) :
    changed.Sound (successes ++ [use]) := by
  cases use with
  | equip weapon =>
    obtain ⟨valid, rfl⟩ := equip_eq_ok.mp (Option.some.inj succeeds)
    refine ⟨(heldAfter_concat successes (.equip weapon)).symm, ?_⟩
    rintro _ ⟨⟩
    rw [spentSince_of_fills rfl]
    exact Held.ready_sound valid
  | unequip =>
    cases succeeds
    exact ⟨(heldAfter_concat successes .unequip).symm, fun _ there => nomatch there⟩
  | consume rounds =>
    obtain ⟨magazine, there, taken⟩ := Option.map_eq_some_iff.mp succeeds
    cases used : magazine.consume rounds with
    | error fault =>
      rw [used] at taken
      cases taken
    | ok left =>
      rw [used] at taken
      cases taken
      refine sound.withMagazine rfl fun weapon other same feeds => ?_
      cases there.symm.trans same
      rw [spentSince_concat rfl]
      exact feeds.consume used
  | reload =>
    obtain ⟨magazine, there, taken⟩ := Option.map_eq_some_iff.mp succeeds
    cases taken
    refine sound.withMagazine rfl fun weapon other same feeds => ?_
    rw [spentSince_of_fills rfl]
    exact feeds.reload

theorem Sound.afterAll {loadout : Loadout} {successes : List Use} (sound : loadout.Sound successes)
    (uses : List Use) :
    (loadout.afterAll uses).Sound (successes ++ loadout.successesOf uses) := by
  induction uses generalizing loadout successes with
  | nil => simpa [Loadout.afterAll, successesOf] using sound
  | cons use rest ih =>
    show ((loadout.after use).afterAll rest).Sound _
    unfold after successesOf
    split
    next changed succeeds =>
      rw [List.append_cons]
      exact ih (sound.attempt succeeds)
    -- What does not succeed is no part of the history, and the loadout stays as it explains it.
    next fails => exact ih sound
    next lacks => exact ih sound

/-! ### Any row of uses -/

/-- What is in the hand after some uses that succeeded, and what fails then. -/
structure Handled (loadout : Loadout) (successes : List Use) : Prop extends
    Sound loadout successes where
  /-- Only a definition with problems cannot be taken up, and for them. -/
  equips : ∀ weapon fault, loadout.attempt (.equip weapon) = some (.error fault) ↔
    weapon.problems ≠ [] ∧ fault = .invalidWeapon weapon.id weapon.problems
  roomy : ∀ weapon name, loadout.attempt (.equip weapon) ≠ some (.error (.zeroCapacity name))
  /-- Rounds cannot be taken out only where fewer are loaded. -/
  consumes : ∀ rounds fault, loadout.attempt (.consume rounds) = some (.error fault) ↔
    ∃ magazine ∈ loadout.magazine?, magazine.loaded < rounds ∧
      fault = .insufficientRounds rounds magazine.loaded
  keeps : ∀ use fault, loadout.attempt use = some (.error fault) → loadout.after use = loadout

theorem Sound.handled {loadout : Loadout} {successes : List Use}
    (sound : loadout.Sound successes) : loadout.Handled successes where
  toSound := sound
  equips weapon fault := Option.some_inj.trans equip_eq_error
  roomy weapon name failed := by
    obtain ⟨_, other⟩ := equip_eq_error.mp (Option.some.inj failed)
    cases other
  consumes rounds fault := by
    constructor
    · intro failed
      obtain ⟨magazine, there, taken⟩ := Option.map_eq_some_iff.mp failed
      cases used : magazine.consume rounds with
      | error other =>
        rw [used] at taken
        cases taken
        exact ⟨magazine, there, Magazine.consume_eq_error.mp used⟩
      | ok left =>
        rw [used] at taken
        cases taken
    · rintro ⟨magazine, there, few⟩
      have failed := Magazine.consume_eq_error.mpr few
      exact Option.map_eq_some_iff.mpr ⟨magazine, there, by rw [failed]; rfl⟩
  keeps use fault failed := by
    simp only [after, failed]

/--
Take weapons up and put them away, valid or not, take out rounds and reload, in any order and
beginning with an empty hand. Then the weapon in the hand is the one that was taken up last and
it is valid. It has a magazine just if it is a firearm: one of its own, with room for at least
one round, which holds all of its rounds but those that were taken out since it was filled.
Taking up a weapon fails for the problems of its definition and for nothing else, and taking
out rounds where there are too few. What fails changes nothing.
-/
theorem afterAll_handled (uses : List Use) :
    (empty.afterAll uses).Handled (empty.successesOf uses) :=
  (empty_sound.afterAll uses).handled

end Loadout

end Fray
