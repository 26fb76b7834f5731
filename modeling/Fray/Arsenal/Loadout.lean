import Fray.Arsenal.Weapon

/-!
# What a combatant holds

The weapon in the main hand, and the magazine of a firearm. Only a valid weapon
can be held, and a firearm is taken up fully loaded.
-/
namespace Fray

structure Magazine where
  weapon : String
  loaded : Count
  capacity : Count
deriving DecidableEq

namespace Magazine

/-- A full magazine. -/
def new (weapon : String) (capacity : Count) : Except Arsenal.Fault Magazine :=
  if capacity = 0 then .error (.zeroCapacity weapon) else .ok ⟨weapon, capacity, capacity⟩

def isEmpty (magazine : Magazine) : Bool := magazine.loaded = 0

/-- Take rounds out, all or none. -/
def consume (rounds : Count) (magazine : Magazine) : Except Arsenal.Fault Magazine :=
  if rounds ≤ magazine.loaded then .ok { magazine with loaded := magazine.loaded - rounds }
  else .error (.insufficientRounds rounds magazine.loaded)

def reload (magazine : Magazine) : Magazine := { magazine with loaded := magazine.capacity }

end Magazine

/-- A weapon in the hand. -/
structure Held where
  weapon : Weapon
  magazine : Option Magazine
deriving DecidableEq

def Held.new (weapon : Weapon) : Except Arsenal.Fault Held := do
  weapon.validate
  if weapon.isFirearm then
    let magazine ← Magazine.new weapon.id weapon.magazineCapacity
    return ⟨weapon, some magazine⟩
  else
    return ⟨weapon, none⟩

structure Loadout where
  mainHand : Option Held
deriving DecidableEq

namespace Loadout

def empty : Loadout := ⟨none⟩

/-- Take a weapon into the hand in place of what is there. -/
def equip (weapon : Weapon) (_ : Loadout) : Except Arsenal.Fault Loadout :=
  (Held.new weapon).map fun held => ⟨some held⟩

def unequip (_ : Loadout) : Loadout := empty

def magazine? (loadout : Loadout) : Option Magazine := loadout.mainHand.bind Held.magazine

/-- Change the magazine, if there is one. -/
def withMagazine (change : Magazine → Magazine) (loadout : Loadout) : Loadout :=
  ⟨loadout.mainHand.map fun held => { held with magazine := held.magazine.map change }⟩

/-- Take rounds out of the magazine, if there is one. -/
def consume? (rounds : Count) (loadout : Loadout) : Option (Except Arsenal.Fault Loadout) :=
  loadout.magazine?.map fun magazine =>
    (magazine.consume rounds).map fun used => loadout.withMagazine fun _ => used

/-- Fire one round; an empty magazine stays as it is. -/
def fire (loadout : Loadout) : Loadout :=
  loadout.withMagazine fun magazine => { magazine with loaded := magazine.loaded - 1 }

def reload (loadout : Loadout) : Loadout := loadout.withMagazine Magazine.reload

end Loadout

end Fray
