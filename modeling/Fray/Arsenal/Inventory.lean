import Fray.Arsenal.Explosive
import Fray.Arsenal.Weapon
import Fray.Table

/-!
# Inventories

The weapons and explosives that exist in an encounter, each kind under its own
names. A name is given once.
-/
namespace Fray

structure Inventory where
  weapons : Table Weapon
  explosives : Table Explosive

namespace Inventory

def empty : Inventory := ⟨.empty, .empty⟩

def registerWeapon (inventory : Inventory) (weapon : Weapon) : Except Arsenal.Fault Inventory :=
  if inventory.weapons.contains weapon.id then .error (.duplicateWeapon weapon.id)
  else .ok { inventory with weapons := inventory.weapons.insert weapon.id weapon }

def registerExplosive (inventory : Inventory) (explosive : Explosive) :
    Except Arsenal.Fault Inventory :=
  if inventory.explosives.contains explosive.id then .error (.duplicateExplosive explosive.id)
  else .ok { inventory with explosives := inventory.explosives.insert explosive.id explosive }

end Inventory

end Fray
