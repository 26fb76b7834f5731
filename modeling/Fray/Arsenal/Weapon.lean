import Fray.Arsenal.Fault
import Fray.Tagged

/-!
# Weapons

A weapon with a firing mode is a firearm and needs a magazine; one without
range is for melee.
-/
namespace Fray

inductive FiringMode where
  | single
  | burst
  | automatic
deriving DecidableEq

def FiringMode.name : FiringMode → String
  | single => "single"
  | burst => "burst"
  | automatic => "automatic"

instance : Tagged FiringMode := ⟨[.single, .burst, .automatic], FiringMode.name⟩

structure Weapon where
  id : String
  name : String
  damageDice : String
  damageType : String
  rangeIncrement : Count
  reloadActions : Count
  magazineCapacity : Count
  firingModes : List FiringMode
  traits : List String
deriving DecidableEq

namespace Weapon

def isMelee (weapon : Weapon) : Bool := weapon.rangeIncrement = 0

def isFirearm (weapon : Weapon) : Bool := !weapon.firingModes.isEmpty

def firesBursts (weapon : Weapon) : Bool := weapon.firingModes.any (· = .burst)

def firesAutomatically (weapon : Weapon) : Bool := weapon.firingModes.any (· = .automatic)

def problems (weapon : Weapon) : List String :=
  Arsenal.problems [
    (weapon.id.isEmpty, "id must not be empty"),
    (weapon.name.isEmpty, "name must not be empty"),
    (weapon.damageDice.isEmpty, "damage_dice must not be empty"),
    (weapon.damageType.isEmpty, "damage_type must not be empty"),
    (weapon.isFirearm && weapon.magazineCapacity = 0, "firearm magazine_capacity must be > 0")]

/-- Every problem of a definition at once. -/
def validate (weapon : Weapon) : Except Arsenal.Fault Unit :=
  if weapon.problems.isEmpty then .ok () else .error (.invalidWeapon weapon.id weapon.problems)

end Weapon

end Fray
