import Fray.Arsenal.Fault
import Fray.Tagged

/-!
# Explosives

An explosive is thrown at every opponent; each saves against its difficulty.
-/
namespace Fray

inductive Area where
  | room
  | burst
deriving DecidableEq

def Area.name : Area → String
  | room => "room"
  | burst => "burst"

instance : Tagged Area := ⟨[.room, .burst], Area.name⟩

inductive Fuse where
  | immediate
  | delayed
deriving DecidableEq

def Fuse.name : Fuse → String
  | immediate => "immediate"
  | delayed => "delayed"

instance : Tagged Fuse := ⟨[.immediate, .delayed], Fuse.name⟩

structure Explosive where
  id : String
  name : String
  damageDice : String
  damageType : String
  area : Area
  saveType : String
  saveDifficulty : Score
  fuse : Fuse
  traits : List String
deriving DecidableEq

namespace Explosive

def problems (explosive : Explosive) : List String :=
  Arsenal.problems [
    (explosive.id.isEmpty, "id must not be empty"),
    (explosive.name.isEmpty, "name must not be empty"),
    (explosive.damageDice.isEmpty, "damage_dice must not be empty"),
    (explosive.damageType.isEmpty, "damage_type must not be empty"),
    (explosive.saveType.isEmpty, "save_type must not be empty"),
    (explosive.saveDifficulty ≤ 0, "save_dc must be > 0")]

def validate (explosive : Explosive) : Except Arsenal.Fault Unit :=
  if explosive.problems.isEmpty then .ok ()
  else .error (.invalidExplosive explosive.id explosive.problems)

end Explosive

end Fray
