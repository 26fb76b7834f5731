import Fray.Number
import Fray.Text.Quoted

/-!
# Faults of arms

Why a definition is refused, or rounds cannot be taken from a magazine.
-/
namespace Fray.Arsenal

inductive Fault where
  | invalidWeapon (id : String) (problems : List String)
  | invalidExplosive (id : String) (problems : List String)
  | duplicateWeapon (id : String)
  | duplicateExplosive (id : String)
  | zeroCapacity (weapon : String)
  | insufficientRounds (requested loaded : Count)
deriving DecidableEq

def Fault.message : Fault → String
  | invalidWeapon id problems =>
    "invalid weapon " ++ Text.quoted id ++ ": " ++ "; ".intercalate problems
  | invalidExplosive id problems =>
    "invalid explosive " ++ Text.quoted id ++ ": " ++ "; ".intercalate problems
  | duplicateWeapon id => "weapon " ++ Text.quoted id ++ " already registered"
  | duplicateExplosive id => "explosive " ++ Text.quoted id ++ " already registered"
  | zeroCapacity weapon => "magazine for " ++ Text.quoted weapon ++ " must have capacity > 0"
  | insufficientRounds requested loaded =>
    "insufficient rounds: wanted " ++ toString requested ++ " but only " ++ toString loaded
      ++ " loaded"

/-- The problems whose conditions hold, in order. -/
def problems (checks : List (Bool × String)) : List String :=
  (checks.filter (·.1)).map (·.2)

end Fray.Arsenal
