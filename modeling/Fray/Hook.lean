import Fray.Number
import Fray.Table

/-!
# Hooks

Scripts of a zone may override rolls and damage, forbid conditions and follow
reloads and throws. `Hooks` answers a call by its zone, name and arguments; the
answer may also depend on the calls made before, which is how a script with a
memory is described. A `HookTable` is built of functions. A zone that has any
hooks of its own hides the global ones.
-/
namespace Fray

inductive HookValue where
  | nil
  | flag (value : Bool)
  | number (value : Float)
  | text (value : String)
deriving BEq

namespace HookValue

def ofScore (score : Score) : HookValue := number (Float.ofInt score.toInt)

def ofCount (count : Count) : HookValue := number (Float.ofNat count.toNat)

/-- A finite number as a score: without its fraction, and within the range. -/
def score? : HookValue → Option Score
  | number value => if value.isFinite then some (Score.ofInt value.toInt32.toInt) else none
  | _ => none

def isFalse : HookValue → Bool
  | flag value => !value
  | _ => false

end HookValue

structure HookCall where
  zone : String
  hook : String
  args : List HookValue

/-- How calls are answered; the earlier calls come first, the latest of them at the head. -/
abbrev Hooks := List HookCall → HookCall → Option HookValue

namespace Hooks

def none : Hooks := fun _ _ => .none

/-! ### Names of the hooks -/

def onAttackRoll : String := "on_attack_roll"

def onDamageRoll : String := "on_damage_roll"

def onConditionApply : String := "on_condition_apply"

def onReload : String := "on_reload"

def onExplosiveThrow : String := "on_explosive_throw"

end Hooks

/-! ### Tables of functions -/

/-- A hook may fail; a failure counts as no answer. -/
abbrev HookFunction := List HookValue → Except String HookValue

/-- Functions under zone and hook name. -/
abbrev HookTable := Table (Table HookFunction)

namespace HookTable

/-- The zone of the hooks that apply wherever a zone has none. -/
def globalZone : String := "__global__"

def register (table : HookTable) (zone hook : String) (function : HookFunction) : HookTable :=
  table.insert zone (((table.get? zone).getD .empty).insert hook function)

def function? (table : HookTable) (zone hook : String) : Option HookFunction :=
  ((table.get? zone).orElse fun _ => table.get? globalZone).bind (·.get? hook)

/-- The answer of the function that a call finds, unless it fails or is nil. -/
def answer (table : HookTable) (call : HookCall) : Option HookValue :=
  (table.function? call.zone call.hook).bind fun function =>
    match function call.args with
    | .error _ => none
    | .ok .nil => none
    | .ok value => some value

def hooks (table : HookTable) : Hooks := fun _ call => table.answer call

end HookTable

end Fray
