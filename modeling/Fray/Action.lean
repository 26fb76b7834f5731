import Fray.Number
import Fray.Tagged

/-!
# Actions

What a combatant can do with part of a round, and what it costs. The unknown
kind stands for an action that was never chosen and is always refused.
-/
namespace Fray

inductive ActionKind where
  | unknown
  | attack
  | strike
  | pass
  | reload
  | burst
  | automatic
  | throw
deriving DecidableEq

namespace ActionKind

instance : Inhabited ActionKind := ⟨unknown⟩

/-- The kinds that can be chosen. -/
def choices : List ActionKind := [attack, strike, pass, reload, burst, automatic, throw]

/-- Action points needed; passing gives up whatever is left instead. -/
def cost : ActionKind → Count
  | attack | reload | throw => 1
  | strike | burst => 2
  | automatic => 3
  | pass | unknown => 0

/-- The name in narratives and in the restrictions of conditions. -/
def name : ActionKind → String
  | unknown => "unknown"
  | attack => "attack"
  | strike => "strike"
  | pass => "pass"
  | reload => "reload"
  | burst => "burst"
  | automatic => "automatic"
  | throw => "throw"

/-- The name in records, where firing is spelled out. -/
def recordName : ActionKind → String
  | burst => "fire_burst"
  | automatic => "fire_automatic"
  | kind => kind.name

instance : Tagged ActionKind := ⟨unknown :: choices, recordName⟩

end ActionKind

/-- An action that a combatant intends, with what it is aimed at. -/
structure Action where
  kind : ActionKind
  target : Option String := none
  weapon : Option String := none
  explosive : Option String := none
deriving DecidableEq

namespace Action

def pass : Action := { kind := .pass }

def reload : Action := { kind := .reload }

def attack (target : String) : Action := { kind := .attack, target := some target }

def strike (target : String) : Action := { kind := .strike, target := some target }

def burst (target weapon : String) : Action :=
  { kind := .burst, target := some target, weapon := some weapon }

end Action

end Fray
