import Fray.Hook

/-!
# Scripted hooks

Hooks that are described by data: what they answer, and to which calls. A call
that a script does not answer gets nil.
-/
namespace Fray

/-- What a script does with the arguments of a call. -/
inductive HookScript where
  | answer (value : HookValue)
  | fail (reason : String)
  /-- Give an argument back. -/
  | argument (index : Nat)
  | add (index : Nat) (operand : Float)
  | multiply (index : Nat) (operand : Float)

namespace HookScript

/-- An argument of a call, or nil if there are not so many. -/
def argumentOf (args : List HookValue) (index : Nat) : HookValue := (args[index]?).getD .nil

/-- Change an argument, which has to be a number. -/
def arithmetic (change : Float → Float) : HookValue → Except String HookValue
  | .number value => .ok (.number (change value))
  | _ => .error "not a number"

def run (script : HookScript) (args : List HookValue) : Except String HookValue :=
  match script with
  | answer value => .ok value
  | fail reason => .error reason
  | argument index => .ok (argumentOf args index)
  | add index operand => arithmetic (· + operand) (argumentOf args index)
  | multiply index operand => arithmetic (· * operand) (argumentOf args index)

/-- Run a script only when an argument has a given value, if one is given. -/
def guarded (guard : Option (Nat × HookValue)) (script : HookScript) : HookFunction := fun args =>
  match guard with
  | none => script.run args
  | some (index, expected) =>
    if (args[index]?).any (· == expected) then script.run args else .ok .nil

end HookScript

end Fray
