import Fray.Number
import Fray.Tagged

/-!
# Outcome tiers

A total is compared with a target number: meeting it is a success and falling
short a failure; ten above makes the success critical, more than ten below the
failure. The tier scales the base damage of an attack.
-/
namespace Fray

inductive Outcome where
  | criticalSuccess
  | success
  | failure
  | criticalFailure
deriving DecidableEq

namespace Outcome

def name : Outcome → String
  | criticalSuccess => "critical success"
  | success => "success"
  | failure => "failure"
  | criticalFailure => "critical failure"

def recordName : Outcome → String
  | criticalSuccess => "critical_success"
  | criticalFailure => "critical_failure"
  | outcome => outcome.name

instance : Tagged Outcome :=
  ⟨[.criticalSuccess, .success, .failure, .criticalFailure], recordName⟩

/-- The tier of a total against a target number. -/
def of (total target : Score) : Outcome :=
  if target + 10 ≤ total then criticalSuccess
  else if target ≤ total then success
  else if target - 10 ≤ total then failure
  else criticalFailure

/-- The damage of an attack: doubled, kept or lost, and never negative. -/
def scale (outcome : Outcome) (base : Score) : Score :=
  match outcome with
  | criticalSuccess => max base 0 * 2
  | success => max base 0
  | failure | criticalFailure => 0

end Outcome

end Fray
