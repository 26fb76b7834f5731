import Fray.Tagged

/-!
# The two sides of an encounter

The side decides how a combatant dies: a non-player at zero hit points, a
player only at the end of the dying chain.
-/
namespace Fray

inductive Side where
  | player
  | npc
deriving DecidableEq

def Side.opposing : Side → Side
  | player => npc
  | npc => player

def Side.name : Side → String
  | player => "player"
  | npc => "npc"

instance : Tagged Side := ⟨[.player, .npc], Side.name⟩

theorem Side.opposing_ne (side : Side) : side.opposing ≠ side := by cases side <;> decide

end Fray
