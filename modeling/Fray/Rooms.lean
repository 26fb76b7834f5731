import Fray.Table

/-!
# Rooms

At most one encounter is active in a room. The registry is generic in what it
keeps for an active encounter.
-/
namespace Fray

abbrev Rooms (α : Type) := Table α

namespace Rooms

variable {α : Type}

/-- Enter an encounter in a free room. -/
def occupy? (rooms : Rooms α) (room : String) (encounter : α) : Option (Rooms α) :=
  if rooms.contains room then none else some (rooms.insert room encounter)

/-- Free a room and give what was kept for it. -/
def vacate (rooms : Rooms α) (room : String) : Option α × Rooms α :=
  (rooms.get? room, rooms.erase room)

/-- The rooms with an active encounter, in order. -/
def active (rooms : Rooms α) : List String := rooms.keys

end Rooms

end Fray
