/-!
# Enumerations with written names

The members of an enumeration in order, each with the name under which records
and content files write it.
-/
namespace Fray

class Tagged (α : Type) where
  members : List α
  tag : α → String

/-- The member with a written name. -/
def Tagged.ofTag? {α : Type} [Tagged α] (name : String) : Option α :=
  members.find? fun member => tag member == name

end Fray
