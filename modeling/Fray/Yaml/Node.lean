import Fray.Document.Value
import Fray.Text.Numeral

/-!
# YAML nodes

The content of a YAML document, and its readings. A text may be written as any
scalar and is taken as it stands. A number has to be plain. An empty plain
scalar also stands for an empty list or an empty record, but a written null does
not. Any node may be a key, but the keys of a record are scalars.
-/
namespace Fray.Yaml

inductive Node where
  /-- A scalar, and whether it is written without quotes. -/
  | scalar (text : String) (plain : Bool)
  | sequence (items : List Node)
  | mapping (fields : List (Node × Node))

namespace Node

instance : Inhabited Node := ⟨scalar "" true⟩

/-- What stands for a value that is left out. -/
def empty : Node := scalar "" true

def isEmpty : Node → Bool
  | scalar text plain => plain && text.isEmpty
  | _ => false

/-- The text of a scalar. -/
def text? : Node → Option String
  | scalar text _ => some text
  | _ => none

/-- The fields of a record, if all its keys are scalars. -/
def record? (fields : List (Node × Node)) : Option (List (String × Node)) :=
  fields.mapM fun field => field.1.text?.map fun name => (name, field.2)

/-! ### Integers -/

/-- Digits behind a mark of their base, or decimal digits without a needless zero in front. -/
def natural? : List Char → Option Nat
  | '0' :: 'x' :: rest => Text.inBase? 16 rest
  | '0' :: 'o' :: rest => Text.inBase? 8 rest
  | '0' :: 'b' :: rest => Text.inBase? 2 rest
  | '0' :: _ :: _ => none
  | text => Text.inBase? 10 text

/-- A number after an optional plus sign. -/
def unsigned? : List Char → Option Nat
  | '+' :: rest => natural? rest
  | text => natural? text

/-- A number after an optional sign. -/
def signed? : List Char → Option Int
  | '-' :: rest => (natural? rest).map fun value => -value
  | text => (unsigned? text).map fun value => value

instance : Document Node where
  fields? | mapping fields => record? fields | node => if node.isEmpty then some [] else none
  row? _ := none
  items? | sequence items => some items | node => if node.isEmpty then some [] else none
  text? := text?
  member? := text?
  unsigned? | scalar text true => unsigned? text.toList | _ => none
  signed? | scalar text true => signed? text.toList | _ => none
  isAbsent
    | scalar text true => ["", "~", "null", "Null", "NULL"].contains text
    | _ => false

end Node

end Fray.Yaml
