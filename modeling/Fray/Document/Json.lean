import Fray.Document.Value

/-!
# JSON

Values of the JSON format, their text, and their readings as documents. A
record may be an object or an array of its fields in order. A member of an
enumeration is its name, or an object with that name and null.
-/
namespace Fray

inductive Json where
  | null
  | flag (value : Bool)
  | integer (value : Int)
  /-- A number written with a fraction or an exponent. -/
  | real (value : Float)
  | text (value : String)
  | array (items : List Json)
  | object (fields : List (String × Json))

namespace Json

instance : Inhabited Json := ⟨null⟩

def ofCount (count : Count) : Json := integer count.toNat

def ofScore (score : Score) : Json := integer score.toInt

def ofTag {α : Type} [Tagged α] (member : α) : Json := text (Tagged.tag member)

def ofOption {α : Type} (encode : α → Json) : Option α → Json
  | none => null
  | some value => encode value

def ofTexts (texts : List String) : Json := array (texts.map text)

/-- The value of a field of an object. -/
def get? (name : String) : Json → Option Json
  | object fields => (fields.find? fun field => field.1 == name).map (·.2)
  | _ => none

/-! ### Readings -/

instance : Document Json where
  fields? | object fields => some fields | _ => none
  row? | array items => some items | _ => none
  items? | array items => some items | _ => none
  text? | text value => some value | _ => none
  member? | text value => some value | object [(name, null)] => some name | _ => none
  unsigned? | integer value => if 0 ≤ value then some value.toNat else none | _ => none
  signed? | integer value => some value | _ => none
  isAbsent | null => true | _ => false

/-! ### Text -/

/-- Four hexadecimal digits of a code point. -/
def hexDigits (n : Nat) : List Char :=
  let digits := Nat.toDigits 16 n
  List.replicate (4 - digits.length) '0' ++ digits

def escape (c : Char) : List Char :=
  if c = '"' then ['\\', '"']
  else if c = '\\' then ['\\', '\\']
  else if c = '\n' then ['\\', 'n']
  else if c = '\r' then ['\\', 'r']
  else if c = '\t' then ['\\', 't']
  else if c.toNat < 0x20 then ['\\', 'u'] ++ hexDigits c.toNat
  else [c]

def quote (value : String) : String :=
  String.ofList ('"' :: value.toList.flatMap escape ++ ['"'])

/--
The exact decimal text of a finite floating-point number. Its value is a whole
number of units, and a unit is a power of two; a power of two below one is a
power of five with a decimal exponent.
-/
def decimal (value : Float) : String :=
  let bits := value.toBits.toNat
  let sign := if bits / Nat.pow 2 63 = 1 then "-" else ""
  let exponent : Nat := bits / Nat.pow 2 52 % Nat.pow 2 11
  let fraction := bits % Nat.pow 2 52
  let units := if exponent = 0 then fraction else fraction + Nat.pow 2 52
  let position : Nat := if exponent = 0 then 1 else exponent
  match (position : Int) - 1075 with
  | .ofNat up => sign ++ toString (units * Nat.pow 2 up) ++ ".0"
  | .negSucc down => sign ++ toString (units * Nat.pow 5 (down + 1)) ++ "e-" ++ toString (down + 1)

mutual

def render : Json → String
  | null => "null"
  | flag value => if value then "true" else "false"
  | integer value => toString value
  | real value => decimal value
  | text value => quote value
  | array items => "[" ++ ",".intercalate (renderItems items) ++ "]"
  | object fields => "\x7b" ++ ",".intercalate (renderFields fields) ++ "\x7d"

def renderItems : List Json → List String
  | [] => []
  | item :: rest => render item :: renderItems rest

def renderFields : List (String × Json) → List String
  | [] => []
  | (name, value) :: rest => (quote name ++ ":" ++ render value) :: renderFields rest

end

end Json

end Fray
