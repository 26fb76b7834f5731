/-!
# Places in a YAML text

The characters of a text, each with the place where it stands. A line ends at a
newline, a carriage return, both together or a next-line character, which all
read as a newline, or at a line or paragraph separator, which stays what it is.
Lines and columns count from zero.
-/
namespace Fray.Yaml

/-- A character and its place. -/
structure Placed where
  char : Char
  line : Nat
  column : Nat
  /-- The number of bytes in front of it in the text. -/
  offset : Nat

/-- A blank within a line. -/
def isBlank (c : Char) : Bool := c = ' ' || c = '\t'

/-- The end of a line. -/
def isBreak (c : Char) : Bool := c = '\n' || c.toNat = 0x2028 || c.toNat = 0x2029

/-- The mark of the order of bytes, which may stand in front of a line. -/
def isByteOrderMark (c : Char) : Bool := c.toNat = 0xFEFF

/-- A character with the same meaning for lines. -/
def normalBreak (c : Char) : Char := if c = '\r' || c.toNat = 0x85 then '\n' else c

/-- Place characters from a given place on. -/
def placeFrom : List Char → (line column offset : Nat) → List Placed
  | [], _, _, _ => []
  | '\r' :: '\n' :: rest, line, column, offset =>
    ⟨'\n', line, column, offset⟩ :: placeFrom rest (line + 1) 0 (offset + 2)
  | c :: rest, line, column, offset =>
    let next := offset + c.utf8Size
    ⟨normalBreak c, line, column, offset⟩ ::
      if isBreak (normalBreak c) then placeFrom rest (line + 1) 0 next
      else placeFrom rest line (column + 1) next

def place (text : String) : List Placed := placeFrom text.toList 0 0 0

/-- The text of placed characters. -/
def chars (text : List Placed) : List Char := text.map (·.char)

/-- Whether a word ends before this text. -/
def endsWord : List Placed → Bool
  | [] => true
  | c :: _ => isBlank c.char || isBreak c.char

/-- Whether the text begins with a word of one given character. -/
def startsWord (sign : Char) : List Placed → Bool
  | [] => false
  | c :: rest => c.char = sign && endsWord rest

/-- Whether a line begins here with a word of three times one given character. -/
def startsMarker (sign : Char) : List Placed → Bool
  | first :: second :: third :: rest =>
    first.column = 0 && [first, second, third].all (·.char = sign) && endsWord rest
  | _ => false

/-- Whether a line begins here with a mark between documents. -/
def startsDocumentMark (text : List Placed) : Bool :=
  startsMarker '-' text || startsMarker '.' text

end Fray.Yaml
