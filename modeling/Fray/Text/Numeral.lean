import Fray.Number

/-!
# Numerals

Numbers as they are written in dice expressions: ASCII digits with an optional
sign, and nothing else. A number outside the range is not a numeral. Other
formats also write digits of a base other than ten.
-/
namespace Fray.Text

/-- The value of a digit in a row of ASCII digits. -/
def digitValue (c : Char) : Nat := c.toNat - 48

/-- The value of a non-empty row of ASCII digits. -/
def natural? (text : List Char) : Option Nat :=
  if !text.isEmpty && text.all Char.isDigit then
    some (text.foldl (fun value c => value * 10 + digitValue c) 0)
  else none

/-- Digits after an optional plus sign. -/
def count? (text : List Char) : Option Count :=
  let digits := match text with
    | '+' :: rest => rest
    | _ => text
  (natural? digits).bind fun value => Count.ofInt? value

/-- Digits after an optional sign. -/
def score? : List Char → Option Score
  | '-' :: rest => (natural? rest).bind fun value => Score.ofInt? (-value)
  | '+' :: rest => (natural? rest).bind fun value => Score.ofInt? value
  | text => (natural? text).bind fun value => Score.ofInt? value

/-- The value of a digit, or of an ASCII letter as a digit above nine. -/
def digit? (c : Char) : Option Nat :=
  let lower := c.toLower
  if c.isDigit then some (digitValue c)
  else if 'a' ≤ lower ∧ lower ≤ 'z' then some (lower.toNat - 87)
  else none

/-- The value of a non-empty row of digits in a base. -/
def inBase? (base : Nat) (text : List Char) : Option Nat :=
  if text.isEmpty then none
  else text.foldlM (fun value c =>
    ((digit? c).filter (· < base)).map (value * base + ·)) 0

/-- A score with its sign, also a plus. -/
def signed (score : Score) : String :=
  if score.toInt < 0 then toString score.toInt else "+" ++ toString score.toInt

end Fray.Text
