import Fray.Text.Blank
import Fray.Text.Numeral
import Fray.Text.Quoted

/-!
# Dice expressions

An expression such as `4d6kh3+1` names a number of dice, their sides, how many
of the highest dice are kept, and a flat modifier. Case does not matter and the
text may have white space around it, but none inside. The parts are checked in
the order count, modifier, sides, keep; the first fault is the error.
-/
namespace Fray.Dice

structure Expr where
  /-- The text without the white space around it. -/
  raw : String
  count : Count
  sides : Count
  modifier : Score
  /-- How many of the highest dice are kept; all of them if absent. -/
  keep : Option Count
deriving DecidableEq

/-- Why a text is no dice expression. -/
inductive Error where
  | empty
  | missingDie (expression : String)
  | invalidCount (expression : String)
  | invalidSides (expression : String)
  | invalidKeep (count : Count) (expression : String)
  | invalidModifier (expression : String)
deriving DecidableEq

def Error.message : Error → String
  | empty => "dice: empty expression"
  | missingDie expression => "dice: missing 'd' in expression " ++ Text.quoted expression
  | invalidCount expression =>
    "dice: invalid die count in " ++ Text.quoted expression ++ ": must be >= 1"
  | invalidSides expression =>
    "dice: invalid die sides in " ++ Text.quoted expression ++ ": must be >= 2"
  | invalidKeep count expression =>
    "dice: keep-highest value must be > 0 and < count " ++ toString count ++ " in "
      ++ Text.quoted expression
  | invalidModifier expression => "dice: invalid modifier in " ++ Text.quoted expression

/-! ### Parts of an expression -/

/-- The text before and after the first `d`. -/
def splitDie : List Char → Option (List Char × List Char)
  | [] => none
  | c :: rest =>
    if c = 'd' then some ([], rest)
    else (splitDie rest).map fun parts => (c :: parts.1, parts.2)

/-- The text before and after the first `kh`. -/
def splitKeep : List Char → Option (List Char × List Char)
  | [] => none
  | [_] => none
  | c :: next :: rest =>
    if c = 'k' ∧ next = 'h' then some ([], rest)
    else (splitKeep (next :: rest)).map fun parts => (c :: parts.1, parts.2)

def isSign (c : Char) : Bool := c = '+' || c = '-'

/-- The text before the first sign, and the sign with what follows it. -/
def splitModifier (text : List Char) : List Char × List Char :=
  (text.takeWhile (!isSign ·), text.dropWhile (!isSign ·))

/-- An absent count is one, and a count is at least one. -/
def count? (text : List Char) : Option Count :=
  if text.isEmpty then some 1
  else (Text.count? text).filter (fun count => 1 ≤ count)

/-- An absent modifier is zero. -/
def modifier? (text : List Char) : Option Score :=
  if text.isEmpty then some 0 else Text.score? text

def sides? (text : List Char) : Option Count :=
  (Text.count? text).filter (fun sides => 2 ≤ sides)

/-- A number of dice to keep is positive and less than the number of dice. -/
def keep? (count : Count) (text : List Char) : Option Count :=
  (Text.count? text).filter (fun keep => 0 < keep && keep < count)

/-! ### Parsing -/

/-- Read the sides and what is kept of a number of dice, between `d` and the modifier. -/
def parseBody (raw : String) (count : Count) (body : List Char) :
    Except Error (Count × Option Count) :=
  let parts := match splitKeep body with
    | some (before, after) => (before, some after)
    | none => (body, none)
  match sides? parts.1 with
  | none => .error (.invalidSides raw)
  | some sides =>
    match parts.2 with
    | none => .ok (sides, none)
    | some text =>
      match keep? count text with
      | none => .error (.invalidKeep count raw)
      | some keep => .ok (sides, some keep)

def parse (text : String) : Except Error Expr :=
  let trimmed := Text.trim text.toList
  let raw := String.ofList trimmed
  if trimmed.isEmpty then .error .empty
  else
    match splitDie (trimmed.map Char.toLower) with
    | none => .error (.missingDie raw)
    | some (countText, rest) =>
      match count? countText with
      | none => .error (.invalidCount raw)
      | some count =>
        let parts := splitModifier rest
        match modifier? parts.2 with
        | none => .error (.invalidModifier raw)
        | some modifier =>
          (parseBody raw count parts.1).map fun body => ⟨raw, count, body.1, modifier, body.2⟩

end Fray.Dice
