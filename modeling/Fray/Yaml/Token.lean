import Fray.Yaml.Scalar

/-!
# YAML tokens

A text as a row of scalars and marks. In block style collections have no
brackets: one begins where a key or a dash stands right of the block around it,
and ends where something stands left of it. That a scalar or a collection in
brackets was a key is known only when its colon follows, on the same line and
not too far; the mark of the key is then put in front of it. There are no
anchors, aliases, tags or directives.
-/
namespace Fray.Yaml

inductive Token where
  /-- The mark in front of a document. -/
  | documentStart
  /-- The mark behind a document. -/
  | documentEnd
  /-- The beginning of a sequence in block style. -/
  | blockSequence
  /-- The beginning of a mapping in block style. -/
  | blockMapping
  | blockEnd
  | openSequence
  | closeSequence
  | openMapping
  | closeMapping
  | comma
  /-- The dash in front of an item. -/
  | dash
  /-- A key follows. -/
  | key
  /-- A value follows. -/
  | colon
  /-- A scalar, and whether it is plain. -/
  | scalar (text : String) (plain : Bool)
deriving DecidableEq

/-- Something that is a key if its colon follows. -/
structure PossibleKey where
  place : Placed
  /-- How many tokens are in front of it. -/
  index : Nat
  /-- Whether nothing but a key may stand there. -/
  required : Bool

namespace PossibleKey

/-- The longest distance in bytes between the beginning of a key and its colon. -/
def longest : Nat := 1024

def reaches (key : PossibleKey) (place : Placed) : Bool :=
  place.line = key.place.line && place.offset ≤ key.place.offset + longest

end PossibleKey

/-- A text whose beginning has been read. -/
structure Lexer where
  rest : List Placed
  tokens : Array Token
  /-- The columns of the blocks around this place, the innermost one first. -/
  blocks : List Nat
  /-- Whether a key may begin here. -/
  allowed : Bool
  /-- The last possible key inside the innermost brackets. -/
  key : Option PossibleKey
  /-- The possible keys that the brackets around this place belong to, the innermost one first. -/
  outer : List (Option PossibleKey)

namespace Lexer

def start (text : List Placed) : Lexer := ⟨text, #[], [], true, none, []⟩

/-- Whether there are brackets around this place. -/
def inFlow (lexer : Lexer) : Bool := !lexer.outer.isEmpty

def add (lexer : Lexer) (token : Token) : Lexer :=
  { lexer with tokens := lexer.tokens.push token }

/-- Add a token of some characters, and tell whether a key may begin behind it. -/
def addMark (lexer : Lexer) (token : Token) (length : Nat) (allowed : Bool) : Lexer :=
  { lexer.add token with rest := lexer.rest.drop length, allowed }

/-! ### Blocks -/

/-- The least column of what belongs to the innermost block. -/
def least (lexer : Lexer) : Nat :=
  match lexer.blocks with
  | [] => 0
  | column :: _ => column + 1

/-- Open a block in a column right of the blocks around it, in front of the token at an index. -/
def openBlock (lexer : Lexer) (token : Token) (column index : Nat) : Lexer :=
  if lexer.inFlow || column < lexer.least then lexer
  else
    { lexer with
      blocks := column :: lexer.blocks
      tokens := lexer.tokens.insertIdxIfInBounds index token }

/-- Close the blocks that stand at or right of a column. -/
def closeBlocks (lexer : Lexer) (column : Nat) : Lexer :=
  if lexer.inFlow then lexer
  else
    let (closed, blocks) := lexer.blocks.span (column ≤ ·)
    { lexer with blocks, tokens := lexer.tokens ++ Array.replicate closed.length .blockEnd }

/-! ### Possible keys -/

/-- Give up a possible key; fails where a key was required. -/
def giveUp : Option PossibleKey → Option (Option PossibleKey)
  | none => some none
  | some key => if key.required then none else some none

/-- Give up the possible keys whose colon cannot stand at a place or behind it. -/
def expireKeys (lexer : Lexer) (place : Placed) : Option Lexer := do
  let expire (key : Option PossibleKey) :=
    if key.all (·.reaches place) then some key else giveUp key
  return { lexer with key := ← expire lexer.key, outer := ← lexer.outer.mapM expire }

def dropKey (lexer : Lexer) : Option Lexer :=
  (giveUp lexer.key).map fun key => { lexer with key }

/-- Note that a key may begin at a place. -/
def saveKey (lexer : Lexer) (place : Placed) : Option Lexer :=
  if !lexer.allowed then some lexer
  else
    let required := !lexer.inFlow && lexer.blocks.head? = some place.column
    lexer.dropKey.map fun lexer =>
      { lexer with key := some ⟨place, lexer.tokens.size, required⟩ }

/-! ### Tokens -/

/--
Pass blanks, comments, line ends and a byte order mark in front of a line. A tab
is no indentation, so where a key may begin it is not passed. Inside brackets a
line end does not allow keys.
-/
def skipFrom (flow : Bool) : (rest : List Placed) → (allowed comment : Bool) → List Placed × Bool
  | [], allowed, _ => ([], allowed)
  | c :: rest, allowed, comment =>
    if isBreak c.char then skipFrom flow rest (allowed || !flow) false
    else if comment || c.char = ' ' || (c.char = '\t' && (flow || !allowed)) ||
        (isByteOrderMark c.char && c.column = 0) then
      skipFrom flow rest allowed comment
    else if c.char = '#' then skipFrom flow rest allowed true
    else (c :: rest, allowed)

def skip (lexer : Lexer) : Lexer :=
  let (rest, allowed) := skipFrom lexer.inFlow lexer.rest lexer.allowed false
  { lexer with rest, allowed }

/-- A mark between documents closes all blocks. -/
def documentMark? (lexer : Lexer) (token : Token) : Option Lexer :=
  (lexer.closeBlocks 0).dropKey.map (·.addMark token 3 false)

/-- What stands in brackets may be a key as a whole. -/
def openBrackets? (lexer : Lexer) (place : Placed) (token : Token) : Option Lexer :=
  (lexer.saveKey place).map fun lexer =>
    { lexer.addMark token 1 true with key := none, outer := lexer.key :: lexer.outer }

def closeBrackets? (lexer : Lexer) (token : Token) : Option Lexer :=
  lexer.dropKey.map fun lexer =>
    match lexer.outer with
    | [] => lexer.addMark token 1 false
    | key :: outer => { lexer.addMark token 1 false with key, outer }

/-- In block style a dash or a question mark stands where a key may begin. -/
def blockMark? (lexer : Lexer) (place : Placed) (block token : Token) (allowed : Bool) :
    Option Lexer :=
  if !lexer.inFlow && !lexer.allowed then none
  else
    (lexer.openBlock block place.column lexer.tokens.size).dropKey.map (·.addMark token 1 allowed)

/-- A colon makes a key of what may be one, and otherwise follows a key that has its mark. -/
def colon? (lexer : Lexer) (place : Placed) : Option Lexer :=
  match lexer.key with
  | some key =>
    let marked := { lexer with
      key := none
      tokens := lexer.tokens.insertIdxIfInBounds key.index .key }
    some ((marked.openBlock .blockMapping key.place.column key.index).addMark .colon 1 false)
  | none => lexer.blockMark? place .blockMapping .colon (!lexer.inFlow)

def addScalar (lexer : Lexer) (scalar : Scalar) : Lexer :=
  { lexer.add (.scalar scalar.text scalar.plain) with
    rest := scalar.rest
    allowed := scalar.endsLine }

def blockScalar? (lexer : Lexer) (folds : Bool) (behind : List Placed) : Option Lexer := do
  return (← lexer.dropKey).addScalar (← Scalar.block? folds lexer.least behind)

/-- A plain or quoted scalar may be a key. -/
def flowScalar? (lexer : Lexer) (place : Placed) (scalar : Option Scalar) : Option Lexer := do
  return (← lexer.saveKey place).addScalar (← scalar)

/-- Read the token that begins with a character. -/
def token? (lexer : Lexer) (place : Placed) (behind : List Placed) : Option Lexer :=
  let c := place.char
  let text := place :: behind
  if startsMarker '-' text then lexer.documentMark? .documentStart
  else if startsMarker '.' text then lexer.documentMark? .documentEnd
  else if c = '[' then lexer.openBrackets? place .openSequence
  else if c = ']' then lexer.closeBrackets? .closeSequence
  else if c = '\x7b' then lexer.openBrackets? place .openMapping
  else if c = '\x7d' then lexer.closeBrackets? .closeMapping
  else if c = ',' then lexer.dropKey.map (·.addMark .comma 1 true)
  else if startsWord '-' text then lexer.blockMark? place .blockSequence .dash true
  else if c = '?' && (lexer.inFlow || endsWord behind) then
    lexer.blockMark? place .blockMapping .key (!lexer.inFlow)
  else if c = ':' && (lexer.inFlow || endsWord behind) then lexer.colon? place
  else if c = '|' && !lexer.inFlow then lexer.blockScalar? false behind
  else if c = '>' && !lexer.inFlow then lexer.blockScalar? true behind
  else if c = '"' || c.toNat = 0x27 then lexer.flowScalar? place (Scalar.quoted? c behind)
  else if startsPlain lexer.inFlow text then
    lexer.flowScalar? place (Scalar.plain? lexer.inFlow lexer.least text)
  else none

/-- Close all blocks at the end of the text. -/
def finish? (lexer : Lexer) : Option (List Token) :=
  (lexer.closeBlocks 0).dropKey.map (·.tokens.toList)

/-- Read all tokens of the rest of the text. -/
def run? : (fuel : Nat) → Lexer → Option (List Token)
  | 0, _ => none
  | fuel + 1, lexer =>
    let next := lexer.skip
    match next.rest with
    | [] => next.finish?
    | place :: behind => do
      let ready := (← next.expireKeys place).closeBlocks (place.column + 1)
      run? fuel (← ready.token? place behind)

end Lexer

/-- The tokens of a text. Every one of them takes a character. -/
def tokens? (text : List Placed) : Option (List Token) :=
  (Lexer.start text).run? (text.length + 1)

end Fray.Yaml
