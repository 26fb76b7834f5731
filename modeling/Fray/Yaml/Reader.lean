import Fray.Yaml.Node
import Fray.Yaml.Token

/-!
# Reading YAML

A text holds at most one document, in block or flow style. Items, keys and values
that are left out are empty nodes. A sequence under a key need not be a block of
its own: its dashes may stand in the column of the key.
-/
namespace Fray.Yaml

/-- The characters of a YAML text. -/
def isAllowed (c : Char) : Bool :=
  let n := c.toNat
  n = 0x09 || n = 0x0A || n = 0x0D || (0x20 ≤ n && n ≤ 0x7E) || n = 0x85 ||
    (0xA0 ≤ n && n ≤ 0xD7FF) || (0xE000 ≤ n && n ≤ 0xFFFD) || 0x10000 ≤ n

/-! ### Nodes -/

/-- Read a node unless one of some tokens stands in its place. -/
def orEmpty (ends : List Token) (read : List Token → Option (Node × List Token))
    (tokens : List Token) : Option (Node × List Token) :=
  if tokens.head?.any ends.contains then some (.empty, tokens) else read tokens

/-- The tokens behind a key or a value of a block mapping. -/
def endsBlockValue : List Token := [.key, .colon, .blockEnd]

mutual

/-- Read a node. Blocks cannot stand inside brackets. -/
def readNode : (fuel : Nat) → (inFlow : Bool) → List Token → Option (Node × List Token)
  | 0, _, _ => none
  | _, _, .scalar text plain :: rest => some (.scalar text plain, rest)
  | fuel + 1, _, .openSequence :: rest =>
    (flowItems fuel rest).map fun (items, rest) => (.sequence items, rest)
  | fuel + 1, _, .openMapping :: rest =>
    (flowFields fuel rest).map fun (fields, rest) => (.mapping fields, rest)
  | fuel + 1, false, .blockSequence :: rest =>
    (blockItems fuel rest).map fun (items, rest) => (.sequence items, rest)
  | fuel + 1, false, .blockMapping :: rest =>
    (blockFields fuel rest).map fun (fields, rest) => (.mapping fields, rest)
  | _, _, _ => none

/-- Read the rest of a sequence in brackets; a comma may stand behind its last item. -/
def flowItems : (fuel : Nat) → List Token → Option (List Node × List Token)
  | 0, _ => none
  | _, .closeSequence :: rest => some ([], rest)
  | fuel + 1, tokens => do
    let (item, rest) ← flowItem fuel tokens
    match rest with
    | .comma :: rest =>
      let (items, rest) ← flowItems fuel rest
      return (item :: items, rest)
    | .closeSequence :: rest => return ([item], rest)
    | _ => none

/-- Read an item in brackets. A pair is a mapping of its own. -/
def flowItem : (fuel : Nat) → List Token → Option (Node × List Token)
  | 0, _ => none
  | fuel + 1, .key :: rest => do
    let (key, rest) ← match rest with
      -- Where the key is left out the token behind its mark is passed.
      | .colon :: rest => some (.empty, rest)
      | .comma :: rest => some (.empty, rest)
      | .closeSequence :: rest => some (.empty, rest)
      | rest => readNode fuel true rest
    let (value, rest) ← flowValue fuel .closeSequence rest
    return (.mapping [(key, value)], rest)
  | fuel + 1, tokens => readNode fuel true tokens

/-- Read the rest of a mapping in brackets; a comma may stand behind its last field. -/
def flowFields : (fuel : Nat) → List Token → Option (List (Node × Node) × List Token)
  | 0, _ => none
  | _, .closeMapping :: rest => some ([], rest)
  | fuel + 1, tokens => do
    let (field, rest) ← flowField fuel tokens
    match rest with
    | .comma :: rest =>
      let (fields, rest) ← flowFields fuel rest
      return (field :: fields, rest)
    | .closeMapping :: rest => return ([field], rest)
    | _ => none

/-- Read a key in brackets with its value; both may be left out, the value with its colon. -/
def flowField : (fuel : Nat) → List Token → Option ((Node × Node) × List Token)
  | 0, _ => none
  | fuel + 1, .key :: rest => do
    let (key, rest) ← orEmpty [.colon, .comma, .closeMapping] (readNode fuel true) rest
    let (value, rest) ← flowValue fuel .closeMapping rest
    return ((key, value), rest)
  | fuel + 1, tokens => (readNode fuel true tokens).map fun (key, rest) => ((key, .empty), rest)

/-- Read the value of a key inside brackets, if it has one. -/
def flowValue : (fuel : Nat) → (close : Token) → List Token → Option (Node × List Token)
  | 0, _, _ => none
  | fuel + 1, close, .colon :: rest => orEmpty [.comma, close] (readNode fuel true) rest
  | _, _, tokens => some (.empty, tokens)

/-- Read the rest of a block sequence. -/
def blockItems : (fuel : Nat) → List Token → Option (List Node × List Token)
  | 0, _ => none
  | fuel + 1, .dash :: rest => do
    let (item, rest) ← orEmpty [.dash, .blockEnd] (readNode fuel false) rest
    let (items, rest) ← blockItems fuel rest
    return (item :: items, rest)
  | _, .blockEnd :: rest => some ([], rest)
  | _, _ => none

/-- Read the items of a sequence in the column of its key. -/
def looseItems : (fuel : Nat) → List Token → Option (List Node × List Token)
  | 0, _ => none
  | fuel + 1, .dash :: rest => do
    let (item, rest) ← orEmpty (.dash :: endsBlockValue) (readNode fuel false) rest
    let (items, rest) ← looseItems fuel rest
    return (item :: items, rest)
  | _, tokens => some ([], tokens)

/-- Read the rest of a block mapping. -/
def blockFields : (fuel : Nat) → List Token → Option (List (Node × Node) × List Token)
  | 0, _ => none
  | fuel + 1, .key :: rest => do
    let (key, rest) ← blockValue fuel rest
    let (value, rest) ← match rest with
      | .colon :: rest => blockValue fuel rest
      | rest => some (.empty, rest)
    let (fields, rest) ← blockFields fuel rest
    return ((key, value) :: fields, rest)
  | _, .blockEnd :: rest => some ([], rest)
  | _, _ => none

/-- Read a key or a value of a block mapping. -/
def blockValue : (fuel : Nat) → List Token → Option (Node × List Token)
  | 0, _ => none
  | fuel + 1, .dash :: rest =>
    (looseItems fuel (.dash :: rest)).map fun (items, rest) => (.sequence items, rest)
  | fuel + 1, tokens => orEmpty endsBlockValue (readNode fuel false) tokens

end

/-! ### Documents -/

/-- Read the node of the first document. A text without tokens is empty. -/
def readDocument (fuel : Nat) : List Token → Option (Node × List Token)
  | [] => some (.empty, [])
  | [.documentStart] => some (.empty, [])
  | .documentStart :: rest => orEmpty [.documentStart, .documentEnd] (readNode fuel false) rest
  | tokens => readNode fuel false tokens

namespace Node

/-- Between two tokens at most three more nodes are tried than tokens are passed. -/
def enoughFuel (tokens : List Token) : Nat := 4 * (tokens.length + 1)

/-- The one document of a row of tokens. Any number of marks may stand behind it. -/
def ofTokens? (tokens : List Token) : Option Node :=
  match readDocument (enoughFuel tokens) tokens with
  | none => none
  | some (node, rest) => if rest.all (· = .documentEnd) then some node else none

/-- Read the one document of a text. -/
def read? (text : String) : Option Node :=
  if text.toList.all isAllowed then (tokens? (place text)).bind ofTokens? else none

end Node

end Fray.Yaml
