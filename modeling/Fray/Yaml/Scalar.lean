import Fray.Text.Numeral
import Fray.Yaml.Place

/-!
# YAML scalars

Scalars without quotes, in quotes, and in indented blocks. A scalar may run over
several lines: a single newline in it becomes a space, and of more line ends the
first is dropped if it is a newline. A literal block keeps its line ends, and a
folded block keeps them around lines that begin with a blank.
-/
namespace Fray.Yaml

/-- A scalar that has been read. -/
structure Scalar where
  text : String
  /-- Whether it is written without quotes and not as a block. -/
  plain : Bool
  /-- Whether a line ends between the scalar and the rest of the text. -/
  endsLine : Bool
  rest : List Placed

/-! ### White space inside a scalar -/

/-- White space since the last character of the text that counts. -/
inductive Gap where
  /-- Blanks within a line, the last one first. -/
  | blanks (read : List Char)
  /-- A line end, unless it is escaped, and the line ends after it, the last one first. -/
  | lines (first : Option Char) (more : List Char)

namespace Gap

def none : Gap := blanks []

/-- Blanks at either end of a line do not count. -/
def addBlank (c : Char) : Gap → Gap
  | blanks read => blanks (c :: read)
  | gap => gap

def addBreak (c : Char) : Gap → Gap
  | blanks _ => lines (some c) []
  | lines first more => lines first (c :: more)

def hasBreak : Gap → Bool
  | blanks _ => false
  | lines _ _ => true

/-- Whether a word may end here. -/
def isOpen : Gap → Bool
  | blanks [] => false
  | _ => true

/-- What line ends inside a text stand for, the last character first. -/
def joinLines (first : Option Char) (more : List Char) : List Char :=
  if first = some '\n' then (if more.isEmpty then [' '] else more) else more ++ first.toList

/-- The text that the white space stands for, the last character first. -/
def folded : Gap → List Char
  | blanks read => read
  | lines first more => joinLines first more

end Gap

/-! ### Plain scalars -/

/-- Characters that begin something else than a plain scalar. -/
def indicators : List Char :=
  ['-', '?', ':', ',', '[', ']', '\x7b', '\x7d', '#', '&', '*', '!', '|', '>', '"', '%', '@',
    Char.ofNat 0x27, Char.ofNat 0x60]

/-- The brackets and commas of flow collections. -/
def isBracket (c : Char) : Bool := [',', '[', ']', '\x7b', '\x7d'].contains c

def startsPlain (flow : Bool) : List Placed → Bool
  | [] => false
  | c :: rest =>
    if c.char = '-' then !endsWord rest
    else if c.char = '?' || c.char = ':' then !flow && !endsWord rest
    else !endsWord (c :: rest) && !indicators.contains c.char

/-- A colon that neither ends a word nor belongs to one. -/
def isStrayColon : List Placed → Bool
  | colon :: c :: _ => colon.char = ':' && (c.char = '?' || isBracket c.char)
  | _ => false

/--
Read a plain scalar. It ends at a comment, before the value of a key, at a mark
between documents, at a line that is indented less than `least`, and in a flow
collection at a bracket or a comma.
-/
def plainFrom (flow : Bool) (least : Nat) : (rest : List Placed) → (text : List Char) → Gap →
    Option (List Char × Bool × List Placed)
  | [], text, gap => some (text, gap.hasBreak, [])
  | c :: rest, text, gap =>
    if isBreak c.char then plainFrom flow least rest text (gap.addBreak c.char)
    else if isBlank c.char then
      if c.char = '\t' && gap.hasBreak && c.column < least then none
      else plainFrom flow least rest text (gap.addBlank c.char)
    -- A new word begins here, and it may belong to something else.
    else if (gap.isOpen && (c.char = '#' || (!flow && c.column < least))) ||
        startsDocumentMark (c :: rest) then
      some (text, gap.hasBreak, c :: rest)
    else if flow && isStrayColon (c :: rest) then none
    else if startsWord ':' (c :: rest) || (flow && isBracket c.char) then
      some (text, gap.hasBreak, c :: rest)
    else plainFrom flow least rest (c.char :: (gap.folded ++ text)) .none

/-! ### Quoted scalars -/

/-- The character of an escape of one letter. -/
def letterEscape? (c : Char) : Option Char :=
  [('0', 0x00), ('a', 0x07), ('b', 0x08), ('t', 0x09), ('\t', 0x09), ('n', 0x0A), ('v', 0x0B),
    ('f', 0x0C), ('r', 0x0D), ('e', 0x1B), (' ', 0x20), ('"', 0x22), ('/', 0x2F), ('\\', 0x5C),
    ('N', 0x85), ('_', 0xA0), ('L', 0x2028), ('P', 0x2029)].lookup c |>.map Char.ofNat

/-- How many digits follow the letter of a numeric escape. -/
def numericEscape? (c : Char) : Option Nat :=
  [('x', 2), ('u', 4), ('U', 8)].lookup c

def codePoint? (digits : List Char) : Option Char :=
  (Text.inBase? 16 digits).bind fun value =>
    if value.isValidChar then some (Char.ofNat value) else none

/-- The most digits of a numeric escape. -/
def longestEscape : Nat := 8

/-- The character of an escape by the letter behind its backslash and the text behind that, and
the length of the escape. -/
def escape? (letter : Char) (behind : List Char) : Option (Char × Nat) :=
  match numericEscape? letter with
  | some count =>
    if behind.length < count then none
    else (codePoint? (behind.take count)).map (·, count + 1)
  | none => (letterEscape? letter).map (·, 1)

/--
Read a quoted scalar after its first quote, passing over `skip` characters. In
single quotes only a quote is escaped, by another quote.
-/
def quotedFrom (quote : Char) : (rest : List Placed) → (skip : Nat) → (text : List Char) → Gap →
    Option (List Char × List Placed)
  | [], _, _, _ => none
  | _ :: rest, skip + 1, text, gap => quotedFrom quote rest skip text gap
  | c :: rest, 0, text, gap =>
    if isBreak c.char then quotedFrom quote rest 0 text (gap.addBreak c.char)
    else if isBlank c.char then quotedFrom quote rest 0 text (gap.addBlank c.char)
    else if startsDocumentMark (c :: rest) then none
    else
      let text := gap.folded ++ text
      if c.char = quote then
        if quote ≠ '"' ∧ rest.head?.any (·.char = quote) then
          quotedFrom quote rest 1 (quote :: text) .none
        else some (text, rest)
      else if quote = '"' ∧ c.char = '\\' then
        match rest with
        | [] => none
        | next :: more =>
          if isBreak next.char then quotedFrom quote more 0 text (.lines none [])
          else
            match escape? next.char (chars (more.take longestEscape)) with
            | none => none
            | some (read, length) => quotedFrom quote (next :: more) length (read :: text) .none
      else quotedFrom quote rest 0 (c.char :: text) .none

/-! ### Block scalars -/

/-- What becomes of the line ends behind a block scalar. -/
inductive Chomping where
  | strip
  | clip
  | keep

/-- The first line of a block scalar: its chomping, and its indentation if it is given. -/
structure BlockHeader where
  chomping : Chomping
  indent : Option Nat

def chomping? (c : Char) : Option Chomping :=
  if c = '-' then some .strip else if c = '+' then some .keep else none

def indentDigit? (c : Char) : Option Nat :=
  if c.isDigit && c ≠ '0' then some (c.toNat - 48) else none

/-- Read the marks of a block scalar in either order. -/
def blockMarks : List Char → BlockHeader × List Char
  | [] => (⟨.clip, none⟩, [])
  | c :: rest =>
    match chomping? c with
    | some chomping =>
      match rest.head?.bind indentDigit? with
      | some indent => (⟨chomping, some indent⟩, rest.drop 1)
      | none => (⟨chomping, none⟩, rest)
    | none =>
      match indentDigit? c with
      | some indent =>
        match rest.head?.bind chomping? with
        | some chomping => (⟨chomping, some indent⟩, rest.drop 1)
        | none => (⟨.clip, some indent⟩, rest)
      | none => (⟨.clip, none⟩, c :: rest)

/-- Nothing but a comment may follow on the line of the marks. -/
def blockHeader? (text : List Char) : Option BlockHeader :=
  let (header, rest) := blockMarks text
  let behind := rest.dropWhile isBlank
  if behind.isEmpty || behind.head? = some '#' then some header else none

/-- Empty lines and indentation in front of a line. -/
structure Indentation where
  /-- The ends of the empty lines, the last one first. -/
  breaks : List Char
  /-- The deepest column in which a line ends or begins. -/
  deepest : Nat
  rest : List Placed

/--
Pass empty lines and the spaces in front of the next line, at most `limit` of
them. A tab is no indentation.
-/
def indentFrom (limit : Option Nat) : (rest : List Placed) → (breaks : List Char) →
    (deepest : Nat) → Option Indentation
  | [], breaks, deepest => some ⟨breaks, deepest, []⟩
  | c :: rest, breaks, deepest =>
    let inside := limit.all (c.column < ·)
    let reached := max deepest c.column
    if c.char = ' ' && inside then indentFrom limit rest breaks deepest
    else if c.char = '\t' && inside then none
    else if isBreak c.char then indentFrom limit rest (c.char :: breaks) reached
    else some ⟨breaks, reached, c :: rest⟩

/-- The text of a block scalar up to a line, the last character first. -/
structure BlockText where
  text : List Char
  /-- The end of the last line. -/
  lineEnd : Option Char
  /-- Whether the last line began with a blank. -/
  blank : Bool
  /-- The ends of the empty lines since the last line, the last one first. -/
  empty : List Char

namespace BlockText

/-- Begin a new line with its first character. -/
def addLine (block : BlockText) (folds : Bool) (c : Char) : BlockText :=
  let joined :=
    if folds && block.lineEnd = some '\n' && !block.blank && !isBlank c then
      if block.empty.isEmpty then [' '] else []
    else block.lineEnd.toList
  ⟨c :: (block.empty ++ joined ++ block.text), none, isBlank c, []⟩

def addChar (block : BlockText) (c : Char) : BlockText := { block with text := c :: block.text }

def endLine (block : BlockText) (c : Char) : BlockText := { block with lineEnd := some c }

def addEmpty (block : BlockText) (c : Char) : BlockText := { block with empty := c :: block.empty }

def chomp (block : BlockText) : Chomping → List Char
  | .strip => block.text
  | .clip => block.lineEnd.toList ++ block.text
  | .keep => block.empty ++ block.lineEnd.toList ++ block.text

end BlockText

/-- Read the lines of a block with a given indentation; `inside` tells that a line has begun. -/
def blockFrom (folds : Bool) (indent : Nat) : (rest : List Placed) → (inside : Bool) →
    BlockText → Option (BlockText × List Placed)
  | [], _, block => some (block, [])
  | c :: rest, true, block =>
    if isBreak c.char then blockFrom folds indent rest false (block.endLine c.char)
    else blockFrom folds indent rest true (block.addChar c.char)
  | c :: rest, false, block =>
    if c.char = ' ' && c.column < indent then blockFrom folds indent rest false block
    else if c.char = '\t' && c.column < indent then none
    else if isBreak c.char then blockFrom folds indent rest false (block.addEmpty c.char)
    -- Text that is indented less ends the scalar.
    else if c.column = indent then blockFrom folds indent rest true (block.addLine folds c.char)
    else some (block, c :: rest)

/-! ### All scalars -/

namespace Scalar

/--
Read a block scalar behind its first mark; `least` is the first column right of
the block around it. A given indentation counts from the column of that block.
Without one the deepest of the first lines up to the first one with text counts,
but at least `least`.
-/
def block? (folds : Bool) (least : Nat) (text : List Placed) : Option Scalar := do
  let (line, behind) := text.span fun c => !isBreak c.char
  let header ← blockHeader? (chars line)
  let limit := header.indent.map (least - 1 + ·)
  let start ← indentFrom limit (behind.drop 1) [] 0
  let indent := limit.getD (max start.deepest (max least 1))
  let (block, rest) ← blockFrom folds indent start.rest false ⟨[], none, false, start.breaks⟩
  return ⟨String.ofList (block.chomp header.chomping).reverse, false, true, rest⟩

/-- Read a scalar in quotes behind the first one. -/
def quoted? (quote : Char) (text : List Placed) : Option Scalar :=
  (quotedFrom quote text 0 [] .none).map fun (read, rest) =>
    ⟨String.ofList read.reverse, false, false, rest⟩

def plain? (flow : Bool) (least : Nat) (text : List Placed) : Option Scalar :=
  (plainFrom flow least text [] .none).map fun (read, endsLine, rest) =>
    ⟨String.ofList read.reverse, true, endsLine, rest⟩

end Scalar

end Fray.Yaml
