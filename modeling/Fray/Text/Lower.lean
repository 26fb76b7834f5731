import Fray.Text.CaseTable

/-!
# Lower case

Full lower-casing: a dotted capital I becomes two characters, and a capital
sigma takes its final form at the end of a word, that is, after a letter and
before none, where marks that case ignores do not count.
-/
namespace Fray.Text

private def inRuns (runs : List (Nat × Nat)) (c : Char) : Bool :=
  runs.any fun run => run.1 ≤ c.toNat && c.toNat ≤ run.2

def isCased (c : Char) : Bool :=
  if c.toNat < 0x80 then c.isAlpha else inRuns casedRuns c

def isCaseIgnorable (c : Char) : Bool :=
  if c.toNat < 0x80 then c.toNat = 0x27 || c = '.' || c = ':' || c = '^' || c.toNat = 0x60
  else inRuns caseIgnorableRuns c

/-- Whether the first character that case does not ignore is a letter with case. -/
def startsCased (text : List Char) : Bool :=
  match text.dropWhile isCaseIgnorable with
  | [] => false
  | c :: _ => isCased c

/-- Whether a run of `lowerRuns` holds the code point. -/
private def holds (run : Nat × Nat × Nat × Int) (n : Nat) : Bool :=
  run.1 ≤ n && n ≤ run.2.1 && (n - run.1) % run.2.2.1 == 0

/-- The lower-case form of a character that stands alone. -/
def lowerChar (c : Char) : List Char :=
  if c.toNat < 0x80 then [c.toLower]
  else if c.toNat = 0x130 then ['i', Char.ofNat 0x307]
  else match lowerRuns.find? (holds · c.toNat) with
    | some run => [Char.ofNat ((c.toNat : Int) + run.2.2.2).toNat]
    | none => [c]

/-- Lower the rest of a text; `before` is what precedes it, last character first. -/
def lowerAfter (before : List Char) : List Char → List Char
  | [] => []
  | c :: rest =>
    let letter :=
      -- Sigma is the one letter whose form depends on its neighbours.
      if c.toNat = 0x3A3 then
        if startsCased before && !startsCased rest then [Char.ofNat 0x3C2] else [Char.ofNat 0x3C3]
      else lowerChar c
    letter ++ lowerAfter (c :: before) rest

def lower (text : String) : String := String.ofList (lowerAfter [] text.toList)

end Fray.Text
