import Fray.Dice.Expr
import Fray.Proofs.Text.Numerals

/-!
# The language of dice expressions

What a dice expression is, written as a grammar, and that the parser accepts exactly
the texts of the grammar and reads from each of them its parts. The parser cuts a text
at the first `d`, the first sign and the first `kh`. None of them stands in a numeral,
so there is only one way to cut a text of the grammar, and the cuts find it.

## Main results

`parse_eq_ok` says which texts are read as which expressions, with blanks around them and
letters of either case. `parse_render` says that every proper expression is read back from
how it is written, and `parse_exact` has both.
-/

namespace Fray.Dice

open Text (Numeral)

/-! ### The grammar -/

/-- A number of dice: one if there is nothing, else digits after an optional plus. -/
inductive IsCount : List Char → Count → Prop
  | absent : IsCount [] 1
  | digits {text : List Char} {count : Count} (numeral : Numeral text count.toNat)
      (positive : 1 ≤ count) : IsCount text count
  | plus {text : List Char} {count : Count} (numeral : Numeral text count.toNat)
      (positive : 1 ≤ count) : IsCount ('+' :: text) count

structure IsSides (text : List Char) (sides : Count) : Prop where
  numeral : Numeral text sides.toNat
  least : 2 ≤ sides

/-- What is kept of a number of dice: all if there is nothing, else fewer than there are. -/
inductive IsKeep (count : Count) : List Char → Option Count → Prop
  | all : IsKeep count [] none
  | highest {text : List Char} {keep : Count} (numeral : Numeral text keep.toNat)
      (positive : 0 < keep) (fewer : keep < count) :
      IsKeep count ('k' :: 'h' :: text) (some keep)

/-- A modifier: zero if there is nothing, else a sign and digits. -/
inductive IsModifier : List Char → Score → Prop
  | absent : IsModifier [] 0
  | plus {text : List Char} {value : Nat} {modifier : Score} (numeral : Numeral text value)
      (same : modifier.toInt = value) : IsModifier ('+' :: text) modifier
  | minus {text : List Char} {value : Nat} {modifier : Score} (numeral : Numeral text value)
      (same : modifier.toInt = -value) : IsModifier ('-' :: text) modifier

/-- A word in small letters that is made of the parts of an expression and nothing else. -/
inductive Spells : List Char → Expr → Prop
  | parts {countText sidesText keepText modifierText : List Char} {expr : Expr}
      (count : IsCount countText expr.count) (sides : IsSides sidesText expr.sides)
      (keep : IsKeep expr.count keepText expr.keep)
      (modifier : IsModifier modifierText expr.modifier) :
      Spells (countText ++ 'd' :: (sidesText ++ keepText ++ modifierText)) expr

/-! ### The characters of a word -/

/-- The characters that words of the grammar are made of. -/
def IsMark (c : Char) : Prop :=
  c.isDigit = true ∨ c ∈ ['d', 'k', 'h', '+', '-']

theorem toLower_of_outside {c : Char} (outside : c.toNat < 65 ∨ 90 < c.toNat) :
    c.toLower = c := by
  unfold Char.toLower
  split
  next upper =>
    have least : 65 ≤ c.toNat := upper.1
    have greatest : c.toNat ≤ 90 := upper.2
    omega
  next => rfl

/-- A blank is no letter, so it has no case. -/
theorem toLower_of_isBlank {c : Char} (blank : Text.isBlank c = true) : c.toLower = c := by
  apply toLower_of_outside
  simp only [Text.isBlank, Bool.or_eq_true, Bool.and_eq_true, decide_eq_true_eq] at blank
  omega

/-- Between the signs and the letters of the grammar there are neither blanks nor capitals. -/
theorem IsMark.toNat {c : Char} (mark : IsMark c) :
    43 ≤ c.toNat ∧ c.toNat ≤ 57 ∨ 100 ≤ c.toNat ∧ c.toNat ≤ 107 := by
  rcases mark with digit | letter
  · have range := Char.isDigit_iff_toNat.mp digit
    have least : 48 ≤ c.toNat := range.1
    have greatest : c.toNat ≤ 57 := range.2
    omega
  · simp only [List.mem_cons, List.not_mem_nil, or_false] at letter
    rcases letter with rfl | rfl | rfl | rfl | rfl <;> decide

theorem IsMark.toLower {c : Char} (mark : IsMark c) : c.toLower = c := by
  have range := mark.toNat
  apply toLower_of_outside
  omega

theorem IsMark.not_blank {c : Char} (mark : IsMark c) : Text.isBlank c = false := by
  have range := mark.toNat
  simp only [Text.isBlank, Bool.or_eq_false_iff, Bool.and_eq_false_iff, decide_eq_false_iff_not]
  omega

theorem marks_of_numeral {text : List Char} {value : Nat} (numeral : Numeral text value) :
    ∀ c ∈ text, IsMark c :=
  fun c member => .inl (numeral.digits c member)

theorem marks_cons {c : Char} {rest : List Char} (letter : c ∈ ['d', 'k', 'h', '+', '-'])
    (marks : ∀ c ∈ rest, IsMark c) : ∀ d ∈ c :: rest, IsMark d :=
  List.forall_mem_cons.mpr ⟨.inr letter, marks⟩

theorem marks_append {before after : List Char} (first : ∀ c ∈ before, IsMark c)
    (second : ∀ c ∈ after, IsMark c) : ∀ c ∈ before ++ after, IsMark c :=
  List.forall_mem_append.mpr ⟨first, second⟩

theorem IsCount.marks {text : List Char} {count : Count} (spelled : IsCount text count) :
    ∀ c ∈ text, IsMark c := by
  cases spelled with
  | absent => simp
  | digits numeral => exact marks_of_numeral numeral
  | plus numeral => exact marks_cons (by decide) (marks_of_numeral numeral)

theorem IsKeep.marks {count : Count} {text : List Char} {keep : Option Count}
    (spelled : IsKeep count text keep) : ∀ c ∈ text, IsMark c := by
  cases spelled with
  | all => simp
  | highest numeral =>
    exact marks_cons (by decide) (marks_cons (by decide) (marks_of_numeral numeral))

theorem IsModifier.marks {text : List Char} {modifier : Score}
    (spelled : IsModifier text modifier) : ∀ c ∈ text, IsMark c := by
  cases spelled with
  | absent => simp
  | plus numeral => exact marks_cons (by decide) (marks_of_numeral numeral)
  | minus numeral => exact marks_cons (by decide) (marks_of_numeral numeral)

theorem Spells.marks {word : List Char} {expr : Expr} (spelled : Spells word expr) :
    ∀ c ∈ word, IsMark c := by
  obtain ⟨count, sides, keep, modifier⟩ := spelled
  apply marks_append count.marks
  apply marks_cons (by decide)
  exact marks_append (marks_append (marks_of_numeral sides.numeral) keep.marks) modifier.marks

theorem Spells.toLower {word : List Char} {expr : Expr} (spelled : Spells word expr) :
    word.map Char.toLower = word := by
  calc word.map Char.toLower = word.map id :=
        List.map_congr_left fun c member => (spelled.marks c member).toLower
    _ = word := List.map_id word

theorem Spells.ne_nil {word : List Char} {expr : Expr} (spelled : Spells word expr) :
    word ≠ [] := by
  cases spelled
  simp

/-- A text has no blanks if it is a word of the grammar up to the case of letters. -/
theorem Spells.solid {text : List Char} {expr : Expr}
    (spelled : Spells (text.map Char.toLower) expr) : ∀ c ∈ text, Text.isBlank c = false := by
  intro c member
  by_contra blank
  rw [Bool.not_eq_false] at blank
  have mark := spelled.marks c.toLower (List.mem_map_of_mem member)
  rw [toLower_of_isBlank blank] at mark
  rw [mark.not_blank] at blank
  cases blank

theorem IsCount.not_mem_d {text : List Char} {count : Count} (spelled : IsCount text count) :
    'd' ∉ text := by
  cases spelled with
  | absent => simp
  | digits numeral => exact numeral.not_mem (by decide)
  | plus numeral =>
    rw [List.mem_cons, not_or]
    exact ⟨by decide, numeral.not_mem (by decide)⟩

theorem unsigned_of_numeral {text : List Char} {value : Nat} (numeral : Numeral text value) :
    ∀ c ∈ text, isSign c = false := by
  intro c member
  have digit := numeral.digits c member
  by_contra sign
  simp only [isSign, Bool.not_eq_false, Bool.or_eq_true, decide_eq_true_eq] at sign
  rcases sign with rfl | rfl <;> cases digit

theorem IsKeep.unsigned {count : Count} {text : List Char} {keep : Option Count}
    (spelled : IsKeep count text keep) : ∀ c ∈ text, isSign c = false := by
  cases spelled with
  | all => simp
  | highest numeral =>
    exact List.forall_mem_cons.mpr
      ⟨rfl, List.forall_mem_cons.mpr ⟨rfl, unsigned_of_numeral numeral⟩⟩

theorem IsModifier.led {text : List Char} {modifier : Score} (spelled : IsModifier text modifier) :
    ∀ c rest, text = c :: rest → isSign c = true := by
  cases spelled with
  | absent => simp
  | plus =>
    rintro c rest ⟨⟩
    rfl
  | minus =>
    rintro c rest ⟨⟩
    rfl

/-! ### Cutting a word -/

theorem splitDie_eq_some {text before after : List Char} :
    splitDie text = some (before, after) ↔ text = before ++ 'd' :: after ∧ 'd' ∉ before := by
  induction text generalizing before with
  | nil => simp [splitDie]
  | cons c rest ih =>
    unfold splitDie
    by_cases die : c = 'd'
    -- The cut is here, so nothing can stand before it.
    · subst die
      cases before with
      | nil => simp
      | cons b before =>
        simp only [if_pos, Option.some.injEq, Prod.mk.injEq, List.cons_append, List.cons.injEq,
          List.mem_cons, not_or]
        constructor
        · rintro ⟨⟨⟩, _⟩
        · rintro ⟨⟨same, _⟩, other, _⟩
          exact absurd same other
    · rw [if_neg die, Option.map_eq_some_iff]
      cases before with
      | nil => simp [die]
      | cons b before =>
        constructor
        · rintro ⟨⟨front, back⟩, cut, same⟩
          cases same
          obtain ⟨rfl, clear⟩ := ih.mp cut
          exact ⟨rfl, by simp [clear, Ne.symm die]⟩
        · rintro ⟨same, clear⟩
          obtain ⟨rfl, rfl⟩ := List.cons.inj same
          exact ⟨(before, after), ih.mpr ⟨rfl, fun member => clear (List.mem_cons_of_mem _ member)⟩,
            rfl⟩

/-- The cut lies behind a character that does not begin `kh`, also if it is the last one. -/
theorem splitKeep_cons {c : Char} (other : c ≠ 'k') (rest : List Char) :
    splitKeep (c :: rest) = (splitKeep rest).map fun parts => (c :: parts.1, parts.2) := by
  cases rest with
  | nil => rfl
  | cons next rest =>
    have unmarked : ¬(c = 'k' ∧ next = 'h') := fun marked => other marked.1
    rw [splitKeep, if_neg unmarked]

theorem splitKeep_eq_none {text : List Char} (clear : 'k' ∉ text) : splitKeep text = none := by
  induction text with
  | nil => rfl
  | cons c rest ih =>
    rw [List.mem_cons, not_or] at clear
    rw [splitKeep_cons (Ne.symm clear.1), ih clear.2]
    rfl

theorem splitKeep_append {before : List Char} (after : List Char) (clear : 'k' ∉ before) :
    splitKeep (before ++ 'k' :: 'h' :: after) = some (before, after) := by
  induction before with
  | nil => simp [splitKeep]
  | cons c before ih =>
    rw [List.mem_cons, not_or] at clear
    rw [List.cons_append, splitKeep_cons (Ne.symm clear.1), ih clear.2]
    rfl

theorem eq_of_splitKeep {text before after : List Char}
    (cut : splitKeep text = some (before, after)) : text = before ++ 'k' :: 'h' :: after := by
  induction text generalizing before with
  | nil => cases cut
  | cons c rest ih =>
    cases rest with
    | nil => cases cut
    | cons next rest =>
      unfold splitKeep at cut
      split at cut
      next marked =>
        cases cut
        rw [marked.1, marked.2]
        rfl
      next =>
        rw [Option.map_eq_some_iff] at cut
        obtain ⟨⟨front, back⟩, cut, same⟩ := cut
        cases same
        rw [ih cut]
        rfl

/-- A text without signs is cut from one that is led by a sign. -/
theorem splitModifier_append {body text : List Char} (unsigned : ∀ c ∈ body, isSign c = false)
    (led : ∀ c rest, text = c :: rest → isSign c = true) :
    splitModifier (body ++ text) = (body, text) := by
  have inside : ∀ c ∈ body, (!isSign c) = true := by
    intro c member
    rw [unsigned c member]
    rfl
  unfold splitModifier
  rw [List.takeWhile_append_of_pos inside, List.dropWhile_append_of_pos inside]
  cases text with
  | nil => simp
  | cons c rest => simp [led c rest rfl]

theorem unsigned_splitModifier (text : List Char) :
    ∀ c ∈ (splitModifier text).1, isSign c = false := by
  intro c member
  simpa using List.mem_takeWhile_imp member

theorem signed_splitModifier {text rest : List Char} {c : Char}
    (cut : (splitModifier text).2 = c :: rest) : isSign c = true := by
  have first := List.head?_dropWhile_not (!isSign ·) text
  rw [show text.dropWhile (!isSign ·) = c :: rest from cut] at first
  simpa using first

/-! ### Reading the parts -/

theorem count?_eq_some {text : List Char} {count : Count} :
    count? text = some count ↔ IsCount text count := by
  unfold count?
  constructor
  · intro read
    split at read
    next empty =>
      cases read
      rw [List.isEmpty_iff.mp empty]
      exact .absent
    next =>
      rw [Option.filter_eq_some_iff, Text.count?_eq_some] at read
      obtain ⟨numeral | ⟨digits, rfl, numeral⟩, positive⟩ := read
      · exact .digits numeral (of_decide_eq_true positive)
      · exact .plus numeral (of_decide_eq_true positive)
  · intro spelled
    cases spelled with
    | absent => rfl
    | digits numeral positive =>
      rw [if_neg (by simpa using numeral.nonempty), Option.filter_eq_some_iff,
        Text.count?_eq_some]
      exact ⟨.inl numeral, decide_eq_true positive⟩
    | plus numeral positive =>
      rw [if_neg (by simp), Option.filter_eq_some_iff, Text.count?_eq_some]
      exact ⟨.inr ⟨_, rfl, numeral⟩, decide_eq_true positive⟩

theorem sides?_eq_some {text : List Char} {sides : Count} (unsigned : '+' ∉ text) :
    sides? text = some sides ↔ IsSides text sides := by
  unfold sides?
  rw [Option.filter_eq_some_iff, Text.count?_of_unsigned unsigned, decide_eq_true_eq]
  exact ⟨fun ⟨numeral, least⟩ => ⟨numeral, least⟩, fun ⟨numeral, least⟩ => ⟨numeral, least⟩⟩

theorem keep?_eq_some {count keep : Count} {text : List Char} (unsigned : '+' ∉ text) :
    keep? count text = some keep ↔ IsKeep count ('k' :: 'h' :: text) (some keep) := by
  unfold keep?
  rw [Option.filter_eq_some_iff, Text.count?_of_unsigned unsigned, Bool.and_eq_true,
    decide_eq_true_eq, decide_eq_true_eq]
  constructor
  · rintro ⟨numeral, positive, fewer⟩
    exact .highest numeral positive fewer
  · intro spelled
    cases spelled with
    | highest numeral positive fewer => exact ⟨numeral, positive, fewer⟩

/-- What is read as a modifier is one if it begins with a sign. -/
theorem modifier?_eq_some {text : List Char} {modifier : Score}
    (led : ∀ c rest, text = c :: rest → isSign c = true) :
    modifier? text = some modifier ↔ IsModifier text modifier := by
  cases text with
  | nil =>
    constructor
    · rintro ⟨⟩
      exact .absent
    · rintro ⟨⟩
      rfl
  | cons c rest =>
    have sign := led c rest rfl
    simp only [isSign, Bool.or_eq_true, decide_eq_true_eq] at sign
    show Text.score? (c :: rest) = some modifier ↔ _
    rcases sign with rfl | rfl
    · rw [Text.score?_plus]
      constructor
      · rintro ⟨value, numeral, same⟩
        exact .plus numeral same
      · intro spelled
        cases spelled with
        | plus numeral same => exact ⟨_, numeral, same⟩
    · rw [Text.score?_minus]
      constructor
      · rintro ⟨value, numeral, same⟩
        exact .minus numeral same
      · intro spelled
        cases spelled with
        | minus numeral same => exact ⟨_, numeral, same⟩

theorem parseBody_eq_ok {raw : String} {count sides : Count} {keep : Option Count}
    {body : List Char} (unsigned : ∀ c ∈ body, isSign c = false) :
    parseBody raw count body = .ok (sides, keep) ↔
      ∃ sidesText keepText, body = sidesText ++ keepText ∧ IsSides sidesText sides ∧
        IsKeep count keepText keep := by
  have plain {part : List Char} (inside : part ⊆ body) : '+' ∉ part :=
    fun member => absurd (unsigned '+' (inside member)) (by decide)
  unfold parseBody
  constructor
  -- Without signs the readers of counts find digits only, in each piece of the cut.
  · intro read
    cases cut : splitKeep body with
    | none =>
      simp only [cut] at read
      split at read
      next => cases read
      next sides found =>
        cases read
        exact ⟨body, [], (List.append_nil body).symm,
          (sides?_eq_some (plain (List.Subset.refl body))).mp found, .all⟩
    | some parts =>
      obtain ⟨before, after⟩ := parts
      have whole := eq_of_splitKeep cut
      simp only [cut] at read
      split at read
      next => cases read
      next sides found =>
        split at read
        next => cases read
        next keep kept =>
          cases read
          have first : '+' ∉ before := plain (by simp [whole])
          have second : '+' ∉ after := by
            apply plain
            rw [whole]
            intro c member
            simp [member]
          exact ⟨before, 'k' :: 'h' :: after, whole, (sides?_eq_some first).mp found,
            (keep?_eq_some second).mp kept⟩
  -- Digits have no `k`, so the cut comes right after the sides.
  · rintro ⟨sidesText, keepText, rfl, sides, keep⟩
    have clear : 'k' ∉ sidesText := sides.numeral.not_mem (by decide)
    have found := (sides?_eq_some (sides.numeral.not_mem (by decide))).mpr sides
    cases keep with
    | all =>
      simp only [List.append_nil, splitKeep_eq_none clear, found]
    | highest numeral positive fewer =>
      have kept := (keep?_eq_some (numeral.not_mem (by decide))).mpr
        (.highest numeral positive fewer)
      simp only [splitKeep_append _ clear, found, kept]

/-! ### Parsing -/

theorem splitModifier_fst_append_snd (text : List Char) :
    (splitModifier text).1 ++ (splitModifier text).2 = text :=
  List.takeWhile_append_dropWhile

/-- What the parser accepts is a word of the grammar, and what it returns are the parts. -/
theorem parse_sound {text : String} {expr : Expr} (accepted : parse text = .ok expr) :
    Text.trim text.toList = expr.raw.toList ∧ Spells (expr.raw.toList.map Char.toLower) expr := by
  unfold parse at accepted
  dsimp only at accepted
  split at accepted
  next => cases accepted
  split at accepted
  next => cases accepted
  next countText rest die =>
  split at accepted
  next => cases accepted
  next count counted =>
  split at accepted
  next => cases accepted
  next modifier modified =>
  cases body : parseBody (String.ofList (Text.trim text.toList)) count (splitModifier rest).1 with
  | error fault =>
    rw [body] at accepted
    cases accepted
  | ok parts =>
    rw [body] at accepted
    cases accepted
    rw [String.toList_ofList]
    refine ⟨rfl, ?_⟩
    obtain ⟨sidesText, keepText, cut, sides, keep⟩ :=
      (parseBody_eq_ok (unsigned_splitModifier rest)).mp body
    -- The pieces put together again are the word that was cut.
    have whole : rest = sidesText ++ keepText ++ (splitModifier rest).2 := by
      rw [← cut, splitModifier_fst_append_snd]
    rw [(splitDie_eq_some.mp die).1, whole]
    exact .parts (count?_eq_some.mp counted) sides keep
      ((modifier?_eq_some fun _ _ => signed_splitModifier).mp modified)

/-- Of a word of the grammar the parser accepts every text that is the word in small letters. -/
theorem parse_complete {text : String} {expr : Expr}
    (same : Text.trim text.toList = expr.raw.toList)
    (spelled : Spells (expr.raw.toList.map Char.toLower) expr) : parse text = .ok expr := by
  -- A word has at least its `d`, so the text is not refused as empty.
  have nonempty : expr.raw.toList.isEmpty = false := by
    have := spelled.ne_nil
    simpa using this
  unfold parse
  simp only [same, nonempty, Bool.false_eq_true, if_false, String.ofList_toList]
  generalize expr.raw.toList.map Char.toLower = word at spelled
  obtain ⟨count, sides, keep, modifier⟩ := spelled
  next countText sidesText keepText modifierText =>
  -- Each of the three cuts finds the place where the grammar joins two parts.
  have die : splitDie (countText ++ 'd' :: (sidesText ++ keepText ++ modifierText))
      = some (countText, sidesText ++ keepText ++ modifierText) :=
    splitDie_eq_some.mpr ⟨rfl, count.not_mem_d⟩
  have unsigned : ∀ c ∈ sidesText ++ keepText, isSign c = false :=
    List.forall_mem_append.mpr ⟨unsigned_of_numeral sides.numeral, keep.unsigned⟩
  have body : parseBody expr.raw expr.count (sidesText ++ keepText)
      = .ok (expr.sides, expr.keep) :=
    (parseBody_eq_ok unsigned).mpr ⟨sidesText, keepText, rfl, sides, keep⟩
  simp only [die, count?_eq_some.mpr count, splitModifier_append unsigned modifier.led,
    (modifier?_eq_some modifier.led).mpr modifier, body]
  rfl

/-- The parser accepts exactly the words of the grammar, in letters of either case and with
blanks around them. -/
theorem parse_eq_ok {text : String} {expr : Expr} :
    parse text = .ok expr ↔
      ∃ before after, text.toList = before ++ expr.raw.toList ++ after ∧
        (∀ c ∈ before, Text.isBlank c = true) ∧ (∀ c ∈ after, Text.isBlank c = true) ∧
        Spells (expr.raw.toList.map Char.toLower) expr := by
  constructor
  · intro accepted
    obtain ⟨same, spelled⟩ := parse_sound accepted
    obtain ⟨before, after, whole, blankBefore, blankAfter⟩ := Text.exists_trim text.toList
    rw [same] at whole
    exact ⟨before, after, whole, blankBefore, blankAfter, spelled⟩
  · rintro ⟨before, after, whole, blankBefore, blankAfter, spelled⟩
    have nonempty : expr.raw.toList ≠ [] := by
      have := spelled.ne_nil
      simpa using this
    apply parse_complete _ spelled
    rw [whole]
    exact Text.trim_of_solid nonempty blankBefore blankAfter spelled.solid

theorem Spells.parse_eq {text : String} {expr : Expr}
    (spelled : Spells (text.toList.map Char.toLower) expr) (raw : expr.raw = text) :
    parse text = .ok expr := by
  subst raw
  exact parse_eq_ok.mpr ⟨[], [], by simp, by simp, by simp, spelled⟩

/-! ### Writing expressions -/

/-- The parts of an expression are in their ranges. -/
structure Expr.IsProper (expr : Expr) : Prop where
  count : 1 ≤ expr.count
  sides : 2 ≤ expr.sides
  keep : ∀ keep, expr.keep = some keep → 0 < keep ∧ keep < expr.count

def renderKeep : Option Count → String
  | none => ""
  | some keep => "kh" ++ toString keep

/-- An expression as it is written in full, also with a count of one and a modifier of zero. -/
def Expr.render (expr : Expr) : String :=
  toString expr.count ++ "d" ++ toString expr.sides ++ renderKeep expr.keep
    ++ Text.signed expr.modifier

theorem isKeep_renderKeep {count : Count} {keep : Option Count}
    (fewer : ∀ kept, keep = some kept → 0 < kept ∧ kept < count) :
    IsKeep count (renderKeep keep).toList keep := by
  cases keep with
  | none => exact .all
  | some kept =>
    obtain ⟨positive, fewer⟩ := fewer kept rfl
    have written : (renderKeep (some kept)).toList = 'k' :: 'h' :: (toString kept).toList :=
      String.toList_append
    rw [written]
    exact .highest (Text.numeral_toString kept.toNat) positive fewer

theorem isModifier_signed (modifier : Score) :
    IsModifier (Text.signed modifier).toList modifier := by
  have digits := Text.numeral_toString modifier.toInt.natAbs
  rw [Text.signed_toList]
  split
  next negative => exact .minus digits (by omega)
  next => exact .plus digits (by omega)

/-- A proper expression is written as a word of the grammar. -/
theorem spells_render {expr : Expr} (proper : expr.IsProper) :
    Spells expr.render.toList { expr with raw := expr.render } := by
  have written : expr.render.toList
      = (toString expr.count).toList ++ 'd' :: ((toString expr.sides).toList
        ++ (renderKeep expr.keep).toList ++ (Text.signed expr.modifier).toList) := by
    simp only [Expr.render, String.toList_append, List.append_assoc]
    rfl
  rw [written]
  exact .parts (.digits (Text.numeral_toString expr.count.toNat) proper.count)
    ⟨Text.numeral_toString expr.sides.toNat, proper.sides⟩ (isKeep_renderKeep proper.keep)
    (isModifier_signed expr.modifier)

/-- Only proper expressions are spelled. -/
theorem Spells.isProper {word : List Char} {expr : Expr} (spelled : Spells word expr) :
    expr.IsProper := by
  obtain ⟨count, sides, keep, _⟩ := spelled
  refine ⟨?_, sides.least, ?_⟩
  · generalize expr.count = number at count
    cases count with
    | absent => decide
    | digits _ positive => exact positive
    | plus _ positive => exact positive
  · intro kept same
    rw [same] at keep
    cases keep with
    | highest _ positive fewer => exact ⟨positive, fewer⟩

/-- What was written in full is read back. -/
theorem parse_render {expr : Expr} (proper : expr.IsProper) :
    parse expr.render = .ok { expr with raw := expr.render } := by
  have spelled := spells_render proper
  rw [← spelled.toLower] at spelled
  exact spelled.parse_eq rfl

/-- The texts that are read, with what is read from each of them, and the reading of what was
written in full. -/
theorem parse_exact :
    (∀ (text : String) (expr : Expr), parse text = .ok expr ↔
      ∃ before after, text.toList = before ++ expr.raw.toList ++ after ∧
        (∀ c ∈ before, Text.isBlank c = true) ∧ (∀ c ∈ after, Text.isBlank c = true) ∧
        Spells (expr.raw.toList.map Char.toLower) expr) ∧
    ∀ expr : Expr, expr.IsProper → parse expr.render = .ok { expr with raw := expr.render } :=
  ⟨fun _ _ => parse_eq_ok, fun _ => parse_render⟩

/-- An expression with blanks and capital letters, and the same one written in full. -/
theorem parse_exact_sample :
    parse " 4D6kH3-1 " = .ok ⟨"4D6kH3-1", 4, 6, Score.ofInt (-1), some 3⟩ ∧
      Expr.IsProper ⟨"", 4, 6, Score.ofInt (-1), some 3⟩ ∧
      parse "4d6kh3-1" = .ok ⟨"4d6kh3-1", 4, 6, Score.ofInt (-1), some 3⟩ := by
  -- The text that comes with a proper expression does not matter for how it is written.
  have proper : Expr.IsProper ⟨"", 4, 6, Score.ofInt (-1), some 3⟩ :=
    ⟨by decide, by decide, by rintro _ ⟨⟩; decide⟩
  have written : Expr.render ⟨"", 4, 6, Score.ofInt (-1), some 3⟩ = "4d6kh3-1" := by rfl
  have back := parse_exact.2 _ proper
  rw [written] at back
  refine ⟨?_, proper, back⟩
  apply (parse_exact.1 _ _).mpr
  refine ⟨[' '], [' '], by decide, by simp [Text.isBlank], by simp [Text.isBlank], ?_⟩
  have word : "4D6kH3-1".toList.map Char.toLower
      = ['4'] ++ 'd' :: (['6'] ++ ['k', 'h', '3'] ++ ['-', '1']) := by decide
  have numeral (value : Nat) := Text.numeral_toDigits value
  rw [word]
  exact .parts (.digits (numeral 4) (by decide)) ⟨numeral 6, by decide⟩
    (.highest (numeral 3) (by decide) (by decide)) (.minus (numeral 1) (by decide))

end Fray.Dice
