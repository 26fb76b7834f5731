import Fray.Text.Blank
import Fray.Text.Numeral
import Mathlib.Data.List.DropRight

/-!
# Numerals and blanks

What a row of ASCII digits stands for in decimal, and how the readers of numbers and
the trimming of blanks agree with it.

## Main results

`natural?_eq_some`, `count?_eq_some` and `score?_eq_some` say which texts are read as
which numbers, `numeral_toDigits` that every number is written as one of its numerals.
`exists_trim` and `trim_of_solid` describe trimming by what is around a text.
-/

namespace Fray

/-! ### Numbers in range -/

theorem Count.ofInt?_eq_some {value : Nat} {count : Count} :
    Count.ofInt? value = some count ↔ count.toNat = value := by
  have most := count.le_greatest
  unfold Count.ofInt?
  split
  next inside =>
    rw [Option.some_inj, Count.ext_iff]
    simp only [Int.toNat_natCast]
    exact eq_comm
  next outside =>
    simp only [reduceCtorEq, false_iff]
    omega

theorem Score.ofInt?_eq_some {value : Int} {score : Score} :
    Score.ofInt? value = some score ↔ score.toInt = value := by
  have least := score.least_le
  have most := score.le_greatest
  unfold Score.ofInt?
  split
  next inside =>
    rw [Option.some_inj, Score.ext_iff]
    exact eq_comm
  next outside =>
    simp only [reduceCtorEq, false_iff]
    omega

namespace Text

/-! ### Numerals -/

/-- A row of ASCII digits that stands for a number, in decimal. -/
structure Numeral (text : List Char) (value : Nat) : Prop where
  nonempty : text ≠ []
  digits : ∀ c ∈ text, c.isDigit = true
  value : Nat.ofDigitChars 10 text 0 = value

/-- Reading digits from the left adds them up by their places. -/
theorem foldl_digits (text : List Char) (start : Nat) :
    text.foldl (fun value c => value * 10 + digitValue c) start
      = Nat.ofDigitChars 10 text start := by
  induction text generalizing start with
  | nil => rfl
  | cons c rest ih =>
    rw [List.foldl_cons, ih, Nat.ofDigitChars_cons, Nat.mul_comm]
    rfl

theorem natural?_eq_some {text : List Char} {value : Nat} :
    natural? text = some value ↔ Numeral text value := by
  unfold natural?
  rw [foldl_digits]
  constructor
  -- Any row of digits is accepted, so the only number it can be read as is its value.
  · intro read
    split at read
    next digits =>
      simp only [Bool.and_eq_true, Bool.not_eq_true', List.isEmpty_eq_false_iff,
        List.all_eq_true] at digits
      exact ⟨digits.1, digits.2, Option.some.inj read⟩
    · cases read
  · rintro ⟨nonempty, digits, rfl⟩
    have row : (!text.isEmpty && text.all Char.isDigit) = true := by
      simpa [nonempty] using digits
    rw [if_pos row]

theorem numeral_toDigits (value : Nat) : Numeral (Nat.toDigits 10 value) value where
  nonempty := Nat.toDigits_ne_nil
  digits _ member := Nat.isDigit_of_mem_toDigits (by decide) (by decide) member
  value := Nat.ofDigitChars_toDigits (by decide) (by decide)

theorem numeral_toString (value : Nat) : Numeral (toString value).toList value := by
  rw [Nat.toString_eq_ofList_toDigits, String.toList_ofList]
  exact numeral_toDigits value

/-- No sign stands in a numeral. -/
theorem Numeral.not_mem {text : List Char} {value : Nat} (numeral : Numeral text value) {c : Char}
    (other : c.isDigit = false) : c ∉ text := by
  intro member
  rw [numeral.digits c member] at other
  cases other

theorem count?_eq_some {text : List Char} {count : Count} :
    count? text = some count ↔
      Numeral text count.toNat ∨ ∃ digits, text = '+' :: digits ∧ Numeral digits count.toNat := by
  have read (digits : List Char) :
      ((natural? digits).bind fun value => Count.ofInt? value) = some count ↔
        Numeral digits count.toNat := by
    simp only [Option.bind_eq_some_iff, Count.ofInt?_eq_some, natural?_eq_some]
    exact ⟨fun ⟨_, numeral, same⟩ => same ▸ numeral, fun numeral => ⟨_, numeral, rfl⟩⟩
  unfold count?
  split
  -- Behind a plus only digits count; a numeral itself does not begin with one.
  next rest =>
    rw [read]
    refine ⟨fun numeral => .inr ⟨rest, rfl, numeral⟩, fun either => ?_⟩
    rcases either with numeral | ⟨digits, same, numeral⟩
    · exact absurd List.mem_cons_self (numeral.not_mem (by decide))
    · cases same
      exact numeral
  next unsigned =>
    rw [read]
    refine ⟨.inl, fun either => ?_⟩
    rcases either with numeral | ⟨digits, same, _⟩
    · exact numeral
    · exact absurd same (unsigned digits)

theorem count?_of_unsigned {text : List Char} {count : Count} (unsigned : '+' ∉ text) :
    count? text = some count ↔ Numeral text count.toNat := by
  rw [count?_eq_some]
  refine ⟨fun either => ?_, .inl⟩
  rcases either with numeral | ⟨digits, rfl, _⟩
  · exact numeral
  · exact absurd List.mem_cons_self unsigned

/-- What a reader of scores makes of the digits after a sign. -/
private theorem read_digits {digits : List Char} {signed : Nat → Int} {score : Score} :
    ((natural? digits).bind fun value => Score.ofInt? (signed value)) = some score ↔
      ∃ value, Numeral digits value ∧ score.toInt = signed value := by
  simp only [Option.bind_eq_some_iff, Score.ofInt?_eq_some, natural?_eq_some]

theorem score?_plus {digits : List Char} {score : Score} :
    score? ('+' :: digits) = some score ↔
      ∃ value : Nat, Numeral digits value ∧ score.toInt = value :=
  read_digits

theorem score?_minus {digits : List Char} {score : Score} :
    score? ('-' :: digits) = some score ↔
      ∃ value : Nat, Numeral digits value ∧ score.toInt = -value :=
  read_digits

/-- A score is written as a sign and the digits of what it is apart from the sign. -/
theorem signed_toList (score : Score) :
    (signed score).toList
      = (if score.toInt < 0 then '-' else '+') :: (toString score.toInt.natAbs).toList := by
  unfold signed
  by_cases negative : score.toInt < 0
  · rw [if_pos negative, if_pos negative, Int.toString_eq_repr, Int.repr_eq_if,
      if_neg (by omega), String.toList_append, Nat.toString_eq_repr,
      show (-score.toInt).toNat = score.toInt.natAbs by omega]
    rfl
  · rw [if_neg negative, if_neg negative, Int.toString_eq_repr, Int.repr_eq_if,
      if_pos (by omega), String.toList_append, Nat.toString_eq_repr,
      show score.toInt.toNat = score.toInt.natAbs by omega]
    rfl

/-! ### Blanks -/

/-- Only blanks are trimmed, and only at the ends. -/
theorem exists_trim (text : List Char) :
    ∃ before after, text = before ++ trim text ++ after ∧
      (∀ c ∈ before, isBlank c = true) ∧ ∀ c ∈ after, isBlank c = true := by
  refine ⟨text.takeWhile isBlank, (text.dropWhile isBlank).rtakeWhile isBlank, ?_, ?_, ?_⟩
  · rw [List.append_assoc]
    show text = _ ++ ((text.dropWhile isBlank).rdropWhile isBlank ++ _)
    rw [List.rdropWhile_append_rtakeWhile, List.takeWhile_append_dropWhile]
  · exact fun _ => List.mem_takeWhile_imp
  · exact fun _ => List.mem_rtakeWhile_imp

/-- Dropping blanks stops where a text without blanks begins. -/
theorem dropWhile_blank_append {blanks word : List Char} (rest : List Char) (nonempty : word ≠ [])
    (blank : ∀ c ∈ blanks, isBlank c = true) (solid : ∀ c ∈ word, isBlank c = false) :
    (blanks ++ (word ++ rest)).dropWhile isBlank = word ++ rest := by
  rw [List.dropWhile_append_of_pos blank]
  cases word with
  | nil => exact absurd rfl nonempty
  | cons c tail =>
    rw [List.cons_append]
    exact List.dropWhile_cons_of_neg (by simp [solid c List.mem_cons_self])

/-- Blanks around a text without blanks are all that is trimmed. -/
theorem trim_of_solid {before word after : List Char} (nonempty : word ≠ [])
    (blankBefore : ∀ c ∈ before, isBlank c = true) (blankAfter : ∀ c ∈ after, isBlank c = true)
    (solid : ∀ c ∈ word, isBlank c = false) : trim (before ++ word ++ after) = word := by
  unfold trim
  rw [List.append_assoc, dropWhile_blank_append after nonempty blankBefore solid,
    List.reverse_append]
  -- the same from the other end
  have back : (after.reverse ++ (word.reverse ++ [])).dropWhile isBlank = word.reverse ++ [] :=
    dropWhile_blank_append [] (by simpa using nonempty) (by simpa using blankAfter)
      (by simpa using solid)
  rw [List.append_nil] at back
  rw [back, List.reverse_reverse]

end Text

end Fray
