/-!
# Bounded game numbers

A `Count` is a number of things: hit points, stacks, action points, rounds. A
`Score` is a signed result: a roll, a total, an armor class, an amount of
damage. Both have 32 bits and saturate: an operation whose exact result lies
outside the range gives the nearest end of it. The lemmas state every operation
through `toNat` and `toInt`, where the range is plain arithmetic.
-/
namespace Fray

/-- A number of things, at most `2 ^ 32 - 1`. -/
@[ext]
structure Count where
  toNat : Nat
  le_greatest : toNat ≤ 4294967295
deriving DecidableEq

/-- A signed game number between `-2 ^ 31` and `2 ^ 31 - 1`. -/
@[ext]
structure Score where
  toInt : Int
  least_le : -2147483648 ≤ toInt
  le_greatest : toInt ≤ 2147483647
deriving DecidableEq

/-! ### Counts -/

namespace Count

/-- The count nearest to a natural number. -/
def ofNat (n : Nat) : Count := ⟨min n 4294967295, Nat.min_le_right _ _⟩

/-- The count equal to an integer, if there is one. -/
def ofInt? (i : Int) : Option Count :=
  if h : 0 ≤ i ∧ i ≤ 4294967295 then some ⟨i.toNat, by omega⟩ else none

instance {n : Nat} : OfNat Count n := ⟨ofNat n⟩
instance : Inhabited Count := ⟨0⟩
instance : Add Count := ⟨fun a b => ofNat (a.toNat + b.toNat)⟩
instance : Sub Count := ⟨fun a b => ⟨a.toNat - b.toNat, by have := a.le_greatest; omega⟩⟩
instance : LE Count := ⟨fun a b => a.toNat ≤ b.toNat⟩
instance : LT Count := ⟨fun a b => a.toNat < b.toNat⟩
instance (a b : Count) : Decidable (a ≤ b) := inferInstanceAs (Decidable (a.toNat ≤ b.toNat))
instance (a b : Count) : Decidable (a < b) := inferInstanceAs (Decidable (a.toNat < b.toNat))
instance : Min Count := ⟨fun a b => if a ≤ b then a else b⟩
instance : Max Count := ⟨fun a b => if a ≤ b then b else a⟩
instance : ToString Count := ⟨fun a => toString a.toNat⟩

theorem toNat_ofNat (n : Nat) : (ofNat n).toNat = min n 4294967295 := rfl

theorem toNat_one : (1 : Count).toNat = 1 := rfl

theorem toNat_add (a b : Count) : (a + b).toNat = min (a.toNat + b.toNat) 4294967295 := rfl

theorem toNat_sub (a b : Count) : (a - b).toNat = a.toNat - b.toNat := rfl

theorem le_iff {a b : Count} : a ≤ b ↔ a.toNat ≤ b.toNat := Iff.rfl

theorem lt_iff {a b : Count} : a < b ↔ a.toNat < b.toNat := Iff.rfl

theorem toNat_min (a b : Count) : (min a b).toNat = min a.toNat b.toNat := by
  show (if a ≤ b then a else b).toNat = _
  simp only [le_iff]
  split <;> omega

theorem toNat_max (a b : Count) : (max a b).toNat = max a.toNat b.toNat := by
  show (if a ≤ b then b else a).toNat = _
  simp only [le_iff]
  split <;> omega

end Count

/-! ### Scores -/

namespace Score

/-- The score nearest to an integer. -/
def ofInt (i : Int) : Score :=
  ⟨max (-2147483648) (min i 2147483647), by omega, by omega⟩

/-- The score equal to an integer, if there is one. -/
def ofInt? (i : Int) : Option Score :=
  if h : -2147483648 ≤ i ∧ i ≤ 2147483647 then some ⟨i, h.1, h.2⟩ else none

instance {n : Nat} : OfNat Score n := ⟨ofInt n⟩
instance : Inhabited Score := ⟨0⟩
instance : Add Score := ⟨fun a b => ofInt (a.toInt + b.toInt)⟩
instance : Sub Score := ⟨fun a b => ofInt (a.toInt - b.toInt)⟩
instance : Mul Score := ⟨fun a b => ofInt (a.toInt * b.toInt)⟩
instance : LE Score := ⟨fun a b => a.toInt ≤ b.toInt⟩
instance : LT Score := ⟨fun a b => a.toInt < b.toInt⟩
instance (a b : Score) : Decidable (a ≤ b) := inferInstanceAs (Decidable (a.toInt ≤ b.toInt))
instance (a b : Score) : Decidable (a < b) := inferInstanceAs (Decidable (a.toInt < b.toInt))
instance : Max Score := ⟨fun a b => if a ≤ b then b else a⟩
instance : ToString Score := ⟨fun a => toString a.toInt⟩

/-- Half a score, toward zero. -/
def half (a : Score) : Score := ofInt (a.toInt.tdiv 2)

/-- A positive score as a count; nothing is left of a negative one. -/
def toCount (a : Score) : Count := Count.ofNat a.toInt.toNat

theorem toInt_ofInt (i : Int) :
    (ofInt i).toInt = max (-2147483648) (min i 2147483647) := rfl

theorem toInt_add (a b : Score) :
    (a + b).toInt = max (-2147483648) (min (a.toInt + b.toInt) 2147483647) := rfl

theorem toInt_sub (a b : Score) :
    (a - b).toInt = max (-2147483648) (min (a.toInt - b.toInt) 2147483647) := rfl

theorem toInt_mul (a b : Score) :
    (a * b).toInt = max (-2147483648) (min (a.toInt * b.toInt) 2147483647) := rfl

theorem le_iff {a b : Score} : a ≤ b ↔ a.toInt ≤ b.toInt := Iff.rfl

theorem lt_iff {a b : Score} : a < b ↔ a.toInt < b.toInt := Iff.rfl

theorem toInt_max (a b : Score) : (max a b).toInt = max a.toInt b.toInt := by
  show (if a ≤ b then b else a).toInt = _
  simp only [le_iff]
  split <;> omega

theorem toNat_toCount (a : Score) : a.toCount.toNat = a.toInt.toNat := by
  have := a.le_greatest
  simp only [toCount, Count.toNat_ofNat]
  omega

end Score

/-- A count as a score; the upper half of the counts is not reached. -/
def Count.toScore (a : Count) : Score := Score.ofInt a.toNat

theorem Count.toInt_toScore (a : Count) :
    a.toScore.toInt = min (a.toNat : Int) 2147483647 := by
  simp only [toScore, Score.toInt_ofInt]
  omega

end Fray
