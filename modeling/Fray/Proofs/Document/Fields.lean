import Fray.Document.Value
import Mathlib.Data.List.Basic

/-!
# The fields of a record

What a reading takes from a record is the value of each of its fields. Fields of other names do
not matter to it, and a field that is written out with its default reads as if it were left out.
So two records that agree on all but such fields are read alike.

## Main results

`find_middle`: the value of a field that stands somewhere among others. `Matches` is the
agreement of two records, and `Matches.required`, `Matches.defaulted` and `Matches.optional` are
what the three ways to read a field make of it.
-/

namespace Fray.Record

variable {ν α : Type}

/-! ### Finding a field -/

/-- Only the fields of a name decide what is found under it. -/
theorem find_congr {one two : Record ν} {name : String}
    (same : one.fields.filter (·.1 == name) = two.fields.filter (·.1 == name)) :
    one.find name = two.find name := by
  unfold find
  rw [same]

private theorem filter_absent {fields : List (String × ν)} {name : String}
    (absent : name ∉ fields.map Prod.fst) : fields.filter (·.1 == name) = [] :=
  List.filter_eq_nil_iff.mpr fun field member same =>
    absent (List.mem_map.mpr ⟨field, member, beq_iff_eq.mp same⟩)

theorem find_absent {record : Record ν} {name : String}
    (absent : name ∉ record.fields.map Prod.fst) : record.find name = some none := by
  unfold find
  rw [filter_absent absent]

/-- A field is found wherever it stands, unless its name comes twice. -/
theorem find_middle (names : List String) (before after : List (String × ν)) (name : String)
    (value : ν) (isRow : Bool) (absent : name ∉ (before ++ after).map Prod.fst) :
    (Record.mk names (before ++ (name, value) :: after) isRow).find name = some (some value) := by
  rw [List.map_append, List.mem_append, not_or] at absent
  simp only [find, List.filter_append, List.filter_cons, beq_self_eq_true, if_true,
    filter_absent absent.1, filter_absent absent.2, List.nil_append]

/-- Whether a field is found does not depend on its value. -/
theorem find_middle_cases (names : List String) (before after : List (String × ν)) (name : String)
    (isRow : Bool) :
    (∀ value, (Record.mk names (before ++ (name, value) :: after) isRow).find name
        = some (some value)) ∨
      ∀ value, (Record.mk names (before ++ (name, value) :: after) isRow).find name = none := by
  by_cases absent : name ∉ (before ++ after).map Prod.fst
  · exact .inl fun value => find_middle names before after name value isRow absent
  · refine .inr fun value => ?_
    obtain ⟨field, member, same⟩ := List.mem_map.mp (not_not.mp absent)
    have kept : field ∈ (before ++ after).filter (·.1 == name) :=
      List.mem_filter.mpr ⟨member, beq_iff_eq.mpr same⟩
    simp only [find, List.filter_append, List.filter_cons, beq_self_eq_true, if_true] at kept ⊢
    -- There is one more field of the name before or after this one.
    cases early : before.filter (·.1 == name) with
    | nil =>
      cases late : after.filter (·.1 == name) with
      | nil =>
        rw [early, late] at kept
        cases kept
      | cons => rfl
    | cons first rest => cases rest <;> rfl

/-- A field does not matter to those of other names. -/
theorem find_middle_of_ne (names : List String) (before after : List (String × ν))
    {other name : String} (value : ν) (isRow : Bool) (apart : other ≠ name) :
    (Record.mk names (before ++ (other, value) :: after) isRow).find name
      = (Record.mk names (before ++ after) isRow).find name := by
  refine find_congr ?_
  have skipped : (other == name) = false := beq_eq_false_iff_ne.mpr apart
  simp only [List.filter_append, List.filter_cons, skipped, Bool.false_eq_true, if_false]

/-- Leaving out the fields that are not declared changes nothing of those that are. -/
theorem find_declared (names : List String) (fields : List (String × ν)) {name : String}
    (isRow : Bool) (declared : name ∈ names) :
    (Record.mk names (fields.filter fun field => names.contains field.1) isRow).find name
      = (Record.mk names fields isRow).find name := by
  refine find_congr ?_
  rw [List.filter_filter]
  refine List.filter_congr fun field _ => ?_
  by_cases same : field.1 = name
  · simp [same, declared]
  · simp [same]

/-! ### Records that agree -/

variable [Document ν]

/--
Two records of the same kind with the same declared fields, up to fields that the first writes out
with a default value and the second leaves out. A row has to hold its optional fields.
-/
structure Matches (names : List String) (defaults : List (String × ν)) (full short : Record ν) :
    Prop where
  isRow : full.isRow = short.isRow
  field : ∀ name ∈ names, full.find name = short.find name ∨
    ∃ value, (name, value) ∈ defaults ∧ (Document.isAbsent value = true → short.isRow = false) ∧
      full.find name = some (some value) ∧ short.find name = some none

variable {names : List String} {defaults : List (String × ν)} {full short : Record ν}
  {name : String}

/-- A field without a default is required alike. -/
theorem Matches.required (same : Matches names defaults full short) (declared : name ∈ names)
    (kept : ∀ field ∈ defaults, field.1 ≠ name) (read : ν → Option α) :
    full.required name read = short.required name read := by
  rcases same.field name declared with equal | ⟨value, known, _⟩
  · simp only [Record.required, equal]
  · exact absurd rfl (kept _ known)

theorem Matches.defaulted (same : Matches names defaults full short) (declared : name ∈ names)
    {default : α} {read : ν → Option α}
    (fits : ∀ field ∈ defaults, field.1 = name → read field.2 = some default) :
    full.defaulted name default read = short.defaulted name default read := by
  rcases same.field name declared with equal | ⟨value, known, _, written, omitted⟩
  · simp only [Record.defaulted, equal]
  · simp only [Record.defaulted, written, omitted, Option.bind_some]
    exact fits _ known rfl

theorem Matches.optional (same : Matches names defaults full short) (declared : name ∈ names)
    (fits : ∀ field ∈ defaults, field.1 = name → Document.isAbsent field.2 = true)
    (read : ν → Option α) : full.optional name read = short.optional name read := by
  rcases same.field name declared with equal | ⟨value, known, named, written, omitted⟩
  · simp only [Record.optional, equal, same.isRow]
  · have absent := fits _ known rfl
    simp only [Record.optional, written, omitted, Option.bind_some, Document.optional?, absent,
      named absent, if_true, Bool.false_eq_true, if_false]

/-- Without the undeclared fields a record is read alike. -/
theorem matches_declared (names : List String) (defaults fields : List (String × ν))
    (isRow : Bool) :
    Matches names defaults ⟨names, fields.filter fun field => names.contains field.1, isRow⟩
      ⟨names, fields, isRow⟩ :=
  ⟨rfl, fun _ declared => .inl (find_declared names fields isRow declared)⟩

/-- Without a field that has its default value a record is read alike. -/
theorem matches_middle (names : List String) {defaults : List (String × ν)}
    (before after : List (String × ν)) {field : String × ν} (isRow : Bool)
    (known : field ∈ defaults) (absent : field.1 ∉ (before ++ after).map Prod.fst)
    (named : Document.isAbsent field.2 = true → isRow = false) :
    Matches names defaults ⟨names, before ++ field :: after, isRow⟩
      ⟨names, before ++ after, isRow⟩ := by
  refine ⟨rfl, fun name _ => ?_⟩
  by_cases same : field.1 = name
  · subst same
    exact .inr ⟨field.2, known, named, find_middle names before after field.1 field.2 isRow absent,
      find_absent absent⟩
  · exact .inl (find_middle_of_ne names before after field.2 isRow same)

/-- Without its last field, if that has its default value, a row is read alike. -/
theorem matches_row {names : List String} (distinct : names.Nodup)
    {defaults : List (String × ν)} {row : List ν} {field : String × ν}
    (known : field ∈ defaults) (present : Document.isAbsent field.2 = false)
    (next : names[row.length]? = some field.1) :
    Matches names defaults ⟨names, names.zip (row ++ [field.2]), true⟩
      ⟨names, names.zip row, true⟩ := by
  obtain ⟨inside, at_⟩ := List.getElem?_eq_some_iff.mp next
  obtain ⟨early, late, split, long⟩ : ∃ early late,
      names = early ++ field.1 :: late ∧ early.length = row.length :=
    ⟨names.take row.length, names.drop (row.length + 1),
      by rw [← at_, ← List.drop_eq_getElem_cons inside, List.take_append_drop],
      List.length_take_of_le (Nat.le_of_lt inside)⟩
  have full : names.zip (row ++ [field.2]) = early.zip row ++ field :: [] := by
    rw [split, List.zip_append long, List.zip_cons_cons, List.zip_nil_right]
  have short : names.zip row = early.zip row ++ [] := by
    have whole : (early ++ field.1 :: late).zip (row ++ []) = early.zip row ++ [] :=
      List.zip_append long
    rwa [List.append_nil row, ← split] at whole
  have fresh : field.1 ∉ (early.zip row ++ []).map Prod.fst := by
    rw [List.append_nil, List.map_fst_zip (Nat.le_of_eq long)]
    rw [split] at distinct
    exact fun member => (List.nodup_append.mp distinct).2.2 _ member _ List.mem_cons_self rfl
  rw [full, short]
  refine matches_middle names _ _ true known fresh fun absent => ?_
  rw [present] at absent
  cases absent

end Fray.Record
