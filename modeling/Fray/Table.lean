/-!
# Tables keyed by name

A `Table` maps names to values and lists its entries in the order of the names.
Names are compared by code points, which is also the order of their UTF-8
bytes. Every operation keeps the entries sorted, so a table is determined by
its look-ups (`Table.ext_get?`).
-/
namespace Fray

structure Table (α : Type) where
  entries : List (String × α)
  sorted : entries.Pairwise (fun a b => a.1 < b.1)

namespace Table

variable {α β : Type}

/-! ### Sorted lists of entries -/

/-- Put a value under a name, before the first larger name. -/
def put (name : String) (value : α) : List (String × α) → List (String × α)
  | [] => [(name, value)]
  | entry :: rest =>
    if name < entry.1 then (name, value) :: entry :: rest
    else if name = entry.1 then (name, value) :: rest
    else entry :: put name value rest

theorem mem_put {name : String} {value : α} {entries : List (String × α)} {entry : String × α}
    (member : entry ∈ put name value entries) : entry = (name, value) ∨ entry ∈ entries := by
  induction entries with
  | nil => simpa [put] using member
  | cons first rest ih =>
    simp only [put] at member
    split at member
    · simpa using member
    · split at member
      · rcases List.mem_cons.mp member with equal | inside
        · exact Or.inl equal
        · exact Or.inr (List.mem_cons_of_mem _ inside)
      · rcases List.mem_cons.mp member with rfl | inside
        · exact Or.inr List.mem_cons_self
        · rcases ih inside with equal | old
          · exact Or.inl equal
          · exact Or.inr (List.mem_cons_of_mem _ old)

theorem lt_of_not_lt_of_ne {a b : String} (notLess : ¬ a < b) (different : ¬ a = b) : b < a := by
  rcases Decidable.em (b < a) with less | notGreater
  · exact less
  · exact absurd (String.le_antisymm (String.not_lt.mp notGreater) (String.not_lt.mp notLess))
      different

theorem sorted_put (name : String) (value : α) (entries : List (String × α))
    (sorted : entries.Pairwise (fun a b => a.1 < b.1)) :
    (put name value entries).Pairwise (fun a b => a.1 < b.1) := by
  induction entries with
  | nil => simp [put]
  | cons first rest ih =>
    obtain ⟨above, tail⟩ := List.pairwise_cons.mp sorted
    simp only [put]
    split
    next less =>
      refine List.pairwise_cons.mpr ⟨fun entry member => ?_, sorted⟩
      rcases List.mem_cons.mp member with rfl | inside
      · exact less
      · exact String.lt_trans less (above entry inside)
    next notLess =>
      split
      next equal =>
        exact List.pairwise_cons.mpr ⟨fun entry member => equal ▸ above entry member, tail⟩
      next different =>
        refine List.pairwise_cons.mpr ⟨fun entry member => ?_, ih tail⟩
        rcases mem_put member with rfl | old
        · exact lt_of_not_lt_of_ne notLess different
        · exact above entry old

/-- The value under a name, if there is one. -/
def find (name : String) : List (String × α) → Option α
  | [] => none
  | entry :: rest => if name = entry.1 then some entry.2 else find name rest

/-! ### Operations -/

def empty : Table α := ⟨[], List.Pairwise.nil⟩

instance : Inhabited (Table α) := ⟨empty⟩

def get? (table : Table α) (name : String) : Option α := find name table.entries

def contains (table : Table α) (name : String) : Bool := (table.get? name).isSome

/-- Set the value under a name, replacing the one that is there. -/
def insert (table : Table α) (name : String) (value : α) : Table α :=
  ⟨put name value table.entries, sorted_put name value _ table.sorted⟩

/-- Remove a name with its value. -/
def erase (table : Table α) (name : String) : Table α :=
  ⟨table.entries.filter (fun entry => entry.1 ≠ name), table.sorted.filter _⟩

/-- Keep the entries whose name and value pass a test. -/
def filter (keep : String → α → Bool) (table : Table α) : Table α :=
  ⟨table.entries.filter (fun entry => keep entry.1 entry.2), table.sorted.filter _⟩

/-- Change every value and no name. -/
def map (change : α → β) (table : Table α) : Table β :=
  ⟨table.entries.map (fun entry => (entry.1, change entry.2)),
    List.pairwise_map.mpr (table.sorted.imp id)⟩

/-- The names in order. -/
def keys (table : Table α) : List String := table.entries.map (·.1)

/-- The values in the order of their names. -/
def values (table : Table α) : List α := table.entries.map (·.2)

def size (table : Table α) : Nat := table.entries.length

def isEmpty (table : Table α) : Bool := table.entries.isEmpty

/-- Enter pairs one after another, so the last value of a name stays. -/
def ofList (pairs : List (String × α)) : Table α :=
  pairs.foldl (fun table pair => table.insert pair.1 pair.2) empty

/-! ### Look-ups -/

theorem find_eq_none_of_lt {name : String} {entries : List (String × α)}
    (below : ∀ entry ∈ entries, name < entry.1) : find name entries = none := by
  induction entries with
  | nil => rfl
  | cons first rest ih =>
    have different : ¬ name = first.1 := fun equal =>
      String.lt_irrefl _ (equal ▸ below first List.mem_cons_self)
    simp only [find, different, if_false]
    exact ih fun entry member => below entry (List.mem_cons_of_mem _ member)

theorem find_put (name other : String) (value : α) (entries : List (String × α)) :
    find other (put name value entries)
      = if other = name then some value else find other entries := by
  induction entries with
  | nil => simp [put, find]
  | cons first rest ih =>
    simp only [put]
    split
    · simp [find]
    · split
      next equal => subst equal; simp only [find]; split <;> simp_all
      next different =>
        simp only [find, ih]
        split
        next equal =>
          have : ¬ other = name := fun same => different (same ▸ equal)
          simp [this]
        · rfl

theorem find_filter_name (name other : String) (entries : List (String × α)) :
    find other (entries.filter (fun entry => entry.1 ≠ name))
      = if other = name then none else find other entries := by
  induction entries with
  | nil => simp [find]
  | cons first rest ih =>
    by_cases equal : first.1 = name
    · simp only [List.filter_cons, equal, ne_eq, not_true_eq_false, decide_false,
        Bool.false_eq_true, if_false, ih, find]
      split <;> simp_all
    · simp only [List.filter_cons, equal, ne_eq, not_false_eq_true, decide_true, if_true, find, ih]
      split
      next same => simp [same, equal]
      · rfl

@[simp] theorem get?_empty (name : String) : (empty : Table α).get? name = none := rfl

theorem get?_insert (table : Table α) (name other : String) (value : α) :
    (table.insert name value).get? other = if other = name then some value else table.get? other :=
  find_put name other value table.entries

theorem get?_erase (table : Table α) (name other : String) :
    (table.erase name).get? other = if other = name then none else table.get? other :=
  find_filter_name name other table.entries

theorem get?_map (change : α → β) (table : Table α) (name : String) :
    (table.map change).get? name = (table.get? name).map change := by
  simp only [get?, map]
  induction table.entries with
  | nil => rfl
  | cons first rest ih =>
    simp only [List.map_cons, find]
    split <;> simp_all

private theorem get?_foldl_insert (pairs : List (String × α)) (table : Table α) (name : String) :
    (pairs.foldl (fun table pair => table.insert pair.1 pair.2) table).get? name
      = ((pairs.reverse.find? (·.1 = name)).map (·.2)).or (table.get? name) := by
  induction pairs generalizing table with
  | nil => rfl
  | cons first rest ih =>
    rw [List.foldl_cons, ih, get?_insert, List.reverse_cons, List.find?_append, Option.map_or,
      Option.or_assoc]
    congr 1
    by_cases same : name = first.1
    · simp [same]
    · simp [same, Ne.symm same]

/-- The last value of a name is the one that stays. -/
theorem get?_ofList (pairs : List (String × α)) (name : String) :
    (ofList pairs).get? name = (pairs.reverse.find? (·.1 = name)).map (·.2) := by
  rw [ofList, get?_foldl_insert]
  simp

theorem mem_of_get?_ofList {pairs : List (String × α)} {name : String} {value : α}
    (found : (ofList pairs).get? name = some value) : (name, value) ∈ pairs := by
  rw [get?_ofList] at found
  obtain ⟨⟨key, stored⟩, first, rfl⟩ := Option.map_eq_some_iff.mp found
  have named : key = name := by simpa using List.find?_some first
  subst named
  exact List.mem_reverse.mp (List.mem_of_find?_eq_some first)

theorem isSome_get?_ofList {pairs : List (String × α)} {name : String} {value : α}
    (member : (name, value) ∈ pairs) : ((ofList pairs).get? name).isSome = true := by
  rw [get?_ofList, Option.isSome_map, List.find?_isSome]
  exact ⟨(name, value), List.mem_reverse.mpr member, by simp⟩

/-- What the first entry of a row is found by is not in front of another row that finds it. -/
theorem not_lt_of_find {entry other : String × α} {rest more : List (String × α)}
    (above : ∀ e ∈ more, other.1 < e.1)
    (same : find entry.1 (entry :: rest) = find entry.1 (other :: more)) :
    ¬ entry.1 < other.1 := by
  intro less
  have below : ∀ e ∈ other :: more, entry.1 < e.1 := fun e member => by
    rcases List.mem_cons.mp member with rfl | inside
    · exact less
    · exact String.lt_trans less (above e inside)
  rw [find_eq_none_of_lt below] at same
  simp [find] at same

/-- Two tables that answer every look-up alike are the same table. -/
theorem ext_get? {left right : Table α} (same : ∀ name, left.get? name = right.get? name) :
    left = right := by
  obtain ⟨first, sortedFirst⟩ := left
  obtain ⟨second, sortedSecond⟩ := right
  suffices first = second by subst this; rfl
  simp only [get?] at same
  induction first generalizing second with
  | nil =>
    cases second with
    | nil => rfl
    | cons entry rest =>
      have := same entry.1
      simp [find] at this
  | cons entry rest ih =>
    obtain ⟨above, tail⟩ := List.pairwise_cons.mp sortedFirst
    cases second with
    | nil =>
      have := same entry.1
      simp [find] at this
    | cons other more =>
      obtain ⟨aboveOther, tailOther⟩ := List.pairwise_cons.mp sortedSecond
      -- Neither of the first names can be in front of the other.
      have names : entry.1 = other.1 := by
        refine Decidable.byContradiction fun different => ?_
        have greater :=
          lt_of_not_lt_of_ne (not_lt_of_find aboveOther (same entry.1)) different
        exact not_lt_of_find above (same other.1).symm greater
      have values : entry.2 = other.2 := by
        have := same entry.1
        simpa [find, names] using this
      have rests : rest = more := by
        refine ih tail more tailOther fun name => ?_
        rcases Decidable.em (name = entry.1) with equal | different
        · subst equal
          rw [find_eq_none_of_lt above, find_eq_none_of_lt (names ▸ aboveOther)]
        · have := same name
          simpa [find, different, names ▸ different] using this
      rw [rests, Prod.ext names values]

end Table

end Fray
