import Fray.Table
import Mathlib.Algebra.GroupWithZero.Nat
import Mathlib.Algebra.Order.BigOperators.Group.List
import Mathlib.Algebra.Order.Group.Nat

/-!
# Entries of tables

The entries of a table are what its look-ups find, and a sum over the entries
changes with an entry by what the entry is worth.
-/

namespace Fray

namespace Table

variable {α : Type}

/-! ### Entries and look-ups -/

theorem find_eq_some_of_mem {name : String} {value : α} {entries : List (String × α)}
    (sorted : entries.Pairwise (fun a b => a.1 < b.1)) (member : (name, value) ∈ entries) :
    find name entries = some value := by
  induction entries with
  | nil => cases member
  | cons first rest ih =>
    obtain ⟨above, tail⟩ := List.pairwise_cons.mp sorted
    rcases List.mem_cons.mp member with rfl | inside
    · simp [find]
    · have different : name ≠ first.1 := by
        intro same
        have less : first.1 < name := above (name, value) inside
        exact String.lt_irrefl _ (same ▸ less)
      simp only [find, if_neg different]
      exact ih tail inside

theorem mem_of_find {name : String} {value : α} {entries : List (String × α)}
    (found : find name entries = some value) : (name, value) ∈ entries := by
  induction entries with
  | nil => cases found
  | cons first rest ih =>
    simp only [find] at found
    split at found
    next same =>
      cases found
      subst same
      exact List.mem_cons_self
    · exact List.mem_cons_of_mem _ (ih found)

theorem mem_entries {table : Table α} {name : String} {value : α} :
    (name, value) ∈ table.entries ↔ table.get? name = some value :=
  ⟨find_eq_some_of_mem table.sorted, mem_of_find⟩

theorem mem_keys {table : Table α} {name : String} :
    name ∈ table.keys ↔ table.contains name = true := by
  rw [contains, Option.isSome_iff_exists]
  constructor
  · intro listed
    obtain ⟨⟨_, value⟩, member, rfl⟩ := List.mem_map.mp listed
    exact ⟨value, mem_entries.mp member⟩
  · rintro ⟨value, found⟩
    exact List.mem_map.mpr ⟨(name, value), mem_entries.mpr found, rfl⟩

theorem sorted_keys (table : Table α) : table.keys.Pairwise (· < ·) :=
  List.pairwise_map.mpr table.sorted

theorem nodup_keys (table : Table α) : table.keys.Nodup := by
  refine table.sorted_keys.imp fun {early late} less same => ?_
  exact String.lt_irrefl _ (same ▸ less)

theorem find_filter {name : String} (keep : String → α → Bool) {entries : List (String × α)}
    (sorted : entries.Pairwise (fun a b => a.1 < b.1)) :
    find name (entries.filter fun entry => keep entry.1 entry.2)
      = (find name entries).filter (keep name) := by
  induction entries with
  | nil => rfl
  | cons first rest ih =>
    obtain ⟨above, tail⟩ := List.pairwise_cons.mp sorted
    have later := ih tail
    by_cases same : name = first.1
    · subst same
      -- No other entry has the name of the first.
      have nowhere : find first.1 rest = none := find_eq_none_of_lt above
      by_cases kept : keep first.1 first.2 = true
      · simp only [List.filter_cons, kept, if_true, find, Option.filter_some]
      · simp only [List.filter_cons, kept, Bool.false_eq_true, if_false, later, nowhere, find,
          if_true, Option.filter_some, Option.filter_none]
    · by_cases kept : keep first.1 first.2 = true
      · simp only [List.filter_cons, kept, if_true, find, if_neg same]
        exact later
      · simp only [List.filter_cons, kept, Bool.false_eq_true, if_false, find, if_neg same]
        exact later

theorem get?_filter (keep : String → α → Bool) (table : Table α) (name : String) :
    (table.filter keep).get? name = (table.get? name).filter (keep name) :=
  find_filter keep table.sorted

theorem contains_insert (table : Table α) (name other : String) (value : α) :
    (table.insert name value).contains other = (other = name || table.contains other) := by
  simp only [contains, get?_insert]
  by_cases same : other = name <;> simp [same]

/-- Removing a name that is not there changes nothing. -/
theorem erase_of_absent {table : Table α} {name : String} (absent : table.get? name = none) :
    table.erase name = table := by
  refine ext_get? fun other => ?_
  rw [get?_erase]
  split
  next same => rw [same, absent]
  · rfl

theorem insert_insert (table : Table α) (name : String) (old value : α) :
    (table.insert name old).insert name value = table.insert name value := by
  refine ext_get? fun other => ?_
  simp only [get?_insert]
  split <;> rfl

theorem erase_insert_empty (name : String) (value : α) :
    (empty.insert name value).erase name = empty := by
  refine ext_get? fun other => ?_
  rw [get?_erase, get?_insert, get?_empty]
  split <;> rfl

/-! ### Sums -/

/-- The sum of what the values of a table are worth. -/
def total (worth : α → Nat) (table : Table α) : Nat := (table.values.map worth).sum

private theorem sum_put {worth : α → Nat} {name : String} {old value : α}
    {entries : List (String × α)} (sorted : entries.Pairwise (fun a b => a.1 < b.1))
    (found : find name entries = some old) :
    ((put name value entries).map (worth ·.2)).sum + worth old
      = (entries.map (worth ·.2)).sum + worth value := by
  induction entries with
  | nil => cases found
  | cons first rest ih =>
    obtain ⟨above, tail⟩ := List.pairwise_cons.mp sorted
    simp only [find] at found
    simp only [put]
    split at found
    next same =>
      cases found
      have notLess : ¬ name < first.1 := same ▸ String.lt_irrefl _
      rw [if_neg notLess, if_pos same]
      simp only [List.map_cons, List.sum_cons]
      omega
    next different =>
      -- A name that is found further on is larger than the first.
      have notLess : ¬ name < first.1 := by
        intro less
        exact String.lt_irrefl _ (String.lt_trans less (above _ (mem_of_find found)))
      rw [if_neg notLess, if_neg different]
      have step := ih tail found
      simp only [List.map_cons, List.sum_cons]
      omega

private theorem sum_filter_name {worth : α → Nat} {name : String} {old : α}
    {entries : List (String × α)} (sorted : entries.Pairwise (fun a b => a.1 < b.1))
    (found : find name entries = some old) :
    ((entries.filter (·.1 ≠ name)).map (worth ·.2)).sum + worth old
      = (entries.map (worth ·.2)).sum := by
  induction entries with
  | nil => cases found
  | cons first rest ih =>
    obtain ⟨above, tail⟩ := List.pairwise_cons.mp sorted
    simp only [find] at found
    split at found
    next same =>
      cases found
      have kept : rest.filter (·.1 ≠ name) = rest := by
        refine List.filter_eq_self.mpr fun entry inside => ?_
        have less : name < entry.1 := same ▸ above entry inside
        have different : entry.1 ≠ name := fun equal => String.lt_irrefl _ (equal ▸ less)
        simpa using different
      rw [List.filter_cons_of_neg (by simp [same]), kept]
      simp only [List.map_cons, List.sum_cons]
      omega
    next different =>
      rw [List.filter_cons_of_pos (by simpa using Ne.symm different)]
      have step := ih tail found
      simp only [List.map_cons, List.sum_cons]
      omega

private theorem sum_put_new {worth : α → Nat} {name : String} {value : α}
    {entries : List (String × α)} (absent : find name entries = none) :
    ((put name value entries).map (worth ·.2)).sum
      = (entries.map (worth ·.2)).sum + worth value := by
  induction entries with
  | nil => simp [put]
  | cons first rest ih =>
    simp only [find] at absent
    split at absent
    · cases absent
    next different =>
      simp only [put, if_neg different]
      split
      · simp only [List.map_cons, List.sum_cons]
        omega
      · simp only [List.map_cons, List.sum_cons, ih absent]
        omega

/-- A new name brings what its value is worth. -/
theorem total_insert_new {worth : α → Nat} {table : Table α} {name : String}
    (absent : table.get? name = none) (value : α) :
    (table.insert name value).total worth = table.total worth + worth value := by
  simpa [total, values, insert, Function.comp_def] using sum_put_new absent

theorem total_insert {worth : α → Nat} {table : Table α} {name : String} {old : α}
    (found : table.get? name = some old) (value : α) :
    (table.insert name value).total worth + worth old = table.total worth + worth value := by
  simpa [total, values, insert, Function.comp_def] using sum_put table.sorted found

theorem total_erase {worth : α → Nat} {table : Table α} {name : String} {old : α}
    (found : table.get? name = some old) :
    (table.erase name).total worth + worth old = table.total worth := by
  simpa [total, values, erase, Function.comp_def] using sum_filter_name table.sorted found

theorem worth_le_total {worth : α → Nat} {table : Table α} {name : String} {value : α}
    (found : table.get? name = some value) : worth value ≤ table.total worth := by
  have sum : (table.erase name).total worth + worth value = table.total worth := total_erase found
  omega

theorem total_map {β : Type} (change : α → β) (worth : β → Nat) (table : Table α) :
    (table.map change).total worth = table.total (worth ∘ change) := by
  simp [total, values, map, Function.comp_def]

/-- Nothing is worth less than nothing, so what is left is worth no more. -/
theorem total_filter_le (keep : String → α → Bool) (worth : α → Nat) (table : Table α) :
    (table.filter keep).total worth ≤ table.total worth := by
  have part : ((table.filter keep).values.map worth).Sublist (table.values.map worth) :=
    (List.filter_sublist.map _).map _
  exact part.sum_le_sum fun _ _ => Nat.zero_le _

theorem total_le {worth : α → Nat} {table : Table α} {bound : Nat}
    (each : ∀ name value, table.get? name = some value → worth value ≤ bound) :
    table.total worth ≤ table.keys.length * bound := by
  have listed : ∀ entry ∈ table.entries, worth entry.2 ≤ bound := fun entry member =>
    each entry.1 entry.2 (mem_entries.mp member)
  unfold total values keys
  generalize table.entries = entries at listed
  induction entries with
  | nil => simp
  | cons first rest ih =>
    obtain ⟨one, others⟩ := List.forall_mem_cons.mp listed
    have later := ih others
    simp only [List.map_cons, List.sum_cons, List.length_cons, Nat.succ_mul]
    omega

end Table

end Fray
