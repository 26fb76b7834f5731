import Fray.Content

/-!
# Folders of definitions

A folder may list its files in any order: their definitions are read in the order of the
file names. So nothing that is read depends on the order of a listing, and if files cannot
be read, it is the first of them by name whose fault is reported.

To say which fault comes first, the faults are listed without stopping at any of them. What
stops at the first one gives the head of this list, or its result where the list is empty
(`orFirst`), and lists of faults are put behind each other as the steps are (`orFirst_bind`).

## Main results

`loadGiven_eq`: what reading a folder comes to. `Files.Relisted.loadGiven`: the order of a
listing does not matter.
-/

namespace Fray

/-! ### The order of names -/

/-- Whether an entry of a folder is a file with a definition. -/
def FolderItem.isDefinition (item : FolderItem) : Bool :=
  !item.isFolder && Files.hasExtension Content.extension item.name

namespace Files

theorem sortedNames_perm (items : List FolderItem) :
    (sortedNames Content.extension items).Perm
      ((items.filter FolderItem.isDefinition).map FolderItem.name) :=
  List.mergeSort_perm ..

theorem mem_sortedNames {items : List FolderItem} {name : String} :
    name ∈ sortedNames Content.extension items ↔
      ∃ item ∈ items, item.isDefinition = true ∧ item.name = name := by
  simp only [(sortedNames_perm items).mem_iff, List.mem_map, List.mem_filter, and_assoc]

theorem sortedNames_ordered (items : List FolderItem) :
    (sortedNames Content.extension items).Pairwise (· ≤ ·) := by
  have trans (a b c : String) (one : decide (a ≤ b) = true) (two : decide (b ≤ c) = true) :
      decide (a ≤ c) = true := by
    simp only [decide_eq_true_eq] at one two ⊢
    exact String.le_trans one two
  have total (a b : String) : (decide (a ≤ b) || decide (b ≤ a)) = true := by
    simpa using String.le_total a b
  have sorted := List.pairwise_mergeSort trans total
    ((items.filter FolderItem.isDefinition).map FolderItem.name)
  exact sorted.imp of_decide_eq_true

/-- Names have one order, however a folder lists them. -/
theorem sortedNames_eq_of_perm {items other : List FolderItem} (perm : items.Perm other) :
    sortedNames Content.extension items = sortedNames Content.extension other := by
  refine List.Perm.eq_of_pairwise (fun _ _ _ _ => String.le_antisymm)
    (sortedNames_ordered items) (sortedNames_ordered other) ?_
  exact (sortedNames_perm items).trans
    (((perm.filter _).map FolderItem.name).trans (sortedNames_perm other).symm)

end Files

/-! ### The first fault -/

/-- The fault of a result that is one. -/
def faultOf? {ε α : Type} : Except ε α → Option ε
  | .error fault => some fault
  | .ok _ => none

/-- A value, unless something is wrong; then the first of the faults. -/
def orFirst {ε α : Type} (faults : List ε) (value : α) : Except ε α :=
  match faults with
  | [] => .ok value
  | fault :: _ => .error fault

section

variable {ε α β : Type}

theorem orFirst_eq_ok {faults : List ε} {value result : α} :
    orFirst faults value = .ok result ↔ faults = [] ∧ value = result := by
  cases faults <;> simp [orFirst]

theorem orFirst_eq_error {faults : List ε} {value : α} {fault : ε} :
    orFirst faults value = .error fault ↔ faults.head? = some fault := by
  cases faults <;> simp [orFirst]

/-- The faults of a later step come behind those of an earlier one. -/
theorem orFirst_bind (faults later : List ε) (value : α) (result : β) (step : α → Except ε β)
    (next : step value = orFirst later result) :
    (orFirst faults value >>= step) = orFirst (faults ++ later) result := by
  cases faults with
  | nil => exact next
  | cons fault rest => rfl

/-- What is read one by one is all read, or the first fault is reported. -/
theorem mapM_eq_orFirst (read : α → Except ε β) (inputs : List α) :
    inputs.mapM read = orFirst (inputs.filterMap fun input => faultOf? (read input))
      (inputs.filterMap fun input => (read input).toOption) := by
  induction inputs with
  | nil => rfl
  | cons input rest ih =>
    rw [List.mapM_cons, ih]
    cases result : read input with
    | error fault =>
      -- Nothing behind this one is read, nor do its faults matter.
      rw [List.filterMap_cons_some (b := fault) (by rw [result]; rfl)]
      rfl
    | ok value =>
      rw [List.filterMap_cons_none (by rw [result]; rfl),
        List.filterMap_cons_some (b := value) (by rw [result]; rfl)]
      have stops := orFirst_bind (rest.filterMap fun input => faultOf? (read input)) []
        (rest.filterMap fun input => (read input).toOption) _ (pure <| value :: ·) rfl
      rwa [List.append_nil] at stops

end

namespace Content

variable {α : Type} (files : Files) (read : String → Option α)

/-- All that is wrong in a folder, by file name, or that it cannot be listed. -/
def folderFaults : Option String → List Fault
  | none => []
  | some folder =>
    match files.items? folder with
    | none => [.unreadable folder]
    | some items => (Files.sortedNames extension items).filterMap fun name =>
      faultOf? (loadFile files read (Files.join folder name))

/-- The definitions in a folder, by file name. -/
def folderValues : Option String → List α
  | none => []
  | some folder => ((files.items? folder).toList.flatMap (Files.sortedNames extension)).filterMap
      fun name => (loadFile files read (Files.join folder name)).toOption

/-- Reading a folder gives its definitions, or the first fault. -/
theorem loadGiven_eq (folder : Option String) :
    loadGiven files read folder
      = orFirst (folderFaults files read folder) (folderValues files read folder) := by
  cases folder with
  | none => rfl
  | some folder =>
    simp only [loadGiven, loadFolder, folderFaults, folderValues]
    cases files.items? folder with
    | none => rfl
    | some items =>
      simp only [Option.toList_some, List.flatMap_singleton]
      exact mapM_eq_orFirst ..

/-- A folder that is given can be listed, and every file in it read. -/
def Legible (folder : Option String) : Prop :=
  ∀ path ∈ folder, ∃ items, files.items? path = some items ∧
    ∀ item ∈ items, item.isDefinition = true →
      ∃ value, loadFile files read (Files.join path item.name) = .ok value

/-- A file in a folder holds a definition. -/
def Defines (folder : Option String) (value : α) : Prop :=
  ∃ path ∈ folder, ∃ items, files.items? path = some items ∧
    ∃ item ∈ items, item.isDefinition = true ∧
      loadFile files read (Files.join path item.name) = .ok value

variable {files read}

theorem mem_folderValues {folder : Option String} {value : α} :
    value ∈ folderValues files read folder ↔ Defines files read folder value := by
  have toOption (result : Except Fault α) : result.toOption = some value ↔ result = .ok value := by
    cases result <;> simp [Except.toOption]
  cases folder with
  | none => simp [folderValues, Defines]
  | some path =>
    simp only [folderValues, Defines, List.mem_filterMap, List.mem_flatMap, Option.mem_toList,
      Files.mem_sortedNames, toOption, Option.mem_some_iff, exists_eq_left']
    constructor
    · rintro ⟨_, ⟨items, listed, item, inside, definition, rfl⟩, loaded⟩
      exact ⟨items, listed, item, inside, definition, loaded⟩
    · rintro ⟨items, listed, item, inside, definition, loaded⟩
      exact ⟨item.name, ⟨items, listed, item, inside, definition, rfl⟩, loaded⟩

theorem folderFaults_eq_nil {folder : Option String} :
    folderFaults files read folder = [] ↔ Legible files read folder := by
  have faultless (result : Except Fault α) :
      faultOf? result = none ↔ ∃ value, result = .ok value := by
    cases result <;> simp [faultOf?]
  cases folder with
  | none => simp [folderFaults, Legible]
  | some path =>
    simp only [folderFaults, Legible, Option.mem_some_iff, forall_eq']
    cases files.items? path with
    | none => simp
    | some items =>
      simp only [List.filterMap_eq_nil_iff, faultless, Files.mem_sortedNames, Option.some.injEq,
        exists_eq_left']
      constructor
      · exact fun each item inside definition => each item.name ⟨item, inside, definition, rfl⟩
      · rintro each _ ⟨item, inside, definition, rfl⟩
        exact each item inside definition

end Content

/-! ### Listings in another order -/

/-- The same entry, where a folder may be listed in another order. -/
inductive FileItem.Relisted : FileItem → FileItem → Prop
  | same (item : FileItem) : Relisted item item
  | folder {items other : List FolderItem} (perm : items.Perm other) :
      Relisted (.folder items) (.folder other)

/-- The same files, where folders may be listed in another order. -/
def Files.Relisted (files other : Files) : Prop :=
  ∀ path, Option.Rel FileItem.Relisted (files.find? path) (other.find? path)

namespace Files.Relisted

variable {files other : Files} {α : Type}

theorem text? (relisted : files.Relisted other) (path : String) :
    files.text? path = other.text? path := by
  have alike := relisted path
  unfold Files.text?
  generalize files.find? path = one at alike ⊢
  generalize other.find? path = two at alike ⊢
  cases alike with
  | none => rfl
  | some alike => cases alike <;> rfl

theorem items? (relisted : files.Relisted other) (path : String) :
    Option.Rel List.Perm (files.items? path) (other.items? path) := by
  have alike := relisted path
  unfold Files.items?
  generalize files.find? path = one at alike ⊢
  generalize other.find? path = two at alike ⊢
  cases alike with
  | none => exact .none
  | @some first second alike =>
    cases alike with
    | same =>
      cases first with
      | text contents => exact .none
      | bytes => exact .none
      | folder items => exact .some (.refl items)
    | folder perm => exact .some perm

/-- Whatever the order of a listing, the same is read. -/
theorem loadGiven (relisted : files.Relisted other) (read : String → Option α)
    (folder : Option String) :
    Content.loadGiven files read folder = Content.loadGiven other read folder := by
  have file (path : String) :
      Content.loadFile files read path = Content.loadFile other read path := by
    rw [Content.loadFile, Content.loadFile, relisted.text? path]
  cases folder with
  | none => rfl
  | some folder =>
    have listings := relisted.items? folder
    simp only [Content.loadGiven, Content.loadFolder]
    generalize files.items? folder = one at listings ⊢
    generalize other.items? folder = two at listings ⊢
    cases listings with
    | none => rfl
    | some perm => simp only [sortedNames_eq_of_perm perm, file]

end Files.Relisted

end Fray
