/-!
# Files

What a program sees of a file system: one look-up by path. A path names the
entries to walk along between slashes. The definitions of a folder are read in
the order of their file names, whatever order the folder lists them in.
-/
namespace Fray

/-- An entry of a folder. -/
structure FolderItem where
  name : String
  isFolder : Bool
deriving DecidableEq

inductive FileItem where
  | text (contents : String)
  /-- A file that holds no text. -/
  | bytes
  | folder (items : List FolderItem)

structure Files where
  find? : String → Option FileItem

namespace Files

def has (files : Files) (path : String) : Bool := (files.find? path).isSome

def text? (files : Files) (path : String) : Option String :=
  match files.find? path with
  | some (.text contents) => some contents
  | _ => none

def items? (files : Files) (path : String) : Option (List FolderItem) :=
  match files.find? path with
  | some (.folder items) => some items
  | _ => none

/-! ### Paths -/

/-- The path of an entry below a path; a slash is added unless there is one. -/
def join (path name : String) : String :=
  if path.isEmpty || path.endsWith "/" then path ++ name else path ++ "/" ++ name

/-- Whether a file name has an extension; a name that is all extension has none. -/
def hasExtension (extension name : String) : Bool :=
  let ending := '.' :: extension.toList
  let letters := name.toList
  ending.isSuffixOf letters && ending.length < letters.length

/-- The names of the files with an extension in a folder, in order. -/
def sortedNames (extension : String) (items : List FolderItem) : List String :=
  ((items.filter fun item => !item.isFolder && hasExtension extension item.name).map
    FolderItem.name).mergeSort (· ≤ ·)

/-- The names between the slashes of a path. -/
def splitPath : List Char → List (List Char)
  | [] => [[]]
  | c :: rest =>
    if c = '/' then [] :: splitPath rest
    else
      match splitPath rest with
      | [] => [[c]]
      | name :: names => (c :: name) :: names

/-- A name that stays where it is. -/
def isStill (name : String) : Bool := name.isEmpty || name == "."

def pathNames (path : String) : List String :=
  ((splitPath path.toList).map String.ofList).filter fun name => !isStill name

/-- Whether a path ends in a slash or in a dot, and so is that of a folder. -/
def namesFolder (path : String) : Bool :=
  ((splitPath path.toList).getLast?.map String.ofList).any isStill

end Files

/-! ### Trees of folders -/

inductive FileTree where
  | text (contents : String)
  | bytes
  | folder (entries : List (String × FileTree))

namespace FileTree

def empty : FileTree := folder []

/-- The entries of a folder; a file has none. -/
def entries : FileTree → List (String × FileTree)
  | folder entries => entries
  | _ => []

def isFolder : FileTree → Bool
  | folder _ => true
  | _ => false

/-- Put an entry in place of one of the same name, or behind all others. -/
def putEntry (name : String) (tree : FileTree) :
    List (String × FileTree) → List (String × FileTree)
  | [] => [(name, tree)]
  | entry :: rest =>
    if entry.1 == name then (name, tree) :: rest else entry :: putEntry name tree rest

/-- Put a tree at a path, making the folders on the way; a folder keeps what is in it. -/
def put (tree : FileTree) : List String → FileTree → FileTree
  | [], old => if tree.isFolder && old.isFolder then old else tree
  | name :: names, old =>
    let below := (old.entries.lookup name).getD empty
    folder (putEntry name (put tree names below) old.entries)

/-- Walk along names from a place below given folders, where two dots lead back. -/
def walk : List String → (above : List FileTree) → FileTree → Option FileTree
  | [], _, tree => some tree
  | name :: names, above, tree =>
    if !tree.isFolder then none
    else if name = ".." then
      match above with
      | [] => none
      | parent :: rest => walk names rest parent
    else (tree.entries.lookup name).bind (walk names (tree :: above))

def item : FileTree → FileItem
  | text contents => .text contents
  | bytes => .bytes
  | folder entries =>
    .folder (entries.map fun entry => ⟨entry.1, entry.2.isFolder⟩)

/-- Look a relative path up; one that names a folder finds no file. -/
def find? (tree : FileTree) (path : String) : Option FileItem :=
  if path.isEmpty || path.startsWith "/" then none
  else
    (walk (Files.pathNames path) [] tree).bind fun found =>
      if Files.namesFolder path && !found.isFolder then none else some found.item

/-- The files of a program that runs in the root of a tree. -/
def files (tree : FileTree) : Files := ⟨tree.find?⟩

end FileTree

end Fray
