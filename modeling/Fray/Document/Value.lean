import Fray.Number
import Fray.Tagged

/-!
# Documents and their records

Definitions and records are read from documents of more than one format. A
`Document` is a value of such a format, described by the readings that it
allows. A record is a value with named fields, or in some formats a row of
values in the order of the fields. Reading it may require a field, give it a
default, or leave it optional. A field that is given twice is refused, and so is
an unknown field of a closed record.
-/
namespace Fray

class Document (ν : Type) where
  /-- The fields of a record with named fields. -/
  fields? : ν → Option (List (String × ν))
  /-- The values of a record that is written as a row. -/
  row? : ν → Option (List ν)
  items? : ν → Option (List ν)
  text? : ν → Option String
  /-- The name of a member of an enumeration. -/
  member? : ν → Option String
  unsigned? : ν → Option Nat
  signed? : ν → Option Int
  /-- Whether an optional field with this value counts as left out. -/
  isAbsent : ν → Bool

namespace Document

variable {ν : Type} [Document ν] {α : Type}

def count? (value : ν) : Option Count := (unsigned? value).bind fun n => Count.ofInt? n

def score? (value : ν) : Option Score := (signed? value).bind Score.ofInt?

def tagged? [Tagged α] (value : ν) : Option α := (member? value).bind Tagged.ofTag?

/-- Every item of a list in the same reading. -/
def listOf? (read : ν → Option α) (value : ν) : Option (List α) :=
  (items? value).bind fun items => items.mapM read

def texts? (value : ν) : Option (List String) := listOf? text? value

/-- A value, or nothing where it counts as left out. -/
def optional? (read : ν → Option α) (value : ν) : Option (Option α) :=
  if isAbsent value then some none else (read value).map some

end Document

/-- The value of a record under the names of its fields. -/
structure Record (ν : Type) where
  names : List String
  fields : List (String × ν)
  /-- Whether the fields were given in order and not by name. -/
  isRow : Bool

namespace Record

variable {ν : Type} [Document ν] {α : Type}

/-- Read a value as a record with the given fields, and no others if it is closed. -/
def of? (names : List String) (closed : Bool) (value : ν) : Option (Record ν) :=
  match Document.row? value with
  | some row =>
    if row.length ≤ names.length then some ⟨names, names.zip row, true⟩ else none
  | none =>
    match Document.fields? value with
    | none => none
    | some fields =>
      if closed && !fields.all (fun field => names.contains field.1) then none
      else some ⟨names, fields, false⟩

omit [Document ν] in
/-- The value of a field; twice the same field is an error. -/
def find (record : Record ν) (name : String) : Option (Option ν) :=
  match record.fields.filter (fun field => field.1 == name) with
  | [] => some none
  | [field] => some (some field.2)
  | _ => none

omit [Document ν] in
/-- A field that must be there. -/
def required (record : Record ν) (name : String) (read : ν → Option α) : Option α :=
  (record.find name).bind fun value => value.bind read

omit [Document ν] in
/-- A field that may be left out for its default value. -/
def defaulted (record : Record ν) (name : String) (default : α) (read : ν → Option α) : Option α :=
  (record.find name).bind fun value =>
    match value with
    | none => some default
    | some value => read value

/-- A field that may be left out or empty; a row has to hold it. -/
def optional (record : Record ν) (name : String) (read : ν → Option α) : Option (Option α) :=
  (record.find name).bind fun value =>
    match value with
    | none => if record.isRow then none else some none
    | some value => Document.optional? read value

end Record

end Fray
