import TrafficPlane.Document.Basic

/-!
# Records in documents

A record is written as a map from the names of its fields. It is read from such a map, with the
entries in any order and unknown names passed over, or from a list of the fields in the order of
their declaration. In a map a number may stand for the name of the field at that place.

## Main definitions

* `RecordField`: one field of a record type
* `Record`: the fields of a record type, and the record that reading starts from
* `Record.codec`: reading and writing by these rules
-/

namespace TrafficPlane

/-- One field of the records of a type. Reading puts a value into a record; writing leaves the field
out where it gives nothing. -/
structure RecordField (ρ : Type) where
  name : String
  mandatory : Bool
  read : Doc → ρ → Except DocumentFault ρ
  write : ρ → Option Doc

namespace RecordField

variable {ρ α : Type}

/-- A field that every document has to give. -/
def required (name : String) (codec : Codec α) (get : ρ → α) (set : α → ρ → ρ) : RecordField ρ where
  name
  mandatory := true
  read doc record := (set · record) <$> codec.read doc
  write record := some (codec.write (get record))

/-- A field that keeps the value of the starting record where a document leaves it out. -/
def defaulted (name : String) (codec : Codec α) (get : ρ → α) (set : α → ρ → ρ) :
    RecordField ρ where
  name
  mandatory := false
  read doc record := (set · record) <$> codec.read doc
  write record := some (codec.write (get record))

/-- A field that is written only where it holds something. -/
def optional (name : String) (codec : Codec α) (get : ρ → Option α) (set : Option α → ρ → ρ) :
    RecordField ρ where
  name
  mandatory := false
  read doc record := (set · record) <$> codec.option.read doc
  write record := (get record).map codec.write

/-- A list that is written only where it has items. -/
def sparse (name : String) (item : Codec α) (get : ρ → List α) (set : List α → ρ → ρ) :
    RecordField ρ where
  name
  mandatory := false
  read doc record := (set · record) <$> item.list.read doc
  write record := if (get record).isEmpty then none else some (item.list.write (get record))

end RecordField

/-- The fields of a record type in the order of their declaration, and the record that reading
starts from, which holds the defaults. -/
structure Record (ρ : Type) where
  start : ρ
  fields : List (RecordField ρ)

namespace Record

variable {ρ : Type}

/-- The field that the key of an entry stands for, if there is one: a text is the field's name and a
number its place. -/
def fieldOf? (record : Record ρ) : Doc → Except DocumentFault (Option (RecordField ρ))
  | .text name => .ok (record.fields.find? (·.name == name))
  | .int place => if 0 ≤ place then .ok record.fields[place.toNat]? else .error .malformed
  | _ => .error .malformed

/-- Reads the entries of a map one by one; `seen` holds the names of the fields read so far. -/
def readEntries (record : Record ρ) :
    List (Doc × Doc) → List String → ρ → Except DocumentFault (List String × ρ)
  | [], seen, value => .ok (seen, value)
  | (key, doc) :: rest, seen, value =>
    match record.fieldOf? key with
    | .error fault => .error fault
    | .ok none => record.readEntries rest seen value
    | .ok (some field) =>
      if field.name ∈ seen then .error .malformed
      else match field.read doc value with
        | .error fault => .error fault
        | .ok value => record.readEntries rest (field.name :: seen) value

/-- Reads the items of a list as the fields in their order. -/
def readItems : List (RecordField ρ) → List Doc → ρ → Except DocumentFault ρ
  | [], [], value => .ok value
  | [], _ :: _, _ => .error .malformed
  | field :: rest, [], value =>
    if field.mandatory then .error .malformed else readItems rest [] value
  | field :: rest, doc :: docs, value =>
    match field.read doc value with
    | .error fault => .error fault
    | .ok value => readItems rest docs value

/-- The record that a document describes. -/
def read (record : Record ρ) : Doc → Except DocumentFault ρ
  | .map entries =>
    match record.readEntries entries [] record.start with
    | .error fault => .error fault
    | .ok (seen, value) =>
      if record.fields.all fun field => !field.mandatory || seen.contains field.name then .ok value
      else .error .malformed
  | .list items => readItems record.fields items record.start
  | _ => .error .malformed

/-- The document of a record: a map of the fields that have something to write. -/
def write (record : Record ρ) (value : ρ) : Doc :=
  .map (record.fields.filterMap fun field =>
    (field.write value).map fun doc => (.text field.name, doc))

/-- Reading and writing of records. -/
def codec (record : Record ρ) : Codec ρ where
  read := record.read
  write := record.write

end Record

end TrafficPlane
