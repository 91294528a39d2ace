import TrafficPlane.Document.Basic
import TrafficPlane.Text.Quoted

/-!
# Documents as JSON

The JSON text of a document, either on one line or with every item on a line of its own.

## Main definitions

* `Layout`: what stands between the parts of a text
* `Doc.json`: the text of a document
-/

namespace TrafficPlane

/-- What stands between the parts of a JSON text. -/
structure Layout where
  /-- What stands in front of an item at a depth, and of the bracket that closes a list. -/
  gap : Nat → String
  /-- What stands between a key and its value. -/
  colon : String

namespace Layout

/-- The whole text on one line. -/
def compact : Layout where
  gap _ := ""
  colon := ":"

/-- Every item on a line of its own, indented by two spaces for each depth. -/
def indented : Layout where
  gap depth := .ofList ('\n' :: List.replicate (2 * depth) ' ')
  colon := ": "

end Layout

/-- One character of a JSON text. Of the control characters five have letters of their own. -/
def jsonChar (c : Char) : List Char :=
  if c = '"' then ['\\', '"']
  else if c = '\\' then ['\\', '\\']
  else if c = '\n' then ['\\', 'n']
  else if c = '\r' then ['\\', 'r']
  else if c = '\t' then ['\\', 't']
  else if c = '\x08' then ['\\', 'b']
  else if c = '\x0c' then ['\\', 'f']
  else if c.toNat < 16 then '\\' :: 'u' :: '0' :: '0' :: '0' :: Nat.toDigits 16 c.toNat
  else if c.toNat < 32 then '\\' :: 'u' :: '0' :: '0' :: Nat.toDigits 16 c.toNat
  else [c]

/-- A text in quotes. -/
def jsonText (text : String) : String :=
  .ofList ('"' :: text.toList.flatMap jsonChar ++ ['"'])

namespace Doc

/-- The text of a document that is a scalar, where it is the key of an entry. -/
def jsonKey : Doc → String
  | .text value => jsonText value
  | .bool value => jsonText (toString value)
  | .int value => jsonText (toString value)
  | _ => jsonText ""

mutual

/-- The JSON text of a document at a depth. -/
def jsonAt (layout : Layout) (depth : Nat) : Doc → String
  | .null => "null"
  | .real _ => "null"
  | .tagged _ content => jsonAt layout depth content
  | .bool value => toString value
  | .int value => toString value
  | .text value => jsonText value
  | .list [] => "[]"
  | .list (item :: rest) =>
    "[" ++ layout.gap (depth + 1) ++ jsonAt layout (depth + 1) item ++
      jsonItems layout (depth + 1) rest ++ layout.gap depth ++ "]"
  | .map [] => "\x7b\x7d"
  | .map ((key, value) :: rest) =>
    "\x7b" ++ layout.gap (depth + 1) ++ key.jsonKey ++ layout.colon ++
      jsonAt layout (depth + 1) value ++ jsonEntries layout (depth + 1) rest ++
      layout.gap depth ++ "\x7d"

/-- The items of a list after the first. -/
def jsonItems (layout : Layout) (depth : Nat) : List Doc → String
  | [] => ""
  | item :: rest =>
    "," ++ layout.gap depth ++ jsonAt layout depth item ++ jsonItems layout depth rest

/-- The entries of a map after the first. -/
def jsonEntries (layout : Layout) (depth : Nat) : List (Doc × Doc) → String
  | [] => ""
  | (key, value) :: rest =>
    "," ++ layout.gap depth ++ key.jsonKey ++ layout.colon ++ jsonAt layout depth value ++
      jsonEntries layout depth rest

end

/-- The JSON text of a document. -/
def json (layout : Layout) (doc : Doc) : String :=
  doc.jsonAt layout 0

end Doc

end TrafficPlane
