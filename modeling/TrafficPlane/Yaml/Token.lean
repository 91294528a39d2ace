import TrafficPlane.Text.Digit
import TrafficPlane.Yaml.Cursor

/-!
# Tokens

The pieces that a YAML text is made of, and the reading of those that are neither scalars nor single
characters: directives, anchors and tags.

## Main definitions

* `Token`: a piece of a text
* `readDirective`, `readAnchor`, `readTag`: a token and the place after it
-/

namespace TrafficPlane.Yaml

open Text

/-- A piece of a YAML text. The starts of block collections and their ends stand for indentation. -/
inductive Token where
  | version (major minor : Nat)
  /-- A handle, and what tags with that handle start with. -/
  | tagHandle (handle lead : String)
  | documentStart
  | documentEnd
  | blockSequenceStart
  | blockMappingStart
  | blockEnd
  | flowSequenceStart
  | flowSequenceEnd
  | flowMappingStart
  | flowMappingEnd
  | blockEntry
  | flowEntry
  | key
  | value
  | anchor (name : String)
  | alias (name : String)
  | tag (handle suffix : String)
  | scalar (text : String) (plain : Bool)
  | streamEnd
  /-- From here on the text is no YAML. -/
  | broken
deriving DecidableEq, Repr, Inhabited

/-! ### Tags -/

/-- The code point that the bytes of one character in UTF-8 stand for. -/
def charOfBytes (bytes : List Nat) : Result Char :=
  match String.fromUTF8? ⟨(bytes.map UInt8.ofNat).toArray⟩ with
  | some text =>
    match text.toList with
    | [c] => .ok c
    | _ => malformed
  | none => malformed

/-- The number of bytes of a character by its first byte. -/
def byteCount? (first : Nat) : Option Nat :=
  if first < 128 then some 1
  else if 192 ≤ first && first < 224 then some 2
  else if 224 ≤ first && first < 240 then some 3
  else if 240 ≤ first && first < 248 then some 4
  else none

/-- Reads bytes that are written as a percent sign and two digits. -/
def readPercentBytes : Nat → List Char → Result (List Nat)
  | 0, _ => .ok []
  | n + 1, '%' :: a :: b :: rest =>
    match hexDigit? a, hexDigit? b with
    | some high, some low => do return (16 * high + low) :: (← readPercentBytes n rest)
    | _, _ => malformed
  | _ + 1, _ => malformed

/-- Reads a character whose bytes are written with percent signs, with the number of its bytes. -/
def readPercentChar (rest : List Char) : Result (Char × Nat) := do
  match ← readPercentBytes 1 rest with
  | [first] =>
    match byteCount? first with
    | some n => return (← charOfBytes (← readPercentBytes n rest), n)
    | none => malformed
  | _ => malformed

/-- A character of a tag. In a tag between angle brackets and in a directive there are
a few more. -/
def isTagChar (wide : Bool) (c : Char) : Bool :=
  isWordChar c || ";/?:@&=+$.!~*'()%".contains c || (wide && ",[]".contains c)

/-- Reads the characters of a tag, after some whose last one comes first. -/
def readTagText (wide : Bool) : Nat → List Char → Cursor → Result (List Char × Cursor)
  | 0, _, _ => malformed
  | fuel + 1, text, cursor =>
    match cursor.rest with
    | '%' :: _ => do
      let (c, n) ← readPercentChar cursor.rest
      readTagText wide fuel (c :: text) (cursor.advanceBy (3 * n))
    | c :: _ =>
      if isTagChar wide c then readTagText wide fuel (c :: text) cursor.advance
      else .ok (text.reverse, cursor)
    | [] => .ok (text.reverse, cursor)

/-- Reads the rest of a tag after a part that counts toward it. -/
def readTagRest (wide : Bool) (front : List Char) (cursor : Cursor) :
    Result (String × Cursor) := do
  let (text, cursor) ← readTagText wide (cursor.left + 1) [] cursor
  if front.isEmpty && text.isEmpty then malformed
  else return (.ofList (front.tail ++ text), cursor)

/-- Reads a handle: an exclamation mark, a word, and perhaps another exclamation mark. -/
def readHandle (cursor : Cursor) : Result (List Char × Cursor) :=
  match cursor.rest with
  | '!' :: rest =>
    let word := rest.takeWhile isWordChar
    let cursor := cursor.advanceBy (word.length + 1)
    match cursor.rest with
    | '!' :: _ => .ok ('!' :: word ++ ['!'], cursor.advance)
    | _ => .ok ('!' :: word, cursor)
  | _ => malformed

/-- A handle ends with an exclamation mark of its own. -/
def isClosedHandle (handle : List Char) : Bool :=
  1 < handle.length && handle.getLast? == some '!'

/-- Reads the parts of a tag: between angle brackets, after a handle, or after an exclamation mark.
A lone exclamation mark is a tag without a handle. -/
def readTagParts (cursor : Cursor) : Result (String × String × Cursor) :=
  match cursor.rest with
  | '!' :: '<' :: _ => do
    let (suffix, cursor) ← readTagRest true [] (cursor.advanceBy 2)
    match cursor.rest with
    | '>' :: _ => return ("", suffix, cursor.advance)
    | _ => malformed
  | _ => do
    let (handle, cursor) ← readHandle cursor
    if isClosedHandle handle then
      let (suffix, cursor) ← readTagRest false [] cursor
      return (.ofList handle, suffix, cursor)
    else
      let (suffix, cursor) ← readTagRest false handle cursor
      return if suffix = "" then ("", "!", cursor) else ("!", suffix, cursor)

/-- Reads a tag, after which a gap comes, or a comma in a flow collection. -/
def readTag (inFlow : Bool) (cursor : Cursor) : Result (Token × Cursor) := do
  let (handle, suffix, cursor) ← readTagParts cursor
  if atGap cursor.rest || (inFlow && cursor.rest.head? == some ',') then
    return (.tag handle suffix, cursor)
  else malformed

/-! ### Anchors and aliases -/

/-- The name of an anchor may end here. -/
def atNameEnd (rest : List Char) : Bool :=
  atGap rest || rest.head?.any fun c => "?:,]\x7d%@\x60".contains c

/-- Reads the name of an anchor or of an alias, with the character in front of it. -/
def readAnchor (token : String → Token) (cursor : Cursor) : Result (Token × Cursor) :=
  let name := cursor.rest.tail.takeWhile isWordChar
  let cursor := cursor.advanceBy (name.length + 1)
  if name.isEmpty || !atNameEnd cursor.rest then malformed
  else .ok (token (.ofList name), cursor)

/-! ### Directives -/

/-- Reads a number of at most nine digits. -/
def readVersionNumber (cursor : Cursor) : Result (Nat × Cursor) :=
  let digits := cursor.rest.takeWhile Char.isDigit
  if digits.isEmpty || 9 < digits.length then malformed
  else .ok (digits.foldl (fun n c => 10 * n + (c.toNat - 48)) 0, cursor.advanceBy digits.length)

/-- Reads the two numbers of a version. -/
def readVersion (cursor : Cursor) : Result (Token × Cursor) := do
  let (major, cursor) ← readVersionNumber (cursor.skipWhile isSpacing)
  match cursor.rest with
  | '.' :: _ =>
    let (minor, cursor) ← readVersionNumber cursor.advance
    return (.version major minor, cursor)
  | _ => malformed

/-- Reads a handle and what it stands for. -/
def readTagHandle (cursor : Cursor) : Result (Token × Cursor) := do
  let (handle, cursor) ← readHandle (cursor.skipWhile isSpacing)
  if handle ≠ ['!'] && !isClosedHandle handle then malformed
  else if !cursor.rest.head?.any isSpacing then malformed
  else
    let (lead, cursor) ← readTagRest true [] (cursor.skipWhile isSpacing)
    if atGap cursor.rest then return (.tagHandle (.ofList handle) lead, cursor) else malformed

/-- Reads a directive up to the end of its line. -/
def readDirective (cursor : Cursor) : Result (Token × Cursor) := do
  let cursor := cursor.advance
  let name := cursor.wordOf isWordChar
  let cursor := cursor.advanceBy name.length
  let (token, cursor) ←
    if !atGap cursor.rest then malformed
    else if name == "YAML".toList then readVersion cursor
    else if name == "TAG".toList then readTagHandle cursor
    else malformed
  let cursor := cursor.skipWhile isSpacing
  let cursor :=
    if cursor.rest.head? == some '#' then cursor.skipWhile (fun c => !isLineEnd c) else cursor
  if atLineEnd cursor.rest then return (token, cursor.advanceLine) else malformed

end TrafficPlane.Yaml
