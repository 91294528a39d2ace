import TrafficPlane.Spec.Document
import TrafficPlane.Yaml.Document

/-!
# Declarations in texts

A text holds declarations one after the other, each a document that says by its kind whether it is a
routing spec or a membership. Empty documents are passed over.

## Main definitions

* `Declaration`: a routing spec or a membership
* `Declaration.ofDoc`: the declaration that a document holds
* `Declaration.ofText`: all declarations of a text
-/

namespace TrafficPlane

/-- A declaration of either kind. -/
inductive Declaration where
  | spec (spec : RoutingSpec)
  | membership (membership : Membership)
deriving DecidableEq, Repr

namespace Doc

mutual

/-- No part of the document has a tag. -/
def isUntagged : Doc → Bool
  | .list items => areUntagged items
  | .map entries => haveNoTags entries
  | .tagged _ _ => false
  | _ => true

/-- No item has a tag. -/
def areUntagged : List Doc → Bool
  | [] => true
  | item :: rest => isUntagged item && areUntagged rest

/-- No key and no value has a tag. -/
def haveNoTags : List (Doc × Doc) → Bool
  | [] => true
  | (key, value) :: rest => isUntagged key && isUntagged value && haveNoTags rest

end

/-- The document without its tags. -/
def untag : Doc → Doc
  | .tagged _ content => untag content
  | doc => doc

/-- The key of the entry that names the kind of a declaration. -/
def isKindKey : Doc → Bool
  | .text "kind" => true
  | _ => false

/-- The kind of a declaration, and the document of its fields: the entry of the kind in a map, or
the first item of a list. -/
def splitKind? : Doc → Option (Doc × Doc)
  | .map entries =>
    (entries.find? (isKindKey ·.1)).map fun entry =>
      (entry.2, .map (entries.filter (!isKindKey ·.1)))
  | .list (kind :: rest) => some (kind, .list rest)
  | _ => none

end Doc

namespace Declaration

/-- The declaration of a kind with the given fields. -/
def ofFields (kind fields : Doc) : Except DocumentFault Declaration :=
  if !fields.isUntagged then .error .malformed
  else match kind.untag with
    | .text "RoutingSpec" => .spec <$> RoutingSpec.codec.read fields
    | .text "Membership" => .membership <$> Membership.codec.read fields
    | _ => .error .malformed

/-- The declaration that a document holds. Only the kind may have a tag, which does not count. -/
def ofDoc (doc : Doc) : Except DocumentFault Declaration :=
  match doc.splitKind? with
  | some (kind, fields) => ofFields kind fields
  | none => .error .malformed

/-- The declaration of a document, unless the document is null. -/
def ofDoc? (doc : Doc) : Except DocumentFault (Option Declaration) :=
  match doc.untag with
  | .null => .ok none
  | _ => some <$> ofDoc doc

/-- The declarations of documents, of which the first bad one decides the fault. -/
def ofDocs : List (Yaml.Result Doc) → Except DocumentFault (List Declaration)
  | [] => .ok []
  | .error _ :: _ => .error .malformed
  | .ok doc :: rest => do
    let declaration ← ofDoc? doc
    return declaration.toList ++ (← ofDocs rest)

/-- All declarations of a text. -/
def ofText (text : String) : Except DocumentFault (List Declaration) :=
  ofDocs (Yaml.documentsOf text)

/-- The routing spec, if it is one. -/
def spec? : Declaration → Option RoutingSpec
  | .spec s => some s
  | .membership _ => none

/-- The membership, if it is one. -/
def membership? : Declaration → Option Membership
  | .spec _ => none
  | .membership m => some m

end Declaration

end TrafficPlane
