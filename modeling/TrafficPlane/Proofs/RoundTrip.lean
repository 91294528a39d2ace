import TrafficPlane.Proofs.Stages
import TrafficPlane.Spec.Document

/-!
# Declarations read back

Every type of declaration has one form in which it is written, and many spellings from which it is
read: entries in any order, names that nobody knows, fields that are left out, lists of fields. What
has been written is read back as it was, so the written form is the same whatever spelling a value
came from.

## Main definitions

* `Codec.Lawful`: what is written is read back, and is never the null document
* `RecordField.carry`: what becomes of a record when the field of another one is written and read
* `Codec.RoundTrips`: values come back from their documents, and written documents stay as they are

## Main results

* `Record.lawful_codec`: a record is read back if carrying over its fields one by one restores it
* `declarations_round_trip`: the documents of all types of declarations
-/

namespace TrafficPlane

variable {α ρ : Type}

namespace Codec

/-- What the codec writes is read back, and nothing is written as the null document, which stands
for an absent value. -/
structure Lawful (codec : Codec α) : Prop where
  read_write : ∀ value, codec.read (codec.write value) = .ok value
  write_ne_null : ∀ value, codec.write value ≠ .null

theorem lawful_text : text.Lawful where
  read_write _ := rfl
  write_ne_null _ := nofun

theorem lawful_bool : bool.Lawful where
  read_write _ := rfl
  write_ne_null _ := nofun

/-- Integers are read back where the bounds admit every value of the type. -/
theorem lawful_integer {low high : Int} {ofInt : Int → α} {toInt : α → Int}
    (hbounds : ∀ value, low ≤ toInt value ∧ toInt value ≤ high)
    (hinverse : Function.LeftInverse ofInt toInt) : (integer low high ofInt toInt).Lawful where
  read_write value := by
    simp only [integer, if_pos (hbounds value), hinverse value]
  write_ne_null _ := nofun

theorem lawful_uint16 : uint16.Lawful :=
  lawful_integer (fun value => by have := value.toNat_lt; omega) fun value => by simp

theorem lawful_uint32 : uint32.Lawful :=
  lawful_integer (fun value => by have := value.toNat_lt; omega) fun value => by simp

theorem lawful_uint64 : uint64.Lawful :=
  lawful_integer (fun value => by have := value.toNat_lt; omega) fun value => by simp

theorem lawful_int64 : int64.Lawful :=
  lawful_integer (fun value => ⟨value.le_toInt, by have := value.toInt_lt; omega⟩)
    Int64.ofInt_toInt

/-- Lists are read back if their items are. -/
theorem Lawful.list {item : Codec α} (h : item.Lawful) : item.list.Lawful where
  read_write values := by
    change (values.map item.write).mapM item.read = .ok values
    rw [mapM_eq_ok_iff, List.forall₂_map_left_iff]
    exact List.forall₂_same.mpr fun value _ => h.read_write value
  write_ne_null _ := nofun

/-- A value that is there is read back where it might have been absent. -/
theorem Lawful.read_option {codec : Codec α} (h : codec.Lawful) (value : α) :
    codec.option.read (codec.write value) = .ok (some value) := by
  have hread := h.read_write value
  have hnull := h.write_ne_null value
  cases hdoc : codec.write value <;> simp_all [option, Functor.map, Except.map]

end Codec

/-! ### Carrying fields over -/

namespace RecordField

/-- The target after the field of the source has been written and read into it. A field that is not
written leaves the target as it is. -/
def carry (source target : ρ) (field : RecordField ρ) : Except DocumentFault ρ :=
  match field.write source with
  | some doc => field.read doc target
  | none => .ok target

variable {name : String} {codec : Codec α} {source target : ρ}

@[simp] theorem isSome_write_required {get : ρ → α} {set : α → ρ → ρ} :
    ((required name codec get set).write source).isSome :=
  rfl

@[simp] theorem mandatory_defaulted {get : ρ → α} {set : α → ρ → ρ} :
    (defaulted name codec get set).mandatory = false :=
  rfl

@[simp] theorem mandatory_optional {get : ρ → Option α} {set : Option α → ρ → ρ} :
    (RecordField.optional name codec get set).mandatory = false :=
  rfl

@[simp] theorem mandatory_sparse {get : ρ → List α} {set : List α → ρ → ρ} :
    (sparse name codec get set).mandatory = false :=
  rfl

theorem carry_required (h : codec.Lawful) {get : ρ → α} {set : α → ρ → ρ} :
    carry source target (required name codec get set) = .ok (set (get source) target) := by
  simp only [carry, required, h.read_write, Functor.map, Except.map]

theorem carry_defaulted (h : codec.Lawful) {get : ρ → α} {set : α → ρ → ρ} :
    carry source target (defaulted name codec get set) = .ok (set (get source) target) := by
  simp only [carry, defaulted, h.read_write, Functor.map, Except.map]

/-- The fields of a record are carried over one after the other. -/
theorem carry_cons {field : RecordField ρ} {rest : List (RecordField ρ)} {next : ρ}
    (h : carry source target field = .ok next) :
    (field :: rest).foldlM (carry source) target = rest.foldlM (carry source) next := by
  rw [List.foldlM_cons, h]
  rfl

/-- A value that is absent from the source is not written, which is right where it is absent from
the target. -/
theorem carry_optional (h : codec.Lawful) {get : ρ → Option α} {set : Option α → ρ → ρ}
    (habsent : set none target = target) :
    carry source target (optional name codec get set) = .ok (set (get source) target) := by
  cases hget : get source with
  | none => simp only [carry, optional, hget, Option.map_none, habsent]
  | some value =>
    simp only [carry, optional, hget, Option.map_some, h.read_option, Functor.map, Except.map]

/-- A list without items is not written, which is right where the target has none. -/
theorem carry_sparse (h : codec.Lawful) {get : ρ → List α} {set : List α → ρ → ρ}
    (hempty : set [] target = target) :
    carry source target (sparse name codec get set) = .ok (set (get source) target) := by
  cases hget : get source with
  | nil => simp only [carry, sparse, hget, List.isEmpty_nil, if_true, hempty]
  | cons item rest =>
    simp only [carry, sparse, hget, List.isEmpty_cons, Bool.false_eq_true, if_false,
      h.list.read_write, Functor.map, Except.map]

end RecordField

/-! ### Records -/

namespace Record

variable {record : Record ρ}

/-- The entries that some fields write. -/
def entries (fields : List (RecordField ρ)) (source : ρ) : List (Doc × Doc) :=
  fields.filterMap fun field => (field.write source).map fun doc => (.text field.name, doc)

/-- The name of a field leads to the field where no other has it. -/
theorem fieldOf?_name (hnodup : (record.fields.map (·.name)).Nodup) {field : RecordField ρ}
    (hfield : field ∈ record.fields) : record.fieldOf? (.text field.name) = .ok (some field) := by
  rw [fieldOf?, Except.ok.injEq, List.find?_eq_some_iff_append]
  obtain ⟨before, after, hfields⟩ := List.append_of_mem hfield
  refine ⟨by simp, before, after, hfields, fun other hother => ?_⟩
  rw [hfields, List.map_append, List.map_cons, List.nodup_append] at hnodup
  have hne := hnodup.2.2 other.name (List.mem_map_of_mem hother) field.name List.mem_cons_self
  simpa using hne

/-- Reading the entries that some fields write carries these fields over, and sees the name of each
field that writes something. -/
theorem readEntries_entries (hnodup : (record.fields.map (·.name)).Nodup) {source target result : ρ}
    {rest : List (RecordField ρ)} (hrest : rest.Sublist record.fields) {seen : List String}
    (hnew : ∀ field ∈ rest, field.name ∉ seen)
    (hcarry : rest.foldlM (RecordField.carry source) target = .ok result) :
    ∃ names, record.readEntries (entries rest source) seen target = .ok (names, result) ∧
      seen ⊆ names ∧ ∀ field ∈ rest, (field.write source).isSome → field.name ∈ names := by
  induction rest generalizing seen target with
  | nil =>
    obtain rfl := Except.ok.inj hcarry
    exact ⟨seen, rfl, List.Subset.refl seen, nofun⟩
  | cons field rest ih =>
    obtain ⟨hseen, hnew⟩ := List.forall_mem_cons.mp hnew
    rw [List.foldlM_cons] at hcarry
    obtain ⟨next, hnext, hcarry⟩ := bind_eq_ok_iff.mp hcarry
    have hsub := (List.sublist_cons_self field rest).trans hrest
    cases hwrite : field.write source with
    | none =>
      obtain rfl : target = next := by simpa [RecordField.carry, hwrite] using hnext
      obtain ⟨names, hread, hkept, hnames⟩ := ih hsub hnew hcarry
      refine ⟨names, by simpa [entries, hwrite] using hread, hkept, ?_⟩
      exact List.forall_mem_cons.mpr ⟨by simp [hwrite], hnames⟩
    | some doc =>
      have hdoc : field.read doc target = .ok next := by
        simpa [RecordField.carry, hwrite] using hnext
      -- the names of the fields that are still to come differ from that of this one
      have hlater : ∀ later ∈ rest, later.name ∉ field.name :: seen := by
        have hdistinct := (hrest.map (·.name)).nodup hnodup
        rw [List.map_cons, List.nodup_cons] at hdistinct
        intro later hlater
        rw [List.mem_cons, not_or]
        exact ⟨fun h => hdistinct.1 (h ▸ List.mem_map_of_mem hlater), hnew later hlater⟩
      obtain ⟨names, hread, hkept, hnames⟩ := ih hsub hlater hcarry
      have hfield := fieldOf?_name hnodup (hrest.subset List.mem_cons_self)
      refine ⟨names, ?_, fun name hname => hkept (List.mem_cons_of_mem _ hname), ?_⟩
      · simpa [entries, hwrite, readEntries, hfield, hseen, hdoc] using hread
      · exact List.forall_mem_cons.mpr ⟨fun _ => hkept List.mem_cons_self, hnames⟩

/-- Records are read back if their fields have names of their own, those that have to be given are
always written, and carrying over all fields to the starting record restores the record. -/
theorem lawful_codec (hnodup : (record.fields.map (·.name)).Nodup)
    (hmandatory : ∀ field ∈ record.fields, field.mandatory → ∀ value, (field.write value).isSome)
    (hcarry : ∀ value, record.fields.foldlM (RecordField.carry value) record.start = .ok value) :
    record.codec.Lawful where
  read_write value := by
    have hnew : ∀ field ∈ record.fields, field.name ∉ ([] : List String) :=
      fun _ _ => List.not_mem_nil
    obtain ⟨names, hread, -, hnames⟩ :=
      readEntries_entries hnodup (List.Sublist.refl _) hnew (hcarry value)
    have hgiven : record.fields.all fun field => !field.mandatory || names.contains field.name := by
      rw [List.all_eq_true]
      intro field hfield
      cases hfield' : field.mandatory with
      | false => rfl
      | true => simpa using hnames field hfield (hmandatory field hfield hfield' value)
    change record.read (.map (entries record.fields value)) = .ok value
    simp only [read, hread, hgiven, if_true]
  write_ne_null _ := nofun

end Record

/-! ### Declarations -/

open Codec RecordField

theorem QualifiedName.lawful_codec : QualifiedName.codec.Lawful :=
  Record.lawful_codec (by decide) (by simp) fun value => by
    rw [carry_cons (carry_required lawful_text), carry_cons (carry_required lawful_text)]
    rfl

theorem RegexSpec.lawful_codec : RegexSpec.codec.Lawful :=
  Record.lawful_codec (by decide) (by simp) fun value => by
    rw [carry_cons (carry_required lawful_text), carry_cons (carry_defaulted lawful_text)]
    rfl

theorem PathSpec.lawful_codec : PathSpec.codec.Lawful :=
  Record.lawful_codec (by decide) (by simp) fun value => by
    rw [carry_cons (carry_optional lawful_text ?_), carry_cons (carry_optional lawful_text ?_),
      carry_cons (carry_optional RegexSpec.lawful_codec ?_)] <;> rfl

theorem IntegerRange.lawful_codec : IntegerRange.codec.Lawful :=
  Record.lawful_codec (by decide) (by simp) fun value => by
    rw [carry_cons (carry_required lawful_int64), carry_cons (carry_required lawful_int64)]
    rfl

theorem HeaderSpec.lawful_codec : HeaderSpec.codec.Lawful :=
  Record.lawful_codec (by decide) (by simp) fun value => by
    rw [carry_cons (carry_required lawful_text), carry_cons (carry_optional lawful_text ?_),
      carry_cons (carry_optional RegexSpec.lawful_codec ?_),
      carry_cons (carry_optional IntegerRange.lawful_codec ?_),
      carry_cons (carry_optional lawful_bool ?_), carry_cons (carry_optional lawful_text ?_),
      carry_cons (carry_optional lawful_text ?_), carry_cons (carry_defaulted lawful_bool)] <;> rfl

theorem FractionSpec.lawful_codec : FractionSpec.codec.Lawful :=
  Record.lawful_codec (by decide) (by simp) fun value => by
    rw [carry_cons (carry_required lawful_uint32), carry_cons (carry_required lawful_text)]
    rfl

theorem ClusterRef.lawful_codec : ClusterRef.codec.Lawful :=
  Record.lawful_codec (by decide) (by simp) fun value => by
    rw [carry_cons (carry_required lawful_text), carry_cons (carry_defaulted lawful_uint32)]
    rfl

theorem RouteSpec.lawful_codec : RouteSpec.codec.Lawful :=
  Record.lawful_codec (by decide) (by simp) fun value => by
    rw [carry_cons (carry_defaulted PathSpec.lawful_codec),
      carry_cons (carry_defaulted lawful_bool),
      carry_cons (carry_sparse HeaderSpec.lawful_codec ?_),
      carry_cons (carry_optional FractionSpec.lawful_codec ?_),
      carry_cons (carry_defaulted ClusterRef.lawful_codec.list),
      carry_cons (carry_optional lawful_uint64 ?_), carry_cons (carry_optional lawful_uint64 ?_)]
      <;> rfl

theorem PortSelectors.lawful_record : PortSelectors.record.codec.Lawful :=
  Record.lawful_codec (by decide) (by simp [record]) fun value => by
    rw [record, carry_cons (carry_optional lawful_text ?_),
      carry_cons (carry_optional lawful_uint16 ?_)] <;> rfl

/-- One of the two selectors is written, and that one makes the reference again. -/
theorem PortRef.lawful_codec : PortRef.codec.Lawful where
  read_write ref := by
    have hread : PortSelectors.record.read (PortRef.codec.write ref) = .ok (.ofRef ref) :=
      PortSelectors.lawful_record.read_write (.ofRef ref)
    simp only [PortRef.codec] at hread ⊢
    rw [hread]
    cases ref <;> rfl
  write_ne_null _ := nofun

theorem ServiceRef.lawful_codec : ServiceRef.codec.Lawful :=
  Record.lawful_codec (by decide) (by simp) fun value => by
    rw [carry_cons (carry_required lawful_text), carry_cons (carry_optional lawful_text ?_),
      carry_cons (carry_required PortRef.lawful_codec)] <;> rfl

theorem Locality.lawful_codec : Locality.codec.Lawful :=
  Record.lawful_codec (by decide) (by simp) fun value => by
    rw [carry_cons (carry_defaulted lawful_uint32), carry_cons (carry_defaulted lawful_uint32),
      carry_cons (carry_optional ServiceRef.lawful_codec ?_)] <;> rfl

theorem ClusterSpec.lawful_codec : ClusterSpec.codec.Lawful :=
  Record.lawful_codec (by decide) (by simp) fun value => by
    rw [carry_cons (carry_required lawful_text),
      carry_cons (carry_defaulted Locality.lawful_codec.list)]
    rfl

theorem RoutingSpec.lawful_codec : RoutingSpec.codec.Lawful :=
  Record.lawful_codec (by decide) (by simp) fun value => by
    rw [carry_cons (carry_required lawful_text), carry_cons (carry_defaulted lawful_text),
      carry_cons (carry_required lawful_text), carry_cons (carry_optional lawful_uint64 ?_),
      carry_cons (carry_defaulted RouteSpec.lawful_codec.list),
      carry_cons (carry_defaulted ClusterSpec.lawful_codec.list)] <;> rfl

theorem MembershipPort.lawful_codec : MembershipPort.codec.Lawful :=
  Record.lawful_codec (by decide) (by simp) fun value => by
    rw [carry_cons (carry_optional lawful_text ?_), carry_cons (carry_required lawful_uint16)]
      <;> rfl

theorem Subset.lawful_codec : Subset.codec.Lawful :=
  Record.lawful_codec (by decide) (by simp) fun value => by
    rw [carry_cons (carry_defaulted lawful_text.list),
      carry_cons (carry_defaulted MembershipPort.lawful_codec.list)]
    rfl

theorem Membership.lawful_codec : Membership.codec.Lawful :=
  Record.lawful_codec (by decide) (by simp) fun value => by
    rw [carry_cons (carry_required lawful_text), carry_cons (carry_defaulted lawful_text),
      carry_cons (carry_defaulted Subset.lawful_codec.list)]
    rfl

namespace Codec

/-- Values come back from their documents, and whatever document a value was read from, the document
that is written for it is accepted and written again as it is. -/
structure RoundTrips (codec : Codec α) : Prop where
  read_write : ∀ value, codec.read (codec.write value) = .ok value
  write_read : ∀ doc value, codec.read doc = .ok value →
    ∃ again, codec.read (codec.write value) = .ok again ∧ codec.write again = codec.write value

theorem Lawful.roundTrips {codec : Codec α} (h : codec.Lawful) : codec.RoundTrips where
  read_write := h.read_write
  write_read _ value _ := ⟨value, h.read_write value, rfl⟩

end Codec

/-- The declarations of routing specs and of memberships, with all their parts, come back from their
documents; and from whatever document one of them is read, the document that is written for it is
accepted and written again as it is. -/
theorem declarations_round_trip :
    RoutingSpec.codec.RoundTrips ∧ RouteSpec.codec.RoundTrips ∧ PathSpec.codec.RoundTrips ∧
      RegexSpec.codec.RoundTrips ∧ HeaderSpec.codec.RoundTrips ∧ IntegerRange.codec.RoundTrips ∧
      FractionSpec.codec.RoundTrips ∧ ClusterRef.codec.RoundTrips ∧
      ClusterSpec.codec.RoundTrips ∧ Locality.codec.RoundTrips ∧ ServiceRef.codec.RoundTrips ∧
      PortRef.codec.RoundTrips ∧ Membership.codec.RoundTrips ∧ Subset.codec.RoundTrips ∧
      MembershipPort.codec.RoundTrips ∧ QualifiedName.codec.RoundTrips :=
  ⟨RoutingSpec.lawful_codec.roundTrips, RouteSpec.lawful_codec.roundTrips,
    PathSpec.lawful_codec.roundTrips, RegexSpec.lawful_codec.roundTrips,
    HeaderSpec.lawful_codec.roundTrips, IntegerRange.lawful_codec.roundTrips,
    FractionSpec.lawful_codec.roundTrips, ClusterRef.lawful_codec.roundTrips,
    ClusterSpec.lawful_codec.roundTrips, Locality.lawful_codec.roundTrips,
    ServiceRef.lawful_codec.roundTrips, PortRef.lawful_codec.roundTrips,
    Membership.lawful_codec.roundTrips, Subset.lawful_codec.roundTrips,
    MembershipPort.lawful_codec.roundTrips, QualifiedName.lawful_codec.roundTrips⟩

end TrafficPlane
