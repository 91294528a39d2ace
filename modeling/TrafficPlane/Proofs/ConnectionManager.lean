import TrafficPlane.Proofs.Wire
import TrafficPlane.Synthesis.Listener

/-!
# Reading back connection managers

A listener carries its manager as bytes. Those bytes give the manager back, with all that is nested
in it: every field that is written is known, has the form that is known for it, and is put back
where it came from.

## Main definitions

* `Form.Fits`: the fields of a message are known and have the forms known for them
* `ConnectionManager.ReadsBack`: a decoder gives managers back as they were written

## Main results

* `mergeNested_encodeFields`: a nested message is merged field by field
* `ConnectionManager.decode?_encodeFields`: a manager is read back from its bytes
* `Listener.routeConfigNameBy_ofManager`: the route configuration that a listener asks for
-/

namespace TrafficPlane

open Wire

/-! ### Numbers with a sign -/

theorem int64OfVarint_signedNumber (n : Int64) : int64OfVarint (signedNumber n.toInt) = n := by
  have hle := n.le_toInt
  have hlt := n.toInt_lt
  -- a negative number was written with 2 ^ 64 added, which the reader takes off again
  apply Int64.toInt_inj.mp
  rw [int64OfVarint, signedNumber, Int64.toInt_ofNat', Int64.size, Int.bmod]
  split <;> omega

theorem int32OfVarint_signedNumber (n : Int32) : int32OfVarint (signedNumber n.toInt) = n := by
  have hle := n.le_toInt
  have hlt := n.toInt_lt
  apply Int32.toInt_inj.mp
  rw [int32OfVarint, signedNumber, Int32.toInt_ofNat', Int32.size, Int.bmod]
  split <;> omega

theorem signedNumber_lt (n : Int) : signedNumber n < 2 ^ 64 := by
  rw [signedNumber]
  omega

/-! ### Known fields -/

namespace Form

/-- The fields of a message can be read, are known, and have the forms known for them. -/
def Fits (depth : Nat) (known : List (Nat × Form)) (fields : List MessageField) : Prop :=
  ∀ field ∈ fields, field.WellFormed ∧
    ∃ form, known.lookup field.number = some form ∧ form.accepts depth field.value.raw = true

variable {depth field : Nat} {known inner : List (Nat × Form)} {fields : List MessageField}

theorem Fits.wellFormed (h : Fits depth known fields) : ∀ f ∈ fields, f.WellFormed :=
  fun f hf => (h f hf).1

theorem fits_nil : Fits depth known [] := fun _ hf => absurd hf List.not_mem_nil

theorem Fits.append {others : List MessageField} (h : Fits depth known fields)
    (h' : Fits depth known others) : Fits depth known (fields ++ others) :=
  fun f hf => (List.mem_append.mp hf).elim (h f) (h' f)

theorem fits_singleton {f : MessageField} {form : Form} (hwritten : f.WellFormed)
    (hform : known.lookup f.number = some form) (haccepts : form.accepts depth f.value.raw = true) :
    Fits depth known [f] := by
  intro g hg
  obtain rfl := List.mem_singleton.mp hg
  exact ⟨hwritten, form, hform, haccepts⟩

theorem fits_number {n : Nat} (hform : known.lookup field = some .number)
    (hfield : 0 < field ∧ field < 2 ^ 29) (hn : n < 2 ^ 64) :
    Fits depth known (Wire.number field n) := by
  rw [Wire.number]
  split
  · exact fits_nil
  · refine fits_singleton ⟨hfield.1, hfield.2, fun m hm => ?_⟩ hform (by cases depth <;> rfl)
    obtain rfl := Value.varint.inj hm
    exact hn

theorem fits_bytes {b : Bytes} {form : Form} (hform : known.lookup field = some form)
    (hfield : 0 < field ∧ field < 2 ^ 29) (haccepts : form.accepts depth (.bytes b) = true) :
    Fits depth known [⟨field, .bytes b⟩] :=
  fits_singleton ⟨hfield.1, hfield.2, fun _ hm => Value.noConfusion hm⟩ hform haccepts

theorem fits_text {s : String} (hform : known.lookup field = some .text)
    (hfield : 0 < field ∧ field < 2 ^ 29) : Fits depth known (Wire.text field s) := by
  rw [Wire.text]
  split
  · exact fits_nil
  · refine fits_bytes hform hfield ?_
    have htext : (textOfBytes? (textBytes s)).isSome = true := by simp
    cases depth <;> exact htext

/-- A nested message fits if its own fields fit one level deeper. -/
theorem accepts_message (h : Fits depth inner fields) :
    (message inner).accepts (depth + 1) (.bytes (encodeFields fields)) = true := by
  rw [accepts, decodeFields?_encodeFields (Nat.succ_ne_zero depth) h.wellFormed]
  simp only [List.all_map, List.all_eq_true]
  intro f hf
  obtain ⟨-, form, hform, haccepts⟩ := h f hf
  simp [MessageField.raw, hform, haccepts]

theorem fits_message (hform : known.lookup field = some (message inner))
    (hfield : 0 < field ∧ field < 2 ^ 29) (h : Fits depth inner fields) :
    Fits (depth + 1) known [Wire.message field fields] :=
  fits_bytes hform hfield (accepts_message h)

theorem fits_optional {fields : Option (List MessageField)}
    (hform : known.lookup field = some (message inner)) (hfield : 0 < field ∧ field < 2 ^ 29)
    (h : ∀ present, fields = some present → Fits depth inner present) :
    Fits (depth + 1) known (optional field fields) := by
  cases fields with
  | none => exact fits_nil
  | some present => exact fits_message hform hfield (h present rfl)

end Form

/-- A message whose fields are all known is read back as those fields. -/
theorem knownFields?_encodeFields {depth : Nat} {known : List (Nat × Form)}
    {fields : List MessageField} (h : Form.Fits depth known fields) :
    knownFields? (depth + 1) known (encodeFields fields) =
      some (fields.map MessageField.raw) := by
  have hknown : ∀ f ∈ fields.map MessageField.raw, (known.lookup f.number).isSome = true := by
    intro f hf
    obtain ⟨field, hfield, rfl⟩ := List.mem_map.mp hf
    obtain ⟨-, form, hform, -⟩ := h field hfield
    simp [MessageField.raw, hform]
  rw [knownFields?, decodeFields?_encodeFields (Nat.succ_ne_zero depth) h.wellFormed]
  simp only [Nat.add_sub_cancel]
  rw [if_pos, List.filter_eq_self.mpr hknown]
  simp only [List.all_map, List.all_eq_true]
  intro f hf
  obtain ⟨-, form, hform, haccepts⟩ := h f hf
  simp [MessageField.raw, hform, haccepts]

/-! ### Merging fields -/

/-- Puts fields that were written, as they are read, into what is there. -/
def mergeWritten {α : Type} (merge : α → RawField → α) (start : α) (fields : List MessageField) :
    α :=
  (fields.map MessageField.raw).foldl merge start

section Merge

variable {α : Type} {merge : α → RawField → α} {start : α} {field : Nat}

@[simp] theorem mergeWritten_nil : mergeWritten merge start [] = start := rfl

@[simp] theorem mergeWritten_append {fields others : List MessageField} :
    mergeWritten merge start (fields ++ others) =
      mergeWritten merge (mergeWritten merge start fields) others := by
  simp [mergeWritten]

/-- A nested message is merged field by field. -/
theorem mergeNested_encodeFields {fields : List MessageField} (h : ∀ f ∈ fields, f.WellFormed) :
    mergeNested merge start (encodeFields fields) = mergeWritten merge start fields := by
  rw [mergeNested, decodeFields?_encodeFields (by decide) h]
  rfl

/-- A number that is left out merges like a zero. -/
theorem mergeWritten_number {n : Nat} (h : merge start ⟨field, .varint 0⟩ = start) :
    mergeWritten merge start (number field n) = merge start ⟨field, .varint n⟩ := by
  rw [number]
  split_ifs with hn
  · rw [hn, h, mergeWritten_nil]
  · rfl

/-- A text that is left out merges like an empty one. -/
theorem mergeWritten_text {s : String} (h : merge start ⟨field, .bytes []⟩ = start) :
    mergeWritten merge start (text field s) = merge start ⟨field, .bytes (textBytes s)⟩ := by
  rw [text]
  split_ifs with hs
  · rw [hs, textBytes_empty, h, mergeWritten_nil]
  · rfl

end Merge

/-! ### The parts of a manager -/

theorem TimeSpan.fits_fields (span : TimeSpan) (depth : Nat) :
    Form.Fits depth [(1, .number), (2, .number)] span.fields :=
  (Form.fits_number rfl (by decide) (signedNumber_lt _)).append
    (Form.fits_number rfl (by decide) (signedNumber_lt _))

theorem TimeSpan.merge_fields (span : TimeSpan) :
    mergeWritten TimeSpan.merge default span.fields = span := by
  have hseconds : mergeWritten TimeSpan.merge default
      (number 1 (signedNumber span.seconds.toInt)) = { seconds := span.seconds, nanos := 0 } := by
    rw [mergeWritten_number rfl, TimeSpan.merge, int64OfVarint_signedNumber]
    rfl
  rw [TimeSpan.fields, mergeWritten_append, hseconds, mergeWritten_number rfl, TimeSpan.merge,
    int32OfVarint_signedNumber]

theorem Packed.fits_fields (packed : Packed) (depth : Nat) :
    Form.Fits depth [(1, .text), (2, .bytes)] packed.fields := by
  refine (Form.fits_text rfl (by decide)).append ?_
  split
  · exact Form.fits_nil
  · exact Form.fits_bytes rfl (by decide) (by cases depth <;> rfl)

theorem Packed.merge_fields (packed : Packed) :
    mergeWritten Packed.merge {} packed.fields = packed := by
  rw [Packed.fields, mergeWritten_append, mergeWritten_text rfl]
  split
  · rename_i hempty
    have hvalue : packed.value = [] := List.isEmpty_iff.mp hempty
    simp [Packed.merge, ← hvalue]
  · simp [mergeWritten, Packed.merge, MessageField.raw, Value.raw]

theorem ConfigSource.merge_fields (source : ConfigSource) :
    mergeWritten ConfigSource.merge {} source.fields = source := by
  obtain ⟨aggregated, apiVersion⟩ := source
  rw [ConfigSource.fields, mergeWritten_append]
  cases aggregated
  · rw [if_neg Bool.false_ne_true, mergeWritten_nil, mergeWritten_number rfl]
    simp only [ConfigSource.merge, int32OfVarint_signedNumber]
  · rw [if_pos rfl]
    change mergeWritten ConfigSource.merge { aggregated := true } _ = _
    rw [mergeWritten_number rfl]
    simp only [ConfigSource.merge, int32OfVarint_signedNumber]

theorem ConfigSource.fits_fields (source : ConfigSource) (depth : Nat) (known : List (Nat × Form))
    (hstream : known.lookup 3 = some .opaqueMessage) (hversion : known.lookup 6 = some .number) :
    Form.Fits (depth + 1) known source.fields := by
  refine Form.Fits.append ?_ (Form.fits_number hversion (by decide) (signedNumber_lt _))
  split
  · exact Form.fits_message hstream (by decide) Form.fits_nil
  · exact Form.fits_nil

theorem RouteDiscovery.fits_fields (reference : RouteDiscovery) (depth : Nat) :
    Form.Fits (depth + 2) [(1, .source), (2, .text)] reference.fields := by
  refine Form.Fits.append ?_ (Form.fits_text rfl (by decide))
  refine Form.fits_optional rfl (by decide) fun fields hfields => ?_
  obtain ⟨source, -, rfl⟩ := Option.map_eq_some_iff.mp hfields
  exact source.fits_fields depth _ rfl rfl

theorem RouteDiscovery.merge_fields (reference : RouteDiscovery) :
    mergeWritten RouteDiscovery.merge {} reference.fields = reference := by
  obtain ⟨source, name⟩ := reference
  have hsource : mergeWritten RouteDiscovery.merge {}
      (optional 1 (source.map ConfigSource.fields)) = { source, routeConfigName := "" } := by
    cases source with
    | none => rfl
    | some source =>
      have hwritten := (source.fits_fields 0 [(3, .opaqueMessage), (6, .number)] rfl rfl).wellFormed
      change RouteDiscovery.merge {} ⟨1, .bytes (encodeFields source.fields)⟩ = _
      rw [RouteDiscovery.merge, Option.getD_none, mergeNested_encodeFields hwritten,
        source.merge_fields]
  rw [RouteDiscovery.fields, mergeWritten_append, hsource, mergeWritten_text rfl]
  simp [RouteDiscovery.merge]

theorem HttpFilter.fits_fields (filter : HttpFilter) (depth : Nat) (known : List (Nat × Form))
    (hname : known.lookup 1 = some .text)
    (hconfig : known.lookup 4 = some (.message [(1, .text), (2, .bytes)])) :
    Form.Fits (depth + 1) known filter.fields := by
  refine (Form.fits_text hname (by decide)).append ?_
  refine Form.fits_optional hconfig (by decide) fun fields hfields => ?_
  obtain ⟨packed, -, rfl⟩ := Option.map_eq_some_iff.mp hfields
  exact packed.fits_fields depth

theorem HttpFilter.merge_fields (filter : HttpFilter) :
    mergeWritten HttpFilter.merge {} filter.fields = filter := by
  obtain ⟨name, config⟩ := filter
  have hname : mergeWritten HttpFilter.merge {} (text 1 name) = { name } := by
    rw [mergeWritten_text rfl, HttpFilter.merge, textOfBytes?_textBytes]
    rfl
  rw [HttpFilter.fields, mergeWritten_append, hname]
  cases config with
  | none => rfl
  | some packed =>
    change HttpFilter.merge { name } ⟨4, .bytes (encodeFields packed.fields)⟩ = _
    rw [HttpFilter.merge, Option.getD_none,
      mergeNested_encodeFields (packed.fits_fields 0).wellFormed, packed.merge_fields]

theorem ProtocolOptions.fits_fields (options : ProtocolOptions) (depth : Nat)
    (known : List (Nat × Form)) (hlimit : known.lookup 4 = some .span) :
    Form.Fits (depth + 1) known options.fields := by
  refine Form.fits_optional hlimit (by decide) fun fields hfields => ?_
  obtain ⟨span, -, rfl⟩ := Option.map_eq_some_iff.mp hfields
  exact span.fits_fields depth

theorem ProtocolOptions.merge_fields (options : ProtocolOptions) :
    mergeWritten ProtocolOptions.merge {} options.fields = options := by
  obtain ⟨maxStream⟩ := options
  cases maxStream with
  | none => rfl
  | some span =>
    change ProtocolOptions.merge {} ⟨4, .bytes (encodeFields span.fields)⟩ = _
    rw [ProtocolOptions.merge, Option.getD_none,
      mergeNested_encodeFields (span.fits_fields 0).wellFormed, span.merge_fields]

/-! ### The manager itself -/

namespace ConnectionManager

theorem fits_fields (manager : ConnectionManager) (depth : Nat) :
    Form.Fits (depth + 3) forms manager.fields := by
  refine Form.Fits.append (Form.Fits.append ?_ ?_) ?_
  · -- no routes, a reference to a route configuration, and the two sources that are written empty
    rcases manager.routes with _ | reference | _ | _
    · exact Form.fits_nil
    · exact Form.fits_message rfl (by decide) (reference.fits_fields depth)
    · exact Form.fits_message rfl (by decide) Form.fits_nil
    · exact Form.fits_message rfl (by decide) Form.fits_nil
  · intro field hfield
    obtain ⟨filter, -, rfl⟩ := List.mem_map.mp hfield
    exact Form.fits_message rfl (by decide)
      (filter.fits_fields (depth + 1) _ rfl rfl) _ List.mem_cons_self
  · refine Form.fits_optional rfl (by decide) fun fields hfields => ?_
    obtain ⟨options, -, rfl⟩ := Option.map_eq_some_iff.mp hfields
    exact options.fits_fields (depth + 1) _ rfl

theorem merge_routes (routes : Option RouteSource) :
    mergeWritten merge {} (routes.map RouteSource.field).toList = { routes } := by
  rcases routes with _ | reference | _ | _
  · rfl
  · change merge {} ⟨3, .bytes (encodeFields reference.fields)⟩ = _
    simp only [merge]
    rw [mergeNested_encodeFields (reference.fits_fields 0).wellFormed, reference.merge_fields]
  · rfl
  · rfl

theorem merge_filters (filters : List HttpFilter) (start : ConnectionManager) :
    mergeWritten merge start (filters.map fun filter => message 5 filter.fields) =
      { start with filters := start.filters ++ filters } := by
  induction filters generalizing start with
  | nil => simp
  | cons filter rest ih =>
    have hwritten := (filter.fits_fields 0 [(1, .text),
      (4, .message [(1, .text), (2, .bytes)])] rfl rfl).wellFormed
    have hfirst : merge start ⟨5, .bytes (encodeFields filter.fields)⟩ =
        { start with filters := start.filters ++ [filter] } := by
      simp only [merge]
      rw [mergeNested_encodeFields hwritten, filter.merge_fields]
    -- filters add up, so the first one is there before the others are merged
    change mergeWritten merge (merge start ⟨5, .bytes (encodeFields filter.fields)⟩)
      (rest.map fun filter => message 5 filter.fields) = _
    rw [hfirst, ih]
    simp

theorem merge_options (options : Option ProtocolOptions) (start : ConnectionManager)
    (h : start.options = none) :
    mergeWritten merge start (optional 35 (options.map ProtocolOptions.fields)) =
      { start with options } := by
  obtain ⟨routes, filters, before⟩ := start
  obtain rfl : before = none := h
  cases options with
  | none => rfl
  | some options =>
    have hwritten := (options.fits_fields 0 [(4, .span)] rfl).wellFormed
    change merge { routes, filters } ⟨35, .bytes (encodeFields options.fields)⟩ = _
    rw [merge, Option.getD_none, mergeNested_encodeFields hwritten, options.merge_fields]

/-- A manager is read back from its bytes. -/
theorem decode?_encodeFields (manager : ConnectionManager) :
    decode? (encodeFields manager.fields) = some manager := by
  -- a manager nests three deep, which leaves room below the depth that readers allow
  have hfields : knownFields? 100 forms (encodeFields manager.fields) =
      some (manager.fields.map MessageField.raw) :=
    knownFields?_encodeFields (manager.fits_fields 96)
  have hmerge : mergeWritten merge {} manager.fields = manager := by
    rw [fields, mergeWritten_append, mergeWritten_append, merge_routes, merge_filters,
      merge_options _ _ rfl]
    rfl
  rw [decode?, hfields, Option.map_some]
  exact congrArg some hmerge

/-- The decoder gives managers back as they were written, whatever it makes of other bytes. -/
def ReadsBack (decode : Bytes → Option ConnectionManager) : Prop :=
  ∀ manager : ConnectionManager, decode (encodeFields manager.fields) = some manager

theorem readsBack_decode? : ReadsBack decode? :=
  decode?_encodeFields

end ConnectionManager

/-- A listener asks for the route configuration that its manager fetches. -/
theorem Listener.routeConfigNameBy_ofManager {decode : Bytes → Option ConnectionManager}
    (hdecode : ConnectionManager.ReadsBack decode) (name : String) {manager : ConnectionManager}
    (reference : RouteDiscovery) (h : manager.routes = some (.discovery reference)) :
    (Listener.ofManager name manager).routeConfigNameBy decode =
      .ok (some reference.routeConfigName) := by
  simp [routeConfigNameBy, ofManager, hdecode manager, h]

end TrafficPlane
