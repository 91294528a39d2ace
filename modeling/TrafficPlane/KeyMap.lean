import TrafficPlane.Spec.QualifiedName

/-!
# Maps by qualified name

A map is the list of its entries in ascending order of their names. Insertion replaces the entry of
the same name, so of several values under one name the last one stays.

## Main definitions

* `KeyMap`: entries in strictly ascending order
* `KeyMap.insert`, `KeyMap.erase`, `KeyMap.find?`
* `KeyMap.ofList`: a map from values listed in any order

## Main results

* `KeyMap.find?_insert_self`, `KeyMap.find?_insert_of_ne`: what insertion changes
-/

namespace TrafficPlane

/-- Values by qualified name, in ascending order of the names. -/
structure KeyMap (α : Type) where
  entries : List (QualifiedName × α)
  ascending : entries.Pairwise (fun a b => a.1 < b.1) := by exact .nil

namespace KeyMap

variable {α β : Type} {key other : QualifiedName} {value : α}

/-- The list with one entry put in its place, where it replaces one of the same name. -/
def put (key : QualifiedName) (value : α) :
    List (QualifiedName × α) → List (QualifiedName × α)
  | [] => [(key, value)]
  | entry :: rest =>
    if key < entry.1 then (key, value) :: entry :: rest
    else if key = entry.1 then (key, value) :: rest
    else entry :: put key value rest

theorem mem_put {entry : QualifiedName × α} {entries : List (QualifiedName × α)}
    (h : entry ∈ put key value entries) : entry = (key, value) ∨ entry ∈ entries := by
  induction entries with
  | nil => simpa [put] using h
  | cons first rest ih =>
    unfold put at h
    split at h
    · simpa using h
    · split at h
      · rcases List.mem_cons.mp h with rfl | h
        · exact .inl rfl
        · exact .inr (List.mem_cons_of_mem _ h)
      · rcases List.mem_cons.mp h with rfl | h
        · exact .inr List.mem_cons_self
        · exact (ih h).imp_right (List.mem_cons_of_mem _)

theorem put_ascending {entries : List (QualifiedName × α)}
    (h : entries.Pairwise (fun a b => a.1 < b.1)) :
    (put key value entries).Pairwise (fun a b => a.1 < b.1) := by
  induction entries with
  | nil => simp [put]
  | cons first rest ih =>
    obtain ⟨hfirst, hrest⟩ := List.pairwise_cons.mp h
    unfold put
    split
    · rename_i hlt
      refine List.pairwise_cons.mpr ⟨fun entry hentry => ?_, h⟩
      rcases List.mem_cons.mp hentry with rfl | hentry
      · exact hlt
      · exact QualifiedName.lt_trans hlt (hfirst entry hentry)
    · split
      · rename_i heq
        exact List.pairwise_cons.mpr ⟨fun entry hentry => heq ▸ hfirst entry hentry, hrest⟩
      · rename_i hlt hne
        refine List.pairwise_cons.mpr ⟨fun entry hentry => ?_, ih hrest⟩
        rcases mem_put hentry with rfl | hentry
        · exact (QualifiedName.lt_trichotomy first.1 key).resolve_right
            (fun | .inl h => hne h.symm | .inr h => hlt h)
        · exact hfirst entry hentry

/-- The map without entries. -/
def empty : KeyMap α where
  entries := []

instance : Inhabited (KeyMap α) := ⟨empty⟩

/-- The map with the value under the name. -/
def insert (map : KeyMap α) (key : QualifiedName) (value : α) : KeyMap α where
  entries := put key value map.entries
  ascending := put_ascending map.ascending

/-- The map without an entry under the name. -/
def erase (map : KeyMap α) (key : QualifiedName) : KeyMap α where
  entries := map.entries.filter (·.1 ≠ key)
  ascending := map.ascending.filter _

/-- The value under a name. -/
def find? (map : KeyMap α) (key : QualifiedName) : Option α :=
  (map.entries.find? (·.1 = key)).map (·.2)

/-- There is a value under the name. -/
def has (map : KeyMap α) (key : QualifiedName) : Bool :=
  map.entries.any (·.1 = key)

/-- The names in ascending order. -/
def keys (map : KeyMap α) : List QualifiedName :=
  map.entries.map (·.1)

/-- The values in ascending order of their names. -/
def values (map : KeyMap α) : List α :=
  map.entries.map (·.2)

/-- The number of entries. -/
def size (map : KeyMap α) : Nat :=
  map.entries.length

/-- The map of values that know their own names. Of several with one name the last one stays. -/
def ofList (keyOf : α → QualifiedName) (values : List α) : KeyMap α :=
  values.foldl (fun map value => map.insert (keyOf value) value) empty

theorem find?_insert_self (map : KeyMap α) : (map.insert key value).find? key = some value := by
  obtain ⟨entries, _⟩ := map
  simp only [insert, find?]
  induction entries with
  | nil => simp [put]
  | cons first rest ih =>
    unfold put
    split
    · simp
    · split
      · simp
      · rename_i hne
        rename_i h _
        rw [List.find?_cons_of_neg (by simpa using fun h => hne h.symm)]
        exact ih (List.pairwise_cons.mp h).2

theorem find?_insert_of_ne (map : KeyMap α) (h : other ≠ key) :
    (map.insert key value).find? other = map.find? other := by
  obtain ⟨entries, _⟩ := map
  simp only [insert, find?]
  induction entries with
  | nil => simp [put, h.symm]
  | cons first rest ih =>
    unfold put
    split
    · rw [List.find?_cons_of_neg (by simpa using h.symm)]
    · split
      · rename_i heq
        rw [List.find?_cons_of_neg (by simpa using h.symm),
          List.find?_cons_of_neg (by simpa [← heq] using h.symm)]
      · rename_i hs _ _
        by_cases hfirst : first.1 = other
        · simp [hfirst]
        · rw [List.find?_cons_of_neg (by simpa using hfirst),
            List.find?_cons_of_neg (by simpa using hfirst)]
          exact ih (List.pairwise_cons.mp hs).2

end KeyMap

end TrafficPlane
