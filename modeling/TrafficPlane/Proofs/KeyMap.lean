import Mathlib.Data.List.Dedup
import Mathlib.Data.List.Induction
import Mathlib.Data.List.Nodup
import Mathlib.Data.List.Sort
import TrafficPlane.KeyMap

/-!
# Reading maps by qualified name

The entries of a map are read back by their names: looking a name up, asking whether it is there,
and listing names and values all speak of the same entries.

## Main definitions

* `KeyMap.before`: the part of a map that comes before a name
* `KeyMap.lastOfEach`: the values of a list that no later one has the name of

## Main results

* `KeyMap.mem_entries_iff`: the entries of a map are what is found in it
* `KeyMap.ext_find?`: a map is determined by what is found in it
* `KeyMap.find?_insert`: what is found after an insertion
* `KeyMap.ascending_names`: the names of any part of a map are in strictly ascending order
* `KeyMap.find?_ofList`: of several values with one name the last one counts
* `KeyMap.keyOf_eq_of_find?_ofList`: a map of values that know their names holds each under its own
* `KeyMap.ofList_perm`, `KeyMap.ofList_lastOfEach`: what does not matter of the list that a map is
  made of
* `KeyMap.nodup_map_values`: what tells the names of a map's values is distinct
-/

namespace TrafficPlane.KeyMap

variable {α β : Type} {map map' : KeyMap α} {key other : QualifiedName} {value : α}

/-- An entry is what is found under its name. -/
theorem mem_entries_iff : (key, value) ∈ map.entries ↔ map.find? key = some value := by
  obtain ⟨entries, ascending⟩ := map
  simp only [find?]
  induction entries with
  | nil => simp
  | cons first rest ih =>
    obtain ⟨hfirst, hrest⟩ := List.pairwise_cons.mp ascending
    by_cases h : first.1 = key
    · subst h
      have hlater : (first.1, value) ∉ rest := fun hmem =>
        QualifiedName.lt_irrefl first.1 (hfirst (first.1, value) hmem)
      simp [hlater, Prod.ext_iff, eq_comm]
    · rw [List.find?_cons_of_neg (by simpa using h), List.mem_cons, ← ih hrest]
      refine or_iff_right fun heq => h ?_
      rw [← heq]

@[simp] theorem find?_empty : (empty : KeyMap α).find? key = none := rfl

theorem find?_insert :
    (map.insert key value).find? other = if other = key then some value else map.find? other := by
  split_ifs with h
  · rw [h, find?_insert_self]
  · exact find?_insert_of_ne map h

theorem find?_erase_of_ne (h : other ≠ key) : (map.erase key).find? other = map.find? other := by
  refine Option.ext fun value => ?_
  rw [← mem_entries_iff, ← mem_entries_iff, erase, List.mem_filter]
  exact and_iff_left (by simpa using h)

theorem find?_erase_self : (map.erase key).find? key = none := by
  refine Option.eq_none_iff_forall_not_mem.mpr fun value hvalue => ?_
  have hentry := mem_entries_iff.mpr (Option.mem_def.mp hvalue)
  simp [erase] at hentry

theorem has_iff : map.has key = true ↔ ∃ value, map.find? key = some value := by
  simp only [has, List.any_eq_true, decide_eq_true_eq]
  constructor
  · rintro ⟨⟨k, value⟩, hmem, rfl⟩
    exact ⟨value, mem_entries_iff.mp hmem⟩
  · rintro ⟨value, hfind⟩
    exact ⟨(key, value), mem_entries_iff.mpr hfind, rfl⟩

theorem mem_values_iff : value ∈ map.values ↔ ∃ key, map.find? key = some value := by
  simp only [values, List.mem_map]
  constructor
  · rintro ⟨⟨k, v⟩, hmem, rfl⟩
    exact ⟨k, mem_entries_iff.mp hmem⟩
  · rintro ⟨k, hfind⟩
    exact ⟨(k, value), mem_entries_iff.mpr hfind, rfl⟩

theorem mem_keys_iff : key ∈ map.keys ↔ ∃ value, map.find? key = some value := by
  simp only [keys, List.mem_map]
  constructor
  · rintro ⟨⟨k, value⟩, hmem, rfl⟩
    exact ⟨value, mem_entries_iff.mp hmem⟩
  · rintro ⟨value, hfind⟩
    exact ⟨(key, value), mem_entries_iff.mpr hfind, rfl⟩

/-- The names of chosen entries are in the order of the map. -/
theorem ascending_names (map : KeyMap α) (chosen : QualifiedName × α → Bool) :
    ((map.entries.filter chosen).map (·.1)).Pairwise (· < ·) :=
  List.pairwise_map.mpr (map.ascending.filter chosen)

theorem keys_ascending (map : KeyMap α) : map.keys.Pairwise (· < ·) :=
  List.pairwise_map.mpr map.ascending

theorem nodup_keys (map : KeyMap α) : map.keys.Nodup := by
  refine map.keys_ascending.imp fun {a b} hlt => ?_
  rintro rfl
  exact QualifiedName.lt_irrefl a hlt

/-- What is found under each name determines the map. -/
theorem ext_find? (h : ∀ key, map.find? key = map'.find? key) : map = map' := by
  have hirrefl : Std.Irrefl fun a b : QualifiedName × α => a.1 < b.1 :=
    ⟨fun entry => QualifiedName.lt_irrefl entry.1⟩
  have hantisymm : Std.Antisymm fun a b : QualifiedName × α => a.1 < b.1 :=
    ⟨fun a _ hab hba => absurd (QualifiedName.lt_trans hab hba) (QualifiedName.lt_irrefl a.1)⟩
  -- two ascending lists with the same members are the same
  have hentries : map.entries = map'.entries :=
    map.ascending.eq_of_mem_iff map'.ascending fun ⟨key, value⟩ => by
      rw [mem_entries_iff, mem_entries_iff, h key]
  cases map
  cases map'
  simpa using hentries

/-- An entry whose name comes after all others is put at the end. -/
theorem entries_insert_of_greatest (h : ∀ other value, map.find? other = some value → other < key) :
    (map.insert key value).entries = map.entries ++ [(key, value)] := by
  have hall : ∀ entry ∈ map.entries, entry.1 < key := fun entry hentry =>
    h entry.1 entry.2 (mem_entries_iff.mp hentry)
  change put key value map.entries = map.entries ++ [(key, value)]
  generalize map.entries = entries at hall
  induction entries with
  | nil => rfl
  | cons first rest ih =>
    have hfirst : first.1 < key := hall first List.mem_cons_self
    have hnot : ¬ key < first.1 := fun hlt =>
      QualifiedName.lt_irrefl key (QualifiedName.lt_trans hlt hfirst)
    have hne : key ≠ first.1 := fun heq => QualifiedName.lt_irrefl key (heq ▸ hfirst)
    rw [put, if_neg hnot, if_neg hne, ih fun entry hentry =>
      hall entry (List.mem_cons_of_mem _ hentry)]
    rfl

/-! ### The part before a name -/

/-- The entries of the names that come before a name. -/
def before (map : KeyMap α) (key : QualifiedName) : KeyMap α where
  entries := map.entries.filter (·.1 < key)
  ascending := map.ascending.filter _

theorem find?_before_eq_some_iff :
    (map.before key).find? other = some value ↔ other < key ∧ map.find? other = some value := by
  rw [← mem_entries_iff, ← mem_entries_iff, before, List.mem_filter, decide_eq_true_eq, and_comm]

/-- A later insertion leaves the part before a name as it is. -/
theorem before_insert_of_not_lt (h : ¬ key < other) :
    (map.insert key value).before other = map.before other := by
  refine ext_find? fun k => Option.ext fun v => ?_
  rw [find?_before_eq_some_iff, find?_before_eq_some_iff]
  refine and_congr_right fun hlt => ?_
  have hne : k ≠ key := by
    rintro rfl
    exact h hlt
  rw [find?_insert_of_ne map hne]

/-- Nothing is missing before a name that comes after all others. -/
theorem before_eq_self (h : ∀ other value, map.find? other = some value → other < key) :
    map.before key = map := by
  refine ext_find? fun k => Option.ext fun v => ?_
  rw [find?_before_eq_some_iff]
  exact and_iff_right_of_imp (h k v)

/-! ### Maps of values that know their own names -/

section OfList

variable {keyOf : α → QualifiedName} {values values' : List α}

/-- Of the values with a name the last one is found. -/
theorem find?_ofList :
    (ofList keyOf values).find? key = (values.filter (keyOf · = key)).getLast? := by
  induction values using List.reverseRecOn with
  | nil => rfl
  | append_singleton values last ih =>
    have hfold : ofList keyOf (values ++ [last]) =
        (ofList keyOf values).insert (keyOf last) last := by
      simp only [ofList, List.foldl_append, List.foldl_cons, List.foldl_nil]
    rw [hfold, find?_insert, List.filter_append, List.getLast?_append, ← ih]
    by_cases hlast : keyOf last = key
    · simp [hlast]
    · simp [hlast, Ne.symm hlast]

/-- In a map of values that know their own names each value stands under its own. -/
theorem keyOf_eq_of_find?_ofList (h : (ofList keyOf values).find? key = some value) :
    keyOf value = key := by
  rw [find?_ofList] at h
  simpa using (List.mem_filter.mp (List.mem_of_getLast? h)).2

/-- The names of such a map are those of the values, each once. -/
theorem keys_ofList_perm : (ofList keyOf values).keys.Perm (values.map keyOf).dedup := by
  refine (List.perm_ext_iff_of_nodup (nodup_keys _) (List.nodup_dedup _)).mpr fun key => ?_
  rw [List.mem_dedup, mem_keys_iff, ← Option.isSome_iff_exists, find?_ofList, List.getLast?_isSome,
    ne_eq, List.filter_eq_nil_iff]
  simp

/-- Under the name of each value one of the values is found. -/
theorem exists_find?_ofList (keyOf : α → QualifiedName) (h : value ∈ values) :
    ∃ found ∈ values, (ofList keyOf values).find? (keyOf value) = some found := by
  have hsome : ((ofList keyOf values).find? (keyOf value)).isSome := by
    rw [find?_ofList, List.getLast?_isSome]
    exact List.ne_nil_of_mem (List.mem_filter.mpr ⟨h, decide_eq_true rfl⟩)
  obtain ⟨found, hfound⟩ := Option.isSome_iff_exists.mp hsome
  have hlast := List.mem_of_getLast? (find?_ofList.symm.trans hfound)
  exact ⟨found, (List.mem_filter.mp hlast).1, hfound⟩

/-- In a map of values with different names each value is found under its name. -/
theorem find?_ofList_eq_some_iff (h : (values.map keyOf).Nodup) :
    (ofList keyOf values).find? key = some value ↔ value ∈ values ∧ keyOf value = key := by
  constructor
  · intro hfind
    have hlast := List.mem_of_getLast? (find?_ofList.symm.trans hfind)
    simpa using hlast
  · rintro ⟨hmem, rfl⟩
    -- what is found has the name of the value, and no other value has it
    obtain ⟨found, hmem', hfound⟩ := exists_find?_ofList keyOf hmem
    have hkey : keyOf found = keyOf value := keyOf_eq_of_find?_ofList hfound
    rw [hfound, List.inj_on_of_nodup_map h hmem' hmem hkey]

/-- Values with different names may be listed in any order. -/
theorem ofList_perm (h : (values.map keyOf).Nodup) (hperm : values.Perm values') :
    ofList keyOf values = ofList keyOf values' := by
  have h' : (values'.map keyOf).Nodup := (hperm.map keyOf).nodup_iff.mp h
  refine ext_find? fun key => Option.ext fun value => ?_
  rw [find?_ofList_eq_some_iff h, find?_ofList_eq_some_iff h', hperm.mem_iff]

/-- The values that no later one has the name of. -/
def lastOfEach (keyOf : α → QualifiedName) : List α → List α
  | [] => []
  | value :: rest =>
    if keyOf value ∈ rest.map keyOf then lastOfEach keyOf rest
    else value :: lastOfEach keyOf rest

/-- Values that are followed by one of their name do not count. -/
theorem ofList_lastOfEach (keyOf : α → QualifiedName) (values : List α) :
    ofList keyOf (lastOfEach keyOf values) = ofList keyOf values := by
  refine ext_find? fun key => ?_
  rw [find?_ofList, find?_ofList]
  induction values with
  | nil => rfl
  | cons value rest ih =>
    rw [lastOfEach]
    by_cases hlater : keyOf value ∈ rest.map keyOf
    · rw [if_pos hlater, ih]
      by_cases hkey : keyOf value = key
      · -- a later value has the name, so the last of them is not this one
        obtain ⟨later, hmem, hsame⟩ := List.mem_map.mp hlater
        have hne : rest.filter (keyOf · = key) ≠ [] :=
          List.ne_nil_of_mem (List.mem_filter.mpr ⟨hmem, decide_eq_true (hsame.trans hkey)⟩)
        rw [List.filter_cons_of_pos (by simpa using hkey), List.getLast?_cons_of_ne_nil hne]
      · rw [List.filter_cons_of_neg (by simpa using hkey)]
    · rw [if_neg hlater]
      by_cases hkey : keyOf value = key
      · rw [List.filter_cons_of_pos (by simpa using hkey),
          List.filter_cons_of_pos (by simpa using hkey), List.getLast?_cons, List.getLast?_cons, ih]
      · rw [List.filter_cons_of_neg (by simpa using hkey),
          List.filter_cons_of_neg (by simpa using hkey), ih]

end OfList

/-- What is drawn from the values of a map is distinct if it tells the names of the values. -/
theorem nodup_map_values {draw : α → β}
    (hdraw : ∀ {key value key' value'}, map.find? key = some value → map.find? key' = some value' →
      draw value = draw value' → key = key') : (map.values.map draw).Nodup := by
  rw [values, List.map_map]
  refine List.pairwise_map.mpr (map.ascending.imp_of_mem fun {a b} ha hb hlt heq => ?_)
  have hkey := hdraw (mem_entries_iff.mp ha) (mem_entries_iff.mp hb) heq
  exact QualifiedName.lt_irrefl b.1 (hkey ▸ hlt)

end TrafficPlane.KeyMap
