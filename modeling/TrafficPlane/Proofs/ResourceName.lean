import Mathlib.Data.List.Basic
import TrafficPlane.Resource.Name

/-!
# Names that are not shared

An escaped part of a name has no full stop, and it tells the part that it was made from. So a name
falls into its parts in one way only, and specs share no names.

## Main results

* `ResourceName.escape_injective`: an escaped part tells the part
* `ResourceName.routeConfiguration_inj`, `ResourceName.virtualHost_inj`: specs share no names of
  route configurations or of virtual hosts
* `ResourceName.cluster_inj`: neither specs nor clusters share names of clusters
* `ResourceName.generated_inj`: names of one kind tell all the texts that they were made from
-/

namespace TrafficPlane.ResourceName

/-! ### Escaped parts -/

/-- What an escaped text begins with tells the first character that was escaped. -/
theorem escapeChar_append_inj {c d : Char} {s t : List Char}
    (h : escapeChar c ++ s = escapeChar d ++ t) : c = d ∧ s = t := by
  unfold escapeChar at h
  split_ifs at h <;> grind

theorem escapeChar_ne_nil (c : Char) : escapeChar c ≠ [] := by
  unfold escapeChar
  split_ifs <;> simp

theorem stop_notMem_escapeChar (c : Char) : '.' ∉ escapeChar c := by
  unfold escapeChar
  split_ifs with hpercent hstop
  · decide
  · decide
  · simpa using fun h => hstop h.symm

theorem flatMap_escapeChar_injective : ∀ {s t : List Char},
    s.flatMap escapeChar = t.flatMap escapeChar → s = t
  | [], [], _ => rfl
  | [], d :: _, h => absurd (List.append_eq_nil_iff.mp h.symm).1 (escapeChar_ne_nil d)
  | c :: _, [], h => absurd (List.append_eq_nil_iff.mp h).1 (escapeChar_ne_nil c)
  | c :: s, d :: t, h => by
    obtain ⟨rfl, hrest⟩ := escapeChar_append_inj h
    rw [flatMap_escapeChar_injective hrest]

theorem toList_escape (part : String) : (escape part).toList = part.toList.flatMap escapeChar :=
  String.toList_ofList

/-- An escaped part tells the part that it was made from. -/
theorem escape_injective {part other : String} (h : escape part = escape other) : part = other := by
  have hlist := congrArg String.toList h
  rw [toList_escape, toList_escape] at hlist
  exact String.toList_inj.mp (flatMap_escapeChar_injective hlist)

theorem stop_notMem_escape (part : String) : '.' ∉ (escape part).toList := by
  rw [toList_escape]
  intro hmem
  obtain ⟨c, -, hc⟩ := List.mem_flatMap.mp hmem
  exact stop_notMem_escapeChar c hc

/-! ### Whole names -/

/-- A text has one part in front of its first full stop. -/
theorem append_stop_inj : ∀ {a b s t : List Char}, '.' ∉ a → '.' ∉ b →
    a ++ '.' :: s = b ++ '.' :: t → a = b ∧ s = t
  | [], [], _, _, _, _, h => ⟨rfl, (List.cons.inj h).2⟩
  | [], d :: b, _, _, _, hb, h => absurd ((List.cons.inj h).1 ▸ List.mem_cons_self) hb
  | c :: a, [], _, _, ha, _, h => absurd ((List.cons.inj h).1 ▸ List.mem_cons_self) ha
  | c :: a, d :: b, _, _, ha, hb, h => by
    obtain ⟨rfl, hrest⟩ := List.cons.inj h
    obtain ⟨rfl, rfl⟩ := append_stop_inj (fun hmem => ha (List.mem_cons_of_mem _ hmem))
      (fun hmem => hb (List.mem_cons_of_mem _ hmem)) hrest
    exact ⟨rfl, rfl⟩

/-- The name that starts with a spec's stem tells the spec and what comes after the stem. -/
theorem stem_append_inj {spec other : QualifiedName} {s t : String}
    (h : stem spec ++ ("." ++ s) = stem other ++ ("." ++ t)) : spec = other ∧ s = t := by
  have hlist := congrArg String.toList h
  have hstop : ".".toList = ['.'] := rfl
  simp only [stem, String.toList_append, List.append_assoc, hstop, List.cons_append,
    List.nil_append] at hlist
  -- escaped parts have no full stops, so the first two end the spec's name and namespace
  have hparts := List.append_cancel_left hlist
  obtain ⟨hname, hrest⟩ := append_stop_inj (stop_notMem_escape _) (stop_notMem_escape _) hparts
  obtain ⟨hspace, hend⟩ := append_stop_inj (stop_notMem_escape _) (stop_notMem_escape _) hrest
  have hspec : spec = other := by
    obtain ⟨space, name⟩ := spec
    obtain ⟨space', name'⟩ := other
    obtain rfl := escape_injective (String.toList_inj.mp hspace)
    obtain rfl := escape_injective (String.toList_inj.mp hname)
    rfl
  exact ⟨hspec, String.toList_inj.mp hend⟩

/-- Specs share no names of route configurations. -/
theorem routeConfiguration_inj {spec other : QualifiedName} :
    routeConfiguration spec = routeConfiguration other ↔ spec = other := by
  refine ⟨fun h => ?_, fun h => h ▸ rfl⟩
  exact (stem_append_inj (s := "routeconfig") (t := "routeconfig") h).1

/-- Specs share no names of virtual hosts. -/
theorem virtualHost_inj {spec other : QualifiedName} :
    virtualHost spec = virtualHost other ↔ spec = other := by
  refine ⟨fun h => ?_, fun h => h ▸ rfl⟩
  exact (stem_append_inj (s := "vhost") (t := "vhost") h).1

/-- Neither specs nor the clusters of a spec share names of clusters. -/
theorem cluster_inj {spec other : QualifiedName} {localName otherName : String} :
    cluster spec localName = cluster other otherName ↔ spec = other ∧ localName = otherName := by
  refine ⟨fun h => ?_, fun ⟨hspec, hname⟩ => hspec ▸ hname ▸ rfl⟩
  rw [cluster, cluster, String.append_assoc, String.append_assoc] at h
  obtain ⟨hspec, hname⟩ := stem_append_inj h
  exact ⟨hspec, escape_injective hname⟩

/-- Names of one kind are never shared, whatever texts the specs and the clusters go by: empty ones,
ones with full stops or percent signs, and ones that look escaped. -/
theorem generated_inj (name name' space space' localName localName' : String) :
    (cluster ⟨space, name⟩ localName = cluster ⟨space', name'⟩ localName' ↔
        (name, space, localName) = (name', space', localName')) ∧
      (routeConfiguration ⟨space, name⟩ = routeConfiguration ⟨space', name'⟩ ↔
        (name, space) = (name', space')) ∧
      (virtualHost ⟨space, name⟩ = virtualHost ⟨space', name'⟩ ↔
        (name, space) = (name', space')) := by
  have hspec : (⟨space, name⟩ : QualifiedName) = ⟨space', name'⟩ ↔
      (name, space) = (name', space') := by
    rw [QualifiedName.mk.injEq, Prod.mk.injEq, and_comm]
  refine ⟨?_, routeConfiguration_inj.trans hspec, virtualHost_inj.trans hspec⟩
  rw [cluster_inj, hspec, Prod.mk.injEq, Prod.mk.injEq, Prod.mk.injEq, and_assoc]

end TrafficPlane.ResourceName
