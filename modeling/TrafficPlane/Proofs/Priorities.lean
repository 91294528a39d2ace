import Mathlib.Data.List.Basic
import TrafficPlane.Proofs.Stages

/-!
# Priorities without gaps

The priorities of a cluster are listed in ascending order, each once, and compared with their places
in the list. So every priority has its place just when with each priority all smaller ones occur.

## Main definitions

* `ClusterSpec.Occurs`: some locality of a cluster has a priority

## Main results

* `ClusterSpec.priorities_ascending`, `ClusterSpec.mem_priorities_iff`: the list of priorities
* `ClusterSpec.contiguous_iff`: the priorities have no gaps
* `ClusterSpec.exists_greatest`: a cluster with localities has a greatest priority
* `ClusterSpec.resolve_eq_priorityGap_iff`: which clusters are rejected for their priorities
* `ClusterSpec.priorities_checked`: the check passes if the priorities are all numbers up to the
  greatest one
-/

namespace TrafficPlane

/-- Where repeated numbers are erased from an ascending list, each is less than all that follow. -/
theorem eraseDups_ascending : ∀ {numbers : List UInt32}, numbers.Pairwise (· ≤ ·) →
    numbers.eraseDups.Pairwise (· < ·)
  | [], _ => .nil
  | n :: rest, h => by
    obtain ⟨hfirst, hrest⟩ := List.pairwise_cons.mp h
    rw [List.eraseDups_cons]
    refine .cons (fun other hother => ?_) (eraseDups_ascending (hrest.filter _))
    obtain ⟨hmem, hne⟩ := List.mem_filter.mp (List.mem_eraseDups.mp hother)
    exact UInt32.lt_of_le_of_ne (hfirst other hmem) fun heq => by simp [heq] at hne
termination_by numbers => numbers.length
decreasing_by
  exact Nat.lt_succ_of_le (List.length_filter_le _ _)

/-- Ascending numbers are those from the first place on if they leave out none above it. -/
theorem all_zipIdx_iff {numbers : List UInt32} (hascending : numbers.Pairwise (· < ·)) {first : Nat}
    (hfirst : ∀ n ∈ numbers, first ≤ n.toNat) :
    (numbers.zipIdx first).all (fun (n, place) => n.toNat == place) ↔
      ∀ n ∈ numbers, ∀ smaller < n, first ≤ smaller.toNat → smaller ∈ numbers := by
  induction numbers generalizing first with
  | nil => simp
  | cons n rest ih =>
    obtain ⟨habove, hrest⟩ := List.pairwise_cons.mp hascending
    have hn : first ≤ n.toNat := hfirst n List.mem_cons_self
    have hnext : ∀ m ∈ rest, first + 1 ≤ m.toNat := fun m hm =>
      Nat.lt_of_le_of_lt hn (UInt32.lt_iff_toNat_lt.mp (habove m hm))
    rw [List.zipIdx_cons, List.all_cons, Bool.and_eq_true, ih hrest hnext, beq_iff_eq]
    constructor
    -- a smaller number is the first one or lies above it, where the rest has no gaps
    · rintro ⟨hplace, hgaps⟩ m hm smaller hsmaller hle
      rcases Nat.eq_or_lt_of_le hle with heq | hlt
      · exact List.mem_cons.mpr (.inl (UInt32.toNat_inj.mp (heq.symm.trans hplace.symm)))
      · rcases List.mem_cons.mp hm with rfl | hm
        · have hbelow := UInt32.lt_iff_toNat_lt.mp hsmaller
          omega
        · exact List.mem_cons_of_mem _ (hgaps m hm smaller hsmaller hlt)
    · intro hgaps
      -- a first number above its place would leave out the number of that place
      have hplace : n.toNat = first := by
        by_contra hne
        have hlt : first < n.toNat := Nat.lt_of_le_of_ne hn (Ne.symm hne)
        have htoNat : (UInt32.ofNat first).toNat = first :=
          UInt32.toNat_ofNat_of_lt' (Nat.lt_trans hlt n.toNat_lt)
        have hmem := hgaps n List.mem_cons_self (.ofNat first)
          (UInt32.lt_iff_toNat_lt.mpr (htoNat.symm ▸ hlt)) (Nat.le_of_eq htoNat.symm)
        rcases List.mem_cons.mp hmem with heq | hmem
        · exact hne (heq ▸ htoNat)
        · have habove := hnext _ hmem
          omega
      refine ⟨hplace, fun m hm smaller hsmaller hle => ?_⟩
      rcases List.mem_cons.mp
        (hgaps m (List.mem_cons_of_mem _ hm) smaller hsmaller (Nat.le_of_succ_le hle)) with rfl | hmem
      · omega
      · exact hmem

namespace ClusterSpec

variable {cluster : ClusterSpec}

theorem mem_priorities_iff {priority : UInt32} : priority ∈ cluster.priorities ↔
    ∃ locality ∈ cluster.localities, locality.priority = priority := by
  rw [priorities, List.mem_eraseDups, List.mem_mergeSort, List.mem_map]

theorem priorities_ascending : cluster.priorities.Pairwise (· < ·) := by
  have hsorted : ((cluster.localities.map (·.priority)).mergeSort (· ≤ ·)).Pairwise
      fun a b => decide (a ≤ b) :=
    List.pairwise_mergeSort (by simpa using fun a b c => UInt32.le_trans)
      (by simpa using UInt32.le_total) _
  exact eraseDups_ascending (hsorted.imp of_decide_eq_true)

/-- The priorities of a cluster are contiguous if with each one all smaller ones occur. -/
theorem contiguous_iff : cluster.contiguous ↔
    ∀ locality ∈ cluster.localities, ∀ smaller < locality.priority,
      ∃ other ∈ cluster.localities, other.priority = smaller := by
  rw [contiguous, all_zipIdx_iff priorities_ascending fun _ _ => Nat.zero_le _]
  simp [mem_priorities_iff]

/-- Neither their order nor repetitions count. -/
example : contiguous { name := "c", localities := [{ priority := 1 }, {}, { priority := 1 }] } := by
  cbv

/-- Some locality of the cluster has the priority. -/
def Occurs (cluster : ClusterSpec) (priority : UInt32) : Prop :=
  ∃ locality ∈ cluster.localities, locality.priority = priority

theorem exists_greatest (h : cluster.localities ≠ []) :
    ∃ greatest, cluster.Occurs greatest ∧ ∀ priority, cluster.Occurs priority → priority ≤ greatest := by
  obtain ⟨locality, hlocality⟩ := List.exists_mem_of_ne_nil _ h
  have hne : cluster.priorities ≠ [] :=
    List.ne_nil_of_mem (mem_priorities_iff.mpr ⟨locality, hlocality, rfl⟩)
  -- the list of priorities ascends, so none of them is above the last one
  obtain ⟨smaller, greatest, hlist⟩ := (List.eq_nil_or_concat' cluster.priorities).resolve_left hne
  have hascending := cluster.priorities_ascending
  rw [hlist, List.pairwise_append] at hascending
  refine ⟨greatest, mem_priorities_iff.mp (by simp [hlist]), ?_⟩
  intro priority hpriority
  have hmem : priority ∈ smaller ++ [greatest] := hlist ▸ mem_priorities_iff.mpr hpriority
  rcases List.mem_append.mp hmem with hmem | hmem
  · exact UInt32.le_of_lt (hascending.2.2 priority hmem greatest List.mem_cons_self)
  · exact UInt32.le_of_eq (List.mem_singleton.mp hmem)

/-- A cluster with localities is rejected for its priorities if they have gaps, whatever endpoints
there are. The fault of a locality is another one, since it names the cluster. -/
theorem resolve_eq_priorityGap_iff (h : cluster.localities ≠ []) (index : MembershipIndex)
    (space : String) :
    cluster.resolve index space = .error (.config (.priorityGap cluster.name cluster.priorities)) ↔
      ¬ cluster.contiguous := by
  unfold resolve
  rw [if_neg (by simpa using h)]
  by_cases hgaps : cluster.contiguous
  · simp only [hgaps, Bool.not_true, Bool.false_eq_true, if_false, not_true, iff_false]
    intro hfault
    obtain ⟨locality, -, hlocality⟩ := exists_of_mapM_eq_error hfault
    unfold resolveLocality at hlocality
    cases hresolve : locality.resolve index space with
    | ok resolved => simp [hresolve] at hlocality
    | error fault => cases fault <;> simp [hresolve, Fault.inCluster] at hlocality
  · simp [hgaps]

/-- For any localities, with their priorities in any order and repeated or not: the check passes just
when with each priority all smaller ones occur. If there are localities, one priority is the greatest,
and the check passes just when the priorities are the numbers up to that one; the cluster is rejected
for its priorities just when it does not pass. -/
theorem priorities_checked (cluster : ClusterSpec) :
    (cluster.contiguous ↔
      ∀ priority, cluster.Occurs priority → ∀ smaller < priority, cluster.Occurs smaller) ∧
    (cluster.localities ≠ [] → ∃ greatest,
      (cluster.Occurs greatest ∧ ∀ priority, cluster.Occurs priority → priority ≤ greatest) ∧
      (cluster.contiguous ↔ ∀ priority, cluster.Occurs priority ↔ priority ≤ greatest)) ∧
    (cluster.localities ≠ [] → ∀ index space,
      cluster.resolve index space =
        .error (.config (.priorityGap cluster.name cluster.priorities)) ↔ ¬ cluster.contiguous) := by
  have hclosed : cluster.contiguous ↔
      ∀ priority, cluster.Occurs priority → ∀ smaller < priority, cluster.Occurs smaller := by
    rw [contiguous_iff]
    constructor
    · rintro hgaps _ ⟨locality, hlocality, rfl⟩
      exact hgaps locality hlocality
    · intro hclosed locality hlocality
      exact hclosed locality.priority ⟨locality, hlocality, rfl⟩
  refine ⟨hclosed, fun hne => ?_, fun hne index space => resolve_eq_priorityGap_iff hne index space⟩
  obtain ⟨greatest, hoccurs, hgreatest⟩ := exists_greatest hne
  refine ⟨greatest, ⟨hoccurs, hgreatest⟩, hclosed.trans ⟨fun hclosed priority => ?_, fun hall => ?_⟩⟩
  · refine ⟨hgreatest priority, fun hle => ?_⟩
    by_cases heq : priority = greatest
    · exact heq ▸ hoccurs
    · exact hclosed greatest hoccurs priority (UInt32.lt_of_le_of_ne hle heq)
  · intro priority hpriority smaller hsmaller
    apply (hall smaller).mpr
    exact UInt32.le_trans (UInt32.le_of_lt hsmaller) (hgreatest priority hpriority)

end ClusterSpec

end TrafficPlane
