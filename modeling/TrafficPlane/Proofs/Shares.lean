import TrafficPlane.Proofs.Bundle

/-!
# Shares of the traffic

A route spreads requests over its targets by weight. The samples below the sum of the weights are
dealt out in the order of the targets, each target getting as many consecutive ones as its weight
says. The message of the route lists the same shares, from which a proxy deals out samples by
summing weights up instead of taking them off.

## Main definitions

* `Route.weightBefore`: the sum of the weights before a place
* `Route.pickPlace?`: the place of the target that a sample falls to
* `Route.pickChecked`: picking on machine words, with a subtraction that is checked
* `ClusterWeight.select?`: the choice of a proxy among weighted clusters

## Main results

* `Route.pickPlace?_eq_some_iff`, `Route.pickPlace?_eq_none_iff`: which samples fall where
* `Route.countP_pickPlace?`: each place gets as many samples as its weight says
* `Route.pickChecked_eq`: no weight is taken off a smaller remainder
* `ClusterWeight.select?_render`: the message means the same shares
* `Route.picks_by_weight`: all of this for the routes of a spec
-/

namespace TrafficPlane

/-- The cluster with which the running sum of the weights first exceeds the sample, given the sum
that has been passed. -/
def ClusterWeight.select? (sample : Nat) : Nat → List ClusterWeight → Option String
  | _, [] => none
  | passed, entry :: rest =>
    if sample < passed + entry.weight.toNat then some entry.name
    else select? sample (passed + entry.weight.toNat) rest

namespace Route

variable {targets : List Target} {target : Target} {sample place : Nat}

/-- The sum of the weights of some targets. -/
def weightOf (targets : List Target) : Nat :=
  (targets.map (·.weight.toNat)).sum

/-- The sum of the weights of the targets before a place. -/
def weightBefore (targets : List Target) (place : Nat) : Nat :=
  weightOf (targets.take place)

/-- The place of the target in whose share of the weights a sample falls. -/
def pickPlace? : List Target → Nat → Option Nat
  | [], _ => none
  | target :: rest, sample =>
    if sample < target.weight.toNat then some 0
    else (pickPlace? rest (sample - target.weight.toNat)).map (· + 1)

/-- The difference of two words, unless it is negative. -/
def checkedSub? (a b : UInt64) : Option UInt64 :=
  if b ≤ a then some (a - b) else none

/-- The target that a sample falls to, found on words of sixty-four bits. There is no outcome if a
weight is taken off a smaller remainder. -/
def pickChecked : List Target → UInt64 → Option (Option Target)
  | [], _ => some none
  | target :: rest, remaining =>
    if remaining < target.weight.toUInt64 then some (some target)
    else match checkedSub? remaining target.weight.toUInt64 with
      | some left => pickChecked rest left
      | none => none

theorem totalWeight_eq_weightOf (route : Route) : route.totalWeight = weightOf route.targets := rfl

@[simp] theorem weightOf_nil : weightOf [] = 0 := rfl

@[simp] theorem weightOf_cons : weightOf (target :: targets) =
    target.weight.toNat + weightOf targets := by
  simp [weightOf]

@[simp] theorem weightBefore_zero : weightBefore targets 0 = 0 := by
  simp [weightBefore]

@[simp] theorem weightBefore_succ : weightBefore (target :: targets) (place + 1) =
    target.weight.toNat + weightBefore targets place := by
  simp [weightBefore]

/-! ### Where a sample falls -/

theorem pickPlace?_cons_of_lt (h : sample < target.weight.toNat) :
    pickPlace? (target :: targets) sample = some 0 :=
  if_pos h

theorem pickPlace?_cons_add : pickPlace? (target :: targets) (target.weight.toNat + sample) =
    (pickPlace? targets sample).map (· + 1) := by
  rw [pickPlace?, if_neg (Nat.not_lt.mpr (Nat.le_add_right _ _)), Nat.add_sub_cancel_left]

/-- What is picked is the target at the place that is picked. -/
theorem pickTarget?_eq_bind :
    pickTarget? targets sample = (pickPlace? targets sample).bind (targets[·]?) := by
  induction targets generalizing sample with
  | nil => rfl
  | cons first rest ih =>
    rw [pickTarget?, pickPlace?]
    split_ifs with hlt
    · rfl
    · rw [ih, Option.bind_map]
      rfl

/-- A sample falls to a place if it is not below the sum of the weights before it, but below the sum
with its own weight. -/
theorem pickPlace?_eq_some_iff : pickPlace? targets sample = some place ↔
    ∃ target, targets[place]? = some target ∧ weightBefore targets place ≤ sample ∧
      sample < weightBefore targets place + target.weight.toNat := by
  induction targets generalizing sample place with
  | nil => simp [pickPlace?]
  | cons first rest ih =>
    -- a sample beyond the share of the first target is dealt out to the rest
    rcases Nat.lt_or_ge sample first.weight.toNat with hlt | hge
    · rw [pickPlace?_cons_of_lt hlt]
      cases place with
      | zero => simpa using hlt
      | succ place =>
        refine iff_of_false (by simp) ?_
        rintro ⟨target, -, hbefore, -⟩
        rw [weightBefore_succ] at hbefore
        omega
    · obtain ⟨beyond, rfl⟩ := Nat.exists_eq_add_of_le hge
      rw [pickPlace?_cons_add]
      cases place with
      | zero => simp
      | succ place =>
        simp only [Option.map_eq_some_iff, Nat.add_right_cancel_iff, exists_eq_right, ih,
          List.getElem?_cons_succ, weightBefore_succ, Nat.add_assoc, Nat.add_le_add_iff_left,
          Nat.add_lt_add_iff_left]

/-- No place is picked for the samples from the sum of all weights on. -/
theorem pickPlace?_eq_none_iff : pickPlace? targets sample = none ↔ weightOf targets ≤ sample := by
  induction targets generalizing sample with
  | nil => simp [pickPlace?]
  | cons first rest ih =>
    rcases Nat.lt_or_ge sample first.weight.toNat with hlt | hge
    · rw [pickPlace?_cons_of_lt hlt, weightOf_cons]
      refine iff_of_false (by simp) ?_
      omega
    · obtain ⟨beyond, rfl⟩ := Nat.exists_eq_add_of_le hge
      rw [pickPlace?_cons_add, Option.map_eq_none_iff, ih, weightOf_cons, Nat.add_le_add_iff_left]

/-- Nothing is picked for those samples either. -/
theorem pickTarget?_eq_none_iff : pickTarget? targets sample = none ↔ weightOf targets ≤ sample := by
  rw [← pickPlace?_eq_none_iff, pickTarget?_eq_bind]
  cases hplace : pickPlace? targets sample with
  | none => simp
  | some place =>
    -- a place that is picked is one of the list
    obtain ⟨target, htarget, -⟩ := pickPlace?_eq_some_iff.mp hplace
    simp [htarget]

/-- Of the samples below the sum of all weights, each place gets as many as its weight says. -/
theorem countP_pickPlace? (h : targets[place]? = some target) :
    (List.range (weightOf targets)).countP (fun sample => pickPlace? targets sample = some place) =
      target.weight.toNat := by
  induction targets generalizing place with
  | nil => simp at h
  | cons first rest ih =>
    -- the samples of the first target come first, and those of the rest are shifted by its weight
    rw [weightOf_cons, List.range_add, List.countP_append, List.countP_map]
    have hfirst : ∀ sample ∈ List.range first.weight.toNat,
        pickPlace? (first :: rest) sample = some 0 := fun sample hsample =>
      pickPlace?_cons_of_lt (List.mem_range.mp hsample)
    cases place with
    | zero =>
      obtain rfl : first = target := by simpa using h
      have hown : (List.range first.weight.toNat).countP
          (fun sample => pickPlace? (first :: rest) sample = some 0) = first.weight.toNat := by
        rw [List.countP_eq_length.mpr fun sample hsample => decide_eq_true (hfirst sample hsample),
          List.length_range]
      have hothers : (List.range (weightOf rest)).countP
          ((fun sample => decide (pickPlace? (first :: rest) sample = some 0)) ∘
            (first.weight.toNat + ·)) = 0 := by
        refine List.countP_eq_zero.mpr fun sample _ => ?_
        simp [pickPlace?_cons_add]
      rw [hown, hothers, Nat.add_zero]
    | succ place =>
      have hown : (List.range first.weight.toNat).countP
          (fun sample => pickPlace? (first :: rest) sample = some (place + 1)) = 0 := by
        refine List.countP_eq_zero.mpr fun sample hsample => ?_
        simp [hfirst sample hsample]
      have hothers : ((fun sample => decide (pickPlace? (first :: rest) sample = some (place + 1))) ∘
          (first.weight.toNat + ·)) = fun sample => decide (pickPlace? rest sample = some place) := by
        funext sample
        simp [pickPlace?_cons_add]
      rw [hown, hothers, Nat.zero_add]
      exact ih (by simpa using h)

/-! ### Picking on words -/

/-- Picking takes each weight off a remainder that is not smaller, so the words never wrap. -/
theorem pickChecked_eq (sample : UInt64) :
    pickChecked targets sample = some (pickTarget? targets sample.toNat) := by
  induction targets generalizing sample with
  | nil => rfl
  | cons first rest ih =>
    have hweight : first.weight.toUInt64.toNat = first.weight.toNat := UInt32.toNat_toUInt64 _
    rw [pickChecked, pickTarget?, ← hweight]
    simp only [UInt64.lt_iff_toNat_lt]
    split_ifs with hlt
    · rfl
    · have hle : first.weight.toUInt64 ≤ sample := UInt64.le_iff_toNat_le.mpr (Nat.not_lt.mp hlt)
      rw [checkedSub?, if_pos hle, ← UInt64.toNat_sub_of_le _ _ hle]
      exact ih _

end Route

/-! ### What a message says of shares -/

/-- Summing the weights of a message up leads to the cluster to which taking them off leads. -/
theorem ClusterWeight.select?_render {targets : List Target} {sample passed : Nat}
    (h : passed ≤ sample) :
    select? sample passed
        (targets.map fun target => { name := target.cluster, weight := target.weight }) =
      (Route.pickTarget? targets (sample - passed)).map (·.cluster) := by
  induction targets generalizing passed with
  | nil => rfl
  | cons first rest ih =>
    have hreached : sample < passed + first.weight.toNat ↔
        sample - passed < first.weight.toNat := by omega
    rw [List.map_cons, select?, Route.pickTarget?]
    simp only [hreached]
    split_ifs with hlt
    · rfl
    · rw [ih (by omega), Nat.sub_add_eq]

namespace Route

variable {route : Route}

theorem renderedTotal_eq_none_iff (h : route.totalWeight ≤ maxTotalWeight) :
    route.renderedTotal = none ↔ route.totalWeight = 0 := by
  rw [renderedTotal, ite_eq_left_iff]
  simp [Nat.not_lt.mpr h]

theorem toNat_renderedTotal {sum : UInt32} (h : route.renderedTotal = some sum) :
    sum.toNat = route.totalWeight := by
  rw [renderedTotal] at h
  split_ifs at h with hleft
  obtain rfl := Option.some.inj h
  have hle : route.totalWeight ≤ maxTotalWeight := Nat.not_lt.mp fun hlt => hleft (.inr hlt)
  exact UInt32.toNat_ofNat_of_lt' (Nat.lt_succ_of_le hle)

/-- The targets of a checked route get exactly the shares that their weights say. Each sample falls
to the one place whose share it is in, or nowhere if it is not below the sum of the weights, and no
weight is ever taken off a smaller remainder. Of the samples below the sum each place gets as many
as its weight says, so a weight of zero gets none. The message of the route lists the same clusters
with the same weights, gives their sum unless it is zero, and a proxy that sums the weights up comes
to the same cluster for every sample. -/
theorem picks_by_weight {spec : RoutingSpec} {index : Nat} {declared : RouteSpec}
    (h : Route.compile spec index declared = .ok route) :
    (∀ sample : UInt64,
      pickChecked route.targets sample = some (route.pick? sample.toNat) ∧
      route.pick? sample.toNat =
        (pickPlace? route.targets sample.toNat).bind (route.targets[·]?) ∧
      (∀ place, pickPlace? route.targets sample.toNat = some place ↔
        ∃ target, route.targets[place]? = some target ∧
          weightBefore route.targets place ≤ sample.toNat ∧
          sample.toNat < weightBefore route.targets place + target.weight.toNat) ∧
      (route.pick? sample.toNat = none ↔ route.totalWeight ≤ sample.toNat)) ∧
    (∀ place target, route.targets[place]? = some target →
      (List.range route.totalWeight).countP
          (fun sample => pickPlace? route.targets sample = some place) = target.weight.toNat ∧
      (target.weight = 0 → ∀ sample, pickPlace? route.targets sample ≠ some place)) ∧
    ∃ clusters total limits,
      route.render.action = some (.forward ⟨some (.weighted clusters total), limits⟩) ∧
      clusters.map (fun entry => (entry.name, entry.weight)) =
        route.targets.map (fun target => (target.cluster, target.weight)) ∧
      (total = none ↔ route.totalWeight = 0) ∧
      (route.totalWeight ≠ 0 → ∃ sum : UInt32, total = some sum ∧ sum.toNat = route.totalWeight) ∧
      ∀ sample, ClusterWeight.select? sample 0 clusters = (route.pick? sample).map (·.cluster) := by
  obtain ⟨-, -, -, -, -, hweight⟩ := compile_eq_ok_iff.mp h
  refine ⟨fun sample => ⟨pickChecked_eq sample, pickTarget?_eq_bind,
    fun place => pickPlace?_eq_some_iff, ?_⟩, fun place target htarget => ⟨?_, ?_⟩,
    _, _, _, rfl, ?_, renderedTotal_eq_none_iff hweight, ?_, fun sample => ?_⟩
  · rw [pick?, pickTarget?_eq_none_iff, totalWeight_eq_weightOf]
  · rw [totalWeight_eq_weightOf]
    exact countP_pickPlace? htarget
  · intro hzero sample hpick
    -- a share of weight zero ends where it begins
    obtain ⟨other, hother, hle, hlt⟩ := pickPlace?_eq_some_iff.mp hpick
    obtain rfl := Option.some.inj (htarget.symm.trans hother)
    rw [hzero] at hlt
    exact absurd hlt (Nat.not_lt.mpr hle)
  · simp
  · intro hne
    obtain ⟨sum, hsum⟩ := Option.ne_none_iff_exists'.mp
      (mt (renderedTotal_eq_none_iff hweight).mp hne)
    exact ⟨sum, hsum, toNat_renderedTotal hsum⟩
  · exact ClusterWeight.select?_render (Nat.zero_le sample)

/-- Two targets without weight among two of one cluster, whose weights add up to the largest sum
there may be. -/
theorem picks_by_weight_at_limit :
    let spec : RoutingSpec := { name := "a", listener := "l", clusters := [{ name := "c" }] }
    let declared : RouteSpec := {
      clusters := [
        { name := "c", weight := 0 }, { name := "c", weight := 4294967294 },
        { name := "c", weight := 0 }, { name := "c" }] }
    ∃ route clusters limits, Route.compile spec 0 declared = .ok route ∧
      route.totalWeight = 4294967295 ∧
      pickPlace? route.targets (4294967293 : UInt64).toNat = some 1 ∧
      pickPlace? route.targets (4294967294 : UInt64).toNat = some 3 ∧
      route.pick? (4294967295 : UInt64).toNat = none ∧
      route.render.action =
        some (.forward ⟨some (.weighted clusters (some 4294967295)), limits⟩) := by
  intro spec declared
  obtain ⟨route, h⟩ : ∃ route, Route.compile spec 0 declared = .ok route :=
    exists_of_isSome (by decide +kernel)
  have htargets : (Route.compile spec 0 declared).toOption.map (·.targets) = some [
      ⟨"c", "routeforge.a.default.c", 0⟩, ⟨"c", "routeforge.a.default.c", 4294967294⟩,
      ⟨"c", "routeforge.a.default.c", 0⟩, ⟨"c", "routeforge.a.default.c", 1⟩] := by
    decide +kernel
  rw [h] at htargets
  replace htargets : route.targets = _ := Option.some.inj htargets
  have htotal : route.totalWeight = 4294967295 := by
    rw [totalWeight_eq_weightOf, htargets]
    rfl
  obtain ⟨hpicks, -, clusters, total, limits, haction, -, -, hgiven, -⟩ := picks_by_weight h
  obtain ⟨sum, rfl, hsum⟩ := hgiven (by rw [htotal]; decide)
  obtain rfl : sum = 4294967295 := UInt32.toNat_inj.mp (hsum.trans htotal)
  refine ⟨route, clusters, limits, h, htotal, ?_, ?_, ?_, haction⟩
  · refine ((hpicks _).2.2.1 1).mpr ⟨_, congrArg (·[1]?) htargets, ?_⟩
    rw [htargets]
    decide
  · refine ((hpicks _).2.2.1 3).mpr ⟨_, congrArg (·[3]?) htargets, ?_⟩
    rw [htargets]
    decide
  · exact (hpicks _).2.2.2.mpr (htotal ▸ le_refl 4294967295)

end Route

end TrafficPlane
