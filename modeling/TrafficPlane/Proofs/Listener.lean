import TrafficPlane.Proofs.ConnectionManager

/-!
# What listeners carry

A listener is generated with its connection manager as bytes. The clients that the listener is meant
for read the manager back, and with it how long a stream may last, which was declared in
milliseconds and is written in seconds and nanoseconds.

## Main definitions

* `TimeSpan.millis`, `TimeSpan.Normal`: the milliseconds of a span, and how a span is to be split
* `ConnectionManager.maxStream?`: the limit on streams that a manager sets

## Main results

* `TimeSpan.millis_ofMillis`, `TimeSpan.normal_ofMillis`: any number of milliseconds makes a span
  exactly
* `Listener.manager_read_back`: what is read back from the listener of a spec
-/

namespace TrafficPlane

open Wire

/-! ### Spans of time -/

namespace TimeSpan

/-- The milliseconds of a span, without what is left of its nanoseconds. -/
def millis (span : TimeSpan) : Int :=
  span.seconds.toInt * 1000 + span.nanos.toInt / 1000000

/-- Nothing in a span is negative, and its nanoseconds do not make a second. -/
structure Normal (span : TimeSpan) : Prop where
  seconds_nonneg : 0 ≤ span.seconds.toInt
  nanos_nonneg : 0 ≤ span.nanos.toInt
  nanos_lt : span.nanos.toInt < 10 ^ 9

variable (millis : UInt64)

/-- There is room for the seconds of any number of milliseconds. -/
theorem toInt_seconds_ofMillis : (ofMillis millis).seconds.toInt = millis.toNat / 1000 := by
  have hlt := millis.toNat_lt
  exact Int64.toInt_ofNat_of_lt (by omega)

/-- There is room for the nanoseconds of less than a second. -/
theorem toInt_nanos_ofMillis :
    (ofMillis millis).nanos.toInt = millis.toNat % 1000 * 1000000 := by
  have hlt := Nat.mod_lt millis.toNat (show 0 < 1000 by decide)
  exact Int32.toInt_ofNat_of_lt (by omega)

theorem normal_ofMillis : (ofMillis millis).Normal := by
  constructor
  case seconds_nonneg =>
    rw [toInt_seconds_ofMillis]
    omega
  case nanos_nonneg =>
    rw [toInt_nanos_ofMillis]
    omega
  case nanos_lt =>
    rw [toInt_nanos_ofMillis]
    omega

@[simp] theorem millis_ofMillis : (ofMillis millis).millis = millis.toNat := by
  rw [TimeSpan.millis, toInt_seconds_ofMillis, toInt_nanos_ofMillis]
  -- the nanoseconds are whole milliseconds, so nothing is lost when they are taken together again
  have hnanos : (millis.toNat : Int) % 1000 * 1000000 / 1000000 = (millis.toNat : Int) % 1000 :=
    Int.mul_ediv_cancel _ (by decide)
  rw [hnanos]
  exact Int.ediv_mul_add_emod _ 1000

end TimeSpan

/-! ### Reading a listener -/

/-- The limit that a manager sets on how long a stream may last. -/
def ConnectionManager.maxStream? (manager : ConnectionManager) : Option TimeSpan :=
  manager.options.bind (·.maxStream)

theorem ConnectionManager.maxStream?_ofRoutes (routeConfig : String)
    (maxStreamMillis : Option UInt64) :
    (ofRoutes routeConfig maxStreamMillis).maxStream? = maxStreamMillis.map TimeSpan.ofMillis := by
  cases maxStreamMillis <;> rfl

/-- A spec that names its listener has one for every route configuration. The manager that it
carries is read back as it was written: it fetches that route configuration from the aggregated
stream in version three, it has the router as its only filter, and it limits streams just when the
spec does, to as many milliseconds. -/
theorem Listener.manager_read_back {spec : RoutingSpec} (h : Text.trim spec.listener ≠ "")
    (routeConfig : String) :
    ∃ listener packed manager, Listener.ofSpec spec routeConfig = .ok listener ∧
      listener.name = spec.listener ∧ listener.api = some { manager := some packed } ∧
      packed.typeUrl = ConnectionManager.typeUrl ∧ packed.value = encodeFields manager.fields ∧
      ConnectionManager.decode? packed.value = some manager ∧
      listener.routeConfigName = .ok (some routeConfig) ∧
      (∃ reference source, manager.routes = some (.discovery reference) ∧
        reference.routeConfigName = routeConfig ∧ reference.source = some source ∧
        source.aggregated ∧ source.apiVersion = 2) ∧
      manager.filters = [.router] ∧
      (manager.maxStream?.isSome ↔ spec.maxStreamMillis.isSome) ∧
      ∀ millis span, spec.maxStreamMillis = some millis → manager.maxStream? = some span →
        span.Normal ∧ span.millis = millis.toNat := by
  let reference : RouteDiscovery := { source := some .stream, routeConfigName := routeConfig }
  let manager : ConnectionManager := .ofRoutes routeConfig spec.maxStreamMillis
  have hroutes : manager.routes = some (.discovery reference) := rfl
  have hmade : Listener.ofSpec spec routeConfig = .ok (.ofManager spec.listener manager) := by
    rw [Listener.ofSpec, if_neg h]
  have hlimit : manager.maxStream? = spec.maxStreamMillis.map TimeSpan.ofMillis :=
    ConnectionManager.maxStream?_ofRoutes routeConfig spec.maxStreamMillis
  refine ⟨_, _, manager, hmade, rfl, rfl, rfl, rfl, manager.decode?_encodeFields,
    Listener.routeConfigNameBy_ofManager ConnectionManager.readsBack_decode? spec.listener reference
      hroutes,
    ⟨reference, .stream, hroutes, rfl, rfl, rfl, rfl⟩, rfl, ?_, ?_⟩
  · rw [hlimit, Option.isSome_map]
  · intro millis span hmillis hspan
    obtain rfl : TimeSpan.ofMillis millis = span := by
      rw [hlimit, hmillis] at hspan
      exact Option.some.inj hspan
    exact ⟨TimeSpan.normal_ofMillis millis, TimeSpan.millis_ofMillis millis⟩

/-- The longest limit that can be declared is read back, beside a route configuration without a
name. -/
theorem Listener.longest_limit_read_back :
    let spec : RoutingSpec := {
      name := "a", listener := "l", maxStreamMillis := some 18446744073709551615 }
    Text.trim spec.listener ≠ "" ∧
      ∃ listener packed manager span, Listener.ofSpec spec "" = .ok listener ∧
        listener.api = some { manager := some packed } ∧
        ConnectionManager.decode? packed.value = some manager ∧
        listener.routeConfigName = .ok (some "") ∧ manager.filters = [.router] ∧
        manager.maxStream? = some span ∧ span.millis = 18446744073709551615 := by
  intro spec
  have hlistener : Text.trim spec.listener ≠ "" := by decide +kernel
  obtain ⟨listener, packed, manager, hmade, -, hapi, -, -, hdecoded, hname, -, hfilters, hsome,
    hspan⟩ := Listener.manager_read_back hlistener ""
  obtain ⟨span, hlimit⟩ := Option.isSome_iff_exists.mp (hsome.mpr rfl)
  obtain ⟨-, hmillis⟩ := hspan _ span rfl hlimit
  exact ⟨hlistener, listener, packed, manager, span, hmade, hapi, hdecoded, hname, hfilters, hlimit,
    hmillis⟩

end TrafficPlane
