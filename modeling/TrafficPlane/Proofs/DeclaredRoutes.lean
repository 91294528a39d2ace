import TrafficPlane.Proofs.Decimal
import TrafficPlane.Proofs.LetterCase
import TrafficPlane.Proofs.Rendering

/-!
# The route that a spec declares for a request

What a declared route takes is said here without its compiled form: by the path criterion that goes
before the others, and by the headers as the sender of a request set them. A compiled table finds the
first declared route in this sense.

## Main definitions

* `PathSpec.Takes`, `HeaderSpec.Holds`, `RouteSpec.Takes`: what criteria mean
* `lastValue?`: the value of a header, of which the last one of a name counts

## Main results

* `RouteSpec.takes_iff`: the compiled criteria of a route mean what the declared ones mean
* `RouteTable.firstMatch?_first_declared`: a table finds the first declared route that takes a
  request
-/

namespace TrafficPlane

open Text

/-! ### Declared criteria -/

/-- The expression is valid and matches the value. -/
def RegexSpec.Matches (spec : RegexSpec) (value : String) : Prop :=
  ∃ compiled, CompiledRegex.compile spec = .ok compiled ∧ compiled.accepts value

/-- The characters by which texts are compared: those of ASCII in lower case where case does not
count. -/
def Text.compared (caseSensitive : Bool) (s : String) : List Char :=
  if caseSensitive then s.toList else asciiLower s

/-- The leading part that counts, which is a slash where none is declared or an empty one. -/
def PathSpec.leadingText (spec : PathSpec) : String :=
  if spec.leading.getD "" = "" then "/" else spec.leading.getD ""

/-- The declared criterion takes the path: a regular expression, without regard to whether case
counts, else an exact path that is not empty, else a leading part. -/
def PathSpec.Takes (spec : PathSpec) (caseSensitive : Bool) (path : String) : Prop :=
  match spec.regex with
  | some declared => declared.Matches path
  | none =>
    if spec.exact.getD "" = "" then
      compared caseSensitive spec.leadingText <+: compared caseSensitive path
    else compared caseSensitive path = compared caseSensitive (spec.exact.getD "")

/-- The value of the header with a name, among headers in the order in which they were set. The name
is in lower case; the names of the headers may be in any case, and the last value counts. -/
def lastValue? (headers : List (String × String)) (name : String) : Option String :=
  (headers.reverse.find? fun header => toLower header.1 = name).map (·.2)

/-- The value passes all tests that the declaration sets. -/
structure HeaderSpec.Passes (spec : HeaderSpec) (value : String) : Prop where
  exact : ∀ text, spec.exact = some text → value = text
  regex : ∀ declared, spec.regex = some declared → declared.Matches value
  range : ∀ bounds, spec.range = some bounds →
    ∃ v, decimal? (trim value) = some v ∧ bounds.start.toInt ≤ v ∧ v < bounds.stop.toInt
  present : ∀ expected, spec.present = some expected → expected = true
  leading : ∀ text, spec.leading = some text → text.toList <+: value.toList
  trailing : ∀ text, spec.trailing = some text → text.toList <:+ value.toList

/-- The declared criterion holds for these headers. Where the header is absent, nothing holds but a
criterion on presence. -/
def HeaderSpec.Holds (spec : HeaderSpec) (headers : List (String × String)) : Prop :=
  match lastValue? headers (toLower (trim spec.name)) with
  | some value => Xor (spec.Passes value) (spec.invert = true)
  | none => ∃ expected, spec.present = some expected ∧ Xor (expected = false) (spec.invert = true)

/-- The declared route takes a request with this path and these headers. -/
def RouteSpec.Takes (route : RouteSpec) (path : String) (headers : List (String × String)) : Prop :=
  route.path.Takes route.caseSensitive path ∧ ∀ header ∈ route.headers, header.Holds headers

/-- The route declared at a place is the first of the spec's routes to take the request. -/
structure RoutingSpec.FirstTaker (spec : RoutingSpec) (path : String)
    (headers : List (String × String)) (place : Nat) (declared : RouteSpec) : Prop where
  declared_at : spec.routes[place]? = some declared
  takes : declared.Takes path headers
  first : ∀ earlier < place, ∀ other, spec.routes[earlier]? = some other →
    ¬ other.Takes path headers

/-! ### Paths -/

theorem CompiledRegex.accepts_iff {spec : RegexSpec} {regex : CompiledRegex}
    (h : compile spec = .ok regex) {value : String} : regex.accepts value ↔ spec.Matches value := by
  constructor
  · exact fun haccepts => ⟨regex, h, haccepts⟩
  · rintro ⟨compiled, hcompile, haccepts⟩
    obtain rfl := Except.ok.inj (h.symm.trans hcompile)
    exact haccepts

namespace PathMatcher

variable {text path : String} {caseSensitive : Bool}

theorem accepts_leading_iff : (leading text).accepts path caseSensitive ↔
    compared caseSensitive text <+: compared caseSensitive path := by
  cases caseSensitive with
  | false => exact startsIgnoringCase_iff
  | true => exact List.isPrefixOf_iff_prefix

theorem accepts_exact_iff : (exact text).accepts path caseSensitive ↔
    compared caseSensitive path = compared caseSensitive text := by
  cases caseSensitive with
  | false => exact beq_iff_eq
  | true => exact beq_iff_eq.trans String.toList_inj.symm

end PathMatcher

theorem PathSpec.takes_iff {spec : PathSpec} {matcher : PathMatcher}
    (h : PathMatcher.compile spec = .ok matcher) {caseSensitive : Bool} {path : String} :
    matcher.accepts path caseSensitive ↔ spec.Takes caseSensitive path := by
  obtain ⟨leading, exact, regex⟩ := spec
  cases regex with
  | some declared =>
    obtain ⟨compiled, hcompiled, rfl⟩ := map_eq_ok_iff.mp h
    cases caseSensitive <;> exact CompiledRegex.accepts_iff hcompiled
  | none =>
    -- an empty text counts as one that is not declared
    have hmatcher : matcher = if exact.getD "" = "" then
        .leading (if leading.getD "" = "" then "/" else leading.getD "")
        else .exact (exact.getD "") := by
      rw [PathMatcher.compile] at h
      cases exact <;> cases leading <;> grind
    rw [hmatcher]
    simp only [Takes, leadingText]
    split_ifs
    · exact PathMatcher.accepts_leading_iff
    · exact PathMatcher.accepts_leading_iff
    · exact PathMatcher.accepts_exact_iff

/-! ### Headers -/

namespace HeaderSpec

variable {spec : HeaderSpec} {criteria : List HeaderCriterion}

theorem exists_compile_regex (h : spec.criteria = .ok criteria) {declared : RegexSpec}
    (hdeclared : spec.regex = some declared) :
    ∃ compiled, CompiledRegex.compile declared = .ok compiled := by
  rw [HeaderSpec.criteria, hdeclared] at h
  obtain ⟨_, hregex, -⟩ := bind_eq_ok_iff.mp h
  obtain ⟨compiled, hcompile, -⟩ := map_eq_ok_iff.mp hregex
  exact ⟨compiled, hcompile⟩

/-- The integers that are too large to be read lie in no range. -/
theorem accepts_range_iff {bounds : IntegerRange} {value : String} :
    (HeaderCriterion.range bounds).accepts value ↔
      ∃ v, decimal? (trim value) = some v ∧ bounds.start.toInt ≤ v ∧ v < bounds.stop.toInt := by
  have hread : ∀ v, HeaderCriterion.integer? value = some v ↔
      decimal? (trim value) = some v ∧ -9223372036854775808 ≤ v ∧ v ≤ 9223372036854775807 := by
    intro v
    rw [← readInteger_eq_ok_iff (by decide) (by decide), HeaderCriterion.integer?]
    cases readInteger (-9223372036854775808) 9223372036854775807 (trim value) <;>
      simp [Except.toOption]
  -- the bounds of a range are integers that can be read
  have hstart := Int64.le_toInt bounds.start
  have hstop := Int64.toInt_lt bounds.stop
  rw [HeaderCriterion.accepts]
  constructor
  · intro haccepts
    split at haccepts
    · next v hv => exact ⟨v, ((hread v).mp hv).1, by simpa using haccepts⟩
    · exact absurd haccepts nofun
  · rintro ⟨v, hdecimal, hbounds⟩
    rw [(hread v).mpr ⟨hdecimal, by omega, by omega⟩]
    simpa using hbounds

/-- A value passes what is declared if it passes every criterion that the declaration sets. -/
theorem passes_iff (h : spec.criteria = .ok criteria) {value : String} :
    spec.Passes value ↔ ∀ criterion ∈ criteria, criterion.accepts value := by
  simp only [mem_criteria_iff h]
  constructor
  · intro hpasses criterion hset
    cases criterion with
    | exact text => exact beq_iff_eq.mpr (hpasses.exact text hset)
    | regex compiled =>
      obtain ⟨declared, hdeclared, hcompile⟩ := hset
      exact (CompiledRegex.accepts_iff hcompile).mpr (hpasses.regex declared hdeclared)
    | range bounds => exact accepts_range_iff.mpr (hpasses.range bounds hset)
    | present expected => exact hpasses.present expected hset
    | leading text => exact List.isPrefixOf_iff_prefix.mpr (hpasses.leading text hset)
    | trailing text => exact List.isSuffixOf_iff_suffix.mpr (hpasses.trailing text hset)
  · intro hall
    exact {
      exact := fun text hset => beq_iff_eq.mp (hall (.exact text) hset)
      regex := fun declared hdeclared => by
        obtain ⟨compiled, hcompile⟩ := exists_compile_regex h hdeclared
        exact ⟨compiled, hcompile, hall (.regex compiled) ⟨declared, hdeclared, hcompile⟩⟩
      range := fun bounds hset => accepts_range_iff.mp (hall (.range bounds) hset)
      present := fun expected hset => hall (.present expected) hset
      leading := fun text hset => List.isPrefixOf_iff_prefix.mp (hall (.leading text) hset)
      trailing := fun text hset => List.isSuffixOf_iff_suffix.mp (hall (.trailing text) hset) }

end HeaderSpec

/-- The header that was set last is found, whatever the case of its name. -/
theorem Request.header?_ofHeaders {path : String} {headers : List (String × String)}
    {name : String} :
    (ofHeaders path headers).header? name = lastValue? headers (toLower name) := by
  have hheaders : (ofHeaders path headers).headers =
      headers.reverse.map fun header => (toLower header.1, header.2) := by
    rw [ofHeaders, List.foldl_eq_foldr_reverse]
    induction headers.reverse with
    | nil => rfl
    | cons header rest ih => exact congrArg _ ih
  rw [header?, hheaders, lastValue?]
  induction headers.reverse with
  | nil => rfl
  | cons header rest ih =>
    rw [List.map_cons, List.lookup_cons, List.find?_cons, ih]
    cases heq : toLower name == toLower header.1 <;> grind

theorem Request.path_ofHeaders {path : String} {headers : List (String × String)} :
    (ofHeaders path headers).path = path := by
  rw [ofHeaders, List.foldl_eq_foldr_reverse]
  induction headers.reverse with
  | nil => rfl
  | cons header rest ih => exact ih

theorem HeaderSpec.holds_iff {spec : HeaderSpec} {matcher : HeaderMatcher}
    (h : HeaderMatcher.compile spec = .ok matcher) {path : String}
    {headers : List (String × String)} :
    matcher.accepts (.ofHeaders path headers) ↔ spec.Holds headers := by
  obtain ⟨hname, -, hcriteria, hinvert⟩ := HeaderMatcher.compile_eq_ok_iff.mp h
  rw [HeaderMatcher.accepts, Request.header?_ofHeaders, hname, toLower_toLower, Holds, ← hinvert]
  cases lastValue? headers (toLower (trim spec.name)) with
  | some value =>
    simp only [passes_iff hcriteria, List.forall_mem_singleton]
    cases matcher.criterion.accepts value <;> cases matcher.invert <;> simp [Xor]
  | none =>
    -- of an absent header only a test of its presence says anything
    have hpresent : ∀ expected, spec.present = some expected ↔
        matcher.criterion = .present expected := by
      intro expected
      change spec.Sets (.present expected) ↔ _
      rw [← mem_criteria_iff hcriteria, List.mem_singleton, eq_comm]
    simp only [hpresent]
    cases matcher.criterion with
    | present expected => cases expected <;> cases matcher.invert <;> simp [Xor]
    | _ => simp

/-! ### Routes -/

theorem RouteSpec.takes_iff {route : RouteSpec} {matcher : RequestMatcher}
    (h : RequestMatcher.compile route = .ok matcher) {path : String}
    {headers : List (String × String)} :
    matcher.accepts (.ofHeaders path headers) ↔ route.Takes path headers := by
  obtain ⟨hpath, hheaders, -, hcase⟩ := RequestMatcher.compile_eq_ok_iff.mp h
  have hall : ∀ {specs : List HeaderSpec} {matchers : List HeaderMatcher},
      List.Forall₂ (fun declared header => HeaderMatcher.compile declared = .ok header)
        specs matchers →
      (matchers.all (·.accepts (.ofHeaders path headers)) ↔ ∀ spec ∈ specs, spec.Holds headers) := by
    intro specs matchers hmatchers
    induction hmatchers with
    | nil => exact iff_of_true rfl nofun
    | cons hheader _ ih =>
      rw [List.all_cons, Bool.and_eq_true, List.forall_mem_cons, HeaderSpec.holds_iff hheader, ih]
  have hofHeaders : (Request.ofHeaders path headers).path = path := Request.path_ofHeaders
  rw [RequestMatcher.accepts, Bool.and_eq_true, hall hheaders, Takes, ← PathSpec.takes_iff hpath,
    hcase, hofHeaders]

namespace RouteTable

variable {spec : RoutingSpec} {table : RouteTable}

/-- Each declared route has a compiled one at its place. -/
theorem exists_getElem?_routes (h : compile spec = .ok table) {place : Nat} {declared : RouteSpec}
    (hdeclared : spec.routes[place]? = some declared) :
    ∃ route, table.routes[place]? = some route ∧ Route.compile spec place declared = .ok route := by
  obtain ⟨routes, hroutes, rfl⟩ := compile_eq_ok_iff.mp h
  obtain ⟨hlength, hget⟩ := List.forall₂_iff_get.mp hroutes
  obtain ⟨hplace, rfl⟩ := List.getElem?_eq_some_iff.mp hdeclared
  have hzip : place < spec.routes.zipIdx.length := by rwa [List.length_zipIdx]
  have hroute : place < routes.length := hlength ▸ hzip
  refine ⟨routes[place], List.getElem?_eq_getElem hroute, ?_⟩
  simpa using hget place hzip hroute

/-- Each compiled route has the declared one at its place. -/
theorem exists_getElem?_declared (h : compile spec = .ok table) {place : Nat} {route : Route}
    (hroute : table.routes[place]? = some route) :
    ∃ declared, spec.routes[place]? = some declared ∧
      Route.compile spec place declared = .ok route := by
  obtain ⟨hplace, -⟩ := List.getElem?_eq_some_iff.mp hroute
  have hlength : table.routes.length = spec.routes.length := by
    obtain ⟨routes, hroutes, rfl⟩ := compile_eq_ok_iff.mp h
    rw [← hroutes.length_eq, List.length_zipIdx]
  have hdeclared := List.getElem?_eq_getElem (hlength ▸ hplace)
  obtain ⟨route', hroute', hcompile⟩ := exists_getElem?_routes h hdeclared
  obtain rfl := Option.some.inj (hroute.symm.trans hroute')
  exact ⟨_, hdeclared, hcompile⟩

theorem firstMatch?_eq_some_iff {request : Request} {route : Route} :
    table.firstMatch? request = some route ↔
      ∃ place : Nat, table.routes[place]? = some route ∧ route.matcher.accepts request ∧
        ∀ earlier < place, ∀ other : Route, table.routes[earlier]? = some other →
          ¬ other.matcher.accepts request := by
  rw [firstMatch?, List.find?_eq_some_iff_getElem]
  constructor
  · rintro ⟨haccepts, place, hplace, rfl, hfirst⟩
    refine ⟨place, List.getElem?_eq_getElem hplace, haccepts, ?_⟩
    intro earlier hearlier other hother
    obtain ⟨-, rfl⟩ := List.getElem?_eq_some_iff.mp hother
    simpa using hfirst earlier hearlier
  · rintro ⟨place, hroute, haccepts, hfirst⟩
    obtain ⟨hplace, rfl⟩ := List.getElem?_eq_some_iff.mp hroute
    refine ⟨haccepts, place, hplace, rfl, fun earlier hearlier => ?_⟩
    simpa using hfirst earlier hearlier _ (List.getElem?_eq_getElem (hearlier.trans hplace))

/-- A table finds the route compiled from the first declared one that takes a request, and none when
no declared route takes it. -/
theorem firstMatch?_first_declared (h : compile spec = .ok table) (path : String)
    (headers : List (String × String)) :
    (table.firstMatch? (.ofHeaders path headers) = none ↔
        ∀ declared ∈ spec.routes, ¬ declared.Takes path headers) ∧
      ∀ route, table.firstMatch? (.ofHeaders path headers) = some route ↔
        ∃ place declared, spec.FirstTaker path headers place declared ∧
          Route.compile spec place declared = .ok route := by
  have htakes : ∀ {place : Nat} {declared : RouteSpec} {route : Route},
      Route.compile spec place declared = .ok route →
        (route.matcher.accepts (.ofHeaders path headers) ↔ declared.Takes path headers) :=
    fun hcompile => RouteSpec.takes_iff (Route.compile_eq_ok_iff.mp hcompile).2.1
  refine ⟨?_, fun route => ?_⟩
  · simp only [firstMatch?, List.find?_eq_none, List.mem_iff_getElem?, forall_exists_index]
    constructor
    · intro hnone declared place hdeclared
      obtain ⟨route, hroute, hcompile⟩ := exists_getElem?_routes h hdeclared
      exact fun hdeclaredTakes => hnone route place hroute ((htakes hcompile).mpr hdeclaredTakes)
    · intro hnone route place hroute
      obtain ⟨declared, hdeclared, hcompile⟩ := exists_getElem?_declared h hroute
      exact fun haccepts => hnone declared place hdeclared ((htakes hcompile).mp haccepts)
  · rw [firstMatch?_eq_some_iff]
    constructor
    · rintro ⟨place, hroute, haccepts, hfirst⟩
      obtain ⟨declared, hdeclared, hcompile⟩ := exists_getElem?_declared h hroute
      refine ⟨place, declared, ⟨hdeclared, (htakes hcompile).mp haccepts, ?_⟩, hcompile⟩
      intro earlier hearlier other hother
      obtain ⟨route', hroute', hcompile'⟩ := exists_getElem?_routes h hother
      rw [← htakes hcompile']
      exact hfirst earlier hearlier route' hroute'
    · rintro ⟨place, declared, ⟨hdeclared, hdeclaredTakes, hfirst⟩, hcompile⟩
      obtain ⟨route', hroute, hcompile'⟩ := exists_getElem?_routes h hdeclared
      obtain rfl := Except.ok.inj (hcompile'.symm.trans hcompile)
      refine ⟨place, hroute, (htakes hcompile).mpr hdeclaredTakes, ?_⟩
      intro earlier hearlier other hother
      obtain ⟨declared', hdeclared', hother'⟩ := exists_getElem?_declared h hother
      rw [htakes hother']
      exact hfirst earlier hearlier declared' hdeclared'

/-- The second of three declared routes takes a path in other letters than its own, since the first
asks for an age that is not in its range. -/
theorem firstMatch?_first_declared_second :
    let second : RouteSpec := {
      path := .ofLeading "/Shop", caseSensitive := false
      headers := [{ name := " X-Age ", range := some ⟨18, 65⟩, invert := true }]
      clusters := [{ name := "c" }], maxStreamMillis := some 5 }
    let spec : RoutingSpec := {
      name := "a", listener := "l", clusters := [{ name := "c" }]
      routes := [
        { path := .ofRegex "/s(h|l)op/[0-9]+"
          headers := [{ name := "x-age", range := some ⟨18, 65⟩ }], clusters := [{ name := "c" }] },
        second,
        { path := .ofExact "/shop/7", clusters := [{ name := "c" }] }] }
    let headers := [("x-age", "20"), ("X-AGE", " 007 ")]
    ∃ table route, compile spec = .ok table ∧
      table.firstMatch? (.ofHeaders "/shop/7" headers) = some route ∧
      spec.FirstTaker "/shop/7" headers 1 second ∧ Route.compile spec 1 second = .ok route := by
  intro second spec headers
  obtain ⟨table, htable⟩ : ∃ table, compile spec = .ok table :=
    exists_of_isSome (by decide +kernel)
  have hfound : ((compile spec).toOption.bind (·.firstMatch? (.ofHeaders "/shop/7" headers))).map
      (·.maxStreamMillis) = some (some 5) := by decide +kernel
  rw [htable] at hfound
  obtain ⟨route, hroute, hstream⟩ := Option.map_eq_some_iff.mp hfound
  obtain ⟨place, declared, hfirst, hcompile⟩ :=
    ((firstMatch?_first_declared htable "/shop/7" headers).2 route).mp hroute
  obtain ⟨-, -, -, hlimit, -⟩ := Route.compile_eq_ok_iff.mp hcompile
  -- the limit tells the routes apart
  obtain ⟨hplace, hdeclared⟩ := List.getElem?_eq_some_iff.mp hfirst.declared_at
  change place < 3 at hplace
  obtain rfl | rfl | rfl : place = 0 ∨ place = 1 ∨ place = 2 := by omega
  · exact absurd (hlimit.symm.trans hstream) (hdeclared ▸ nofun)
  · obtain rfl : second = declared := hdeclared
    exact ⟨table, route, htable, hroute, hfirst, hcompile⟩
  · exact absurd (hlimit.symm.trans hstream) (hdeclared ▸ nofun)

end RouteTable

end TrafficPlane
