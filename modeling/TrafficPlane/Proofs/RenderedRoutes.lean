import TrafficPlane.Proofs.DeclaredRoutes

/-!
# What rendered routes mean to a proxy

A proxy has nothing of a table but its message. Here the message is evaluated by its own fields, in
the way that the proxy's interface describes them, and it takes the same requests as the table by
the same routes.

## Main definitions

* `PathTest.accepts`, `HeaderMatch.accepts`, `RouteMatch.accepts`: the criteria of a message
* `VirtualHost.firstMatchIndex?`: the route of a message that takes a request
* `RuntimeFraction.admits`: the part of the traffic that a message lets through

## Main results

* `RequestMatcher.accepts_render`: rendered criteria take what the compiled ones take
* `RouteTable.render_same_route`: a rendered table picks the route that the table picks
-/

namespace TrafficPlane

open Text

/-! ### Evaluation of messages -/

/-- The expression, compiled by the proxy, matches the whole value. -/
def SafeRegex.accepts (expression : SafeRegex) (value : String) : Bool :=
  match CompiledRegex.compile { source := expression.source } with
  | .ok regex => regex.accepts value
  | .error _ => false

/-- The path passes the test. Whether case counts is a field of the route match. -/
def PathTest.accepts (test : PathTest) (caseSensitive : Bool) (path : String) : Bool :=
  match test with
  | .leading text => (compared caseSensitive text).isPrefixOf (compared caseSensitive path)
  | .exact text => compared caseSensitive text == compared caseSensitive path
  | .regex expression => expression.accepts path

/-- The value of a header that is there passes the test. -/
def HeaderTest.accepts (test : HeaderTest) (value : String) : Bool :=
  match test with
  | .exact text => text == value
  | .leading text => text.toList.isPrefixOf value.toList
  | .trailing text => text.toList.isSuffixOf value.toList
  | .regex expression => expression.accepts value
  | .range bounds =>
    (decimal? (trim value)).any fun v => bounds.start.toInt ≤ v && v < bounds.stop.toInt
  | .present expected => expected

/-- The request has the header in the way that the match asks for. Of a header that is absent, only
its presence is tested. -/
def HeaderMatch.accepts (entry : HeaderMatch) (request : Request) : Bool :=
  match request.header? entry.name with
  | some value => entry.test.accepts value ^^ entry.invert
  | none =>
    match entry.test with
    | .present expected => (expected == false) ^^ entry.invert
    | _ => false

/-- The request passes the path criterion and all header criteria of the match. -/
def RouteMatch.accepts (criteria : RouteMatch) (request : Request) : Bool :=
  criteria.path.accepts criteria.caseSensitive request.path &&
    criteria.headers.all (·.accepts request)

/-- The place of the first route that takes the request. -/
def VirtualHost.firstMatchIndex? (host : VirtualHost) (request : Request) : Option Nat :=
  host.routes.findIdx? (·.criteria.accepts request)

/-- The gate lets a request through for which this number was drawn, where the runtime may have
another fraction under the key. -/
def RuntimeFraction.admits (gate : RuntimeFraction) (runtime : String → Option Fraction)
    (drawn : Nat) : Bool :=
  let fraction := if gate.runtimeKey = "" then gate.fraction
    else (runtime gate.runtimeKey).getD gate.fraction
  drawn % fraction.denominator.value < fraction.numerator.toNat

/-- Whatever the runtime has, the gate admits the samples that the fraction admits. -/
def RuntimeFraction.Gates (gate : RuntimeFraction) (fraction : Fraction) : Prop :=
  ∀ runtime, ∀ sample : UInt32, sample.toNat < gate.fraction.denominator.value →
    gate.admits runtime sample.toNat = fraction.admits sample

/-! ### Criteria -/

/-- A proxy reads the source as it was read when the spec was checked. -/
theorem CompiledRegex.accepts_render {declared : RegexSpec} {regex : CompiledRegex}
    (h : compile declared = .ok regex) {value : String} :
    regex.render.accepts value = regex.accepts value := by
  obtain ⟨-, hsource, hrender, hchecked⟩ := compile_eq_ok_iff.mp h
  have hcompile : compile { source := regex.source } = .ok regex :=
    compile_eq_ok_iff.mpr ⟨rfl, hrender ▸ hsource, rfl, hchecked⟩
  simp only [SafeRegex.accepts, render, hcompile]

theorem PathMatcher.accepts_render {spec : PathSpec} {matcher : PathMatcher}
    (h : compile spec = .ok matcher) {caseSensitive : Bool} {path : String} :
    matcher.render.accepts caseSensitive path = matcher.accepts path caseSensitive := by
  cases matcher with
  | leading text =>
    rw [Bool.eq_iff_iff, accepts_leading_iff]
    exact List.isPrefixOf_iff_prefix
  | exact text =>
    rw [Bool.eq_iff_iff, accepts_exact_iff]
    exact beq_iff_eq.trans eq_comm
  | regex compiled =>
    obtain ⟨declared, hcompile⟩ := exists_compile_regex h
    cases caseSensitive <;> exact CompiledRegex.accepts_render hcompile

theorem HeaderCriterion.accepts_render {spec : HeaderSpec} {criteria : List HeaderCriterion}
    (h : spec.criteria = .ok criteria) {criterion : HeaderCriterion} (hmem : criterion ∈ criteria)
    {value : String} : criterion.render.accepts value = criterion.accepts value := by
  cases criterion with
  | exact text =>
    rw [Bool.eq_iff_iff]
    exact beq_iff_eq.trans (eq_comm.trans beq_iff_eq.symm)
  | regex compiled =>
    obtain ⟨declared, -, hcompile⟩ := (HeaderSpec.mem_criteria_iff h).mp hmem
    exact CompiledRegex.accepts_render hcompile
  | range bounds =>
    rw [Bool.eq_iff_iff, HeaderSpec.accepts_range_iff]
    simp [render, HeaderTest.accepts, Option.any_eq_true]
  | present expected => rfl
  | leading text => rfl
  | trailing text => rfl

theorem HeaderMatcher.accepts_render {spec : HeaderSpec} {matcher : HeaderMatcher}
    (h : compile spec = .ok matcher) {request : Request} :
    matcher.render.accepts request = matcher.accepts request := by
  obtain ⟨-, -, hcriteria, -⟩ := compile_eq_ok_iff.mp h
  -- the name is rendered as it is, so both sides look at the same header
  have hvalue := @HeaderCriterion.accepts_render _ _ hcriteria _ (List.mem_singleton_self _)
  have hlookup : request.header? matcher.render.name = request.header? matcher.name := rfl
  rw [HeaderMatch.accepts, accepts, hlookup]
  cases request.header? matcher.name with
  | some value =>
    change (matcher.criterion.render.accepts value ^^ matcher.invert) =
      (matcher.criterion.accepts value != matcher.invert)
    rw [hvalue]
  | none =>
    cases hcriterion : matcher.criterion with
    | present expected =>
      simp only [render, hcriterion, HeaderCriterion.render]
      cases expected <;> cases matcher.invert <;> rfl
    | _ => simp only [render, hcriterion, HeaderCriterion.render]

theorem RequestMatcher.accepts_render {route : RouteSpec} {matcher : RequestMatcher}
    (h : compile route = .ok matcher) {request : Request} :
    matcher.render.accepts request = matcher.accepts request := by
  obtain ⟨hpath, hheaders, -⟩ := compile_eq_ok_iff.mp h
  have hall : (matcher.headers.map HeaderMatcher.render).all (·.accepts request) =
      matcher.headers.all (·.accepts request) := by
    rw [Bool.eq_iff_iff, List.all_map, List.all_eq_true, List.all_eq_true]
    refine forall₂_congr fun header hheader => ?_
    rw [← Bool.eq_iff_iff]
    obtain ⟨declared, -, hcompile⟩ := exists_of_mem_results hheaders hheader
    exact HeaderMatcher.accepts_render hcompile
  exact congrArg₂ _ (PathMatcher.accepts_render hpath) hall

/-- A rendered fraction asks for no runtime key, so that it is the compiled one that counts. -/
theorem Fraction.gates_render {fraction : Fraction} :
    ({ fraction } : RuntimeFraction).Gates fraction := by
  intro runtime sample hsample
  rw [RuntimeFraction.admits, Fraction.admits]
  simp only [if_true, Nat.mod_eq_of_lt hsample, UInt32.lt_iff_toNat_lt]

/-- A list is searched as its images are, if these are tested as their origins are. -/
theorem findIdx?_map_eq {α β : Type} {f : α → β} {p : β → Bool} {q : α → Bool} {items : List α}
    (h : ∀ item ∈ items, p (f item) = q item) : (items.map f).findIdx? p = items.findIdx? q := by
  induction items with
  | nil => rfl
  | cons item rest ih =>
    obtain ⟨hitem, hrest⟩ := List.forall_mem_cons.mp h
    rw [List.map_cons, List.findIdx?_cons, List.findIdx?_cons, hitem, ih hrest]

namespace RouteTable

variable {spec : RoutingSpec} {table : RouteTable}

/-- Evaluated by its own fields, a rendered table picks for every request the route that the table
picks, and its gates admit what those of the table admit. -/
theorem render_same_route (h : compile spec = .ok table) :
    ∃ host, table.render.virtualHosts = [host] ∧
      (∀ request, host.firstMatchIndex? request = table.firstMatchIndex? request ∧
        (host.firstMatchIndex? request).bind (table.routes[·]?) = table.firstMatch? request) ∧
      List.Forall₂ (fun entry route => Option.Rel RuntimeFraction.Gates entry.criteria.fraction
        route.matcher.fraction) host.routes table.routes := by
  -- a route of the table was compiled from a declared one, and so were its criteria
  have haccepts : ∀ route ∈ table.routes, ∀ request,
      route.render.criteria.accepts request = route.matcher.accepts request := by
    intro route hroute request
    obtain ⟨place, hplace⟩ := List.mem_iff_getElem?.mp hroute
    obtain ⟨declared, -, hcompile⟩ := exists_getElem?_declared h hplace
    exact RequestMatcher.accepts_render (Route.compile_eq_ok_iff.mp hcompile).2.1
  refine ⟨_, rfl, fun request => ?_, ?_⟩
  · have hindex : (table.routes.map Route.render).findIdx? (·.criteria.accepts request) =
        table.firstMatchIndex? request :=
      findIdx?_map_eq fun route hroute => haccepts route hroute request
    refine ⟨hindex, ?_⟩
    rw [VirtualHost.firstMatchIndex?, hindex]
    exact List.find?_eq_bind_findIdx?_getElem?.symm
  · rw [List.forall₂_map_left_iff, List.forall₂_same]
    intro route _
    change Option.Rel _ (route.matcher.fraction.map _) _
    cases route.matcher.fraction with
    | none => exact .none
    | some fraction => exact .some Fraction.gates_render

/-- The first of two routes, which admits half of the traffic, asks for the absence of a header that
the request has. -/
theorem render_same_route_half :
    let spec : RoutingSpec := {
      name := "a", listener := "l", clusters := [{ name := "c" }]
      routes := [
        { path := .ofRegex "/s(h|l)op/[0-9]+", headers := [{ name := "x-age", present := some false }]
          fraction := some { numerator := 50, denominator := "hundred" }
          clusters := [{ name := "c" }] },
        { path := .ofLeading "/Shop", caseSensitive := false, clusters := [{ name := "c" }] }] }
    let request := Request.ofHeaders "/shop/7" [("x-age", "20")]
    ∃ table host, compile spec = .ok table ∧ table.render.virtualHosts = [host] ∧
      host.firstMatchIndex? request = some 1 ∧ table.firstMatchIndex? request = some 1 := by
  intro spec request
  obtain ⟨table, htable⟩ : ∃ table, compile spec = .ok table :=
    exists_of_isSome (by decide +kernel)
  have hfound : (compile spec).toOption.bind (·.firstMatchIndex? request) = some 1 := by
    decide +kernel
  rw [htable] at hfound
  obtain ⟨host, hhost, hsame, -⟩ := render_same_route htable
  exact ⟨table, host, htable, hhost, (hsame request).1.trans hfound, hfound⟩

end RouteTable

end TrafficPlane
