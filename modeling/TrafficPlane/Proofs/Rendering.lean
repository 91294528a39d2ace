import TrafficPlane.Proofs.Bundle
import TrafficPlane.Proofs.Messages

/-!
# Rendering that loses nothing

Messages leave out what can be worked out again: the patterns of regular expressions, the declared
names of clusters, milliseconds. In values that have been checked these follow from what messages
say, so the resources of a bundle tell the bundle.

## Main definitions

* `CompiledRegex.Checked`: the pattern is that of the source
* `Route.Checked`, `RouteTable.Checked`: the generated names of clusters are those of the declared
  ones

## Main results

* `RouteTable.eq_of_render_eq`: a route configuration tells the table that it was rendered from
* `Bundle.eq_of_resources_eq`: encoded resources tell the bundle, whatever it was synthesized from
-/

namespace TrafficPlane

open Wire

/-- Lists of checked values are told by what is rendered from their items, if each item is. -/
theorem eq_of_map_eq {α β : Type} {Checked : α → Prop} {render : α → β}
    (hrender : ∀ a b, Checked a → Checked b → render a = render b → a = b) :
    ∀ {as bs : List α}, (∀ a ∈ as, Checked a) → (∀ b ∈ bs, Checked b) →
      as.map render = bs.map render → as = bs
  | [], [], _, _, _ => rfl
  | [], _ :: _, _, _, heq => absurd heq nofun
  | _ :: _, [], _, _, heq => absurd heq nofun
  | a :: as, b :: bs, has, hbs, heq => by
    obtain ⟨ha, has⟩ := List.forall_mem_cons.mp has
    obtain ⟨hb, hbs⟩ := List.forall_mem_cons.mp hbs
    obtain ⟨hfirst, hrest⟩ := List.cons.inj heq
    rw [hrender a b ha hb hfirst, eq_of_map_eq hrender has hbs hrest]

/-! ### Spans of time -/

/-- The seconds and the nanoseconds of a span tell the milliseconds. -/
theorem TimeSpan.ofMillis_injective : Function.Injective TimeSpan.ofMillis := by
  intro millis other heq
  have hmillis := congrArg TimeSpan.millis heq
  rw [millis_ofMillis, millis_ofMillis] at hmillis
  exact UInt64.toNat_inj.mp (by omega)

/-! ### Criteria -/

namespace CompiledRegex

/-- The pattern is the one that the source is read as. -/
def Checked (regex : CompiledRegex) : Prop :=
  Regex.parse (anchored regex.source) = .ok regex.pattern

theorem compile_eq_ok_iff {spec : RegexSpec} {regex : CompiledRegex} :
    compile spec = .ok regex ↔
      spec.engine = "re2" ∧ spec.source ≠ "" ∧ regex.source = spec.source ∧ regex.Checked := by
  obtain ⟨source, pattern⟩ := regex
  rw [compile]
  split_ifs with hengine hsource
  · simp [hengine]
  · simp [hsource]
  · have hengine : spec.engine = "re2" := not_not.mp hengine
    cases hparse : Regex.parse (anchored spec.source) <;> simp only [Checked] <;> grind

theorem eq_of_render_eq {regex other : CompiledRegex} (h : regex.Checked) (h' : other.Checked)
    (heq : regex.render = other.render) : regex = other := by
  obtain ⟨source, pattern⟩ := regex
  obtain ⟨source', pattern'⟩ := other
  obtain ⟨rfl, -⟩ := SafeRegex.mk.inj heq
  obtain rfl := Except.ok.inj (h.symm.trans h')
  rfl

end CompiledRegex

namespace PathMatcher

/-- A regular expression of the criterion has been checked. -/
def Checked (matcher : PathMatcher) : Prop :=
  ∀ compiled, matcher = .regex compiled → compiled.Checked

theorem exists_compile_regex {spec : PathSpec} {compiled : CompiledRegex}
    (h : compile spec = .ok (.regex compiled)) :
    ∃ declared, CompiledRegex.compile declared = .ok compiled := by
  rw [compile] at h
  split at h
  · next declared _ =>
    obtain ⟨regex, hregex, heq⟩ := map_eq_ok_iff.mp h
    obtain rfl := PathMatcher.regex.inj heq
    exact ⟨declared, hregex⟩
  · split at h <;> cases h

theorem checked_of_compile {spec : PathSpec} {matcher : PathMatcher}
    (h : compile spec = .ok matcher) : matcher.Checked := by
  rintro compiled rfl
  obtain ⟨declared, hcompile⟩ := exists_compile_regex h
  exact (CompiledRegex.compile_eq_ok_iff.mp hcompile).2.2.2

theorem eq_of_render_eq {matcher other : PathMatcher} (h : matcher.Checked) (h' : other.Checked)
    (heq : matcher.render = other.render) : matcher = other := by
  cases matcher <;> cases other <;> try cases heq
  case leading => rfl
  case exact => rfl
  case regex compiled compiled' =>
    rw [CompiledRegex.eq_of_render_eq (h compiled rfl) (h' compiled' rfl) (PathTest.regex.inj heq)]

end PathMatcher

namespace HeaderCriterion

/-- A regular expression of the criterion has been checked. -/
def Checked (criterion : HeaderCriterion) : Prop :=
  ∀ compiled, criterion = .regex compiled → compiled.Checked

theorem eq_of_render_eq {criterion other : HeaderCriterion} (h : criterion.Checked)
    (h' : other.Checked) (heq : criterion.render = other.render) : criterion = other := by
  cases criterion <;> cases other <;> try cases heq
  case regex compiled compiled' =>
    rw [CompiledRegex.eq_of_render_eq (h compiled rfl) (h' compiled' rfl)
      (HeaderTest.regex.inj heq)]
  all_goals rfl

end HeaderCriterion

namespace HeaderSpec

variable {spec : HeaderSpec} {criteria : List HeaderCriterion}

/-- The declaration sets the criterion by one of its options. -/
def Sets (spec : HeaderSpec) : HeaderCriterion → Prop
  | .exact text => spec.exact = some text
  | .regex compiled =>
    ∃ declared, spec.regex = some declared ∧ CompiledRegex.compile declared = .ok compiled
  | .range bounds => spec.range = some bounds
  | .present expected => spec.present = some expected
  | .leading text => spec.leading = some text
  | .trailing text => spec.trailing = some text

theorem mem_criteria_iff (h : spec.criteria = .ok criteria) {criterion : HeaderCriterion} :
    criterion ∈ criteria ↔ spec.Sets criterion := by
  rw [HeaderSpec.criteria] at h
  split at h
  · next declared hdeclared =>
    obtain ⟨_, hregex, h⟩ := bind_eq_ok_iff.mp h
    obtain ⟨compiled, hcompile, rfl⟩ := map_eq_ok_iff.mp hregex
    obtain rfl := Except.ok.inj h
    cases criterion <;> simp [Sets, hdeclared, hcompile, eq_comm]
  · next hnone =>
    obtain rfl := Except.ok.inj h
    cases criterion <;> simp [Sets, hnone]

/-- Of the criteria that a declaration sets, regular expressions have been checked. -/
theorem checked_of_criteria (h : spec.criteria = .ok criteria) :
    ∀ criterion ∈ criteria, criterion.Checked := by
  rintro criterion hmem compiled rfl
  obtain ⟨declared, -, hcompile⟩ := (mem_criteria_iff h).mp hmem
  exact (CompiledRegex.compile_eq_ok_iff.mp hcompile).2.2.2

end HeaderSpec

namespace HeaderMatcher

/-- A declaration has a matcher when it names a header and sets one criterion. -/
theorem compile_eq_ok_iff {spec : HeaderSpec} {matcher : HeaderMatcher} :
    compile spec = .ok matcher ↔
      matcher.name = Text.toLower (Text.trim spec.name) ∧ matcher.name ≠ "" ∧
        spec.criteria = .ok [matcher.criterion] ∧ matcher.invert = spec.invert := by
  obtain ⟨name, criterion, invert⟩ := matcher
  rw [compile]
  split_ifs with hname
  · simp only [hname]
    grind
  · split <;> grind

theorem eq_of_render_eq {matcher other : HeaderMatcher} (h : matcher.criterion.Checked)
    (h' : other.criterion.Checked) (heq : matcher.render = other.render) : matcher = other := by
  obtain ⟨name, criterion, invert⟩ := matcher
  obtain ⟨name', criterion', invert'⟩ := other
  obtain ⟨rfl, htest, rfl⟩ := HeaderMatch.mk.inj heq
  obtain rfl : criterion = criterion' := HeaderCriterion.eq_of_render_eq h h' htest
  rfl

end HeaderMatcher

namespace RequestMatcher

/-- All regular expressions of the criteria have been checked. -/
structure Checked (matcher : RequestMatcher) : Prop where
  path : matcher.path.Checked
  headers : ∀ header ∈ matcher.headers, header.criterion.Checked

/-- The declaration of a fraction may be absent, which makes its check a stage like the others. -/
theorem compile_eq (route : RouteSpec) : compile route = (do
    let path ← PathMatcher.compile route.path
    let headers ← route.headers.mapM HeaderMatcher.compile
    let fraction ← route.fraction.mapM Fraction.compile
    return { path, caseSensitive := route.caseSensitive, headers, fraction }) := by
  rw [compile]
  cases route.fraction <;> rfl

/-- The criteria of a route are checked one after the other. -/
theorem compile_eq_ok_iff {route : RouteSpec} {matcher : RequestMatcher} :
    compile route = .ok matcher ↔
      PathMatcher.compile route.path = .ok matcher.path ∧
        List.Forall₂ (fun declared header => HeaderMatcher.compile declared = .ok header)
          route.headers matcher.headers ∧
        route.fraction.mapM Fraction.compile = .ok matcher.fraction ∧
        matcher.caseSensitive = route.caseSensitive := by
  rw [compile_eq]
  simp only [bind_eq_ok_iff, mapM_eq_ok_iff, pure, Except.pure, Except.ok.injEq]
  constructor
  · rintro ⟨path, hpath, headers, hheaders, fraction, hfraction, rfl⟩
    exact ⟨hpath, hheaders, hfraction, rfl⟩
  · obtain ⟨path, caseSensitive, headers, fraction⟩ := matcher
    rintro ⟨hpath, hheaders, hfraction, rfl⟩
    exact ⟨path, hpath, headers, hheaders, fraction, hfraction, rfl⟩

theorem checked_of_compile {route : RouteSpec} {matcher : RequestMatcher}
    (h : compile route = .ok matcher) : matcher.Checked := by
  obtain ⟨hpath, hheaders, -⟩ := compile_eq_ok_iff.mp h
  refine ⟨PathMatcher.checked_of_compile hpath, fun header hheader => ?_⟩
  obtain ⟨declared, -, hcompile⟩ := exists_of_mem_results hheaders hheader
  obtain ⟨-, -, hcriteria, -⟩ := HeaderMatcher.compile_eq_ok_iff.mp hcompile
  exact HeaderSpec.checked_of_criteria hcriteria _ List.mem_cons_self

theorem eq_of_render_eq {matcher other : RequestMatcher} (h : matcher.Checked) (h' : other.Checked)
    (heq : matcher.render = other.render) : matcher = other := by
  obtain ⟨path, caseSensitive, headers, fraction⟩ := matcher
  obtain ⟨path', caseSensitive', headers', fraction'⟩ := other
  obtain ⟨hpath, rfl, hheaders, hfraction⟩ := RouteMatch.mk.inj heq
  obtain rfl := PathMatcher.eq_of_render_eq h.path h'.path hpath
  obtain rfl := eq_of_map_eq (fun _ _ => HeaderMatcher.eq_of_render_eq) h.headers h'.headers hheaders
  have hinj : Function.Injective fun fraction : Fraction => ({ fraction } : RuntimeFraction) :=
    fun _ _ heq => (RuntimeFraction.mk.inj heq).1
  obtain rfl := Option.map_injective hinj hfraction
  rfl

end RequestMatcher

/-! ### Routes and tables -/

namespace Route

/-- The criteria have been checked, and the generated names of the clusters are those of the
declared ones. -/
structure Checked (key : QualifiedName) (route : Route) : Prop where
  matcher : route.matcher.Checked
  targets : ∀ target ∈ route.targets, target.cluster = ResourceName.cluster key target.localName

variable {key : QualifiedName} {route other : Route}

theorem checked_of_compile {spec : RoutingSpec} {place : Nat} {declared : RouteSpec}
    (h : Route.compile spec place declared = .ok route) : route.Checked spec.key := by
  obtain ⟨-, hmatcher, htargets, -⟩ := Route.compile_eq_ok_iff.mp h
  refine ⟨RequestMatcher.checked_of_compile hmatcher, fun target htarget => ?_⟩
  obtain ⟨ref, -, href⟩ := exists_of_mem_results htargets htarget
  obtain ⟨-, rfl⟩ := Route.target_eq_ok_iff.mp href
  rfl

/-- Limits are left out as a whole when a route has none, which tells that each is left out. -/
theorem limits_inj : route.limits = other.limits ↔
    route.maxStreamMillis = other.maxStreamMillis ∧
      route.grpcTimeoutMaxMillis = other.grpcTimeoutMaxMillis := by
  have hspan := Option.map_injective TimeSpan.ofMillis_injective
  unfold limits
  -- the limits are compared as spans, since these are what a message has of them
  rw [← hspan.eq_iff (a := route.maxStreamMillis), ← hspan.eq_iff (a := route.grpcTimeoutMaxMillis)]
  cases route.maxStreamMillis <;> cases route.grpcTimeoutMaxMillis <;>
    cases other.maxStreamMillis <;> cases other.grpcTimeoutMaxMillis <;> simp

theorem eq_of_render_eq (h : route.Checked key) (h' : other.Checked key)
    (heq : route.render = other.render) : route = other := by
  obtain ⟨hcriteria, haction⟩ := RouteEntry.mk.inj heq
  obtain ⟨hspecifier, hlimits⟩ := ForwardAction.mk.inj (RouteAction.forward.inj
    (Option.some.inj haction))
  obtain ⟨hweights, -⟩ := ClusterSpecifier.weighted.inj (Option.some.inj hspecifier)
  obtain ⟨hstream, hgrpc⟩ := limits_inj.mp hlimits
  have hmatcher := RequestMatcher.eq_of_render_eq h.matcher h'.matcher hcriteria
  have htargets : route.targets = other.targets := by
    refine eq_of_map_eq (fun target target' htarget htarget' heq => ?_) h.targets h'.targets hweights
    obtain ⟨hcluster, hweight⟩ := ClusterWeight.mk.inj heq
    -- the generated name tells the declared one, which the message does not have
    rw [htarget, htarget'] at hcluster
    obtain ⟨localName, cluster, weight⟩ := target
    obtain ⟨localName', cluster', weight'⟩ := target'
    obtain rfl : weight = weight' := hweight
    obtain rfl : localName = localName' := (ResourceName.cluster_inj.mp hcluster).2
    obtain rfl : cluster = cluster' := htarget.trans htarget'.symm
    rfl
  obtain ⟨matcher, targets, maxStream, grpcTimeout⟩ := route
  obtain ⟨matcher', targets', maxStream', grpcTimeout'⟩ := other
  simp_all

end Route

namespace RouteTable

/-- All routes have been checked, for the spec of the table. -/
def Checked (key : QualifiedName) (table : RouteTable) : Prop :=
  ∀ route ∈ table.routes, route.Checked key

theorem checked_of_compile {spec : RoutingSpec} {table : RouteTable}
    (h : RouteTable.compile spec = .ok table) : table.Checked spec.key := by
  obtain ⟨routes, hroutes, rfl⟩ := RouteTable.compile_eq_ok_iff.mp h
  intro route hroute
  obtain ⟨declared, -, hcompile⟩ := exists_of_mem_results hroutes hroute
  exact Route.checked_of_compile hcompile

/-- A route configuration tells the table that it was rendered from. -/
theorem eq_of_render_eq {key : QualifiedName} {table other : RouteTable} (h : table.Checked key)
    (h' : other.Checked key) (heq : table.render = other.render) : table = other := by
  obtain ⟨name, virtualHost, domains, routes⟩ := table
  obtain ⟨name', virtualHost', domains', routes'⟩ := other
  obtain ⟨rfl, hhosts, -⟩ := RouteConfiguration.mk.inj heq
  obtain ⟨rfl, rfl, hroutes⟩ := VirtualHost.mk.inj (List.cons.inj hhosts).1
  obtain rfl := eq_of_map_eq (fun _ _ => Route.eq_of_render_eq) h h' hroutes
  rfl

end RouteTable

/-! ### Bundles -/

/-- An encoded resource tells what it was encoded from. -/
theorem Resource.ofFields_injective {α : Type} {numbers : List Nat} {write : α → List MessageField}
    (h : Faithful numbers write) (hnumbers : ∀ n ∈ numbers, 0 < n ∧ n < 2 ^ 29)
    (type : ResourceType) (name : α → String) :
    Function.Injective fun a => Resource.ofFields type (name a) (write a) := by
  intro a b heq
  have hpacked := congrArg (fun resource : Resource => resource.packed.value) heq
  exact h.encode_injective hnumbers hpacked

namespace Bundle

/-- The encoded resources of a bundle tell its messages. -/
theorem messages_eq_of_resources_eq {bundle other : Bundle}
    (heq : ∀ type, bundle.resources type = other.resources type) :
    bundle.listener = other.listener ∧
      bundle.routeConfiguration = other.routeConfiguration ∧
      bundle.clusters = other.clusters ∧ bundle.loadAssignments = other.loadAssignments := by
  have hlistener := (List.cons.inj (heq .listener)).1
  have hroutes := (List.cons.inj (heq .routeConfiguration)).1
  refine ⟨?_, ?_, ?_, ?_⟩
  · exact Resource.ofFields_injective Listener.faithful (by decide) _ (·.name) hlistener
  · exact Resource.ofFields_injective RouteConfiguration.faithful (by decide) _ (·.name) hroutes
  · exact List.map_injective_iff.mpr
      (Resource.ofFields_injective Cluster.faithful (by decide) _ (·.name)) (heq .cluster)
  · exact List.map_injective_iff.mpr
      (Resource.ofFields_injective LoadAssignment.faithful (by decide) _ (·.clusterName))
      (heq .loadAssignment)

/-- Bundles with the same encoded resources are the same, whatever specs and memberships they were
synthesized from. -/
theorem eq_of_resources_eq {spec other : RoutingSpec} {index otherIndex : MembershipIndex}
    {bundle otherBundle : Bundle} (h : Bundle.synthesize spec index = .ok bundle)
    (h' : Bundle.synthesize other otherIndex = .ok otherBundle)
    (heq : ∀ type, bundle.resources type = otherBundle.resources type) : bundle = otherBundle := by
  obtain ⟨hlistener, hroutes, hclusters, hassignments⟩ := messages_eq_of_resources_eq heq
  -- the name of the route configuration is generated from the key
  have hkey : spec.key = other.key := by
    rw [← key_of_synthesize h, ← key_of_synthesize h', ← ResourceName.routeConfiguration_inj,
      ← (selfContained_of_synthesize h).name_routeConfiguration,
      ← (selfContained_of_synthesize h').name_routeConfiguration, hroutes]
  obtain ⟨table, listener, assignments, hprepare, -, rfl⟩ := synthesize_eq_ok_iff.mp h
  obtain ⟨table', listener', assignments', hprepare', -, rfl⟩ := synthesize_eq_ok_iff.mp h'
  obtain ⟨-, htable, -⟩ := RoutingSpec.prepare_eq_ok_iff.mp hprepare
  obtain ⟨-, htable', -⟩ := RoutingSpec.prepare_eq_ok_iff.mp hprepare'
  have hchecked : table.Checked other.key := hkey ▸ RouteTable.checked_of_compile htable
  obtain rfl := RouteTable.eq_of_render_eq hchecked (RouteTable.checked_of_compile htable') hroutes
  rw [Bundle.mk.injEq]
  exact ⟨hkey, hlistener, rfl, rfl, hclusters, hassignments⟩

/-- A leading part beside an exact path, the case of a header's name and a membership that no cluster
names leave no trace in the resources, nor do they in the bundle. -/
theorem eq_of_shadowed_leading :
    let cluster : ClusterSpec := {
      name := "c", localities := [{ service := some { name := "s", port := .named "p" } }] }
    let spec : RoutingSpec := {
      name := "a", listener := "l", clusters := [cluster]
      routes := [{
        path := { leading := some "/b", exact := some "/a" }
        headers := [.ofExact "X-H" "v"], clusters := [{ name := "c" }] }] }
    let other : RoutingSpec := {
      name := "a", listener := "l", clusters := [cluster]
      routes := [{
        path := { exact := some "/a" }
        headers := [.ofExact "x-h" "v"], clusters := [{ name := "c" }] }] }
    let membership : Membership := {
      name := "s", subsets := [{ addresses := ["10.0.0.1"], ports := [⟨some "p", 80⟩] }] }
    ∃ bundle otherBundle,
      Bundle.synthesize spec (.ofList [membership]) = .ok bundle ∧
      Bundle.synthesize other (.ofList [membership, { name := "t" }]) = .ok otherBundle ∧
      spec ≠ other ∧ bundle = otherBundle := by
  intro cluster spec other membership
  have hsame : ∀ type,
      (synthesize spec (.ofList [membership])).toOption.map (·.resources type) =
        (synthesize other (.ofList [membership, { name := "t" }])).toOption.map
          (·.resources type) := by
    intro type
    cases type <;> decide +kernel
  obtain ⟨bundle, h⟩ : ∃ bundle, synthesize spec (.ofList [membership]) = .ok bundle :=
    exists_of_isSome (by decide +kernel)
  obtain ⟨otherBundle, h'⟩ :
      ∃ bundle, synthesize other (.ofList [membership, { name := "t" }]) = .ok bundle :=
    exists_of_isSome (by decide +kernel)
  rw [h, h'] at hsame
  exact ⟨bundle, otherBundle, h, h', by decide,
    eq_of_resources_eq h h' fun type => Option.some.inj (hsame type)⟩

end Bundle

end TrafficPlane
