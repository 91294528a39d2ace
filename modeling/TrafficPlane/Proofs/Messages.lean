import TrafficPlane.Proofs.ConnectionManager
import TrafficPlane.Proofs.Faithfulness

/-!
# Messages that their bytes tell

Every message is written part by part, each part under numbers of its own, down to numbers and
texts. So the fields of a message tell the message, with all that is nested in it.

## Main results

* `Listener.faithful`, `RouteConfiguration.faithful`, `Cluster.faithful`, `LoadAssignment.faithful`:
  resources are told by their fields
* `RouteMatch.faithful`, `ForwardAction.faithful`: so are the criteria and the action of a route
-/

namespace TrafficPlane

open Wire

/-! ### Numbers and truth values -/

theorem faithful_int64 (k : Nat) :
    Faithful [k] fun n : Int64 => number k (signedNumber n.toInt) :=
  .number k (Function.LeftInverse.injective int64OfVarint_signedNumber) fun _ => signedNumber_lt _

theorem faithful_int32 (k : Nat) :
    Faithful [k] fun n : Int32 => number k (signedNumber n.toInt) :=
  .number k (Function.LeftInverse.injective int32OfVarint_signedNumber) fun _ => signedNumber_lt _

theorem faithful_uint32 (k : Nat) : Faithful [k] fun n : UInt32 => number k n.toNat :=
  .number k (fun _ _ => UInt32.toNat_inj.mp) fun n => n.toNat_lt.trans (by decide)

theorem faithful_boolFields : Faithful [1] boolFields :=
  .flag 1

theorem faithful_numberFields : Faithful [1] fun n : UInt32 => numberFields n.toNat :=
  faithful_uint32 1

/-! ### Spans, sources and packed messages -/

theorem TimeSpan.faithful : Faithful [1, 2] TimeSpan.fields := by
  have hparts := (faithful_int64 1).append (faithful_int32 2) (by decide)
  exact hparts.built (fun parts => TimeSpan.mk parts.1 parts.2)
    (fun span => ⟨(span.seconds, span.nanos), rfl⟩) (by intro _; rfl)

theorem Packed.faithful : Faithful [1, 2] Packed.fields := by
  have hvalue : Faithful [2] fun b : Bytes => if b.isEmpty then [] else [⟨2, .bytes b⟩] :=
    (Faithful.bytes 2 fun _ _ heq => heq).skipping (·.isEmpty) fun a b ha hb =>
      (List.isEmpty_iff.mp ha).trans (List.isEmpty_iff.mp hb).symm
  have hparts := (Faithful.text 1).append hvalue (by decide)
  exact hparts.built (fun parts => Packed.mk parts.1 parts.2)
    (fun packed => ⟨(packed.typeUrl, packed.value), rfl⟩) fun _ => rfl

theorem ConfigSource.faithful : Faithful [3, 6] ConfigSource.fields := by
  have hparts := (Faithful.emptyMessage 3).append (faithful_int32 6) (by decide)
  exact hparts.built (fun parts => ConfigSource.mk parts.1 parts.2)
    (fun source => ⟨(source.aggregated, source.apiVersion), rfl⟩) fun _ => rfl

/-! ### Listeners -/

theorem ApiListener.faithful : Faithful [1] ApiListener.fields := by
  have hmanager := Faithful.optional 1 Packed.faithful (by decide)
  exact hmanager.built ApiListener.mk (fun api => ⟨api.manager, rfl⟩) fun _ => rfl

/-- A listener is told by its fields. -/
theorem Listener.faithful : Faithful [1, 19] Listener.fields := by
  have hapi := Faithful.optional 19 ApiListener.faithful (by decide)
  have hparts := (Faithful.text 1).append hapi (by decide)
  exact hparts.built (fun parts => Listener.mk parts.1 parts.2)
    (fun listener => ⟨(listener.name, listener.api), rfl⟩) fun _ => rfl

/-! ### Criteria of routes -/

theorem SafeRegex.faithful : Faithful [1, 2] SafeRegex.fields := by
  have hparts := (Faithful.emptyMessage 1).append (Faithful.text 2) (by decide)
  exact hparts.built (fun parts => SafeRegex.mk parts.2 parts.1)
    (fun regex => ⟨(regex.googleRe2, regex.source), rfl⟩) fun _ => rfl

theorem PathTest.faithful : Faithful [1, 2, 10] fun test : PathTest => [test.field] := by
  have hregex := Faithful.message 10 SafeRegex.faithful (by decide)
  have hexact := (Faithful.presentText 2).either hregex (by decide)
  have halternatives := (Faithful.presentText 1).either hexact (by decide)
  refine halternatives.built (Sum.elim .leading (Sum.elim .exact .regex)) ?_
    (by rintro (_ | _ | _) <;> rfl)
  rintro (s | s | expression)
  · exact ⟨.inl s, rfl⟩
  · exact ⟨.inr (.inl s), rfl⟩
  · exact ⟨.inr (.inr expression), rfl⟩

theorem IntegerRange.faithful : Faithful [1, 2] fun bounds : IntegerRange =>
    number 1 (signedNumber bounds.start.toInt) ++ number 2 (signedNumber bounds.stop.toInt) := by
  have hparts := (faithful_int64 1).append (faithful_int64 2) (by decide)
  exact hparts.built (fun parts => IntegerRange.mk parts.1 parts.2)
    (fun bounds => ⟨(bounds.start, bounds.stop), rfl⟩) (by intro _; rfl)

theorem HeaderTest.faithful : Faithful [13, 6, 7] fun test : HeaderTest => [test.field] := by
  -- the four tests of a header's text are alternatives within the first of three alternatives
  have hregex := Faithful.message 5 SafeRegex.faithful (by decide)
  have htrailing := (Faithful.presentText 3).either hregex (by decide)
  have hleading := (Faithful.presentText 2).either htrailing (by decide)
  have htexts := (Faithful.presentText 1).either hleading (by decide)
  have hrange := Faithful.message 6 IntegerRange.faithful (by decide)
  have hpresent : Faithful [7] fun expected : Bool => [⟨7, .varint expected.toNat⟩] :=
    .varint 7 (by rintro (_ | _) (_ | _) heq <;> simp_all) (by rintro (_ | _) <;> decide)
  have hothers := hrange.either hpresent (by decide)
  have halternatives := (Faithful.message 13 htexts (by decide)).either hothers (by decide)
  refine halternatives.built (Sum.elim
      (Sum.elim .exact (Sum.elim .leading (Sum.elim .trailing .regex))) (Sum.elim .range .present))
    ?_ (by rintro ((_ | _ | _ | _) | _ | _) <;> rfl)
  rintro (s | s | s | expression | bounds | expected)
  · exact ⟨.inl (.inl s), rfl⟩
  · exact ⟨.inl (.inr (.inl s)), rfl⟩
  · exact ⟨.inl (.inr (.inr (.inl s))), rfl⟩
  · exact ⟨.inl (.inr (.inr (.inr expression))), rfl⟩
  · exact ⟨.inr (.inl bounds), rfl⟩
  · exact ⟨.inr (.inr expected), rfl⟩

theorem HeaderMatch.faithful : Faithful [1, 13, 6, 7, 8] HeaderMatch.fields := by
  have htest := (Faithful.text 1).append HeaderTest.faithful (by decide)
  have hparts := htest.append (Faithful.flag 8) (by decide)
  exact hparts.built (fun parts => HeaderMatch.mk parts.1.1 parts.1.2 parts.2)
    (fun header => ⟨((header.name, header.test), header.invert), rfl⟩) fun _ => rfl

theorem Denominator.code_injective : Function.Injective Denominator.code := by
  rintro (_ | _ | _) (_ | _ | _) heq <;> simp_all [code]

theorem Fraction.faithful : Faithful [1, 2] fun fraction : Fraction =>
    number 1 fraction.numerator.toNat ++ number 2 fraction.denominator.code := by
  have hdenominator : Faithful [2] fun denominator : Denominator => number 2 denominator.code :=
    .number 2 Denominator.code_injective (by rintro (_ | _ | _) <;> decide)
  have hparts := (faithful_uint32 1).append hdenominator (by decide)
  exact hparts.built (fun parts => Fraction.mk parts.1 parts.2)
    (fun fraction => ⟨(fraction.numerator, fraction.denominator), rfl⟩) fun _ => rfl

theorem RuntimeFraction.faithful : Faithful [1, 2] RuntimeFraction.fields := by
  have hvalue := Faithful.message 1 Fraction.faithful (by decide)
  have hparts := hvalue.append (Faithful.text 2) (by decide)
  exact hparts.built (fun parts => RuntimeFraction.mk parts.1 parts.2)
    (fun fraction => ⟨(fraction.fraction, fraction.runtimeKey), rfl⟩) fun _ => rfl

/-- The criteria of a route are told by their fields. -/
theorem RouteMatch.faithful : Faithful [1, 2, 10, 4, 6, 9] RouteMatch.fields := by
  have hcase := Faithful.message 4 faithful_boolFields (by decide)
  have hpath := Faithful.append PathTest.faithful hcase (by decide)
  have hheaders := Faithful.list (Faithful.message 6 HeaderMatch.faithful (by decide))
  have hfraction := Faithful.optional 9 RuntimeFraction.faithful (by decide)
  have hparts := (hpath.append hheaders (by decide)).append hfraction (by decide)
  refine hparts.built (fun parts => RouteMatch.mk parts.1.1.1 parts.1.1.2 parts.1.2 parts.2) ?_
    fun _ => rfl
  exact fun criteria =>
    ⟨(((criteria.path, criteria.caseSensitive), criteria.headers), criteria.fraction), rfl⟩

/-! ### Actions of routes -/

theorem ClusterWeight.faithful : Faithful [1, 2] ClusterWeight.fields := by
  have hweight := Faithful.message 2 faithful_numberFields (by decide)
  have hparts := (Faithful.text 1).append hweight (by decide)
  exact hparts.built (fun parts => ClusterWeight.mk parts.1 parts.2)
    (fun cluster => ⟨(cluster.name, cluster.weight), rfl⟩) fun _ => rfl

theorem ClusterSpecifier.faithful :
    Faithful [1, 3, 2, 37, 39] fun specifier : ClusterSpecifier => [specifier.field] := by
  have hclusters := Faithful.list (Faithful.message 1 ClusterWeight.faithful (by decide))
  have htotal := Faithful.optional 3 faithful_numberFields (by decide)
  have hweighted := hclusters.append htotal (by decide)
  have hnamed := (Faithful.presentText 1).either
    (Faithful.message 3 hweighted (by decide)) (by decide)
  have hplugin := (Faithful.presentText 37).either (Faithful.constantMessage 39) (by decide)
  have hchosen := (Faithful.presentText 2).either hplugin (by decide)
  have halternatives := hnamed.either hchosen (by decide)
  refine halternatives.built
    (Sum.elim (Sum.elim .single fun parts => ClusterSpecifier.weighted parts.1 parts.2)
      (Sum.elim .byHeader (Sum.elim .byPlugin fun _ => .byInlinePlugin))) ?_
    (by rintro ((_ | _) | (_ | (_ | _))) <;> rfl)
  rintro (name | ⟨clusters, total⟩ | header | name | _)
  · exact ⟨.inl (.inl name), rfl⟩
  · exact ⟨.inl (.inr (clusters, total)), rfl⟩
  · exact ⟨.inr (.inl header), rfl⟩
  · exact ⟨.inr (.inr (.inl name)), rfl⟩
  · exact ⟨.inr (.inr (.inr ())), rfl⟩

theorem StreamLimits.faithful : Faithful [1, 2] StreamLimits.fields := by
  have hspan (k : Nat) := Faithful.optional k TimeSpan.faithful (by decide)
  have hparts := (hspan 1).append (hspan 2) (by decide)
  exact hparts.built (fun parts => StreamLimits.mk parts.1 parts.2)
    (fun limits => ⟨(limits.maxStream, limits.grpcTimeoutMax), rfl⟩) fun _ => rfl

/-- The action of a route is told by its fields. -/
theorem ForwardAction.faithful : Faithful [1, 3, 2, 37, 39, 36] ForwardAction.fields := by
  have hlimits := Faithful.optional 36 StreamLimits.faithful (by decide)
  have hparts := (Faithful.option ClusterSpecifier.faithful).append hlimits (by decide)
  exact hparts.built (fun parts => ForwardAction.mk parts.1 parts.2)
    (fun action => ⟨(action.specifier, action.limits), rfl⟩) fun _ => rfl

theorem RouteAction.faithful :
    Faithful [2, 3, 7, 17, 18] fun action : RouteAction => [action.field] := by
  have hforward := Faithful.message 2 ForwardAction.faithful (by decide)
  have hanswered := (Faithful.constantMessage 3).either (Faithful.constantMessage 7) (by decide)
  have hleft := (Faithful.constantMessage 17).either (Faithful.constantMessage 18) (by decide)
  have halternatives := hforward.either (hanswered.either hleft (by decide)) (by decide)
  refine halternatives.built
    (Sum.elim .forward (Sum.elim (Sum.elim (fun _ => .redirect) fun _ => .respond)
      (Sum.elim (fun _ => .filter) fun _ => .accept))) ?_
    (by rintro (_ | ((_ | _) | (_ | _))) <;> rfl)
  rintro (action | _ | _ | _ | _)
  · exact ⟨.inl action, rfl⟩
  · exact ⟨.inr (.inl (.inl ())), rfl⟩
  · exact ⟨.inr (.inl (.inr ())), rfl⟩
  · exact ⟨.inr (.inr (.inl ())), rfl⟩
  · exact ⟨.inr (.inr (.inr ())), rfl⟩

/-! ### Route configurations -/

theorem RouteEntry.faithful : Faithful [1, 2, 3, 7, 17, 18] RouteEntry.fields := by
  have hcriteria := Faithful.message 1 RouteMatch.faithful (by decide)
  have hparts := hcriteria.append (Faithful.option RouteAction.faithful) (by decide)
  exact hparts.built (fun parts => RouteEntry.mk parts.1 parts.2)
    (fun route => ⟨(route.criteria, route.action), rfl⟩) fun _ => rfl

theorem VirtualHost.faithful : Faithful [1, 2, 3] VirtualHost.fields := by
  have hdomains := Faithful.list (Faithful.presentText 2)
  have hroutes := Faithful.list (Faithful.message 3 RouteEntry.faithful (by decide))
  have hparts := ((Faithful.text 1).append hdomains (by decide)).append hroutes (by decide)
  exact hparts.built (fun parts => VirtualHost.mk parts.1.1 parts.1.2 parts.2)
    (fun host => ⟨((host.name, host.domains), host.routes), rfl⟩) fun _ => rfl

/-- A route configuration is told by its fields. -/
theorem RouteConfiguration.faithful : Faithful [1, 2, 7] RouteConfiguration.fields := by
  have hhosts := Faithful.list (Faithful.message 2 VirtualHost.faithful (by decide))
  have hvalidate := Faithful.message 7 faithful_boolFields (by decide)
  have hparts := ((Faithful.text 1).append hhosts (by decide)).append hvalidate (by decide)
  refine hparts.built (fun parts => RouteConfiguration.mk parts.1.1 parts.1.2 parts.2) ?_
    fun _ => rfl
  exact fun config => ⟨((config.name, config.virtualHosts), config.validateClusters), rfl⟩

/-! ### Clusters and load assignments -/

theorem EndpointDiscovery.faithful : Faithful [1, 2] EndpointDiscovery.fields := by
  have hsource := Faithful.message 1 ConfigSource.faithful (by decide)
  have hparts := hsource.append (Faithful.text 2) (by decide)
  exact hparts.built (fun parts => EndpointDiscovery.mk parts.1 parts.2)
    (fun discovery => ⟨(discovery.source, discovery.serviceName), rfl⟩) fun _ => rfl

/-- A cluster is told by its fields, one of which is the same for all clusters. -/
theorem Cluster.faithful : Faithful [1, 2, 3] Cluster.fields := by
  have htype : Faithful [2] fun _ : Unit => [⟨2, .varint 3⟩] :=
    .constant ⟨2, .varint 3⟩ fun _ heq => Value.varint.inj heq ▸ by decide
  have hdiscovery := Faithful.optional 3 EndpointDiscovery.faithful (by decide)
  have hparts := ((Faithful.text 1).append htype (by decide)).append hdiscovery (by decide)
  exact hparts.built (fun parts => Cluster.mk parts.1.1 parts.2)
    (fun cluster => ⟨((cluster.name, ()), cluster.discovery), rfl⟩) fun _ => rfl

/-- The address and the port of a socket. -/
theorem faithful_socket : Faithful [2, 3] fun parts : String × UInt16 =>
    text 2 parts.1 ++ [⟨3, .varint parts.2.toNat⟩] := by
  have hport : Faithful [3] fun port : UInt16 => [⟨3, .varint port.toNat⟩] :=
    .varint 3 (fun _ _ => UInt16.toNat_inj.mp) fun port =>
      port.toNat_lt.trans (Nat.pow_lt_pow_right (by decide) (by decide))
  exact (Faithful.text 2).append hport (by decide)

theorem Endpoint.faithful : Faithful [1] Endpoint.fields := by
  have hsocket := Faithful.message 1 faithful_socket (by decide)
  have haddress := Faithful.message 1 (Faithful.message 1 hsocket (by decide)) (by decide)
  exact haddress.built (fun parts => Endpoint.mk parts.1 parts.2)
    (fun endpoint => ⟨(endpoint.address, endpoint.port), rfl⟩) fun _ => rfl

theorem LocalityGroup.faithful : Faithful [1, 2, 3, 5] LocalityGroup.fields := by
  have hzone := Faithful.message 1 (Faithful.text 3) (by decide)
  have hendpoints := Faithful.list (Faithful.message 2 Endpoint.faithful (by decide))
  have hweight := Faithful.message 3 faithful_numberFields (by decide)
  have hservice := (hzone.append hendpoints (by decide)).append hweight (by decide)
  have hparts := hservice.append (faithful_uint32 5) (by decide)
  refine hparts.built (fun parts => LocalityGroup.mk parts.1.1.1 parts.1.1.2 parts.1.2 parts.2) ?_
    fun _ => rfl
  exact fun group => ⟨(((group.subZone, group.endpoints), group.weight), group.priority), rfl⟩

/-- A load assignment is told by its fields. -/
theorem LoadAssignment.faithful : Faithful [1, 2] LoadAssignment.fields := by
  have hlocalities := Faithful.list (Faithful.message 2 LocalityGroup.faithful (by decide))
  have hparts := (Faithful.text 1).append hlocalities (by decide)
  exact hparts.built (fun parts => LoadAssignment.mk parts.1 parts.2)
    (fun assignment => ⟨(assignment.clusterName, assignment.localities), rfl⟩) fun _ => rfl

end TrafficPlane
