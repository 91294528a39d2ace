import Mathlib.Data.List.Induction
import TrafficPlane.Proofs.Decision

/-!
# What a pass decides

The tally of a pass is built up spec by spec, each decision depending on those before. Once it is
complete, every decision can be read off from the bundles that are served in the end: whether a
listener was free when a spec's turn came is whether an earlier spec is served with it.

## Main definitions

* `Tally.decision`: the decision on a listed spec, read off from a tally
* `Tally.Settles`: a tally is what these decisions come to

## Main results

* `Tally.Settles.add`: adding a spec that comes after all others
* `settles_assemble`: a pass settles all listed specs
* `Tally.Settles.find?_eq`, `Tally.Settles.mem_synthesized_iff`,
  `Tally.Settles.mem_retained_iff`, `Tally.Settles.mem_failures_iff`: the outcome for one spec
* `Tally.Settles.listed_cases`, `Tally.Settles.served_cases`: what listed and served specs get
* `Tally.Settles.alike_of_decision_eq`: the decision on a spec is all that is served and reported of it
* `Tally.Settles.unique`: there is one way only to settle a list of specs
* `Tally.Settles.again`: what a pass decides is settled again with its own bundles as those before
-/

namespace TrafficPlane

variable {previous : Snapshot} {index : MembershipIndex} {specs : KeyMap RoutingSpec}
  {tally tally' : Tally} {listed : List (QualifiedName × RoutingSpec)}
  {key : QualifiedName} {spec : RoutingSpec} {bundle : Bundle} {fault : Fault}

/-! ### Lists with one more item -/

theorem map_filter_concat {α β : Type} {items : List α} {item : α} {name : α → β}
    {chosen chosen' : α → Bool} (h : ∀ item ∈ items, chosen' item = chosen item) :
    ((items ++ [item]).filter chosen').map name =
      (items.filter chosen).map name ++ if chosen' item then [name item] else [] := by
  rw [List.filter_append, List.filter_congr h, List.map_append]
  cases hitem : chosen' item <;> simp [hitem]

theorem filterMap_concat {α β : Type} {items : List α} {item : α} {result? result?' : α → Option β}
    (h : ∀ item ∈ items, result?' item = result? item) :
    (items ++ [item]).filterMap result?' = items.filterMap result? ++ (result?' item).toList := by
  rw [List.filterMap_append, List.filterMap_congr h]
  cases hitem : result?' item <;> simp [hitem]

/-! ### Building up the tally -/

namespace Tally

/-- The decision on a listed spec, given the bundles that are served in the end. -/
def decision (tally : Tally) (previous : Snapshot) (index : MembershipIndex)
    (entry : QualifiedName × RoutingSpec) : Decision :=
  .make (tally.bundles.conflictBefore? entry.1) (previous.bundle? entry.1)
    (Bundle.synthesize entry.2 index)

/-- The tally serves and reports what the decisions on the listed specs come to, and the listeners
that it counts as taken are those that it serves. -/
structure Settles (tally : Tally) (previous : Snapshot) (index : MembershipIndex)
    (listed : List (QualifiedName × RoutingSpec)) : Prop where
  lookup_claims : ∀ listener, tally.claims.lookup listener = tally.bundles.holder? listener
  find?_bundles : ∀ key bundle, tally.bundles.find? key = some bundle ↔
    ∃ spec, (key, spec) ∈ listed ∧
      (tally.decision previous index (key, spec)).bundle? = some bundle
  synthesized_eq : tally.synthesized =
    (listed.filter fun entry => (tally.decision previous index entry).isFresh).map (·.1)
  retained_eq : tally.retained =
    (listed.filter fun entry => (tally.decision previous index entry).isKept).map (·.1)
  failures_eq : tally.failures =
    listed.filterMap fun entry => (tally.decision previous index entry).failure? entry.1

namespace Settles

theorem lt_of_find? (h : tally.Settles previous index listed)
    (hlater : ∀ entry ∈ listed, entry.1 < key) (other : QualifiedName) (bundle : Bundle)
    (hfind : tally.bundles.find? other = some bundle) : other < key := by
  obtain ⟨spec, hmem, -⟩ := (h.find?_bundles other bundle).mp hfind
  exact hlater (other, spec) hmem

/-- When the turn of a spec comes, the claims tell the conflicts with the specs before it. -/
theorem conflict?_eq (h : tally.Settles previous index listed)
    (hlater : ∀ entry ∈ listed, entry.1 < key) :
    tally.conflict? key = tally.bundles.conflictBefore? key := by
  funext bundle
  rw [conflict?, h.lookup_claims, KeyMap.conflictBefore?,
    KeyMap.before_eq_self (h.lt_of_find? hlater)]
  cases hholder : tally.bundles.holder? bundle.listener.name with
  | none => rfl
  | some owner =>
    obtain ⟨other, hfind, -⟩ := KeyMap.exists_of_holder?_eq_some hholder
    -- a holder comes before the spec whose turn it is, so the spec is not in its own way
    have hne : owner ≠ key := by
      rintro rfl
      exact QualifiedName.lt_irrefl owner (h.lt_of_find? hlater owner other hfind)
    simp [hne]

end Settles

/-- A decision tells the bundle of its spec, and changes no other. -/
theorem find?_record {decision : Decision} (h : tally.bundles.find? key = none)
    {other : QualifiedName} : (tally.record key decision).bundles.find? other =
      if other = key then decision.bundle? else tally.bundles.find? other := by
  change ((decision.bundle?.map (tally.bundles.insert key)).getD tally.bundles).find? other = _
  cases decision.bundle? with
  | none =>
    split_ifs with hother
    · subst hother
      exact h
    · rfl
  | some bundle => exact KeyMap.find?_insert

/-- Recording a decision leaves the part before its spec as it is. -/
theorem before_record {decision : Decision} {other : QualifiedName} (h : ¬ key < other) :
    (tally.record key decision).bundles.before other = tally.bundles.before other := by
  rw [record]
  cases decision.bundle? with
  | none => rfl
  | some bundle => exact KeyMap.before_insert_of_not_lt h

theorem decision_record {decision : Decision} {entry : QualifiedName × RoutingSpec}
    (h : ¬ key < entry.1) : (tally.record key decision).decision previous index entry =
      tally.decision previous index entry := by
  have hconflict : (tally.record key decision).bundles.conflictBefore? entry.1 =
      tally.bundles.conflictBefore? entry.1 := by
    funext bundle
    rw [KeyMap.conflictBefore?, KeyMap.conflictBefore?, before_record h]
  rw [Tally.decision, Tally.decision, hconflict]

/-- A decision that serves a free listener keeps the claims in step with the bundles. -/
theorem lookup_claims_record {decision : Decision}
    (hclaims : ∀ listener, tally.claims.lookup listener = tally.bundles.holder? listener)
    (hlater : ∀ other bundle, tally.bundles.find? other = some bundle → other < key)
    (hfree : ∀ bundle, decision.bundle? = some bundle →
      tally.bundles.holder? bundle.listener.name = none) (listener : String) :
    (tally.record key decision).claims.lookup listener =
      (tally.record key decision).bundles.holder? listener := by
  rw [record]
  cases hserved : decision.bundle? with
  | none => exact hclaims listener
  | some bundle =>
    change ((bundle.listener.name, key) :: tally.claims).lookup listener =
      (tally.bundles.insert key bundle).holder? listener
    rw [KeyMap.holder?_insert_of_greatest hlater, List.lookup_cons, hclaims]
    by_cases hname : bundle.listener.name = listener
    · -- the listener was free, so the new claim hides no older one
      subst hname
      simp [hfree bundle hserved]
    · have hne : (listener == bundle.listener.name) = false := by simpa using Ne.symm hname
      simp [hname, hne]

/-- A tally that settles a list of specs goes on to settle one more that comes after them. -/
theorem Settles.add (h : tally.Settles previous index listed)
    (hlater : ∀ entry ∈ listed, entry.1 < key) :
    (tally.add previous key (Bundle.synthesize spec index)).Settles previous index
      (listed ++ [(key, spec)]) := by
  have hgreatest := h.lt_of_find? hlater
  have hconflict := h.conflict?_eq hlater
  have hadd : tally.add previous key (Bundle.synthesize spec index) =
      tally.record key (tally.decision previous index (key, spec)) := by
    rw [add_eq_record, hconflict, Tally.decision]
  rw [hadd]
  set decision := tally.decision previous index (key, spec) with hdecision
  have hnew : (tally.record key decision).decision previous index (key, spec) = decision :=
    decision_record (QualifiedName.lt_irrefl key)
  -- a decision that was made before does not change, as it looks at earlier specs only
  have hold : ∀ entry ∈ listed, (tally.record key decision).decision previous index entry =
      tally.decision previous index entry := fun entry hentry =>
    decision_record fun hlt =>
      QualifiedName.lt_irrefl key (QualifiedName.lt_trans hlt (hlater entry hentry))
  constructor
  case lookup_claims =>
    refine lookup_claims_record h.lookup_claims hgreatest fun bundle hserved => ?_
    have hfree := Decision.conflict?_eq_none_of_bundle? hserved
    rw [KeyMap.conflictBefore?, KeyMap.before_eq_self hgreatest] at hfree
    exact Option.map_eq_none_iff.mp hfree
  case find?_bundles =>
    intro k bundle
    have hrest : (∃ spec', (k, spec') ∈ listed ∧
        ((tally.record key decision).decision previous index (k, spec')).bundle? = some bundle) ↔
          tally.bundles.find? k = some bundle := by
      rw [h.find?_bundles k bundle]
      refine exists_congr fun spec' => and_congr_right fun hmem => ?_
      rw [hold _ hmem]
    -- the spec is new to the tally, so what is found under its key is what was decided
    have hkey : tally.bundles.find? key = none :=
      Option.eq_none_iff_forall_ne_some.mpr fun bundle hfind =>
        QualifiedName.lt_irrefl key (hgreatest key bundle hfind)
    simp only [find?_record hkey, List.mem_append, List.mem_singleton, Prod.mk.injEq, or_and_right,
      exists_or, hrest]
    by_cases hk : k = key
    · subst hk
      simp [hkey, hnew]
    · simp [hk]
  case synthesized_eq =>
    rw [map_filter_concat fun entry hentry => congrArg Decision.isFresh (hold entry hentry),
      ← h.synthesized_eq, hnew]
    rfl
  case retained_eq =>
    rw [map_filter_concat fun entry hentry => congrArg Decision.isKept (hold entry hentry),
      ← h.retained_eq, hnew]
    rfl
  case failures_eq =>
    rw [filterMap_concat fun entry hentry => congrArg (Decision.failure? entry.1) (hold entry hentry),
      ← h.failures_eq, hnew]
    rfl

end Tally

/-- A pass settles all listed specs. -/
theorem settles_assemble :
    (assemble previous index specs).Settles previous index specs.entries := by
  have hfold : ∀ listed : List (QualifiedName × RoutingSpec),
      listed.Pairwise (fun a b => a.1 < b.1) →
      (listed.foldl (fun (tally : Tally) entry =>
          tally.add previous entry.1 (Bundle.synthesize entry.2 index)) {}).Settles
        previous index listed := by
    intro listed
    induction listed using List.reverseRecOn with
    | nil =>
      intro _
      constructor <;> simp [KeyMap.holder?, KeyMap.empty, KeyMap.find?]
    | append_singleton listed entry ih =>
      intro hascending
      obtain ⟨hlisted, -, hlater⟩ := List.pairwise_append.mp hascending
      rw [List.foldl_append]
      exact (ih hlisted).add fun earlier hearlier =>
        hlater earlier hearlier entry (List.mem_singleton.mpr rfl)
  exact hfold specs.entries specs.ascending

/-! ### Reading off decisions -/

namespace Tally.Settles

variable (h : tally.Settles previous index specs.entries)

include h

theorem find?_eq (hspec : specs.find? key = some spec) :
    tally.bundles.find? key = (tally.decision previous index (key, spec)).bundle? := by
  refine Option.ext fun bundle => (h.find?_bundles key bundle).trans ?_
  constructor
  · rintro ⟨spec', hmem, hserved⟩
    obtain rfl := Option.some.inj (hspec.symm.trans (KeyMap.mem_entries_iff.mp hmem))
    exact hserved
  · exact fun hserved => ⟨spec, KeyMap.mem_entries_iff.mpr hspec, hserved⟩

/-- Specs that are not listed are not served. -/
theorem find?_eq_none (hspec : specs.find? key = none) : tally.bundles.find? key = none := by
  refine Option.eq_none_iff_forall_ne_some.mpr fun bundle hfind => ?_
  obtain ⟨spec, hmem, -⟩ := (h.find?_bundles key bundle).mp hfind
  exact Option.some_ne_none spec ((KeyMap.mem_entries_iff.mp hmem).symm.trans hspec)

theorem mem_synthesized_iff : key ∈ tally.synthesized ↔ ∃ spec, specs.find? key = some spec ∧
    (tally.decision previous index (key, spec)).isFresh := by
  rw [h.synthesized_eq]
  simp [KeyMap.mem_entries_iff]

theorem mem_retained_iff : key ∈ tally.retained ↔ ∃ spec, specs.find? key = some spec ∧
    (tally.decision previous index (key, spec)).isKept := by
  rw [h.retained_eq]
  simp [KeyMap.mem_entries_iff]

theorem mem_failures_iff {failure : Failure} : failure ∈ tally.failures ↔
    ∃ key spec, specs.find? key = some spec ∧
      (tally.decision previous index (key, spec)).failure? key = some failure := by
  rw [h.failures_eq]
  simp [KeyMap.mem_entries_iff]

/-- A listed spec is reported as synthesized if that is the decision on it. -/
theorem mem_synthesized_of_spec (hspec : specs.find? key = some spec) :
    key ∈ tally.synthesized ↔ (tally.decision previous index (key, spec)).isFresh := by
  rw [h.mem_synthesized_iff]
  simp [hspec]

/-- A listed spec is reported as retained if that is the decision on it. -/
theorem mem_retained_of_spec (hspec : specs.find? key = some spec) :
    key ∈ tally.retained ↔ (tally.decision previous index (key, spec)).isKept := by
  rw [h.mem_retained_iff]
  simp [hspec]

/-- The failures of a listed spec are those of the decision on it, so there is one at most. -/
theorem mem_failures_of_spec (hspec : specs.find? key = some spec) {failure : Failure}
    (hkey : failure.spec = key) : failure ∈ tally.failures ↔
      (tally.decision previous index (key, spec)).failure? key = some failure := by
  rw [h.mem_failures_iff]
  constructor
  · rintro ⟨key', spec', hspec', hfailure⟩
    obtain rfl : key = key' := hkey.symm.trans (Decision.spec_of_failure? hfailure)
    obtain rfl := Option.some.inj (hspec.symm.trans hspec')
    exact hfailure
  · exact fun hfailure => ⟨key, spec, hspec, hfailure⟩

/-- No bundle is served whose listener an earlier spec is served with. -/
theorem not_takenBefore (hfind : tally.bundles.find? key = some bundle) :
    ¬ tally.bundles.TakenBefore key bundle.listener.name := by
  obtain ⟨spec, -, hserved⟩ := (h.find?_bundles key bundle).mp hfind
  exact KeyMap.conflictBefore?_eq_none_iff.mp (Decision.conflict?_eq_none_of_bundle? hserved)

/-- No two specs are served with the same listener. -/
theorem listener_inj {key' : QualifiedName} {bundle' : Bundle}
    (hfind : tally.bundles.find? key = some bundle)
    (hfind' : tally.bundles.find? key' = some bundle')
    (hname : bundle.listener.name = bundle'.listener.name) : key = key' := by
  rcases QualifiedName.lt_trichotomy key key' with hlt | heq | hlt
  · exact absurd ⟨key, bundle, hlt, hfind, hname⟩ (h.not_takenBefore hfind')
  · exact heq
  · exact absurd ⟨key', bundle', hlt, hfind', hname.symm⟩ (h.not_takenBefore hfind)

/-- A listed spec is served with its new bundle if no earlier spec has that one's listener, else with
the bundle before if no earlier spec has that one's listener, and else not at all. -/
theorem listed_cases (hspec : specs.find? key = some spec) :
    (∃ bundle, Bundle.synthesize spec index = .ok bundle ∧
      ¬ tally.bundles.TakenBefore key bundle.listener.name ∧
      tally.bundles.find? key = some bundle) ∨
    (∀ bundle, Bundle.synthesize spec index = .ok bundle →
      tally.bundles.TakenBefore key bundle.listener.name) ∧
      ((∃ earlier, previous.bundle? key = some earlier ∧
        ¬ tally.bundles.TakenBefore key earlier.listener.name ∧
        tally.bundles.find? key = some earlier) ∨
      (∀ earlier, previous.bundle? key = some earlier →
        tally.bundles.TakenBefore key earlier.listener.name) ∧
        tally.bundles.find? key = none) := by
  have hserved := h.find?_eq hspec
  have htaken : ∀ fault, Decision.Rejected (tally.bundles.conflictBefore? key)
      (Bundle.synthesize spec index) fault → ∀ bundle, Bundle.synthesize spec index = .ok bundle →
        tally.bundles.TakenBefore key bundle.listener.name := by
    rintro fault (herror | ⟨bundle, cause, hmade, hconflict, -⟩) bundle' hmade'
    · exact absurd (herror.symm.trans hmade') nofun
    · obtain rfl := Except.ok.inj (hmade.symm.trans hmade')
      exact KeyMap.takenBefore_of_conflictBefore?_ne_none (by simp [hconflict])
  cases hdecision : tally.decision previous index (key, spec) with
  | fresh bundle =>
    obtain ⟨hmade, hfree⟩ := Decision.make_eq_fresh_iff.mp hdecision
    rw [hdecision] at hserved
    exact .inl ⟨bundle, hmade, KeyMap.conflictBefore?_eq_none_iff.mp hfree, hserved⟩
  | kept fault earlier =>
    obtain ⟨hrejected, hearlier, hfree⟩ := Decision.make_eq_kept_iff.mp hdecision
    rw [hdecision] at hserved
    exact .inr ⟨htaken fault hrejected, .inl ⟨earlier, hearlier,
      KeyMap.conflictBefore?_eq_none_iff.mp hfree, hserved⟩⟩
  | lost fault =>
    obtain ⟨hrejected, hearlier⟩ := Decision.make_eq_lost_iff.mp hdecision
    rw [hdecision] at hserved
    exact .inr ⟨htaken fault hrejected, .inr ⟨fun earlier hfind =>
      KeyMap.takenBefore_of_conflictBefore?_ne_none (hearlier earlier hfind), hserved⟩⟩

/-- A spec is served with a new bundle, and is reported as synthesized, or with the bundle before,
and is reported as failed and retained. -/
theorem served_cases (hfind : tally.bundles.find? key = some bundle) :
    ∃ spec, specs.find? key = some spec ∧
      (Bundle.synthesize spec index = .ok bundle ∧ key ∈ tally.synthesized ∨
        previous.bundle? key = some bundle ∧ key ∈ tally.retained ∧
          ∃ fault, { spec := key, fault, retained := true } ∈ tally.failures) := by
  obtain ⟨spec, hmem, hserved⟩ := (h.find?_bundles key bundle).mp hfind
  have hspec := KeyMap.mem_entries_iff.mp hmem
  refine ⟨spec, hspec, ?_⟩
  cases hdecision : tally.decision previous index (key, spec) with
  | fresh bundle' =>
    obtain rfl : bundle' = bundle := by simpa [hdecision, Decision.bundle?] using hserved
    refine .inl ⟨(Decision.make_eq_fresh_iff.mp hdecision).1, h.mem_synthesized_iff.mpr ?_⟩
    exact ⟨spec, hspec, Decision.isFresh_iff.mpr ⟨bundle', hdecision⟩⟩
  | kept fault bundle' =>
    obtain rfl : bundle' = bundle := by simpa [hdecision, Decision.bundle?] using hserved
    refine .inr ⟨(Decision.make_eq_kept_iff.mp hdecision).2.1, h.mem_retained_iff.mpr ?_, fault,
      h.mem_failures_iff.mpr ?_⟩
    · exact ⟨spec, hspec, Decision.isKept_iff.mpr ⟨fault, bundle', hdecision⟩⟩
    · exact ⟨key, spec, hspec, by rw [hdecision]; rfl⟩
  | lost fault => simp [hdecision, Decision.bundle?] at hserved

omit h

/-- Passes that come to the same decision on a spec serve and report it alike. -/
theorem alike_of_decision_eq {tally' : Tally} {previous' : Snapshot} {index' : MembershipIndex}
    {specs' : KeyMap RoutingSpec} {spec' : RoutingSpec}
    (h : tally.Settles previous index specs.entries)
    (h' : tally'.Settles previous' index' specs'.entries)
    (hspec : specs.find? key = some spec) (hspec' : specs'.find? key = some spec')
    (hsame : tally.decision previous index (key, spec) =
      tally'.decision previous' index' (key, spec')) :
    tally.bundles.find? key = tally'.bundles.find? key ∧
      (key ∈ tally.synthesized ↔ key ∈ tally'.synthesized) ∧
      (key ∈ tally.retained ↔ key ∈ tally'.retained) ∧
      ∀ failure, failure.spec = key → (failure ∈ tally.failures ↔ failure ∈ tally'.failures) := by
  refine ⟨?_, ?_, ?_, fun failure hkey => ?_⟩
  · rw [h.find?_eq hspec, h'.find?_eq hspec', hsame]
  · rw [h.mem_synthesized_of_spec hspec, h'.mem_synthesized_of_spec hspec', hsame]
  · rw [h.mem_retained_of_spec hspec, h'.mem_retained_of_spec hspec', hsame]
  · rw [h.mem_failures_of_spec hspec hkey, h'.mem_failures_of_spec hspec' hkey, hsame]

/-! ### Uniqueness -/

/-- Specs are settled in one way only: the decision on each depends on those before it. -/
theorem bundles_unique (h : tally.Settles previous index specs.entries)
    (h' : tally'.Settles previous index specs.entries) : tally.bundles = tally'.bundles := by
  -- the induction goes along the listed specs, for a first part of them
  have hagree : ∀ listed later, listed ++ later = specs.entries → ∀ entry ∈ listed,
      tally.bundles.find? entry.1 = tally'.bundles.find? entry.1 := by
    intro listed
    induction listed using List.reverseRecOn with
    | nil => exact fun _ _ _ hmem => absurd hmem List.not_mem_nil
    | append_singleton listed last ih =>
      intro later hentries entry hentry
      rw [List.append_assoc, List.singleton_append] at hentries
      have hearlier := ih (last :: later) hentries
      rcases List.mem_append.mp hentry with hentry | hentry
      · exact hearlier entry hentry
      obtain rfl := List.mem_singleton.mp hentry
      have hspec : specs.find? entry.1 = some entry.2 :=
        KeyMap.mem_entries_iff.mp (hentries ▸ List.mem_append_right _ List.mem_cons_self)
      -- a key before this one is listed earlier, where both agree, or not listed at all
      have hbefore : tally.bundles.before entry.1 = tally'.bundles.before entry.1 := by
        refine KeyMap.ext_find? fun k => Option.ext fun bundle => ?_
        simp only [KeyMap.find?_before_eq_some_iff]
        refine and_congr_right fun hlt => ?_
        cases hk : specs.find? k with
        | none => rw [h.find?_eq_none hk, h'.find?_eq_none hk]
        | some spec =>
          have hmem : (k, spec) ∈ listed ++ entry :: later :=
            hentries ▸ KeyMap.mem_entries_iff.mpr hk
          have hascending := hentries ▸ specs.ascending
          obtain ⟨-, hrest, -⟩ := List.pairwise_append.mp hascending
          rcases List.mem_append.mp hmem with hmem | hmem
          · rw [hearlier (k, spec) hmem]
          rcases List.mem_cons.mp hmem with rfl | hmem
          · exact absurd hlt (QualifiedName.lt_irrefl k)
          · have hgt := (List.pairwise_cons.mp hrest).1 (k, spec) hmem
            exact absurd (QualifiedName.lt_trans hlt hgt) (QualifiedName.lt_irrefl k)
      have hconflict : tally.bundles.conflictBefore? entry.1 =
          tally'.bundles.conflictBefore? entry.1 := by
        funext bundle
        rw [KeyMap.conflictBefore?, KeyMap.conflictBefore?, hbefore]
      rw [h.find?_eq hspec, h'.find?_eq hspec, decision, decision, hconflict]
  refine KeyMap.ext_find? fun key => ?_
  cases hspec : specs.find? key with
  | none => rw [h.find?_eq_none hspec, h'.find?_eq_none hspec]
  | some spec =>
    exact hagree specs.entries [] (List.append_nil _) (key, spec) (KeyMap.mem_entries_iff.mpr hspec)

/-- Two tallies that settle the same specs serve and report the same. -/
theorem unique (h : tally.Settles previous index specs.entries)
    (h' : tally'.Settles previous index specs.entries) :
    tally.bundles = tally'.bundles ∧ tally.synthesized = tally'.synthesized ∧
      tally.retained = tally'.retained ∧ tally.failures = tally'.failures := by
  have hbundles := h.bundles_unique h'
  have hdecision : tally.decision previous index = tally'.decision previous index := by
    funext entry
    rw [decision, decision, hbundles]
  refine ⟨hbundles, ?_, ?_, ?_⟩
  · rw [h.synthesized_eq, h'.synthesized_eq, hdecision]
  · rw [h.retained_eq, h'.retained_eq, hdecision]
  · rw [h.failures_eq, h'.failures_eq, hdecision]

/-- What was served before counts only as far as the decisions depend on it. -/
theorem of_decision_eq {previous' : Snapshot} (h : tally.Settles previous index specs.entries)
    (hsame : ∀ key spec, specs.find? key = some spec →
      tally.decision previous' index (key, spec) = tally.decision previous index (key, spec)) :
    tally.Settles previous' index specs.entries := by
  have hentry : ∀ entry ∈ specs.entries,
      tally.decision previous index entry = tally.decision previous' index entry :=
    fun entry hentry => (hsame entry.1 entry.2 (KeyMap.mem_entries_iff.mp hentry)).symm
  constructor
  case lookup_claims => exact h.lookup_claims
  case find?_bundles =>
    intro key bundle
    rw [h.find?_bundles]
    refine exists_congr fun spec => and_congr_right fun hmem => ?_
    rw [hentry _ hmem]
  case synthesized_eq =>
    rw [h.synthesized_eq, List.filter_congr fun entry hmem => by rw [hentry entry hmem]]
  case retained_eq =>
    rw [h.retained_eq, List.filter_congr fun entry hmem => by rw [hentry entry hmem]]
  case failures_eq =>
    rw [h.failures_eq, List.filterMap_congr fun entry hmem => by rw [hentry entry hmem]]

/-- A tally settles its specs again with its own bundles as those before. -/
theorem again (h : tally.Settles previous index specs.entries) (version : Nat) :
    tally.Settles { version, bundles := tally.bundles } index specs.entries := by
  refine h.of_decision_eq fun key spec hspec => ?_
  have hbefore : Snapshot.bundle? { version, bundles := tally.bundles } key =
      (tally.decision previous index (key, spec)).bundle? := h.find?_eq hspec
  rw [decision, hbefore]
  exact Decision.make_again

end Tally.Settles

end TrafficPlane
