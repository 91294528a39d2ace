import TrafficPlane.Proofs.Acceptance
import TrafficPlane.Proofs.LetterCase
import TrafficPlane.Proofs.Rendering

/-!
# Criteria that are accepted

The criteria of a route are checked one after the other, and the first flaw ends the check. Which
criteria pass is said here without regard to that order, and which fault the others have with
regard to it.

## Main definitions

* `HeaderSpec.setOptions`: the options of a header declaration that are set
* `HeaderSpec.WellFormed`, `RouteSpec.WellFormed`: criteria without flaws
* `RegexSpec.FirstFlaw`, `HeaderSpec.FirstFlaw`, `RouteSpec.FirstFlaw`: what is found wrong first

## Main results

* `HeaderSpec.map_label_criteria`: there is one criterion for each option that is set
* `HeaderMatcher.exists_compile_iff`, `HeaderMatcher.compile_eq_error_iff`: which header
  declarations are accepted, and how the others are rejected
* `RequestMatcher.exists_config_fault`: a spec has no bundle if a route's criteria are flawed
* `RequestMatcher.compile_accepts_iff`: the same of all criteria of a route, and what is compiled of
  those accepted
-/

namespace TrafficPlane

open Text

/-! ### Well-formed criteria -/

/-- The expression can be compiled. -/
def RegexSpec.Compiles (spec : RegexSpec) : Prop :=
  ∃ compiled, CompiledRegex.compile spec = .ok compiled

/-- The options of a header declaration that are set, by their names in documents. An empty text
counts as set. -/
def HeaderSpec.setOptions (spec : HeaderSpec) : List String :=
  ([("exact", spec.exact.isSome), ("regex", spec.regex.isSome), ("range", spec.range.isSome),
    ("present", spec.present.isSome), ("prefix", spec.leading.isSome),
    ("suffix", spec.trailing.isSome)].filter (·.2)).map (·.1)

/-- A header declaration names a header and sets one option, and if that is an expression it can be
compiled. -/
structure HeaderSpec.WellFormed (spec : HeaderSpec) : Prop where
  named : trim spec.name ≠ ""
  regex : ∀ declared, spec.regex = some declared → declared.Compiles
  single : spec.setOptions.length = 1

/-- The denominator is one of three, in any case and with blanks around it. -/
def FractionSpec.WellFormed (spec : FractionSpec) : Prop :=
  toUpper (trim spec.denominator) ∈ ["HUNDRED", "TEN_THOUSAND", "MILLION"]

/-- The expression on the path can be compiled, also where another criterion on the path is set, and
all headers and the fraction are well-formed. -/
structure RouteSpec.WellFormed (route : RouteSpec) : Prop where
  path : ∀ declared, route.path.regex = some declared → declared.Compiles
  headers : ∀ header ∈ route.headers, header.WellFormed
  fraction : ∀ declared, route.fraction = some declared → declared.WellFormed

/-! ### First flaws -/

/-- What is found wrong first with an expression. -/
inductive RegexSpec.FirstFlaw (spec : RegexSpec) : ConfigCause → Prop
  | engine (hengine : spec.engine ≠ "re2") : FirstFlaw spec (.unsupportedEngine spec.engine)
  | empty (hengine : spec.engine = "re2") (hempty : spec.source = "") : FirstFlaw spec .emptyRegex
  | unreadable (hengine : spec.engine = "re2") (hsource : spec.source ≠ "")
      (hunreadable : ∀ pattern, Regex.parse (anchored spec.source) ≠ .ok pattern) :
      FirstFlaw spec (.invalidRegex spec.source)

/-- What is found wrong first with a header declaration: the name, then the expression, then the
number of options, of which the fault lists those found. -/
inductive HeaderSpec.FirstFlaw (spec : HeaderSpec) : ConfigCause → Prop
  | nameless (hname : trim spec.name = "") : FirstFlaw spec .namelessHeader
  | regex {declared : RegexSpec} {cause : ConfigCause} (hname : trim spec.name ≠ "")
      (hdeclared : spec.regex = some declared) (hflaw : declared.FirstFlaw cause) :
      FirstFlaw spec cause
  | options (hname : trim spec.name ≠ "")
      (hregex : ∀ declared, spec.regex = some declared → declared.Compiles)
      (hoptions : spec.setOptions.length ≠ 1) :
      FirstFlaw spec (.headerCriteria (toLower (trim spec.name)) spec.setOptions)

/-- What is found wrong first with the criteria of a route: the path, then the headers from the
first one on, then the fraction. -/
inductive RouteSpec.FirstFlaw (route : RouteSpec) : ConfigCause → Prop
  | path {declared : RegexSpec} {cause : ConfigCause}
      (hdeclared : route.path.regex = some declared) (hflaw : declared.FirstFlaw cause) :
      FirstFlaw route cause
  | header {before after : List HeaderSpec} {header : HeaderSpec} {cause : ConfigCause}
      (hpath : ∀ declared, route.path.regex = some declared → declared.Compiles)
      (hheaders : route.headers = before ++ header :: after)
      (hbefore : ∀ earlier ∈ before, earlier.WellFormed) (hflaw : header.FirstFlaw cause) :
      FirstFlaw route cause
  | fraction {declared : FractionSpec}
      (hpath : ∀ declared, route.path.regex = some declared → declared.Compiles)
      (hheaders : ∀ header ∈ route.headers, header.WellFormed)
      (hdeclared : route.fraction = some declared) (hunknown : ¬ declared.WellFormed) :
      FirstFlaw route (.unknownDenominator (toUpper (trim declared.denominator)))

/-! ### Expressions, paths and fractions -/

theorem CompiledRegex.compile_eq_error_iff {spec : RegexSpec} {cause : ConfigCause} :
    compile spec = .error cause ↔ spec.FirstFlaw cause := by
  rw [compile]
  -- flaws exclude each other, so of each branch only its own is left
  split_ifs with hengine hsource
  · constructor
    · rintro ⟨⟩
      exact .engine hengine
    · rintro (_ | ⟨h, -⟩ | ⟨h, -, -⟩)
      · rfl
      all_goals exact absurd h hengine
  · have hengine := not_not.mp hengine
    constructor
    · rintro ⟨⟩
      exact .empty hengine hsource
    · rintro (h | _ | ⟨-, h, -⟩)
      · exact absurd hengine h
      · rfl
      · exact absurd hsource h
  · have hengine := not_not.mp hengine
    cases hparse : Regex.parse (anchored spec.source) with
    | ok pattern =>
      refine iff_of_false (by simp) ?_
      rintro (h | ⟨-, h⟩ | ⟨-, -, h⟩)
      · exact h hengine
      · exact hsource h
      · exact h pattern hparse
    | error fault =>
      constructor
      · rintro ⟨⟩
        exact .unreadable hengine hsource fun pattern h => by simp [hparse] at h
      · rintro (h | ⟨-, h⟩ | _)
        · exact absurd hengine h
        · exact absurd h hsource
        · rfl

/-- The path decides by its expression alone whether it is accepted. -/
theorem PathMatcher.exists_compile_iff {spec : PathSpec} :
    (∃ matcher, compile spec = .ok matcher) ↔
      ∀ declared, spec.regex = some declared → declared.Compiles := by
  rw [compile]
  cases spec.regex with
  | some declared => simp [map_eq_ok_iff, RegexSpec.Compiles]
  | none =>
    refine iff_of_true ?_ (by simp)
    dsimp only
    split <;> exact ⟨_, rfl⟩

theorem PathMatcher.compile_eq_error_iff {spec : PathSpec} {cause : ConfigCause} :
    compile spec = .error cause ↔
      ∃ declared, spec.regex = some declared ∧ declared.FirstFlaw cause := by
  rw [compile]
  cases spec.regex with
  | some declared => simp [map_eq_error_iff, CompiledRegex.compile_eq_error_iff]
  | none =>
    refine iff_of_false ?_ (by simp)
    dsimp only
    split <;> simp

theorem Fraction.exists_compile_iff {spec : FractionSpec} :
    (∃ fraction, compile spec = .ok fraction) ↔ spec.WellFormed := by
  simp only [compile, Denominator.ofName, FractionSpec.WellFormed, map_eq_ok_iff]
  split <;> simp_all

theorem Fraction.compile_eq_error_iff {spec : FractionSpec} {cause : ConfigCause} :
    compile spec = .error cause ↔
      ¬ spec.WellFormed ∧ cause = .unknownDenominator (toUpper (trim spec.denominator)) := by
  simp only [compile, Denominator.ofName, FractionSpec.WellFormed, map_eq_error_iff]
  split <;> simp_all [eq_comm]

/-! ### Headers -/

namespace HeaderSpec

variable {spec : HeaderSpec}

/-- The criteria that a header declaration sets, with the expression compiled. -/
def criteriaWith (spec : HeaderSpec) (regex : Option CompiledRegex) : List HeaderCriterion :=
  (spec.exact.map HeaderCriterion.exact).toList ++ (regex.map HeaderCriterion.regex).toList
    ++ (spec.range.map HeaderCriterion.range).toList
    ++ (spec.present.map HeaderCriterion.present).toList
    ++ (spec.leading.map HeaderCriterion.leading).toList
    ++ (spec.trailing.map HeaderCriterion.trailing).toList

/-- The expression is the only option that can be rejected. -/
theorem criteria_eq (spec : HeaderSpec) :
    spec.criteria = spec.criteriaWith <$> spec.regex.mapM CompiledRegex.compile := by
  rw [criteria]
  cases spec.regex with
  | none => rfl
  | some declared =>
    rw [Option.mapM_some]
    dsimp only
    cases CompiledRegex.compile declared <;> rfl

theorem exists_criteria_iff : (∃ criteria, spec.criteria = .ok criteria) ↔
    ∀ declared, spec.regex = some declared → declared.Compiles := by
  simp only [criteria_eq, map_eq_ok_iff, RegexSpec.Compiles, ← exists_optionMapM_iff]
  constructor
  · rintro ⟨_, regex, hregex, -⟩
    exact ⟨regex, hregex⟩
  · rintro ⟨regex, hregex⟩
    exact ⟨_, regex, hregex, rfl⟩

theorem criteria_eq_error_iff {cause : ConfigCause} : spec.criteria = .error cause ↔
    ∃ declared, spec.regex = some declared ∧ declared.FirstFlaw cause := by
  simp only [criteria_eq, map_eq_error_iff, optionMapM_eq_error_iff,
    CompiledRegex.compile_eq_error_iff]

/-- There is one criterion for each option that is set. -/
theorem map_label_criteria {criteria : List HeaderCriterion} (h : spec.criteria = .ok criteria) :
    criteria.map HeaderCriterion.label = spec.setOptions := by
  rw [criteria_eq] at h
  obtain ⟨compiled, hregex, rfl⟩ := map_eq_ok_iff.mp h
  have hsome : spec.regex.isSome = compiled.isSome := by
    cases hdeclared : spec.regex with
    | none =>
      rw [hdeclared] at hregex
      rw [← Except.ok.inj hregex]
      rfl
    | some declared =>
      rw [hdeclared, Option.mapM_some] at hregex
      obtain ⟨_, -, rfl⟩ := map_eq_ok_iff.mp hregex
      rfl
  -- only which options are set counts, so each combination of them is computed
  rw [criteriaWith, setOptions, hsome]
  cases spec.exact <;> cases compiled <;> cases spec.range <;> cases spec.present <;>
    cases spec.leading <;> cases spec.trailing <;> rfl

end HeaderSpec

namespace HeaderMatcher

variable {spec : HeaderSpec}

/-- A header declaration is accepted just when it is well-formed. -/
theorem exists_compile_iff : (∃ matcher, compile spec = .ok matcher) ↔ spec.WellFormed := by
  simp only [compile_eq_ok_iff]
  constructor
  · rintro ⟨matcher, hname, hnamed, hcriteria, -⟩
    refine ⟨?_, HeaderSpec.exists_criteria_iff.mp ⟨_, hcriteria⟩, ?_⟩
    · rw [hname] at hnamed
      exact mt toLower_eq_empty_iff.mpr hnamed
    · rw [← HeaderSpec.map_label_criteria hcriteria]
      rfl
  · rintro ⟨hnamed, hregex, hsingle⟩
    obtain ⟨criteria, hcriteria⟩ := HeaderSpec.exists_criteria_iff.mpr hregex
    rw [← HeaderSpec.map_label_criteria hcriteria, List.length_map] at hsingle
    obtain ⟨criterion, rfl⟩ := List.length_eq_one_iff.mp hsingle
    exact ⟨{ name := toLower (trim spec.name), criterion, invert := spec.invert }, rfl,
      mt toLower_eq_empty_iff.mp hnamed, hcriteria, rfl⟩

/-- A header declaration is rejected at its name, at its expression, or for the number of its
criteria. -/
theorem compile_eq_error_cases {cause : ConfigCause} : compile spec = .error cause ↔
    (trim spec.name = "" ∧ cause = .namelessHeader) ∨
    (trim spec.name ≠ "" ∧ spec.criteria = .error cause) ∨
    (trim spec.name ≠ "" ∧ ∃ criteria, spec.criteria = .ok criteria ∧ criteria.length ≠ 1 ∧
      cause = .headerCriteria (toLower (trim spec.name)) (criteria.map HeaderCriterion.label)) := by
  rw [compile]
  by_cases hname : trim spec.name = ""
  · rw [if_pos (toLower_eq_empty_iff.mpr hname)]
    simp [hname, eq_comm]
  · rw [if_neg (mt toLower_eq_empty_iff.mp hname)]
    cases spec.criteria with
    | error found => simp [hname]
    | ok criteria =>
      rcases criteria with _ | ⟨first, _ | ⟨second, rest⟩⟩ <;> simp [hname, eq_comm]

/-- A header declaration is rejected with its first flaw. -/
theorem compile_eq_error_iff {cause : ConfigCause} :
    compile spec = .error cause ↔ spec.FirstFlaw cause := by
  rw [compile_eq_error_cases]
  constructor
  · rintro (⟨hname, rfl⟩ | ⟨hname, hcriteria⟩ | ⟨hname, criteria, hcriteria, hlength, rfl⟩)
    · exact .nameless hname
    · obtain ⟨declared, hdeclared, hflaw⟩ := HeaderSpec.criteria_eq_error_iff.mp hcriteria
      exact .regex hname hdeclared hflaw
    · have hregex := HeaderSpec.exists_criteria_iff.mp ⟨_, hcriteria⟩
      have hoptions := HeaderSpec.map_label_criteria hcriteria
      rw [hoptions]
      rw [← List.length_map, hoptions] at hlength
      exact .options hname hregex hlength
  · rintro (hname | ⟨hname, hdeclared, hflaw⟩ | ⟨hname, hregex, hoptions⟩)
    · exact .inl ⟨hname, rfl⟩
    · exact .inr (.inl ⟨hname, HeaderSpec.criteria_eq_error_iff.mpr ⟨_, hdeclared, hflaw⟩⟩)
    · obtain ⟨criteria, hcriteria⟩ := HeaderSpec.exists_criteria_iff.mpr hregex
      rw [← HeaderSpec.map_label_criteria hcriteria] at hoptions ⊢
      rw [List.length_map] at hoptions
      exact .inr (.inr ⟨hname, criteria, hcriteria, hoptions, rfl⟩)

end HeaderMatcher

/-! ### Routes -/

namespace RequestMatcher

variable {route : RouteSpec}

/-- The criteria of a route are accepted just when they are well-formed. -/
theorem exists_compile_iff : (∃ matcher, compile route = .ok matcher) ↔ route.WellFormed := by
  have hstages : (∃ matcher, compile route = .ok matcher) ↔
      (∃ path, PathMatcher.compile route.path = .ok path) ∧
      (∃ headers, route.headers.mapM HeaderMatcher.compile = .ok headers) ∧
      ∃ fraction, route.fraction.mapM Fraction.compile = .ok fraction := by
    simp only [compile_eq_ok_iff, ← mapM_eq_ok_iff]
    constructor
    · rintro ⟨matcher, hpath, hheaders, hfraction, -⟩
      exact ⟨⟨_, hpath⟩, ⟨_, hheaders⟩, ⟨_, hfraction⟩⟩
    · rintro ⟨⟨path, hpath⟩, ⟨headers, hheaders⟩, ⟨fraction, hfraction⟩⟩
      exact ⟨{ path, caseSensitive := route.caseSensitive, headers, fraction }, hpath, hheaders,
        hfraction, rfl⟩
  rw [hstages, PathMatcher.exists_compile_iff, exists_mapM_iff, exists_optionMapM_iff]
  simp only [HeaderMatcher.exists_compile_iff, Fraction.exists_compile_iff]
  exact ⟨fun ⟨hpath, hheaders, hfraction⟩ => ⟨hpath, hheaders, hfraction⟩,
    fun ⟨hpath, hheaders, hfraction⟩ => ⟨hpath, hheaders, hfraction⟩⟩

/-- The criteria of a route are rejected with their first flaw. -/
theorem compile_eq_error_iff {cause : ConfigCause} :
    compile route = .error cause ↔ route.FirstFlaw cause := by
  -- a stage is reached only if all those before it have a result
  have hstages : compile route = .error cause ↔
      PathMatcher.compile route.path = .error cause ∨
      ((∃ path, PathMatcher.compile route.path = .ok path) ∧
        route.headers.mapM HeaderMatcher.compile = .error cause) ∨
      ((∃ path, PathMatcher.compile route.path = .ok path) ∧
        (∃ headers, route.headers.mapM HeaderMatcher.compile = .ok headers) ∧
        route.fraction.mapM Fraction.compile = .error cause) := by
    simp only [compile_eq, bind_eq_error_iff, pure, Except.pure, reduceCtorEq, and_false,
      exists_false, or_false]
    constructor
    · rintro (hpath | ⟨path, hpath, hheaders | ⟨headers, hheaders, hfraction⟩⟩)
      · exact .inl hpath
      · exact .inr (.inl ⟨⟨path, hpath⟩, hheaders⟩)
      · exact .inr (.inr ⟨⟨path, hpath⟩, ⟨headers, hheaders⟩, hfraction⟩)
    · rintro (hpath | ⟨⟨path, hpath⟩, hheaders⟩ | ⟨⟨path, hpath⟩, ⟨headers, hheaders⟩, hfraction⟩)
      · exact .inl hpath
      · exact .inr ⟨path, hpath, .inl hheaders⟩
      · exact .inr ⟨path, hpath, .inr ⟨headers, hheaders, hfraction⟩⟩
  rw [hstages, PathMatcher.compile_eq_error_iff, PathMatcher.exists_compile_iff,
    mapM_eq_error_iff, exists_mapM_iff, optionMapM_eq_error_iff]
  simp only [HeaderMatcher.exists_compile_iff, HeaderMatcher.compile_eq_error_iff,
    Fraction.compile_eq_error_iff]
  constructor
  · rintro (⟨declared, hdeclared, hflaw⟩ |
      ⟨hpath, before, header, after, hheaders, hbefore, hflaw⟩ |
      ⟨hpath, hheaders, declared, hdeclared, hunknown, rfl⟩)
    · exact .path hdeclared hflaw
    · exact .header hpath hheaders hbefore hflaw
    · exact .fraction hpath hheaders hdeclared hunknown
  · rintro (⟨hdeclared, hflaw⟩ | ⟨hpath, hheaders, hbefore, hflaw⟩ |
      ⟨hpath, hheaders, hdeclared, hunknown⟩)
    · exact .inl ⟨_, hdeclared, hflaw⟩
    · exact .inr (.inl ⟨hpath, _, _, _, hheaders, hbefore, hflaw⟩)
    · exact .inr (.inr ⟨hpath, hheaders, _, hdeclared, hunknown, rfl⟩)

/-- A spec has no bundle if the criteria of one of its routes are not well-formed, which is a fault
of configuration whatever else is wrong. -/
theorem exists_config_fault {spec : RoutingSpec} (index : MembershipIndex)
    (hroute : route ∈ spec.routes) (hflawed : ¬ route.WellFormed) :
    ∃ cause, Bundle.synthesize spec index = .error (.config cause) := by
  cases hprepare : spec.prepare with
  | ok prepared =>
    have hacceptable := (RoutingSpec.exists_prepare_iff.mp ⟨_, hprepare⟩).2.1 route hroute
    exact absurd (exists_compile_iff.mp hacceptable.criteria) hflawed
  | error cause => exact ⟨cause, by rw [Bundle.synthesize, hprepare]⟩

/-- The criteria of a route are accepted just when they are well-formed, and otherwise rejected with
the first flaw, so that a spec with such a route has a fault of configuration. What is compiled has
one header for each declared one, in order, with the one criterion that is declared. -/
theorem compile_accepts_iff (route : RouteSpec) :
    ((∃ matcher, compile route = .ok matcher) ↔ route.WellFormed) ∧
    (∀ cause, compile route = .error cause ↔ route.FirstFlaw cause) ∧
    (∀ (spec : RoutingSpec) (index : MembershipIndex), route ∈ spec.routes → ¬ route.WellFormed →
      ∃ cause, Bundle.synthesize spec index = .error (.config cause)) ∧
    ∀ matcher, compile route = .ok matcher →
      List.Forall₂ (fun declared header => header.name = toLower (trim declared.name) ∧
        (∀ criterion, declared.Sets criterion ↔ criterion = header.criterion) ∧
        header.invert = declared.invert) route.headers matcher.headers := by
  refine ⟨exists_compile_iff, fun _ => compile_eq_error_iff,
    fun _ index => exists_config_fault index, fun matcher hcompile => ?_⟩
  refine (compile_eq_ok_iff.mp hcompile).2.1.imp fun declared header hheader => ?_
  obtain ⟨hname, -, hcriteria, hinvert⟩ := HeaderMatcher.compile_eq_ok_iff.mp hheader
  refine ⟨hname, fun criterion => ?_, hinvert⟩
  rw [← HeaderSpec.mem_criteria_iff hcriteria, List.mem_singleton]

/-- Two headers are accepted, one of them for the empty text. With an expression for another engine
on the path they are not, although an exact path is set. -/
theorem compile_accepts_iff_of_two_headers :
    let headers : List HeaderSpec := [{ name := " X-Env ", exact := some "" },
      { name := "x-debug", present := some true, invert := true }]
    let path : PathSpec :=
      { exact := some "/a", regex := some { source := "/b", engine := "pcre" } }
    (∃ matcher, compile { headers } = .ok matcher ∧
      matcher.headers.map (fun header => (header.name, header.invert)) =
        [("x-env", false), ("x-debug", true)]) ∧
    compile { path, headers } = .error (.unsupportedEngine "pcre") ∧
    ∃ cause, Bundle.synthesize
      { name := "a", listener := "l", routes := [{ path, headers }] } .empty =
        .error (.config cause) := by
  intro headers path
  have hheaders : ∀ header ∈ headers, header.WellFormed := by
    simp only [headers, List.forall_mem_cons]
    exact ⟨⟨by decide +kernel, nofun, rfl⟩, ⟨by decide +kernel, nofun, rfl⟩, nofun⟩
  have hengine : RegexSpec.FirstFlaw { source := "/b", engine := "pcre" }
      (.unsupportedEngine "pcre") := .engine (by decide)
  have hrejected : compile { path, headers } = .error (.unsupportedEngine "pcre") :=
    ((compile_accepts_iff { path, headers }).2.1 _).mpr (.path rfl hengine)
  have hflawed : ¬ ({ path, headers } : RouteSpec).WellFormed := fun h => by
    obtain ⟨matcher, hmatcher⟩ := (compile_accepts_iff { path, headers }).1.mpr h
    simp [hrejected] at hmatcher
  obtain ⟨matcher, hmatcher⟩ :=
    (compile_accepts_iff { headers }).1.mpr ⟨nofun, hheaders, nofun⟩
  have hcompiled := (compile_accepts_iff { headers }).2.2.2 matcher hmatcher
  refine ⟨⟨matcher, hmatcher, ?_⟩, hrejected,
    (compile_accepts_iff { path, headers }).2.2.1 _ .empty List.mem_cons_self hflawed⟩
  calc matcher.headers.map (fun header => (header.name, header.invert))
    _ = headers.map (fun declared => (toLower (trim declared.name), declared.invert)) :=
      map_results_eq hcompiled fun declared header h => by rw [h.1, h.2.2]
    _ = _ := by decide +kernel

end RequestMatcher

end TrafficPlane
