import TrafficPlane.Regex.Basic
import TrafficPlane.Routing.Request
import TrafficPlane.Text.Slice

/-!
# Matchers

The criteria of a route, checked and reduced to what decides whether a request is taken.

## Main definitions

* `PathMatcher`: the one path criterion that counts
* `HeaderMatcher`: one criterion on one header
* `Fraction`: the part of the traffic that a route admits
* `RequestMatcher`: all criteria of one route
-/

namespace TrafficPlane

open Text

/-- The path criterion that counts: of several that are declared, a regular expression goes before
an exact path, which goes before a leading part. -/
inductive PathMatcher where
  | leading (text : String)
  | exact (text : String)
  | regex (regex : CompiledRegex)

namespace PathMatcher

/-- The criterion that counts. Empty texts are taken as not set, and where nothing is set every path
that starts with a slash matches. -/
def compile (spec : PathSpec) : Except ConfigCause PathMatcher :=
  match spec.regex with
  | some declared => .regex <$> CompiledRegex.compile declared
  | none =>
    match spec.exact.filter (· ≠ ""), spec.leading.filter (· ≠ "") with
    | some text, _ => .ok (.exact text)
    | none, some text => .ok (.leading text)
    | none, none => .ok (.leading "/")

/-- The path matches. The case of ASCII letters may be ignored, except by regular expressions. -/
def accepts (matcher : PathMatcher) (path : String) (caseSensitive : Bool) : Bool :=
  match matcher, caseSensitive with
  | .leading text, true => text.toList.isPrefixOf path.toList
  | .leading text, false => startsIgnoringCase path text
  | .exact text, true => path == text
  | .exact text, false => equalIgnoringCase path text
  | .regex compiled, _ => compiled.accepts path

end PathMatcher

/-- What a header is tested for. -/
inductive HeaderCriterion where
  | exact (text : String)
  | regex (regex : CompiledRegex)
  | range (range : IntegerRange)
  | present (expected : Bool)
  | leading (text : String)
  | trailing (text : String)

namespace HeaderCriterion

/-- The name of the criterion in documents. -/
def label : HeaderCriterion → String
  | .exact _ => "exact"
  | .regex _ => "regex"
  | .range _ => "range"
  | .present _ => "present"
  | .leading _ => "prefix"
  | .trailing _ => "suffix"

/-- The integer that a header's value denotes, with blanks around it. -/
def integer? (value : String) : Option Int :=
  (readInteger (-9223372036854775808) 9223372036854775807 (trim value)).toOption

/-- The value of a header that is there passes the test. -/
def accepts (criterion : HeaderCriterion) (value : String) : Bool :=
  match criterion with
  | .exact text => value == text
  | .regex compiled => compiled.accepts value
  | .range bounds =>
    match integer? value with
    | some n => bounds.start.toInt ≤ n && n < bounds.stop.toInt
    | none => false
  | .present expected => expected
  | .leading text => text.toList.isPrefixOf value.toList
  | .trailing text => text.toList.isSuffixOf value.toList

end HeaderCriterion

/-- One criterion on one header, whose name is in lower case. -/
structure HeaderMatcher where
  name : String
  criterion : HeaderCriterion
  invert : Bool

/-- The criteria that a header declaration sets, in the order of its fields. -/
def HeaderSpec.criteria (spec : HeaderSpec) : Except ConfigCause (List HeaderCriterion) := do
  let regex ← match spec.regex with
    | some regex => some <$> CompiledRegex.compile regex
    | none => .ok none
  return (spec.exact.map HeaderCriterion.exact).toList
    ++ (regex.map HeaderCriterion.regex).toList
    ++ (spec.range.map HeaderCriterion.range).toList
    ++ (spec.present.map HeaderCriterion.present).toList
    ++ (spec.leading.map HeaderCriterion.leading).toList
    ++ (spec.trailing.map HeaderCriterion.trailing).toList

namespace HeaderMatcher

/-- The matcher of a declaration that names a header and sets one criterion. -/
def compile (spec : HeaderSpec) : Except ConfigCause HeaderMatcher :=
  let name := toLower (trim spec.name)
  if name = "" then .error .namelessHeader
  else match spec.criteria with
    | .error cause => .error cause
    | .ok [criterion] => .ok { name, criterion, invert := spec.invert }
    | .ok criteria => .error (.headerCriteria name (criteria.map HeaderCriterion.label))

/-- The request passes the test. A header that is not there passes no test but the one for
presence. -/
def accepts (matcher : HeaderMatcher) (request : Request) : Bool :=
  match request.header? matcher.name, matcher.criterion with
  | none, .present expected => !expected != matcher.invert
  | none, _ => false
  | some value, criterion => criterion.accepts value != matcher.invert

end HeaderMatcher

/-- What a fraction counts in. -/
inductive Denominator where
  | hundred
  | tenThousand
  | million
deriving DecidableEq, Repr

namespace Denominator

/-- The denominator with a name, in any case and with blanks around it. -/
def ofName (name : String) : Except ConfigCause Denominator :=
  match toUpper (trim name) with
  | "HUNDRED" => .ok .hundred
  | "TEN_THOUSAND" => .ok .tenThousand
  | "MILLION" => .ok .million
  | other => .error (.unknownDenominator other)

/-- The number of samples that the denominator tells apart. -/
def value : Denominator → Nat
  | .hundred => 100
  | .tenThousand => 10000
  | .million => 1000000

end Denominator

/-- The part of the traffic that a route admits. -/
structure Fraction where
  numerator : UInt32
  denominator : Denominator
deriving DecidableEq, Repr

namespace Fraction

/-- The fraction of a declaration whose denominator has a known name. -/
def compile (spec : FractionSpec) : Except ConfigCause Fraction :=
  (fun denominator => { numerator := spec.numerator, denominator }) <$>
    Denominator.ofName spec.denominator

/-- A sample is admitted if it is below the numerator. -/
def admits (fraction : Fraction) (sample : UInt32) : Bool :=
  sample < fraction.numerator

end Fraction

/-- All criteria of one route. -/
structure RequestMatcher where
  path : PathMatcher
  caseSensitive : Bool
  headers : List HeaderMatcher
  fraction : Option Fraction

namespace RequestMatcher

/-- The criteria of a route, of which the first bad one decides the fault. -/
def compile (route : RouteSpec) : Except ConfigCause RequestMatcher := do
  let path ← PathMatcher.compile route.path
  let headers ← route.headers.mapM HeaderMatcher.compile
  let fraction ← match route.fraction with
    | some fraction => some <$> Fraction.compile fraction
    | none => .ok none
  return { path, caseSensitive := route.caseSensitive, headers, fraction }

/-- The path and every header of the request match. The fraction is drawn apart from this. -/
def accepts (matcher : RequestMatcher) (request : Request) : Bool :=
  matcher.path.accepts request.path matcher.caseSensitive &&
    matcher.headers.all (·.accepts request)

end RequestMatcher

end TrafficPlane
