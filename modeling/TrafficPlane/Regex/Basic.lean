import TrafficPlane.Fault
import TrafficPlane.Regex.Parse

/-!
# Regular expressions

A regular expression of a spec, checked and ready to test values. It has to match the whole of a
value, so the source is read with an assertion at each end.

## Main definitions

* `CompiledRegex`: a source with its pattern
* `CompiledRegex.compile`: checks a declared regular expression
* `CompiledRegex.accepts`: the expression matches a value
-/

namespace TrafficPlane

open Regex

/-- A regular expression that has been checked. -/
structure CompiledRegex where
  source : String
  pattern : Pattern Atom

/-- The source with an assertion at each end. -/
def anchored (source : String) : List Char :=
  "^(?:".toList ++ source.toList ++ ")$".toList

/-- Checks the engine and the source of a declared regular expression. -/
def CompiledRegex.compile (spec : RegexSpec) : Except ConfigCause CompiledRegex :=
  if spec.engine ≠ "re2" then .error (.unsupportedEngine spec.engine)
  else if spec.source = "" then .error .emptyRegex
  else match parse (anchored spec.source) with
    | .ok pattern => .ok { source := spec.source, pattern }
    | .error _ => .error (.invalidRegex spec.source)

/-- The expression matches the value. -/
def CompiledRegex.accepts (regex : CompiledRegex) (value : String) : Bool :=
  regex.pattern.occursIn value.toList

end TrafficPlane
