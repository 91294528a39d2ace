import TrafficPlane.Proofs.PatternEnclosed
import TrafficPlane.Proofs.PatternMeaning
import TrafficPlane.Proofs.Rendering

/-!
# Anchored sources

The source of an expression is checked, and tested on values, with a group around it and an
assertion at each end, while proxies get the bare source. Both have the same meaning unless the
source ends that group by itself or takes what stands behind it for a part of a comment.

## Main definitions

* `Regex.readPattern`: the pattern that a source denotes by itself
* `Regex.Overcloses`: the source closes more groups than it opens
* `Regex.EndsInComment`: the source ends in a comment
* `Regex.Pattern.TakesWhole`: the pattern takes the whole of a value

## Main results

* `Regex.EndsInComment.meetsComment`, `Regex.endsInComment_of_reads`: where such a comment stands
* `Regex.readPattern_anchored_cases`: what becomes of a source that is anchored
* `CompiledRegex.compile_iff_wellFormed`: which expressions compile, and which values they accept
* `CompiledRegex.compile_endsInComment`: an expression that ends in a comment does not compile
-/

namespace TrafficPlane

open Regex

namespace Regex

/-- The pattern that a source denotes by itself, however deeply it nests. -/
def readPattern (source : List Char) : Except Malformed (Nested (Pattern Atom)) :=
  Parse.run (source.length + 1) { rest := source }

theorem parse_eq_ok_iff {text : List Char} {pattern : Pattern Atom} : parse text = .ok pattern ↔
    ∃ p, readPattern text = .ok p ∧ p.depth ≤ maxDepth ∧ p.value = pattern := by
  have hread : Parse.run (text.length + 1) { rest := text } = readPattern text := rfl
  rw [parse, hread]
  cases readPattern text with
  | error e => simp
  | ok p =>
    simp only [Except.ok.injEq, exists_eq_left']
    split_ifs with h <;> simp [h]

/-- A source that closes more groups than it opens. -/
def Overcloses (source : List Char) : Prop :=
  Parse.Overcloses { rest := source }

/-- A well-formed source that ends in a comment: it stays well-formed with what closes a group and
ends a text behind it. -/
def EndsInComment (source : List Char) : Prop :=
  (∃ p, readPattern source = .ok p) ∧ ∃ p, readPattern (source ++ [')', '$']) = .ok p

theorem Overcloses.not_wellFormed {source : List Char} (h : Overcloses source) :
    readPattern source = .error {} :=
  Parse.Overcloses.run h

/-! ### Reading anchored sources -/

/-- The group around an anchored source. -/
def anchorGroup : OpenGroup × Flags :=
  (OpenGroup.push {} { pattern := .atom (.look .textStart) }, {})

/-- The pattern between an assertion at each end. -/
def anchoredPattern (p : Nested (Pattern Atom)) : Nested (Pattern Atom) where
  value := .cat (.atom (.look .textStart)) (.cat p.value (.atom (.look .textEnd)))
  depth := p.depth + 2

theorem readPattern_anchored {source : String} : readPattern (anchored source) =
    Parse.run (source.toList.length + 5)
      (Parse.enclosed { rest := source.toList } ['$'] [anchorGroup]) := by
  have htext : anchored source = '^' :: '(' :: '?' :: ':' :: (source.toList ++ [')', '$']) := by
    rfl
  have hcaret : ∀ n rest, Parse.run (n + 1) { rest := '^' :: rest } =
      Parse.run n { rest, group := anchorGroup.1 } := fun n rest => by
    rw [Parse.run_cons (c := '^') rfl]
    rfl
  have hopen : ∀ n rest,
      Parse.run (n + 1) { rest := '(' :: '?' :: ':' :: rest, group := anchorGroup.1 } =
        Parse.run n { rest, outer := [anchorGroup] } := fun n rest => by
    rw [Parse.run_cons (c := '(') rfl]
    rfl
  rw [readPattern, htext]
  simp only [List.length_cons, List.length_append, List.length_nil, hcaret, hopen]
  rfl

/-- A dollar sign at the end of a text is an assertion. -/
theorem Parse.run_dollar {s : Parse} {n : Nat} (hrest : s.rest = ['$']) (hflags : s.flags = {}) :
    Parse.run (n + 2) s = Parse.ended { s with
      group := s.group.push { pattern := .atom (.look .textEnd) } } := by
  obtain ⟨rest, flags, names, group, outer⟩ := s
  obtain rfl : flags = {} := hflags
  obtain rfl : rest = ['$'] := hrest
  rw [Parse.run_cons (c := '$') rfl]
  change Parse.run (n + 1)
    { rest := [], names, group := group.push { pattern := .atom (.look .textEnd) }, outer } = _
  exact Parse.run_nil rfl

/-- The three ways in which reading a source ends: by itself, with a parenthesis and a dollar sign
behind it, and anchored. -/
theorem Parse.RunEnclosed.anchored {start : Parse}
    {short : Except Malformed (Nested (Pattern Atom))}
    {long : List (OpenGroup × Flags) → Except Malformed (Nested (Pattern Atom))}
    (h : Parse.RunEnclosed ['$'] start short long) :
    (∃ p, short = .ok p ∧ long [] = .error {} ∧ long [anchorGroup] = .ok (anchoredPattern p)) ∨
      (∃ p, short = .ok p ∧ long [] = .ok p ∧ long [anchorGroup] = .error {} ∧
        ∃ t, start.MeetsComment t ∧ t.outer = []) ∨
      short = .error {} ∧ long [anchorGroup] = .error {} := by
  have hdollar : ∀ c ∈ ['$'], c = '$' := fun c hc => List.mem_singleton.mp hc
  cases h with
  | closed s hn =>
    obtain ⟨n, rfl⟩ := Nat.exists_eq_add_of_le' hn
    simp only [Parse.enclosed, Parse.closeGroup, Parse.ended]
    cases houter : s.outer with
    | nil =>
      -- the parenthesis ends the group around the source, and the dollar sign follows in its place
      left
      refine ⟨s.group.finish, rfl, rfl, ?_⟩
      let group := s.group.finish
      change Parse.run (n + 2)
        { rest := ['$'], names := s.names,
          group := anchorGroup.1.push { pattern := group.value, depth := 1 + group.depth } } = _
      rw [Parse.run_dollar rfl rfl]
      have hdepth : 1 + max (max 0 (1 + group.depth)) 0 = group.depth + 2 := by omega
      exact congrArg (fun depth => Except.ok (Nested.mk (anchoredPattern group).value depth)) hdepth
    | cons frame outer =>
      -- the parenthesis ends a group of the source, and the one around it stays open
      right; right
      refine ⟨rfl, Parse.run_behind hdollar ?_ (List.suffix_refl _)⟩
      exact List.append_ne_nil_of_right_ne_nil _ (List.cons_ne_nil _ _)
  | swallowed s hmeets =>
    simp only [Parse.ended]
    cases houter : s.outer with
    | nil => exact .inr (.inl ⟨s.group.finish, rfl, rfl, rfl, s, hmeets, houter⟩)
    | cons frame outer => exact .inr (.inr ⟨rfl, rfl⟩)
  | failed h => exact .inr (.inr ⟨rfl, h [anchorGroup] (List.cons_ne_nil _ _)⟩)

theorem readPattern_behind (source : List Char) : readPattern (source ++ [')', '$']) =
    Parse.run (source.length + 5) (Parse.enclosed { rest := source } ['$'] []) :=
  Parse.run_fuel (Nat.lt_succ_self _) (by simp)

theorem readPattern_cases (source : List Char) : Overcloses source ∨
    Parse.RunEnclosed ['$'] { rest := source } (readPattern source) fun frames =>
      Parse.run (source.length + 5) (Parse.enclosed { rest := source } ['$'] frames) :=
  Parse.run_enclosed (fun _ hc => List.mem_singleton.mp hc) (Nat.lt_succ_self _)
    (by simp : source.length + (['$'].length + 1) < source.length + 5)

/-- What becomes of a source that is read between the assertions of both ends. -/
theorem readPattern_anchored_cases (source : String) :
    Overcloses source.toList ∨
      (∃ p, readPattern source.toList = .ok p ∧ ¬ EndsInComment source.toList ∧
        readPattern (anchored source) = .ok (anchoredPattern p)) ∨
      (EndsInComment source.toList ∧ readPattern (anchored source) = .error {}) ∨
      readPattern source.toList = .error {} ∧ readPattern (anchored source) = .error {} := by
  rw [readPattern_anchored, EndsInComment, readPattern_behind]
  rcases readPattern_cases source.toList with h | h
  · exact .inl h
  · right
    rcases h.anchored with ⟨p, hp, hopen, hlong⟩ | ⟨p, hp, hopen, hlong, -⟩ | ⟨hshort, hlong⟩
    · refine .inl ⟨p, hp, ?_, hlong⟩
      rintro ⟨-, q, hq⟩
      rw [hopen] at hq
      cases hq
    · exact .inr (.inl ⟨⟨⟨p, hp⟩, p, hopen⟩, hlong⟩)
    · exact .inr (.inr ⟨hshort, hlong⟩)

/-! ### Sources that end in a comment -/

/-- Reading a source that ends in a comment comes, in the mode for comments, to a place with a number
sign on the last line, and ends there or with the next element, with no group open. -/
theorem EndsInComment.meetsComment {source : List Char} (h : EndsInComment source) :
    ∃ t, Parse.MeetsComment { rest := source } t ∧ t.outer = [] := by
  obtain ⟨⟨p, hp⟩, q, hq⟩ := h
  rw [readPattern_behind] at hq
  rcases readPattern_cases source with h | h
  · rw [h.not_wellFormed] at hp
    cases hp
  · -- of the three ways to end, only that with a comment takes the source both alone and longer
    rcases h.anchored with ⟨-, -, h, -⟩ | ⟨-, -, -, -, h⟩ | ⟨h, -⟩
    · rw [h] at hq
      cases hq
    · exact h
    · rw [h] at hp
      cases hp

/-- A source without a number sign on its last line ends in no comment. -/
theorem EndsInComment.openComment {source : List Char} (h : EndsInComment source) :
    OpenComment true source := by
  obtain ⟨t, ⟨u, hreads, hcomment, -⟩, -⟩ := h.meetsComment
  obtain ⟨-, text, htext, hline⟩ := hcomment
  exact ⟨rfl, text, htext.trans (Parse.rest_suffix_of_reads hreads), hline⟩

/-- A source ends in a comment if reading comes, in the mode for comments and with no group open, to
a place where only blanks and comments are left, the last of them without an end. -/
theorem endsInComment_of_reads {source : List Char} {t : Parse}
    (hreads : Relation.ReflTransGen Parse.Steps { rest := source } t)
    (hcomment : OpenComment t.flags.spaced t.rest)
    (hblanks : skipBlanks t.flags.spaced t.rest = []) (houter : t.outer = []) :
    EndsInComment source := by
  have hdollar : ∀ c ∈ ['$'], c = '$' := fun c hc => List.mem_singleton.mp hc
  have hleft : t.rest ≠ [] := by
    obtain ⟨-, text, htext, -⟩ := hcomment
    exact List.ne_nil_of_mem (htext.subset List.mem_cons_self)
  constructor
  · -- alone, the source ends where reading has come to
    refine ⟨t.group.finish, (Parse.run_of_reads hreads (Nat.lt_succ_self _)
      (Nat.lt_succ_self _)).trans ((Parse.run_nil hblanks).trans ?_)⟩
    rw [Parse.ended, houter]
    rfl
  · -- with a text behind it reading comes there too, and the comment takes that text
    rw [readPattern_behind]
    refine ⟨t.group.finish, (Parse.run_of_reads (Parse.reads_enclosed hdollar hreads hleft [])
      (by simp [Parse.enclosed]) (Nat.lt_succ_self _)).trans ((Parse.run_nil ?_).trans ?_)⟩
    · exact (skipBlanks_append_eq_nil_iff hdollar).mpr ⟨hcomment, hblanks⟩
    · simp [Parse.ended, Parse.enclosed, houter]

/-! ### Values taken whole -/

namespace Pattern

/-- The pattern takes the whole of the value. -/
def TakesWhole (p : Pattern Atom) (value : String) : Prop :=
  p.Spans value.toList 0 value.toList.length

variable {text : List Char} {i : Nat}

theorem holdsAt_textStart (hi : i ≤ text.length) : Assertion.textStart.HoldsAt text i ↔ i = 0 := by
  rw [Assertion.HoldsAt, Assertion.holds]
  split_ifs with h
  · simp [h]
  · have hbefore : i - 1 < text.length := by omega
    simp [h, hbefore]

theorem holdsAt_textEnd (hi : i ≤ text.length) :
    Assertion.textEnd.HoldsAt text i ↔ i = text.length := by
  rw [Assertion.HoldsAt, Assertion.holds, Option.isNone_iff_eq_none, List.getElem?_eq_none_iff]
  exact ⟨fun h => Nat.le_antisymm hi h, fun h => h.ge⟩

/-- With an assertion at each end, a pattern occurs only where it takes the whole. -/
theorem anchored_occursIn_iff {p : Nested (Pattern Atom)} {value : String} :
    (anchoredPattern p).value.occursIn value.toList ↔ p.value.TakesWhole value := by
  rw [occursIn_iff]
  constructor
  · rintro ⟨i, hi, j, k, ⟨rfl, hstart⟩, l, hspans, rfl, hend⟩
    obtain ⟨-, hl⟩ := leadsOn_spans p.value i l hi hspans
    obtain rfl := (holdsAt_textStart hi).mp hstart
    obtain rfl := (holdsAt_textEnd hl).mp hend
    exact hspans
  · intro hspans
    exact ⟨0, Nat.zero_le _, value.toList.length, 0,
      ⟨rfl, (holdsAt_textStart (Nat.zero_le _)).mpr rfl⟩, value.toList.length, hspans, rfl,
      (holdsAt_textEnd (Nat.le_refl _)).mpr rfl⟩

end Pattern

end Regex

namespace CompiledRegex

variable {spec : RegexSpec}

/-- A source that neither closes more groups than it opens nor ends in a comment compiles if it is
well-formed by itself, and the expression accepts the values that the source takes whole. It may
nest as deeply as a pattern may less the two levels that anchoring adds. -/
theorem compile_iff_wellFormed (hengine : spec.engine = "re2") (hsource : spec.source ≠ "")
    (hgroups : ¬ Overcloses spec.source.toList) (hcomment : ¬ EndsInComment spec.source.toList) :
    ((∃ regex, compile spec = .ok regex) ↔
        ∃ p, readPattern spec.source.toList = .ok p ∧ p.depth + 2 ≤ maxDepth) ∧
      ∀ regex, compile spec = .ok regex → regex.render.source = spec.source ∧
        ∃ p, readPattern spec.source.toList = .ok p ∧
          ∀ value, regex.accepts value ↔ p.value.TakesWhole value := by
  have hcompile : ∀ regex, compile spec = .ok regex ↔ regex.source = spec.source ∧
      ∃ p, readPattern (anchored spec.source) = .ok p ∧ p.depth ≤ maxDepth ∧
        p.value = regex.pattern := by
    intro regex
    rw [compile_eq_ok_iff, Checked, parse_eq_ok_iff]
    constructor
    · rintro ⟨-, -, hregex, h⟩
      exact ⟨hregex, hregex ▸ h⟩
    · rintro ⟨hregex, h⟩
      exact ⟨hengine, hsource, hregex, hregex ▸ h⟩
  simp only [hcompile]
  rcases readPattern_anchored_cases spec.source with h | ⟨p, hp, -, hlong⟩ | ⟨h, -⟩ | ⟨h, hlong⟩
  · exact absurd h hgroups
  · simp only [hp, hlong, Except.ok.injEq, exists_eq_left']
    constructor
    · constructor
      · rintro ⟨regex, -, hdepth, -⟩
        exact hdepth
      · exact fun hdepth => ⟨⟨spec.source, (anchoredPattern p).value⟩, rfl, hdepth, rfl⟩
    · rintro regex ⟨hregex, -, hpattern⟩
      refine ⟨hregex, fun value => ?_⟩
      rw [accepts, ← hpattern, Pattern.anchored_occursIn_iff]
  · exact absurd h hcomment
  · simp [h, hlong]

theorem compile_iff_wellFormed_branches :
    ¬ Overcloses "a|b".toList ∧ ¬ EndsInComment "a|b".toList ∧
      ∃ regex, compile { source := "a|b" } = .ok regex ∧ regex.accepts "b" ∧
        ¬ regex.accepts "ab" := by
  have hgroups : ¬ Overcloses "a|b".toList := fun h => nomatch h.not_wellFormed
  have hcomment : ¬ EndsInComment "a|b".toList := fun ⟨_, _, h⟩ => nomatch h
  obtain ⟨hcompiles, haccepts⟩ :=
    @compile_iff_wellFormed { source := "a|b" } rfl (by decide) hgroups hcomment
  obtain ⟨regex, hregex⟩ := hcompiles.mpr ⟨_, rfl, by decide⟩
  obtain ⟨-, p, hp, hvalues⟩ := haccepts regex hregex
  obtain rfl := Except.ok.inj hp
  refine ⟨hgroups, hcomment, regex, hregex, (hvalues "b").mpr ?_, fun h => ?_⟩
  · exact .inr ⟨rfl, 'b', rfl, by decide⟩
  · rcases (hvalues "ab").mp h with ⟨h, -⟩ | ⟨h, -⟩ <;> cases h

/-- Not every source that compiles is well-formed: a source may end the group that anchoring puts
around it and open another one. -/
theorem not_forall_compiled_wellFormed :
    ¬ ∀ spec : RegexSpec, spec.engine = "re2" → spec.source ≠ "" →
      (∃ regex, compile spec = .ok regex) → ∃ p, readPattern spec.source.toList = .ok p := by
  intro h
  obtain ⟨p, hp⟩ := h { source := "a)|(?:b" } rfl (by decide) ⟨_, rfl⟩
  cases hp

/-- A source that ends in a comment is rejected, since the comment takes the end of the anchored
text. -/
theorem compile_endsInComment (hengine : spec.engine = "re2") (hsource : spec.source ≠ "")
    (hcomment : EndsInComment spec.source.toList) :
    compile spec = .error (.invalidRegex spec.source) := by
  have hlong : readPattern (anchored spec.source) = .error {} := by
    obtain ⟨⟨p, hp⟩, -⟩ := id hcomment
    rcases readPattern_anchored_cases spec.source with h | ⟨-, -, h, -⟩ | ⟨-, h⟩ | ⟨h, -⟩
    · rw [h.not_wellFormed] at hp
      cases hp
    · exact absurd hcomment h
    · exact h
    · rw [h] at hp
      cases hp
  have hparse : parse (anchored spec.source) = .error {} := by
    have hread : Parse.run _ { rest := anchored spec.source } = .error {} := hlong
    rw [parse, hread]
  rw [compile, if_neg (not_not_intro hengine), if_neg hsource, hparse]

example : EndsInComment "(?x)a#".toList := ⟨⟨_, rfl⟩, _, rfl⟩

end CompiledRegex

end TrafficPlane
