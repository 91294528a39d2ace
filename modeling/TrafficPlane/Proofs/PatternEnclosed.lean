import Mathlib.Logic.Relation
import TrafficPlane.Proofs.PatternBrackets

/-!
# Reading an enclosed source

The source of a pattern stands in parentheses when it is read as a part of a greater one. Reading
goes on step by step as it does for the source alone, until the source ends: then the parenthesis
ends the group, unless a comment takes it. A source that closes more groups than it opens ends the
group before.

## Main definitions

* `Parse.enclosed`: a place of reading, with the parenthesis behind the source and in more groups
* `Parse.Overcloses`: reading comes to a closing parenthesis while no group is open
* `Parse.Steps`: one step of reading
* `Parse.MeetsComment`: reading comes to a comment that is still open where the source ends

## Main results

* `Parse.step_enclosed`: what one step of reading does to the source alone and enclosed
* `Parse.run_enclosed`: how reading ends for the source alone and enclosed
* `Parse.reads_enclosed`: reading that stops before the end of the source goes on alike, enclosed
-/

namespace TrafficPlane.Regex

open Text

variable {v : List Char}

/-! ### Elements -/

theorem dropReluctance_append (cs : List Char) :
    dropReluctance (cs ++ ')' :: v) = dropReluctance cs ++ ')' :: v := by
  rcases cs with _ | ⟨c, rest⟩
  · rfl
  · by_cases hc : c = '?'
    · subst hc
      rfl
    · rw [dropReluctance.eq_def, dropReluctance.eq_def]
      simp [hc]

/-- What is missing of the name of a word edge is missing of a repetition too. -/
theorem readCount_behind {spaced : Bool} : readCount spaced (')' :: v) = .error {} := by
  cases spaced <;> rfl

/-- Most characters are elements on their own. -/
theorem readElement_alone {flags : Flags} {c : Char} (hc : c ∉ ['[', '{', '\\', '?', '*', '+'])
    (rest : List Char) :
    readElement flags c rest = (readElement flags c []).map fun read => (read.1, rest) := by
  simp only [List.mem_cons, List.not_mem_nil, or_false, not_or] at hc
  obtain ⟨hbracket, hbrace, hescape, hquestion, hstar, hplus⟩ := hc
  rw [readElement.eq_def, readElement.eq_def]
  simp only
  split
  · rfl
  · exact absurd rfl hbracket
  · exact absurd rfl hquestion
  · exact absurd rfl hstar
  · exact absurd rfl hplus
  · exact absurd rfl hbrace
  · cases flags.dot <;> rfl
  · cases flags.primitive (.assertion .lineStart) <;> rfl
  · cases flags.primitive (.assertion .lineEnd) <;> rfl
  · exact absurd rfl hescape
  · cases flags.primitive (.literal c false) <;> rfl

section Behind

variable (hv : ∀ c ∈ v, c = '$')
include hv

theorem extends_readElement {flags : Flags} {c : Char} {cs : List Char}
    (hcut : c = '\\' → ¬ EscapeCut flags.spaced cs) :
    Extends v (OpenComment flags.spaced cs) (readElement flags c cs)
      (readElement flags c (cs ++ ')' :: v)) := by
  have hrepeat : ∀ least most, Extends v (OpenComment flags.spaced cs)
      (.ok (Change.repeatLast least most, dropReluctance cs))
      (.ok (Change.repeatLast least most, dropReluctance (cs ++ ')' :: v))) := by
    intro least most
    rw [dropReluctance_append]
    exact .within _ _
  by_cases hbracket : c = '['
  · subst hbracket
    exact (extends_readBracket hv cs).map fun cls =>
      .ok (Change.push (.ofClass cls.value) cls.depth)
  by_cases hbrace : c = '{'
  · subst hbrace
    refine (extends_readBounds hv cs).bind (fun bounds cs change left h => ?_)
      fun bounds left hbounds => ?_
    · exact (suffix_of_ok h).trans ((dropReluctance_suffix _).trans (skipBlanks_suffix _ _))
    · simp only
      rcases skipBlanks_append hv flags.spaced left with h | ⟨h, h'⟩
      · rw [h, dropReluctance_append]
        exact .within _ _
      · have hcomment := ((skipBlanks_append_eq_nil_iff hv).mp h').1
        rw [h, h']
        exact .swallowed (hcomment.mono (shrinks_readBounds hbounds)) _
  by_cases hescape : c = '\\'
  · subst hescape
    have hprimitive := (extends_primitive hv (hcut rfl)).map fun escape =>
      flags.primitive escape >>= fun pattern => .ok (Change.push pattern 0)
    simp only [bind_assoc] at hprimitive
    exact hprimitive
  by_cases hrepetition : c ∈ ['?', '*', '+']
  · simp only [List.mem_cons, List.not_mem_nil, or_false] at hrepetition
    obtain rfl | rfl | rfl := hrepetition
    · exact hrepeat 0 (some 1)
    · exact hrepeat 0 none
    · exact hrepeat 1 none
  have hc : c ∉ ['[', '{', '\\', '?', '*', '+'] := by
    simp only [List.mem_cons, List.not_mem_nil, or_false, not_or] at hrepetition ⊢
    exact ⟨hbracket, hbrace, hescape, hrepetition⟩
  rw [readElement_alone hc cs, readElement_alone hc (cs ++ ')' :: v)]
  cases readElement flags c [] with
  | error e => exact .failed e e
  | ok read => exact .within read.1 cs

end Behind

namespace Parse

/-! ### Reading to the end -/

/-- What is read where the source ends. -/
def ended (s : Parse) : Except Malformed (Nested (Pattern Atom)) :=
  if s.outer.isEmpty then .ok s.group.finish else .error {}

variable {s : Parse} {n : Nat} {c : Char} {rest : List Char}

theorem run_nil (h : skipBlanks s.flags.spaced s.rest = []) : run (n + 1) s = s.ended := by
  rw [run, h]
  rfl

theorem run_rest_nil (h : s.rest = []) : run (n + 1) s = s.ended :=
  run_nil (List.suffix_nil.mp (h ▸ skipBlanks_suffix s.flags.spaced s.rest))

theorem run_cons (h : skipBlanks s.flags.spaced s.rest = c :: rest) :
    run (n + 1) s = s.step c rest >>= run n := by
  rw [run, h]
  simp only
  cases s.step c rest <;> rfl

/-- More steps than there are characters make no difference. -/
theorem run_fuel {m : Nat} (hn : s.rest.length < n) (hm : s.rest.length < m) :
    run n s = run m s := by
  induction n generalizing s m with
  | zero => exact absurd hn (Nat.not_lt_zero _)
  | succ n ih =>
    cases m with
    | zero => exact absurd hm (Nat.not_lt_zero _)
    | succ m =>
      have hlength := (skipBlanks_suffix s.flags.spaced s.rest).length_le
      rcases hblanks : skipBlanks s.flags.spaced s.rest with _ | ⟨c, rest⟩
      · rw [run_nil hblanks, run_nil hblanks]
      · rw [hblanks, List.length_cons] at hlength
        rw [run_cons hblanks, run_cons hblanks]
        cases hstep : s.step c rest with
        | error e => rfl
        | ok s' =>
          have hleft := (step_suffix hstep).length_le
          exact ih (by omega) (by omega)

/-- A group that is open needs a closing parenthesis. -/
theorem run_eq_error (houter : s.outer ≠ []) (hrest : ')' ∉ s.rest) : run n s = .error {} := by
  induction n generalizing s with
  | zero => rfl
  | succ n ih =>
    have hskip := skipBlanks_suffix s.flags.spaced s.rest
    rcases hblanks : skipBlanks s.flags.spaced s.rest with _ | ⟨c, rest⟩
    · rw [run_nil hblanks, ended, if_neg (by simpa using houter)]
    · rw [hblanks] at hskip
      rw [run_cons hblanks]
      cases hstep : s.step c rest with
      | error e => rfl
      | ok s' =>
        have hclose : c ≠ ')' := fun hc => hrest (hskip.subset (hc ▸ List.mem_cons_self))
        refine ih (fun h => houter ?_) fun h => hrest (hskip.subset ?_)
        · exact List.suffix_nil.mp (h ▸ step_outer hstep hclose)
        · exact List.mem_cons_of_mem _ ((step_suffix hstep).subset h)

/-- Reading comes to a closing parenthesis while no group is open. -/
inductive Overcloses : Parse → Prop
  | here {s : Parse} {rest : List Char} (h : skipBlanks s.flags.spaced s.rest = ')' :: rest)
      (houter : s.outer = []) : Overcloses s
  | later {s s' : Parse} {c : Char} {rest : List Char}
      (h : skipBlanks s.flags.spaced s.rest = c :: rest) (hstep : s.step c rest = .ok s')
      (hlater : Overcloses s') : Overcloses s

theorem Overcloses.run (h : s.Overcloses) : run n s = .error {} := by
  induction h generalizing n with
  | here h houter =>
    cases n with
    | zero => rfl
    | succ n =>
      rw [run_cons h, step, closeGroup, houter]
      rfl
  | later h hstep _ ih =>
    cases n with
    | zero => rfl
    | succ n =>
      rw [run_cons h, hstep]
      exact ih

/-- One step of reading. -/
def Steps (s t : Parse) : Prop :=
  ∃ c rest, skipBlanks s.flags.spaced s.rest = c :: rest ∧ s.step c rest = .ok t

/-- Reading comes from `s` to a comment that is still open where the source ends, and it ends at `t`,
there or after one more element that takes the comment with it. -/
def MeetsComment (s t : Parse) : Prop :=
  ∃ u, Relation.ReflTransGen Steps s u ∧ OpenComment u.flags.spaced u.rest ∧
    Relation.ReflGen Steps u t ∧ skipBlanks t.flags.spaced t.rest = []

/-- An element that takes all that is left, an open comment with it, ends reading there. -/
theorem meetsComment_of_step {t : Parse} (hblanks : skipBlanks s.flags.spaced s.rest = c :: rest)
    (hstep : s.step c rest = .ok t) (hcomment : OpenComment s.flags.spaced rest)
    (hrest : t.rest = []) : s.MeetsComment t := by
  have hsuffix : rest <:+ s.rest :=
    (List.suffix_cons c rest).trans (hblanks ▸ skipBlanks_suffix s.flags.spaced s.rest)
  refine ⟨s, .refl, hcomment.mono hsuffix, .single ⟨c, rest, hblanks, hstep⟩, ?_⟩
  rw [hrest]
  exact List.suffix_nil.mp (skipBlanks_suffix _ [])

theorem Steps.rest_length {t : Parse} (h : Steps s t) : t.rest.length < s.rest.length := by
  obtain ⟨c, rest, hblanks, hstep⟩ := h
  have hlength := (skipBlanks_suffix s.flags.spaced s.rest).length_le
  rw [hblanks, List.length_cons] at hlength
  exact Nat.lt_of_le_of_lt (step_suffix hstep).length_le hlength

theorem rest_suffix_of_reads {t : Parse} (h : Relation.ReflTransGen Steps s t) :
    t.rest <:+ s.rest := by
  induction h with
  | refl => exact List.suffix_refl _
  | tail _ hstep ih =>
    obtain ⟨c, rest, hblanks, hstep⟩ := hstep
    exact ((step_suffix hstep).trans (List.suffix_cons c rest)).trans
      ((hblanks ▸ skipBlanks_suffix _ _).trans ih)

/-- Reading ends as it does from any place that it comes to. -/
theorem run_of_reads {t : Parse} {m : Nat} (h : Relation.ReflTransGen Steps s t)
    (hn : s.rest.length < n) (hm : t.rest.length < m) : run n s = run m t := by
  induction h using Relation.ReflTransGen.head_induction_on generalizing n with
  | refl => exact run_fuel hn hm
  | head hstep _ ih =>
    have hlength := hstep.rest_length
    obtain ⟨c, rest, hblanks, hstep⟩ := hstep
    obtain ⟨n, rfl⟩ := Nat.exists_eq_succ_of_ne_zero (by omega : n ≠ 0)
    rw [run_cons hblanks, hstep]
    exact ih (by omega)

/-- The same place of reading with a closing parenthesis and `v` behind the source, within more
groups. -/
def enclosed (s : Parse) (v : List Char) (frames : List (OpenGroup × Flags)) : Parse :=
  { s with rest := s.rest ++ ')' :: v, outer := s.outer ++ frames }

/-- The steps of reading a source, alone and with the parenthesis behind it. No comment runs on behind
the source unless `comment` holds. -/
inductive StepEnclosed (v : List Char) (comment : Prop) :
    Except Malformed Parse → (List (OpenGroup × Flags) → Except Malformed Parse) → Prop
  | within (s : Parse) : StepEnclosed v comment (.ok s) fun frames => .ok (s.enclosed v frames)
  /-- A comment takes the parenthesis. -/
  | swallowed (hcomment : comment) (s : Parse) (h : s.rest = []) :
    StepEnclosed v comment (.ok s) fun frames => .ok { s with outer := s.outer ++ frames }
  | failed {long : List (OpenGroup × Flags) → Except Malformed Parse}
      (h : ∀ frames, frames ≠ [] → ∀ s, long frames = .ok s → ∀ n, run n s = .error {}) :
    StepEnclosed v comment (.error {}) long

theorem StepEnclosed.rejected {comment : Prop}
    {long : List (OpenGroup × Flags) → Except Malformed Parse}
    (h : ∀ frames, long frames = .error {}) : StepEnclosed v comment (.error {}) long :=
  .failed fun frames _ _ hs => absurd ((h frames).symm.trans hs) nofun

/-- The end of reading a source from `start`, alone and with the parenthesis behind it. -/
inductive RunEnclosed (v : List Char) (start : Parse) : Except Malformed (Nested (Pattern Atom)) →
    (List (OpenGroup × Flags) → Except Malformed (Nested (Pattern Atom))) → Prop
  /-- The source ends before the parenthesis. -/
  | closed (s : Parse) {n : Nat} (hn : v.length < n) :
    RunEnclosed v start s.ended fun frames => (s.enclosed v frames).closeGroup v >>= run n
  /-- A comment takes the parenthesis. -/
  | swallowed (s : Parse) (h : start.MeetsComment s) :
    RunEnclosed v start s.ended fun frames => ended { s with outer := s.outer ++ frames }
  | failed {long : List (OpenGroup × Flags) → Except Malformed (Nested (Pattern Atom))}
      (h : ∀ frames, frames ≠ [] → long frames = .error {}) : RunEnclosed v start (.error {}) long

theorem RunEnclosed.head {s s' : Parse} (hstep : Steps s s')
    {short : Except Malformed (Nested (Pattern Atom))}
    {long : List (OpenGroup × Flags) → Except Malformed (Nested (Pattern Atom))}
    (h : RunEnclosed v s' short long) : RunEnclosed v s short long := by
  cases h with
  | closed t hn => exact .closed t hn
  | swallowed t h =>
    obtain ⟨u, hreads, h⟩ := h
    exact .swallowed t ⟨u, .head hstep hreads, h⟩
  | failed h => exact .failed h

section Behind

variable (hv : ∀ c ∈ v, c = '$')
include hv

theorem run_behind (hs : s.outer ≠ []) (hrest : s.rest <:+ v) : run n s = .error {} :=
  run_eq_error hs fun h => absurd (hv _ (hrest.subset h)) (by decide)

/-- A word edge whose name is cut off leaves a brace that opens no repetition. -/
theorem run_edgeCut {cs : List Char} (hcut : EdgeCut s.flags.spaced cs)
    (hrest : s.rest = cs ++ ')' :: v) : run n s = .error {} := by
  obtain ⟨rest, rfl, hskip⟩ := hcut
  have hbrace : skipBlanks s.flags.spaced s.rest = '{' :: (rest ++ ')' :: v) := by
    rw [hrest]
    cases s.flags.spaced <;> rfl
  have hbounds : readBounds s.flags.spaced (rest ++ ')' :: v) = .error {} := by
    rw [readBounds_eq]
    rcases skipBlanks_append hv s.flags.spaced rest with h | ⟨-, h⟩
    · rw [h, hskip, List.nil_append, readCount_behind]
      rfl
    · rw [h]
      cases s.flags.spaced <;> rfl
  cases n with
  | zero => rfl
  | succ n =>
    rw [run_cons hbrace, step, hbounds]
    rfl

theorem parenthesis_enclosed (s : Parse) (rest : List Char) :
    StepEnclosed v (OpenComment s.flags.spaced rest) (s.parenthesis rest) fun frames =>
      (s.enclosed v frames).parenthesis (rest ++ ')' :: v) := by
  simp only [parenthesis_eq]
  change StepEnclosed v _ _ fun frames =>
    readOpening s.flags s.names (rest ++ ')' :: v) >>= fun read => _
  have hread := @extends_readOpening v hv s.flags s.names rest
  generalize readOpening s.flags s.names rest = short at hread ⊢
  generalize readOpening s.flags s.names (rest ++ ')' :: v) = long at hread ⊢
  cases hread with
  | within opening left =>
    have happly : ∀ frames, opening.apply (s.enclosed v frames) (left ++ ')' :: v) =
        (opening.apply s left).enclosed v frames := by
      cases opening <;> exact fun _ => rfl
    simp only [bind, Except.bind, happly]
    exact .within _
  | swallowed hcomment opening =>
    have happly : ∀ frames, opening.apply (s.enclosed v frames) [] =
        { opening.apply s [] with outer := (opening.apply s []).outer ++ frames } := by
      cases opening <;> exact fun _ => rfl
    simp only [bind, Except.bind, happly]
    exact .swallowed hcomment _ (by cases opening <;> rfl)
  | failed e e' => exact .rejected fun _ => rfl
  | passed e opening hleft =>
    refine .failed fun frames hframes s' hs' n => ?_
    obtain rfl := Except.ok.inj hs'
    refine run_behind hv ?_ ?_
    · cases opening with
      | group flags name => exact List.cons_ne_nil _ _
      | setting flags => exact List.append_ne_nil_of_right_ne_nil _ hframes
    · cases opening <;> exact hleft

theorem element_enclosed (s : Parse) {c : Char} {rest : List Char}
    (hcut : c = '\\' → ¬ EscapeCut s.flags.spaced rest) :
    StepEnclosed v (OpenComment s.flags.spaced rest) (s.element c rest) fun frames =>
      (s.enclosed v frames).element c (rest ++ ')' :: v) := by
  change StepEnclosed v _ _ fun frames =>
    readElement s.flags c (rest ++ ')' :: v) >>= fun read => read.1.apply s.group >>= fun group =>
      .ok { s with rest := read.2, group, outer := s.outer ++ frames }
  rw [element]
  have hread := extends_readElement hv hcut
  generalize readElement s.flags c rest = short at hread ⊢
  generalize readElement s.flags c (rest ++ ')' :: v) = long at hread ⊢
  cases hread with
  | within change left =>
    simp only [bind, Except.bind]
    cases change.apply s.group with
    | error e => exact .rejected fun _ => rfl
    | ok group => exact .within { s with rest := left, group }
  | swallowed hcomment change =>
    simp only [bind, Except.bind]
    cases change.apply s.group with
    | error e => exact .rejected fun _ => rfl
    | ok group => exact .swallowed hcomment { s with rest := [], group } rfl
  | failed e e' => exact .rejected fun _ => rfl
  | passed e change hleft =>
    refine .failed fun frames hframes s' hs' n => ?_
    obtain ⟨_, hread, hs'⟩ := bind_eq_ok_iff.mp hs'
    obtain rfl := Except.ok.inj hread
    obtain ⟨group, -, hs'⟩ := bind_eq_ok_iff.mp hs'
    obtain rfl := Except.ok.inj hs'
    exact run_behind hv (List.append_ne_nil_of_right_ne_nil _ hframes) hleft

/-- Enclosed, the word edge may be read, but not the brace that it leaves. -/
theorem edgeCut_enclosed (s : Parse) {rest : List Char} (hcut : EdgeCut s.flags.spaced rest) :
    StepEnclosed v (OpenComment s.flags.spaced ('b' :: rest)) (s.element '\\' ('b' :: rest))
      fun frames => (s.enclosed v frames).element '\\' ('b' :: (rest ++ ')' :: v)) := by
  have helement : ∀ (s : Parse) cs, s.element '\\' ('b' :: cs) =
      readBoundary s.flags.spaced cs >>= fun read => s.flags.primitive read.1 >>= fun pattern =>
        .ok { s with rest := read.2, group := s.group.push { pattern } } := by
    intro s cs
    have hread : readElement s.flags '\\' ('b' :: cs) =
        readBoundary s.flags.spaced cs >>= fun read => s.flags.primitive read.1 >>= fun pattern =>
          .ok (.push pattern 0, read.2) := rfl
    rw [element, hread]
    simp only [bind_assoc]
    rfl
  obtain ⟨hshort, hlong⟩ := @readBoundary_cut v hv _ _ hcut
  have hflags : ∀ frames, (s.enclosed v frames).flags = s.flags := fun _ => rfl
  simp only [helement, hflags, hshort]
  refine .failed fun frames _ s' hs' n => ?_
  rcases hlong with hlong | hlong
  · rw [hlong] at hs'
    cases hs'
  · rw [hlong] at hs'
    obtain rfl := Except.ok.inj hs'
    exact run_edgeCut hv hcut rfl

/-- A step goes on alike, fails where there are groups around the source, or comes to the
parenthesis in a comment; unless it ends a group where none is open. -/
theorem step_enclosed (s : Parse) (c : Char) (rest : List Char) (hclose : c = ')' → s.outer ≠ []) :
    StepEnclosed v (OpenComment s.flags.spaced rest) (s.step c rest) fun frames =>
      (s.enclosed v frames).step c (rest ++ ')' :: v) := by
  by_cases hc : c = ')'
  · obtain ⟨⟨group, flags⟩, outer, houter⟩ := List.exists_cons_of_ne_nil (hclose hc)
    subst hc
    simp only [step, closeGroup, enclosed, houter, List.cons_append]
    exact .within { s with rest, flags, outer, group := _ }
  by_cases hopen : c = '('
  · subst hopen
    exact parenthesis_enclosed hv s rest
  · have hstep : ∀ (s : Parse) rest, s.step c rest = s.element c rest := fun _ _ =>
      step_eq hopen hc
    simp only [hstep]
    by_cases hcut : c = '\\' ∧ EscapeCut s.flags.spaced rest
    · obtain ⟨rfl, rest, rfl, hcut⟩ := hcut
      exact edgeCut_enclosed hv s hcut
    · exact element_enclosed hv s fun hc h => hcut ⟨hc, h⟩

/-- A source is read to its end, alone and with the parenthesis behind it, unless it closes more
groups than it opens. -/
theorem run_enclosed {m : Nat} (hn : s.rest.length < n)
    (hm : s.rest.length + (v.length + 1) < m) :
    s.Overcloses ∨ RunEnclosed v s (run n s) fun frames => run m (s.enclosed v frames) := by
  -- one step of both readings at a time, each with fuel for what is left of its own text
  induction n generalizing s m with
  | zero => exact absurd hn (Nat.not_lt_zero _)
  | succ n ih =>
  cases m with
  | zero => exact absurd hm (Nat.not_lt_zero _)
  | succ m =>
    have hlength := (skipBlanks_suffix s.flags.spaced s.rest).length_le
    rcases skipBlanks_append hv s.flags.spaced s.rest with h | ⟨h, h'⟩
    · rcases hblanks : skipBlanks s.flags.spaced s.rest with _ | ⟨c, rest⟩
      · right
        rw [hblanks] at h
        have hlong : ∀ frames, run (m + 1) (s.enclosed v frames) =
            (s.enclosed v frames).closeGroup v >>= run m := fun frames => by
          rw [run_cons h, step]
        simp only [hlong, run_nil hblanks]
        exact .closed s (by omega)
      · rw [hblanks, List.cons_append] at h
        rw [hblanks, List.length_cons] at hlength
        by_cases hclose : c = ')' ∧ s.outer = []
        · obtain ⟨rfl, houter⟩ := hclose
          exact .inl (.here hblanks houter)
        have hstep := step_enclosed hv s c rest fun hc houter => hclose ⟨hc, houter⟩
        generalize hbehind : (fun frames => (s.enclosed v frames).step c (rest ++ ')' :: v)) = long
          at hstep
        have hlong : ∀ frames, run (m + 1) (s.enclosed v frames) = long frames >>= run m := by
          intro frames
          rw [← hbehind, run_cons h]
        simp only [hlong, run_cons hblanks]
        generalize hshort : s.step c rest = short at hstep ⊢
        cases hstep with
        | within s' =>
          have hleft := (step_suffix hshort).length_le
          exact (ih (by omega) (by omega)).imp (.later hblanks hshort)
            (.head ⟨c, rest, hblanks, hshort⟩)
        | swallowed hcomment s' hrest =>
          obtain ⟨n, rfl⟩ := Nat.exists_eq_succ_of_ne_zero (by omega : n ≠ 0)
          obtain ⟨m, rfl⟩ := Nat.exists_eq_succ_of_ne_zero (by omega : m ≠ 0)
          have hswallowed : ∀ frames, run (m + 1) { s' with outer := s'.outer ++ frames } =
              ended { s' with outer := s'.outer ++ frames } := fun frames => run_rest_nil hrest
          simp only [bind, Except.bind, hswallowed, run_rest_nil hrest]
          exact .inr (.swallowed s' (meetsComment_of_step hblanks hshort hcomment hrest))
        | failed hfailed =>
          refine .inr (.failed fun frames hframes => ?_)
          cases hread : long frames with
          | error e => rfl
          | ok s' => exact hfailed frames hframes s' hread m
    · right
      have hlong : ∀ frames, run (m + 1) (s.enclosed v frames) = (s.enclosed v frames).ended :=
        fun frames => run_nil h'
      simp only [hlong, run_nil h]
      exact .swallowed s ⟨s, .refl, ((skipBlanks_append_eq_nil_iff hv).mp h').1, .refl, h⟩

/-- A step that leaves some of the source goes on alike, enclosed. -/
theorem Steps.enclosed {t : Parse} (h : Steps s t) (hleft : t.rest ≠ [])
    (frames : List (OpenGroup × Flags)) : Steps (s.enclosed v frames) (t.enclosed v frames) := by
  obtain ⟨c, rest, hblanks, hstep⟩ := h
  have hclose : c = ')' → s.outer ≠ [] := by
    rintro rfl houter
    rw [step, closeGroup, houter] at hstep
    cases hstep
  refine ⟨c, rest ++ ')' :: v, ?_, ?_⟩
  · rcases skipBlanks_append hv s.flags.spaced s.rest with h | ⟨h, -⟩
    · rw [← List.cons_append, ← hblanks]
      exact h
    · rw [hblanks] at h
      cases h
  · have hlong := step_enclosed hv s c rest hclose
    generalize hbehind : (fun frames => (s.enclosed v frames).step c (rest ++ ')' :: v)) = long
      at hlong
    rw [hstep] at hlong
    change (fun frames => (s.enclosed v frames).step c (rest ++ ')' :: v)) frames = _
    rw [hbehind]
    cases hlong with
    | within _ => rfl
    | swallowed _ _ hrest => exact absurd hrest hleft

/-- Reading that stops before the end of the source goes on alike, enclosed. -/
theorem reads_enclosed {t : Parse} (h : Relation.ReflTransGen Steps s t) (hleft : t.rest ≠ [])
    (frames : List (OpenGroup × Flags)) :
    Relation.ReflTransGen Steps (s.enclosed v frames) (t.enclosed v frames) := by
  induction h using Relation.ReflTransGen.head_induction_on with
  | refl => exact .refl
  | head hstep hreads ih =>
    have hrest := rest_suffix_of_reads hreads
    exact .head (hstep.enclosed hv (fun h => hleft (List.suffix_nil.mp (h ▸ hrest))) frames) ih

end Behind

end Parse

end TrafficPlane.Regex
