import TrafficPlane.Proofs.PatternReading

/-!
# Reading up to a closing parenthesis

A source is read with a closing parenthesis behind it, and perhaps a dollar sign behind that. Most
readers stop before the parenthesis, and then it makes no difference to them. Where a reader fails
at the end of the source it may go on with the parenthesis in its place, and where the source ends
in a comment the comment takes what stands behind.

## Main definitions

* `OpenComment`: a comment runs on to the end of a text
* `Extends`: the answers of a reader without and with the parenthesis

## Main results

* `extends_primitive`, `readBoundary_cut`: escapes, and the one that is read otherwise
* `extends_readOpening`, `extends_readBounds`: groups and repetitions
-/

namespace TrafficPlane.Regex

open Text

/-- The text of a pattern that is written with blanks and comments has a number sign on its last
line. -/
def OpenComment (spaced : Bool) (cs : List Char) : Prop :=
  spaced = true ∧ ∃ comment, '#' :: comment <:+ cs ∧ '\n' ∉ comment

/-- The answers of a reader to a source and to the source with a closing parenthesis and `v` behind
it. No comment runs on behind the source unless `comment` holds. -/
inductive Extends (v : List Char) (comment : Prop) {α : Type} :
    Except Malformed (α × List Char) → Except Malformed (α × List Char) → Prop
  /-- The reader stops within the source. -/
  | within (a : α) (left : List Char) :
    Extends v comment (.ok (a, left)) (.ok (a, left ++ ')' :: v))
  /-- A comment at the end of the source takes what stands behind it. -/
  | swallowed (h : comment) (a : α) : Extends v comment (.ok (a, [])) (.ok (a, []))
  | failed (e e' : Malformed) : Extends v comment (.error e) (.error e')
  /-- The reader takes the parenthesis for something that it misses at the end of the source. -/
  | passed (e : Malformed) (a : α) {left : List Char} (h : left <:+ v) :
    Extends v comment (.error e) (.ok (a, left))

variable {v : List Char} {comment : Prop}

namespace OpenComment

variable {spaced : Bool}

theorem mono {left cs : List Char} (h : OpenComment spaced left) (hleft : left <:+ cs) :
    OpenComment spaced cs := by
  obtain ⟨hspaced, text, htext, hline⟩ := h
  exact ⟨hspaced, text, htext.trans hleft, hline⟩

theorem cons_iff {c : Char} {rest : List Char} : OpenComment spaced (c :: rest) ↔
    OpenComment spaced rest ∨ spaced = true ∧ c = '#' ∧ '\n' ∉ rest := by
  constructor
  · rintro ⟨hspaced, text, htext, hline⟩
    rcases List.suffix_cons_iff.mp htext with heq | htext
    · obtain ⟨rfl, rfl⟩ := List.cons.inj heq
      exact .inr ⟨hspaced, rfl, hline⟩
    · exact .inl ⟨hspaced, text, htext, hline⟩
  · rintro (h | ⟨hspaced, rfl, hline⟩)
    · exact h.mono (List.suffix_cons c rest)
    · exact ⟨hspaced, rest, List.suffix_refl _, hline⟩

end OpenComment

namespace Extends

variable {α β : Type}

theorem mono {comment' : Prop} {short long : Except Malformed (α × List Char)}
    (h : Extends v comment short long) (hcomment : comment → comment') :
    Extends v comment' short long := by
  cases h with
  | within a left => exact .within a left
  | swallowed h a => exact .swallowed (hcomment h) a
  | failed e e' => exact .failed e e'
  | passed e a hleft => exact .passed e a hleft

/-- A comment that is open behind a character is open in front of it. -/
theorem cons {spaced : Bool} {c : Char} {rest : List Char}
    {short long : Except Malformed (α × List Char)}
    (h : Extends v (OpenComment spaced rest) short long) :
    Extends v (OpenComment spaced (c :: rest)) short long :=
  h.mono fun hcomment => hcomment.mono (List.suffix_cons c rest)

theorem same {read : Reader α} (hcomment : comment) (h : Shrinks read) :
    Extends v comment (read []) (read []) := by
  cases hread : read [] with
  | error e => exact .failed e e
  | ok result =>
    obtain ⟨a, left⟩ := result
    obtain rfl := List.suffix_nil.mp (h hread)
    exact .swallowed hcomment a

theorem bind {first first' : Except Malformed (α × List Char)}
    {next : α × List Char → Except Malformed (β × List Char)} (h : Extends v comment first first')
    (hshrinks : ∀ a, Shrinks fun cs => next (a, cs))
    (hnext : ∀ a left, first = .ok (a, left) →
      Extends v comment (next (a, left)) (next (a, left ++ ')' :: v))) :
    Extends v comment (first >>= next) (first' >>= next) := by
  cases h with
  | within a left => exact hnext a left rfl
  | swallowed hcomment a => exact same hcomment (hshrinks a)
  | failed e e' => exact .failed e e'
  | passed e a hleft =>
    change Extends v comment (.error e) (next (a, _))
    cases hread : next (a, _) with
    | error e' => exact .failed e e'
    | ok result => exact .passed e result.1 ((hshrinks a hread).trans hleft)

/-- What is made of the result of a reader without reading on. -/
theorem map {first first' : Except Malformed (α × List Char)} (h : Extends v comment first first')
    (make : α → Except Malformed β) :
    Extends v comment (first >>= fun read => make read.1 >>= fun b => .ok (b, read.2))
      (first' >>= fun read => make read.1 >>= fun b => .ok (b, read.2)) := by
  refine h.bind (fun a cs b left hread => ?_) fun a left _ => ?_
  · obtain ⟨_, -, hread⟩ := bind_eq_ok_iff.mp hread
    exact suffix_of_ok hread
  · cases make a with
    | error e => exact .failed e e
    | ok b => exact .within b left

end Extends

/-! ### Blanks and comments -/

theorem skipComments_eq_nil {cs : List Char} (h : '\n' ∉ cs) : skipComments true cs = [] := by
  induction cs with
  | nil => rfl
  | cons c rest ih =>
    obtain ⟨hc, hrest⟩ := List.ne_and_not_mem_of_not_mem_cons h
    have hgoes : (c != '\n') = true := bne_iff_ne.mpr (Ne.symm hc)
    rw [skipComments, if_pos rfl, hgoes, ih hrest]

theorem readBraced_eq_error {spaced inComment : Bool} {cs : List Char} (h : '}' ∉ cs) :
    readBraced spaced inComment cs = .error {} := by
  induction cs generalizing inComment with
  | nil => rfl
  | cons c rest ih =>
    obtain ⟨hc, hrest⟩ := List.ne_and_not_mem_of_not_mem_cons h
    rw [readBraced]
    split_ifs
    · exact ih hrest
    · exact ih hrest
    · exact ih hrest
    · exact absurd ‹c = '}'›.symm hc
    · rw [ih hrest]

theorem readProperty_letter {spaced negated : Bool} {c : Char} {cs rest : List Char}
    (h : skipBlanks spaced cs = c :: rest) (hback : c ≠ '\\') (hbrace : c ≠ '{') :
    readProperty spaced negated cs = .ok (.property (.named c.toString) negated, rest) := by
  rw [readProperty, h]
  split
  · next heq => cases heq
  · next heq => exact absurd (List.cons.inj heq).1 hback
  · next heq => exact absurd (List.cons.inj heq).1 hbrace
  · next heq =>
    obtain ⟨rfl, rfl⟩ := List.cons.inj heq
    rfl

theorem boundaryName_eq_nil {spaced : Bool} {cs : List Char} (h : '\n' ∉ cs) :
    boundaryName spaced true cs = ([], []) := by
  induction cs with
  | nil => rfl
  | cons c rest ih =>
    obtain ⟨hc, hrest⟩ := List.ne_and_not_mem_of_not_mem_cons h
    have hgoes : (c != '\n') = true := bne_iff_ne.mpr (Ne.symm hc)
    rw [boundaryName, if_pos rfl, hgoes, ih hrest]

theorem takeDigits_eq_nil {spaced : Bool} {cs : List Char} (h : '\n' ∉ cs) :
    takeDigits spaced true cs = ([], []) := by
  induction cs with
  | nil => rfl
  | cons c rest ih =>
    obtain ⟨hc, hrest⟩ := List.ne_and_not_mem_of_not_mem_cons h
    have hgoes : (c != '\n') = true := bne_iff_ne.mpr (Ne.symm hc)
    rw [takeDigits, if_pos rfl, hgoes, ih hrest]

theorem dropWhile_append_close (cs : List Char) :
    (cs ++ ')' :: v).dropWhile isBlank = cs.dropWhile isBlank ++ ')' :: v := by
  induction cs with
  | nil => rfl
  | cons c rest ih =>
    rw [List.cons_append, List.dropWhile_cons, List.dropWhile_cons]
    split_ifs
    · exact ih
    · rfl

/-- A comment is open at the end of a text, be it one that starts there or one that is open
before. -/
def StaysOpen (spaced inComment : Bool) (cs : List Char) : Prop :=
  OpenComment spaced cs ∨ inComment = true ∧ '\n' ∉ cs

namespace StaysOpen

variable {spaced : Bool} {c : Char} {rest : List Char}

theorem false_iff {cs : List Char} : StaysOpen spaced false cs ↔ OpenComment spaced cs :=
  or_iff_left fun h => nomatch h.1

theorem outside_iff (hc : spaced = true → c ≠ '#') :
    StaysOpen spaced false (c :: rest) ↔ StaysOpen spaced false rest := by
  rw [false_iff, false_iff, OpenComment.cons_iff]
  exact or_iff_left fun h => hc h.1 h.2.1

theorem start_iff (hspaced : spaced = true) :
    StaysOpen spaced false ('#' :: rest) ↔ StaysOpen spaced true rest := by
  rw [false_iff, OpenComment.cons_iff, StaysOpen]
  simp [hspaced]

theorem inside_iff : StaysOpen spaced true (c :: rest) ↔ StaysOpen spaced (c != '\n') rest := by
  rw [StaysOpen, StaysOpen, OpenComment.cons_iff, List.mem_cons, not_or, bne_iff_ne]
  constructor
  · rintro ((h | ⟨-, rfl, hline⟩) | ⟨-, hc, hline⟩)
    · exact .inl h
    · exact .inr ⟨by decide, hline⟩
    · exact .inr ⟨Ne.symm hc, hline⟩
  · rintro (h | ⟨hc, hline⟩)
    · exact .inl (.inl h)
    · exact .inr ⟨rfl, Ne.symm hc, hline⟩

end StaysOpen

theorem ne_of_isBlank {c : Char} (h : isBlank c = true) : c ≠ '#' := by
  rintro rfl
  exact absurd h (by decide)

theorem staysOpen_of_takeDigits {spaced inComment : Bool} {cs : List Char}
    (h : (takeDigits spaced inComment (cs ++ ')' :: v)).2 = []) :
    StaysOpen spaced inComment cs := by
  induction cs generalizing inComment with
  | nil =>
    cases inComment with
    | false => cases spaced <;> cases h
    | true => exact .inr ⟨rfl, List.not_mem_nil⟩
  | cons c rest ih =>
    rw [List.cons_append, takeDigits] at h
    cases inComment with
    | true =>
      rw [if_pos rfl] at h
      exact StaysOpen.inside_iff.mpr (ih h)
    | false =>
      rw [if_neg Bool.false_ne_true] at h
      split_ifs at h with hblank hstart hdigit
      · have hc := ne_of_isBlank (Bool.and_eq_true_iff.mp hblank).2
        exact (StaysOpen.outside_iff fun _ => hc).mpr (ih h)
      · obtain ⟨hspaced, hstart⟩ := Bool.and_eq_true_iff.mp hstart
        obtain rfl := beq_iff_eq.mp hstart
        exact (StaysOpen.start_iff hspaced).mpr (ih h)
      · exact (StaysOpen.outside_iff (by simpa using hstart)).mpr (ih h)

/-- The name of a word edge is cut off: behind its brace are nothing but blanks and comments. -/
def EdgeCut (spaced : Bool) (cs : List Char) : Prop :=
  ∃ rest, cs = '{' :: rest ∧ skipBlanks spaced rest = []

theorem extends_readFlags {setting : FlagSetting} (cs : List Char) :
    Extends v comment (readFlags setting cs) (readFlags setting (cs ++ ')' :: v)) := by
  induction cs generalizing setting with
  | nil =>
    -- the parenthesis makes flags on their own of those that are cut off
    rw [List.nil_append, readFlags, readFlags]
    split_ifs
    · exact .failed _ _
    · exact .passed _ _ (List.suffix_refl v)
  | cons c rest ih =>
    rw [List.cons_append]
    by_cases hcolon : c = ':'
    · subst hcolon
      rw [readFlags, readFlags]
      split_ifs
      · exact .failed _ _
      · exact .within setting rest
    by_cases hclose : c = ')'
    · subst hclose
      rw [readFlags, readFlags]
      split_ifs
      · exact .failed _ _
      · exact .within _ rest
    rw [readFlags, readFlags] <;> try assumption
    split_ifs
    · exact .failed _ _
    · exact ih
    · split
      · exact ih
      · exact .failed _ _

theorem extends_readFlagged {flags : Flags} (cs : List Char) :
    Extends v comment (readFlagged flags cs) (readFlagged flags (cs ++ ')' :: v)) := by
  refine (extends_readFlags cs).bind (fun setting cs opening left h => ?_) fun setting left _ => ?_
  · simp only at h
    split_ifs at h
    all_goals
      exact suffix_of_ok h
  · simp only
    split_ifs
    · exact .within _ left
    · exact .failed _ _
    · exact .within _ left

theorem readName_eq_error {front : Bool} {cs : List Char} (h : '>' ∉ cs) :
    readName front cs = .error {} := by
  induction cs generalizing front with
  | nil => rfl
  | cons c rest ih =>
    obtain ⟨hc, hrest⟩ := List.ne_and_not_mem_of_not_mem_cons h
    rw [readName]
    · rw [ih hrest]
      split_ifs <;> rfl
    · exact fun heq => hc heq.symm

theorem extends_closeBounds {least most : Nat} (cs : List Char) :
    Extends v comment (closeBounds least most cs) (closeBounds least most (cs ++ ')' :: v)) := by
  rcases cs with _ | ⟨c, rest⟩
  · exact .failed _ _
  by_cases hbrace : c = '}'
  · subst hbrace
    rw [List.cons_append, closeBounds, closeBounds]
    split_ifs
    · exact .within _ rest
    · exact .failed _ _
  · have herror : ∀ rest, closeBounds least most (c :: rest) = .error {} := fun rest => by
      rw [closeBounds.eq_def]
      simp [hbrace]
    rw [List.cons_append, herror, herror]
    exact .failed _ _

section Behind

variable (hv : ∀ c ∈ v, c = '$')
include hv

theorem notMem_behind {c : Char} (hclose : c ≠ ')') (hdollar : c ≠ '$') : c ∉ ')' :: v :=
  fun h => (List.mem_cons.mp h).elim hclose fun h => hdollar (hv c h)

theorem skipComments_append (inComment : Bool) (cs : List Char) :
    skipComments inComment (cs ++ ')' :: v) = skipComments inComment cs ++ ')' :: v ∨
      skipComments inComment cs = [] ∧ skipComments inComment (cs ++ ')' :: v) = [] := by
  induction cs generalizing inComment with
  | nil =>
    cases inComment with
    | false => exact .inl rfl
    | true => exact .inr ⟨rfl, skipComments_eq_nil (notMem_behind hv (by decide) (by decide))⟩
  | cons c rest ih =>
    rw [List.cons_append, skipComments, skipComments]
    split_ifs
    · exact ih _
    · exact ih _
    · exact ih _
    · exact .inl rfl

theorem skipComments_append_eq_nil_iff {inComment : Bool} {cs : List Char} :
    skipComments inComment (cs ++ ')' :: v) = [] ↔
      StaysOpen true inComment cs ∧ skipComments inComment cs = [] := by
  -- character by character, both sides ask the same of the rest with the comment opened or closed
  induction cs generalizing inComment with
  | nil =>
    have hnil : ¬ OpenComment true [] := fun ⟨_, _, h, _⟩ => nomatch List.suffix_nil.mp h
    cases inComment with
    | false => exact iff_of_false nofun fun h => hnil (StaysOpen.false_iff.mp h.1)
    | true =>
      have hline : '\n' ∉ ')' :: v := notMem_behind hv (by decide) (by decide)
      simp [skipComments_eq_nil hline, skipComments, StaysOpen]
  | cons c rest ih =>
    rw [List.cons_append, skipComments, skipComments]
    cases inComment with
    | true => rw [if_pos rfl, if_pos rfl, ih, StaysOpen.inside_iff]
    | false =>
      rw [if_neg Bool.false_ne_true, if_neg Bool.false_ne_true]
      split_ifs with hblank hstart
      · rw [ih, StaysOpen.outside_iff fun _ => ne_of_isBlank hblank]
      · subst hstart
        rw [ih, StaysOpen.start_iff rfl]
      · simp

/-- The parenthesis is passed over where an open comment takes it. -/
theorem skipBlanks_append_eq_nil_iff {spaced : Bool} {cs : List Char} :
    skipBlanks spaced (cs ++ ')' :: v) = [] ↔
      OpenComment spaced cs ∧ skipBlanks spaced cs = [] := by
  cases spaced with
  | false => simp [skipBlanks, OpenComment]
  | true =>
    rw [skipBlanks, skipBlanks, ← StaysOpen.false_iff]
    exact skipComments_append_eq_nil_iff hv

/-- Blanks are passed over as without the parenthesis, unless a comment takes it. -/
theorem skipBlanks_append (spaced : Bool) (cs : List Char) :
    skipBlanks spaced (cs ++ ')' :: v) = skipBlanks spaced cs ++ ')' :: v ∨
      skipBlanks spaced cs = [] ∧ skipBlanks spaced (cs ++ ')' :: v) = [] := by
  cases spaced with
  | false => exact .inl rfl
  | true => exact skipComments_append hv false cs

/-- A reader that passes over blanks first may be looked at from there on. -/
theorem Extends.skip {α : Type} {read : Reader α} (hshrinks : Shrinks read) (spaced : Bool)
    (hread : ∀ cs, Extends v (OpenComment spaced cs) (read cs) (read (cs ++ ')' :: v)))
    (cs : List Char) : Extends v (OpenComment spaced cs) (read (skipBlanks spaced cs))
      (read (skipBlanks spaced (cs ++ ')' :: v))) := by
  rcases skipBlanks_append hv spaced cs with h | ⟨h, h'⟩
  · rw [h]
    exact (hread _).mono fun hcomment => hcomment.mono (skipBlanks_suffix spaced cs)
  · rw [h, h']
    exact same ((skipBlanks_append_eq_nil_iff hv).mp h').1 hshrinks

/-! ### Escapes -/

theorem extends_readDigits {spaced : Bool} {n : Nat} {digits : List Nat} (cs : List Char) :
    Extends v (OpenComment spaced cs) (readDigits spaced n digits cs)
      (readDigits spaced n digits (cs ++ ')' :: v)) := by
  induction n generalizing cs digits with
  | zero => exact .within digits cs
  | succ n ih =>
    cases cs with
    | nil => exact .failed _ _
    | cons c rest =>
      rw [List.cons_append, readDigits, readDigits]
      split
      · exact (Extends.skip hv shrinks_readDigits spaced ih rest).cons
      · exact .failed _ _

theorem extends_readBraced {spaced inComment : Bool} (cs : List Char) :
    Extends v comment (readBraced spaced inComment cs)
      (readBraced spaced inComment (cs ++ ')' :: v)) := by
  induction cs generalizing inComment with
  | nil =>
    have hbrace : '}' ∉ ')' :: v := notMem_behind hv (by decide) (by decide)
    rw [List.nil_append, readBraced_eq_error hbrace]
    exact .failed _ _
  | cons c rest ih =>
    rw [List.cons_append, readBraced, readBraced]
    split_ifs
    · exact ih
    · exact ih
    · exact ih
    · exact .within [] rest
    · have hrest := @ih false
      generalize readBraced spaced false rest = short at hrest ⊢
      generalize readBraced spaced false (rest ++ ')' :: v) = long at hrest ⊢
      cases hrest with
      | within content left => exact .within (c :: content) left
      | swallowed h content => exact .swallowed h (c :: content)
      | failed e e' => exact .failed e e'
      | passed e content hleft => exact .passed e (c :: content) hleft

theorem extends_readCodePoint {spaced : Bool} {width : Nat} (cs : List Char) :
    Extends v (OpenComment spaced cs) (readCodePoint spaced (width + 1) cs)
      (readCodePoint spaced (width + 1) (cs ++ ')' :: v)) := by
  have hdigits := fun cs => (@extends_readDigits v hv spaced (width + 1) [] cs).map fun digits =>
    charOfDigits digits >>= fun c => .ok (Primitive.literal c (width + 1 == 2))
  have hbraced := fun rest =>
    (@extends_readBraced v (OpenComment spaced cs) hv spaced false rest).map fun content =>
      allDigits content >>= fun digits => charOfDigits digits >>= fun c =>
        .ok (Primitive.literal c false)
  simp only [bind_assoc] at hdigits hbraced
  rcases skipBlanks_append hv spaced cs with h | ⟨h, h'⟩
  · have hsuffix := skipBlanks_suffix spaced cs
    rw [readCodePoint, readCodePoint, h]
    generalize skipBlanks spaced cs = digits at hsuffix ⊢
    rcases digits with _ | ⟨c, rest⟩
    · exact .failed _ _
    · by_cases hc : c = '{'
      · subst hc
        exact hbraced rest
      · rw [List.cons_append]
        iterate 2
          split
          · next heq => cases heq
          · next heq => exact absurd (List.cons.inj heq).1 hc
        exact (hdigits (c :: rest)).mono fun hcomment => hcomment.mono hsuffix
  · rw [readCodePoint, readCodePoint, h, h']
    exact .failed _ _

theorem extends_readProperty {spaced negated : Bool} (cs : List Char) :
    Extends v comment (readProperty spaced negated cs)
      (readProperty spaced negated (cs ++ ')' :: v)) := by
  rcases skipBlanks_append hv spaced cs with h | ⟨h, h'⟩
  · rcases hskip : skipBlanks spaced cs with _ | ⟨c, rest⟩
    · -- the parenthesis is taken for the letter of a property
      rw [readProperty, readProperty, h, hskip]
      exact .passed _ _ (List.suffix_refl v)
    · rw [hskip] at h
      by_cases hback : c = '\\'
      · subst hback
        rw [readProperty, readProperty, h, hskip]
        exact .failed _ _
      by_cases hbrace : c = '{'
      · subst hbrace
        rw [readProperty, readProperty, h, hskip]
        exact (@extends_readBraced v _ hv spaced false rest).map fun content =>
          .ok (Primitive.property (queryOfBraced content) negated)
      · rw [readProperty_letter hskip hback hbrace, readProperty_letter h hback hbrace]
        exact .within _ rest
  · rw [readProperty, readProperty, h, h']
    exact .failed _ _

theorem boundaryName_append (spaced inComment : Bool) (cs : List Char) :
    boundaryName spaced inComment (cs ++ ')' :: v) =
        ((boundaryName spaced inComment cs).1, (boundaryName spaced inComment cs).2 ++ ')' :: v) ∨
      (boundaryName spaced inComment cs).2 = [] ∧
        boundaryName spaced inComment (cs ++ ')' :: v) = boundaryName spaced inComment cs := by
  induction cs generalizing inComment with
  | nil =>
    cases inComment with
    | false =>
      left
      cases spaced <;> rfl
    | true =>
      have hline : '\n' ∉ ')' :: v := notMem_behind hv (by decide) (by decide)
      exact .inr ⟨rfl, boundaryName_eq_nil hline⟩
  | cons c rest ih =>
    rw [List.cons_append, boundaryName, boundaryName]
    split_ifs
    · exact ih _
    · exact ih _
    · exact ih _
    · rcases ih false with h | ⟨h, h'⟩
      · exact .inl (by rw [h])
      · exact .inr ⟨h, by rw [h']⟩
    · exact .inl rfl

theorem extends_readBoundary {spaced : Bool} {cs : List Char} (hcut : ¬ EdgeCut spaced cs) :
    Extends v comment (readBoundary spaced cs) (readBoundary spaced (cs ++ ')' :: v)) := by
  rcases cs with _ | ⟨c, rest⟩
  · exact .within _ []
  by_cases hc : c = '{'
  · subst hc
    rcases hskip : skipBlanks spaced rest with _ | ⟨c, inner⟩
    · exact absurd ⟨rest, rfl, hskip⟩ hcut
    have hskip' : skipBlanks spaced (rest ++ ')' :: v) = c :: (inner ++ ')' :: v) := by
      rcases skipBlanks_append hv spaced rest with h | ⟨h, -⟩
      · rw [h, hskip, List.cons_append]
      · rw [hskip] at h
        cases h
    rw [List.cons_append, readBoundary, readBoundary]
    simp only [hskip, hskip']
    split_ifs
    · rcases boundaryName_append hv spaced false (c :: inner) with h | ⟨h, h'⟩
      · rw [List.cons_append] at h
        rw [h]
        obtain ⟨name, left⟩ := boundaryName spaced false (c :: inner)
        rcases left with _ | ⟨d, left⟩
        · exact .failed _ _
        · by_cases hd : d = '}'
          · subst hd
            rw [List.cons_append]
            simp only
            split
            · exact .within _ left
            · exact .within _ left
            · exact .within _ left
            · exact .within _ left
            · exact .failed _ _
          · rw [List.cons_append]
            iterate 2
              split
              · next heq => exact absurd (List.cons.inj (Prod.mk.inj heq).2).1 hd
            exact .failed _ _
      · rw [List.cons_append] at h'
        rw [h']
        generalize boundaryName spaced false (c :: inner) = read at h ⊢
        obtain ⟨name, left⟩ := read
        obtain rfl : left = [] := h
        exact .failed _ _
    · exact .within _ _
  · have hedge : ∀ tail,
        readBoundary spaced (c :: tail) = .ok (.assertion .wordEdge, c :: tail) := by
      intro tail
      rw [readBoundary.eq_def]
      split
      · next heq => exact absurd (List.cons.inj heq).1 hc
      · rfl
    rw [List.cons_append, hedge, hedge]
    exact .within _ (c :: rest)

/-- A word edge whose name is cut off is missed by the source, and goes without its name before the
parenthesis. -/
theorem readBoundary_cut {spaced : Bool} {cs : List Char} (h : EdgeCut spaced cs) :
    readBoundary spaced cs = .error {} ∧
      (readBoundary spaced (cs ++ ')' :: v) = .error {} ∨
        readBoundary spaced (cs ++ ')' :: v) = .ok (.assertion .wordEdge, cs ++ ')' :: v)) := by
  obtain ⟨rest, rfl, hskip⟩ := h
  constructor
  · rw [readBoundary, hskip]
  · rw [List.cons_append, readBoundary]
    rcases skipBlanks_append hv spaced rest with h | ⟨-, h⟩
    · rw [h, hskip]
      exact .inr rfl
    · rw [h]
      exact .inl rfl

/-- An escape, behind its backslash, is a word edge whose name is cut off. -/
def EscapeCut (spaced : Bool) (cs : List Char) : Prop :=
  ∃ rest, cs = 'b' :: rest ∧ EdgeCut spaced rest

theorem extends_primitive {spaced : Bool} {cs : List Char} (hcut : ¬ EscapeCut spaced cs) :
    Extends v (OpenComment spaced cs) (Primitive.read spaced cs)
      (Primitive.read spaced (cs ++ ')' :: v)) := by
  rcases cs with _ | ⟨c, rest⟩
  · -- a backslash at the end makes a literal of the parenthesis
    exact .passed _ _ (List.suffix_refl v)
  by_cases hc : c ∈ ['x', 'u', 'U', 'p', 'P', 'b']
  · simp only [List.mem_cons, List.not_mem_nil, or_false] at hc
    obtain rfl | rfl | rfl | rfl | rfl | rfl := hc
    · exact (extends_readCodePoint hv rest).cons
    · exact (extends_readCodePoint hv rest).cons
    · exact (extends_readCodePoint hv rest).cons
    · exact extends_readProperty hv rest
    · exact extends_readProperty hv rest
    · exact extends_readBoundary hv fun h => hcut ⟨rest, rfl, h⟩
  · rw [List.cons_append, primitive_read_letter spaced hc, primitive_read_letter spaced hc]
    cases Primitive.read false [c] with
    | error e => exact .failed e e
    | ok read => exact .within read.1 rest

/-! ### Groups -/

theorem extends_readName {front : Bool} (cs : List Char) :
    Extends v comment (readName front cs) (readName front (cs ++ ')' :: v)) := by
  induction cs generalizing front with
  | nil =>
    have hangle : '>' ∉ ')' :: v := notMem_behind hv (by decide) (by decide)
    rw [List.nil_append, readName_eq_error hangle]
    exact .failed _ _
  | cons c rest ih =>
    rw [List.cons_append]
    by_cases hangle : c = '>'
    · subst hangle
      rw [readName, readName]
      split_ifs
      · exact .failed _ _
      · exact .within [] rest
    rw [readName, readName] <;> try assumption
    split_ifs
    · have hrest := @ih false
      generalize readName false rest = short at hrest ⊢
      generalize readName false (rest ++ ')' :: v) = long at hrest ⊢
      cases hrest with
      | within name left => exact .within (c :: name) left
      | swallowed h name => exact .swallowed h (c :: name)
      | failed e e' => exact .failed e e'
      | passed e name hleft => exact .passed e (c :: name) hleft
    · exact .failed _ _

theorem extends_readNamed {flags : Flags} {names : List (List Char)} (cs : List Char) :
    Extends v comment (readNamed flags names cs) (readNamed flags names (cs ++ ')' :: v)) := by
  refine (extends_readName hv cs).bind (fun name cs opening left h => ?_) fun name left _ => ?_
  · simp only at h
    split_ifs at h
    exact suffix_of_ok h
  · simp only
    split_ifs
    · exact .failed _ _
    · exact .within _ left

theorem extends_readOpening {flags : Flags} {names : List (List Char)} (cs : List Char) :
    Extends v (OpenComment flags.spaced cs) (readOpening flags names cs)
      (readOpening flags names (cs ++ ')' :: v)) := by
  rw [readOpening, readOpening]
  rcases skipBlanks_append hv flags.spaced cs with h | ⟨h, h'⟩
  · rw [h]
    rcases skipBlanks flags.spaced cs with _ | ⟨c, rest⟩
    · exact .within _ []
    by_cases hc : c = '?'
    · subst hc
      rcases rest with _ | ⟨d, rest⟩
      · exact extends_readFlagged []
      by_cases hname : d = '<'
      · subst hname
        exact extends_readNamed hv rest
      by_cases hP : d = 'P'
      · subst hP
        rcases rest with _ | ⟨e, rest⟩
        · exact extends_readFlagged ['P']
        by_cases hname : e = '<'
        · subst hname
          exact extends_readNamed hv rest
        · simpa [hname] using extends_readFlagged ('P' :: e :: rest)
      · simpa [hname, hP] using extends_readFlagged (d :: rest)
    · rw [List.cons_append]
      iterate 2
        split
        · next heq => exact absurd (List.cons.inj heq).1 hc
        · next heq => exact absurd (List.cons.inj heq).1 hc
        · next heq => exact absurd (List.cons.inj heq).1 hc
      exact .within _ (c :: rest)
  · -- what opens the group has been read, only what would stand in it is lost
    rw [h, h']
    exact .swallowed ((skipBlanks_append_eq_nil_iff hv).mp h').1 _

/-! ### Repetitions -/

theorem takeDigits_append (spaced inComment : Bool) (cs : List Char) :
    takeDigits spaced inComment (cs ++ ')' :: v) =
        ((takeDigits spaced inComment cs).1, (takeDigits spaced inComment cs).2 ++ ')' :: v) ∨
      (takeDigits spaced inComment cs).2 = [] ∧
        takeDigits spaced inComment (cs ++ ')' :: v) = takeDigits spaced inComment cs := by
  induction cs generalizing inComment with
  | nil =>
    cases inComment with
    | false =>
      left
      cases spaced <;> rfl
    | true =>
      have hline : '\n' ∉ ')' :: v := notMem_behind hv (by decide) (by decide)
      exact .inr ⟨rfl, takeDigits_eq_nil hline⟩
  | cons c rest ih =>
    rw [List.cons_append, takeDigits, takeDigits]
    split_ifs
    · exact ih _
    · exact ih _
    · exact ih _
    · rcases ih false with h | ⟨h, h'⟩
      · exact .inl (by rw [h])
      · exact .inr ⟨h, by rw [h']⟩
    · exact .inl rfl

theorem extends_readCount {spaced : Bool} (cs : List Char) :
    Extends v (OpenComment spaced cs) (readCount spaced cs) (readCount spaced (cs ++ ')' :: v)) := by
  rw [readCount, readCount, dropWhile_append_close]
  simp only
  rcases takeDigits_append hv spaced false (cs.dropWhile isBlank) with h | ⟨h, h'⟩
  · rw [h]
    simp only
    split_ifs
    · exact .failed _ _
    · rw [dropWhile_append_close]
      exact .within _ _
  · rw [h', h]
    have hcomment : OpenComment spaced (cs.dropWhile isBlank) :=
      StaysOpen.false_iff.mp (staysOpen_of_takeDigits ((congrArg Prod.snd h').trans h))
    split_ifs
    · exact .failed _ _
    · exact .swallowed (hcomment.mono (List.dropWhile_suffix _)) _

theorem extends_readMost {spaced : Bool} {least : Nat} (cs : List Char) :
    Extends v (OpenComment spaced cs) (readMost spaced least cs)
      (readMost spaced least (cs ++ ')' :: v)) := by
  have hmost : ∀ cs, Extends v (OpenComment spaced cs)
      (readCount spaced cs >>= fun read => closeBounds least read.1 read.2)
      (readCount spaced (cs ++ ')' :: v) >>= fun read => closeBounds least read.1 read.2) :=
    fun cs => (extends_readCount hv cs).bind (fun _ => shrinks_closeBounds)
      fun _ left _ => extends_closeBounds left
  rcases cs with _ | ⟨c, rest⟩
  · exact .failed _ _
  by_cases hbrace : c = '}'
  · subst hbrace
    exact .within _ rest
  by_cases hcomma : c = ','
  · subst hcomma
    rw [List.cons_append, readMost, readMost]
    rcases skipBlanks_append hv spaced rest with h | ⟨h, h'⟩
    · have hsuffix := skipBlanks_suffix spaced rest
      rw [h]
      generalize skipBlanks spaced rest = count at hsuffix ⊢
      have hcount := (hmost count).mono fun hcomment => hcomment.mono hsuffix
      rcases count with _ | ⟨d, rest⟩
      · exact hcount.cons
      by_cases hbrace : d = '}'
      · subst hbrace
        exact .within _ rest
      · rw [List.cons_append]
        iterate 2
          split
          · next heq => exact absurd (List.cons.inj heq).1 hbrace
        exact hcount.cons
    · rw [h, h']
      exact .failed _ _
  · rw [readMost.eq_def, readMost.eq_def]
    simpa [hbrace, hcomma] using Extends.failed _ _

theorem extends_readBounds {spaced : Bool} (cs : List Char) :
    Extends v (OpenComment spaced cs) (readBounds spaced cs) (readBounds spaced (cs ++ ')' :: v)) :=
  (Extends.skip hv shrinks_readCount spaced (extends_readCount hv) cs).bind
    (fun _ => shrinks_readMost) fun _ left h => (extends_readMost hv left).mono fun hcomment =>
      hcomment.mono ((shrinks_readCount h).trans (skipBlanks_suffix spaced cs))

end Behind

end TrafficPlane.Regex
