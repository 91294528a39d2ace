import Mathlib.Data.List.TakeWhile
import TrafficPlane.Proofs.PatternBoundary

/-!
# Classes in brackets up to a closing parenthesis

A class that ends within a source is read alike whatever stands behind the source. One that does
not end there cannot end behind it either, since there is no bracket, although a member of it may be
read into what stands there.

## Main definitions

* `Inside`: the answers of a reader of members, without and with the parenthesis
* `Alike`: the answers of a reader that goes up to the closing bracket

## Main results

* `readItems_eq_error`: without a closing bracket there is no class
* `alike_readBracket`: a class is read without and with the parenthesis alike
-/

namespace TrafficPlane.Regex

open Text

variable {v : List Char}

/-- Nothing is read, or what is left holds no closing bracket. -/
def Unclosed {α : Type} (read : Except Malformed (α × List Char)) : Prop :=
  ∀ a left, read = .ok (a, left) → ']' ∉ left

/-- The answers of a reader within a class: both go on alike, or neither comes to the closing
bracket of the class. -/
def Inside (v : List Char) {α : Type} (short long : Except Malformed (α × List Char)) : Prop :=
  (∃ a left, short = .ok (a, left) ∧ long = .ok (a, left ++ ')' :: v)) ∨
    (Unclosed short ∧ Unclosed long)

/-- The answers of a reader up to the end of a class. -/
inductive Alike (v : List Char) {α : Type} :
    Except Malformed (α × List Char) → Except Malformed (α × List Char) → Prop
  | within (a : α) (left : List Char) : Alike v (.ok (a, left)) (.ok (a, left ++ ')' :: v))
  | failed : Alike v (.error {}) (.error {})

theorem Alike.extends {α : Type} {comment : Prop} {short long : Except Malformed (α × List Char)}
    (h : Alike v short long) : Extends v comment short long := by
  cases h with
  | within a left => exact .within a left
  | failed => exact .failed _ _

theorem Alike.bind {α β : Type} {first first' : Except Malformed (α × List Char)}
    {next next' : α × List Char → Except Malformed (β × List Char)} (h : Alike v first first')
    (hnext : ∀ a left, first = .ok (a, left) →
      Alike v (next (a, left)) (next' (a, left ++ ')' :: v))) :
    Alike v (first >>= next) (first' >>= next') := by
  cases h with
  | within a left => exact hnext a left rfl
  | failed => exact .failed

theorem Unclosed.error {α : Type} {e : Malformed} :
    Unclosed (.error e : Except Malformed (α × List Char)) :=
  nofun

theorem Inside.failed {α : Type} (e e' : Malformed) :
    Inside v (.error e : Except Malformed (α × List Char)) (.error e') :=
  .inr ⟨.error, .error⟩

theorem Unclosed.bind {α β : Type} {first : Except Malformed (α × List Char)}
    {next : α × List Char → Except Malformed (β × List Char)} (h : Unclosed first)
    (hshrinks : ∀ a, Shrinks fun cs => next (a, cs)) : Unclosed (first >>= next) := by
  intro b left hread
  obtain ⟨⟨a, left'⟩, hfirst, hnext⟩ := bind_eq_ok_iff.mp hread
  exact fun hmem => h a left' hfirst ((hshrinks a hnext).subset hmem)

theorem Inside.bind {α β : Type} {first first' : Except Malformed (α × List Char)}
    {next : α × List Char → Except Malformed (β × List Char)} (h : Inside v first first')
    (hshrinks : ∀ a, Shrinks fun cs => next (a, cs))
    (hnext : ∀ a left, Inside v (next (a, left)) (next (a, left ++ ')' :: v))) :
    Inside v (first >>= next) (first' >>= next) := by
  rcases h with ⟨a, left, rfl, rfl⟩ | ⟨h, h'⟩
  · exact hnext a left
  · exact .inr ⟨h.bind hshrinks, h'.bind hshrinks⟩

/-- Where the closing bracket cannot be reached, the class cannot be read. -/
theorem Inside.alike {α β : Type} {first first' : Except Malformed (α × List Char)}
    {next next' : α × List Char → Except Malformed (β × List Char)} (h : Inside v first first')
    (hnext : ∀ a left, first = .ok (a, left) →
      Alike v (next (a, left)) (next' (a, left ++ ')' :: v)))
    (herror : ∀ a left, ']' ∉ left → next (a, left) = .error {} ∧ next' (a, left) = .error {}) :
    Alike v (first >>= next) (first' >>= next') := by
  rcases h with ⟨a, left, rfl, rfl⟩ | ⟨h, h'⟩
  · exact hnext a left rfl
  · have hfirst : first >>= next = .error {} := by
      cases hread : first with
      | error e => rfl
      | ok result => exact (herror result.1 result.2 (h _ _ hread)).1
    have hfirst' : first' >>= next' = .error {} := by
      cases hread : first' with
      | error e => rfl
      | ok result => exact (herror result.1 result.2 (h' _ _ hread)).2
    rw [hfirst, hfirst']
    exact .failed

-- Each item leaves a rest of what it was read from, in which there is no bracket either.
mutual

theorem readItems_eq_error {flags : Flags} {fuel : Nat}
    {side : Option (SetOperation × Nested CharClass)} {items : List (Nested CharClass)}
    {cs : List Char} (h : ']' ∉ skipBlanks flags.spaced cs) :
    readItems flags fuel side items cs = .error {} := by
  cases fuel with
  | zero => rfl
  | succ fuel =>
    rw [readItems]
    generalize skipBlanks flags.spaced cs = cs at h ⊢
    have hrest : ∀ {left}, left <:+ cs → ']' ∉ skipBlanks flags.spaced left := fun hleft hmem =>
      h (hleft.subset ((skipBlanks_suffix flags.spaced _).subset hmem))
    simp only
    split
    · rfl
    · exact absurd List.mem_cons_self h
    · exact readItems_eq_error (hrest (List.suffix_append ['&', '&'] _))
    · exact readItems_eq_error (hrest (List.suffix_append ['-', '-'] _))
    · exact readItems_eq_error (hrest (List.suffix_append ['~', '~'] _))
    · next rest =>
      split
      · next cls negated left hclass =>
        cases flags.negate negated (flags.fold cls) with
        | error e => rfl
        | ok cls =>
          exact readItems_eq_error (hrest ((readAsciiClass?_suffix hclass).trans
            (List.suffix_cons _ _)))
      · have hbracket : readBracket flags fuel rest = .error {} :=
          readBracket_eq_error fun hmem => h (List.mem_cons_of_mem _ hmem)
        rw [hbracket]
        rfl
    · cases hrange : readClassRange flags cs with
      | error e => rfl
      | ok read => exact readItems_eq_error (hrest (shrinks_readClassRange hrange))

theorem readBracket_eq_error {flags : Flags} {fuel : Nat} {cs : List Char} (h : ']' ∉ cs) :
    readBracket flags fuel cs = .error {} := by
  cases fuel with
  | zero => rfl
  | succ fuel =>
    have hitems : ∀ items, readItems flags fuel none items (readBracketFront flags.spaced cs).2.2 =
        .error {} := fun _ => readItems_eq_error fun hmem =>
      h ((readBracketFront_suffix flags.spaced cs).subset
        ((skipBlanks_suffix flags.spaced _).subset hmem))
    rw [readBracket]
    simp only [hitems]
    rfl

end

/-- The operation that a doubled sign stands for. -/
def SetOperation.ofSign? : Char → Option SetOperation
  | '&' => some .inter
  | '-' => some .diff
  | '~' => some .symmDiff
  | _ => none

theorem readItems_operation {flags : Flags} {fuel : Nat}
    {side : Option (SetOperation × Nested CharClass)} {items : List (Nested CharClass)} {c : Char}
    {cs rest : List Char} {op : SetOperation} (hskip : skipBlanks flags.spaced cs = c :: c :: rest)
    (hop : SetOperation.ofSign? c = some op) : readItems flags (fuel + 1) side items cs =
      readItems flags fuel (some (op, closeOperation flags side (unionOfItems items))) [] rest := by
  rw [readItems, hskip]
  rw [SetOperation.ofSign?.eq_def] at hop
  split at hop <;> cases hop <;> rfl

theorem readItems_range {flags : Flags} {fuel : Nat}
    {side : Option (SetOperation × Nested CharClass)} {items : List (Nested CharClass)} {c : Char}
    {cs rest : List Char} (hskip : skipBlanks flags.spaced cs = c :: rest) (hclose : c ≠ ']')
    (hopen : c ≠ '[') (hsign : rest.head? = some c → SetOperation.ofSign? c = none) :
    readItems flags (fuel + 1) side items cs = readClassRange flags (c :: rest) >>= fun read =>
      readItems flags fuel side (⟨read.1, 0⟩ :: items) read.2 := by
  rw [readItems, hskip]
  simp only
  split
  · next heq => cases heq
  · next heq => exact absurd (List.cons.inj heq).1 hclose
  · next heq =>
    obtain ⟨rfl, rfl⟩ := List.cons.inj heq
    cases hsign rfl
  · next heq =>
    obtain ⟨rfl, rfl⟩ := List.cons.inj heq
    cases hsign rfl
  · next heq =>
    obtain ⟨rfl, rfl⟩ := List.cons.inj heq
    cases hsign rfl
  · next heq => exact absurd (List.cons.inj heq).1 hopen
  · rfl

/-- Assertions are no members of classes. -/
theorem readRangeEnd_assertion {flags : Flags} {kind : AssertionKind} {cs : List Char} :
    readRangeEnd flags (.assertion kind) cs = .error {} := by
  rw [readRangeEnd]
  split
  · rfl
  · next rest heq =>
    simp only
    split_ifs
    · rfl
    · cases readClassPrimitive flags.spaced (skipBlanks flags.spaced rest) <;> rfl
  · rfl

/-- The parenthesis makes no difference to whether a dash makes a range. -/
theorem peekPastBlanks_append {spaced : Bool} (cs : List Char) {c : Char} (hc : c = ']' ∨ c = '-') :
    peekPastBlanks spaced (cs ++ ')' :: v) = some c ↔ peekPastBlanks spaced cs = some c := by
  have hclose : ')' ≠ c := by rcases hc with rfl | rfl <;> decide
  have hhash : '#' ≠ c := by rcases hc with rfl | rfl <;> decide
  have hblank : isBlank c = false := by rcases hc with rfl | rfl <;> decide
  -- the character is no blank, so that nothing is passed over in front of it
  have hhead : cs.head? = some c → cs.dropWhile isBlank = cs := by
    intro h
    obtain ⟨rest, rfl⟩ := List.head?_eq_some_iff.mp h
    rw [List.dropWhile_cons, hblank]
    rfl
  cases spaced with
  | false =>
    rcases cs with _ | ⟨d, rest⟩
    · exact iff_of_false (fun h => hclose (Option.some.inj h)) nofun
    · exact Iff.rfl
  | true =>
    rw [peekPastBlanks, peekPastBlanks, if_pos rfl, if_pos rfl, dropWhile_append_close]
    rcases hdrop : cs.dropWhile isBlank with _ | ⟨d, rest⟩
    · refine iff_of_false (fun h => hclose (Option.some.inj h)) fun h => ?_
      rw [hhead h] at hdrop
      rw [hdrop] at h
      cases h
    by_cases hd : d = '#'
    · subst hd
      simp only [List.cons_append]
      rw [dropWhile_append_close]
      rcases rest.dropWhile isBlank with _ | ⟨e, rest'⟩
      · refine iff_of_false (fun h => hclose (Option.some.inj h)) fun h => ?_
        change cs.head? = some c at h
        rw [hhead h] at hdrop
        rw [hdrop] at h
        exact hhash (Option.some.inj h)
      · exact Iff.rfl
    · simp only [List.cons_append]

/-- Reads the name of a class of ASCII characters, up to its colon and bracket. -/
def readAsciiName? (negated : Bool) (cs : List Char) : Option (CharClass × Bool × List Char) :=
  match cs.dropWhile (· != ':') with
  | ':' :: ']' :: left =>
    (CharClass.ofAsciiName? (.ofList (cs.takeWhile (· != ':')))).map fun cls => (cls, negated, left)
  | _ => none

theorem readAsciiClass?_name {rest : List Char} (h : rest.head? ≠ some '^') :
    readAsciiClass? (':' :: rest) = readAsciiName? false rest := by
  rcases rest with _ | ⟨c, rest⟩
  · rfl
  · rw [readAsciiClass?]
    · rfl
    · rintro tail heq
      exact h (congrArg List.head? heq)

theorem readAsciiName?_eq_none {negated : Bool} {cs : List Char} (h : ':' ∉ cs) :
    readAsciiName? negated cs = none := by
  have hdrop : cs.dropWhile (· != ':') = [] := by
    rw [List.dropWhile_eq_nil_iff]
    exact fun c hc => bne_iff_ne.mpr fun heq => h (heq ▸ hc)
  rw [readAsciiName?, hdrop]

/-- A name ends at the first colon. -/
theorem readAsciiName?_colon {negated : Bool} {name : List Char} (hname : ':' ∉ name)
    (behind : List Char) : readAsciiName? negated (name ++ ':' :: behind) =
      match behind with
      | ']' :: left => (CharClass.ofAsciiName? (.ofList name)).map fun cls => (cls, negated, left)
      | _ => none := by
  have hpass : ∀ c ∈ name, (c != ':') = true := fun c hc =>
    bne_iff_ne.mpr fun heq => hname (heq ▸ hc)
  have htake : (name ++ ':' :: behind).takeWhile (· != ':') = name := by
    rw [List.takeWhile_append_of_pos hpass]
    simp
  rw [readAsciiName?, List.dropWhile_append_of_pos hpass, htake]
  simp only [List.dropWhile_cons, bne_self_eq_false, Bool.false_eq_true, if_false]
  split
  · next heq =>
    obtain ⟨-, rfl⟩ := List.cons.inj heq
    rfl
  · next hnone =>
    split
    · exact absurd rfl (hnone _)
    · rfl

/-- Reads the dashes or the closing bracket that are literal at the front of a class, after a sign
of negation or none. -/
def readLiteralFront (spaced negated : Bool) (cs : List Char) :
    Bool × List (Nested CharClass) × List Char :=
  match leadingDashes spaced cs.length [] cs with
  | ([], ']' :: rest) => (negated, [⟨.single ']', 0⟩], skipBlanks spaced rest)
  | (items, rest) => (negated, items, rest)

theorem readBracketFront_negated {spaced : Bool} {cs rest : List Char}
    (h : skipBlanks spaced cs = '^' :: rest) :
    readBracketFront spaced cs = readLiteralFront spaced true (skipBlanks spaced rest) := by
  rw [readBracketFront, h]
  rfl

theorem readBracketFront_plain {spaced : Bool} {cs : List Char}
    (h : (skipBlanks spaced cs).head? ≠ some '^') :
    readBracketFront spaced cs = readLiteralFront spaced false (skipBlanks spaced cs) := by
  rw [readBracketFront]
  split
  next hinner =>
  split at hinner
  · next heq => exact absurd (congrArg List.head? heq) h
  · obtain ⟨rfl, rfl⟩ := Prod.mk.inj hinner
    rfl

section Behind

variable (hv : ∀ c ∈ v, c = '$')
include hv

theorem Extends.inside {α : Type} {comment : Prop} {short long : Except Malformed (α × List Char)}
    (h : Extends v comment short long) : Inside v short long := by
  cases h with
  | within a left => exact .inl ⟨a, left, rfl, rfl⟩
  | swallowed _ a =>
    refine .inr ⟨?_, ?_⟩ <;>
    · intro b left h
      obtain ⟨-, rfl⟩ := Prod.mk.inj (Except.ok.inj h)
      exact List.not_mem_nil
  | failed e e' => exact .failed _ _
  | passed e a hleft =>
    refine .inr ⟨.error, fun b left h hmem => ?_⟩
    obtain ⟨-, rfl⟩ := Prod.mk.inj (Except.ok.inj h)
    exact absurd (hv _ (hleft.subset hmem)) (by decide)

/-- A member of a class is read alike, unless it is a word edge, which is no member. -/
theorem inside_readClassPrimitive {spaced : Bool} (cs : List Char) :
    Inside v (readClassPrimitive spaced cs) (readClassPrimitive spaced (cs ++ ')' :: v)) ∨
      readClassPrimitive spaced cs = .error {} ∧
        ∃ left, readClassPrimitive spaced (cs ++ ')' :: v) = .ok (.assertion .wordEdge, left) := by
  rcases cs with _ | ⟨c, rest⟩
  · exact .inl (@Extends.inside v hv _ False _ _ (.passed _ _ (List.suffix_refl v)))
  by_cases hc : c = '\\'
  · subst hc
    by_cases hcut : EscapeCut spaced rest
    · obtain ⟨rest, rfl, hcut⟩ := hcut
      obtain ⟨hshort, hlong | hlong⟩ := readBoundary_cut hv hcut
      · left
        change Inside v (readBoundary spaced rest) (readBoundary spaced (rest ++ ')' :: v))
        rw [hshort, hlong]
        exact .failed _ _
      · exact .inr ⟨hshort, _, hlong⟩
    · exact .inl (Extends.inside hv (extends_primitive hv hcut))
  · left
    have hliteral : ∀ tail,
        readClassPrimitive spaced (c :: tail) = .ok (.literal c false, tail) := by
      intro tail
      rw [readClassPrimitive]
      exact hc
    exact .inl ⟨.literal c false, rest, hliteral rest, hliteral _⟩

theorem inside_readRangeEnd {flags : Flags} {first : Primitive} (cs : List Char) :
    Inside v (readRangeEnd flags first cs) (readRangeEnd flags first (cs ++ ')' :: v)) := by
  -- an item that is no range takes nothing
  have hitem : ∀ cs, Inside v
      (flags.classItem first >>= fun item => Except.ok (item, cs))
      (flags.classItem first >>= fun item => Except.ok (item, cs ++ ')' :: v)) := by
    intro cs
    cases flags.classItem first with
    | error e => exact .failed _ _
    | ok item => exact .inl ⟨item, cs, rfl, rfl⟩
  have hrange : ∀ cs, Inside v
      (readClassPrimitive flags.spaced cs >>= fun read =>
        flags.classChar first >>= fun low => flags.classChar read.1 >>= fun high =>
          if low ≤ high then Except.ok (CharClass.between low high, read.2) else .error {})
      (readClassPrimitive flags.spaced (cs ++ ')' :: v) >>= fun read =>
        flags.classChar first >>= fun low => flags.classChar read.1 >>= fun high =>
          if low ≤ high then Except.ok (CharClass.between low high, read.2) else .error {}) := by
    intro cs
    rcases @inside_readClassPrimitive v hv flags.spaced cs with h | ⟨hshort, left, hlong⟩
    · refine h.bind (fun last cs cls left h => ?_) fun last left => ?_
      · obtain ⟨low, -, h⟩ := bind_eq_ok_iff.mp h
        obtain ⟨high, -, h⟩ := bind_eq_ok_iff.mp h
        split_ifs at h
        exact suffix_of_ok h
      · cases flags.classChar first with
        | error e => exact .failed _ _
        | ok low =>
          cases flags.classChar last with
          | error e => exact .failed _ _
          | ok high =>
            change Inside v (if low ≤ high then _ else _) (if low ≤ high then _ else _)
            split_ifs
            · exact .inl ⟨_, left, rfl, rfl⟩
            · exact .failed _ _
    · rw [hshort, hlong]
      refine .inr ⟨.error, ?_⟩
      cases flags.classChar first <;> exact .error
  -- the dash decides between the two, and what stands behind it
  rw [readRangeEnd, readRangeEnd]
  rcases skipBlanks_append hv flags.spaced cs with h | ⟨h, h'⟩
  · rw [h]
    rcases skipBlanks flags.spaced cs with _ | ⟨c, rest⟩
    · refine .inr ⟨.error, ?_⟩
      intro item left hread
      obtain ⟨_, -, hread⟩ := bind_eq_ok_iff.mp hread
      obtain ⟨-, rfl⟩ := Prod.mk.inj (Except.ok.inj hread)
      exact notMem_behind hv (by decide) (by decide)
    by_cases hc : c = '-'
    · subst hc
      have hpeek : ∀ c, c = ']' ∨ c = '-' →
          (peekPastBlanks flags.spaced (rest ++ ')' :: v) == some c) =
            (peekPastBlanks flags.spaced rest == some c) := by
        intro c hc
        rw [Bool.eq_iff_iff, beq_iff_eq, beq_iff_eq]
        exact peekPastBlanks_append rest hc
      simp only [List.cons_append, hpeek _ (.inl rfl), hpeek _ (.inr rfl)]
      split_ifs
      · exact hitem ('-' :: rest)
      · rcases skipBlanks_append hv flags.spaced rest with h | ⟨h, h'⟩
        · rw [h]
          exact hrange (skipBlanks flags.spaced rest)
        · rw [h, h']
          exact .failed _ _
    · rw [List.cons_append]
      iterate 2
        split
        · next heq => cases heq
        · next heq => exact absurd (List.cons.inj heq).1 hc
      exact hitem (c :: rest)
  · rw [h, h']
    exact .failed _ _

theorem inside_readClassRange {flags : Flags} (cs : List Char) :
    Inside v (readClassRange flags cs) (readClassRange flags (cs ++ ')' :: v)) := by
  rw [readClassRange_eq, readClassRange_eq]
  rcases @inside_readClassPrimitive v hv flags.spaced cs with h | ⟨hshort, left, hlong⟩
  · exact h.bind (fun _ => shrinks_readRangeEnd) fun _ => inside_readRangeEnd hv
  · rw [hshort, hlong]
    refine .inr ⟨.error, ?_⟩
    change Unclosed (readRangeEnd flags _ _)
    rw [readRangeEnd_assertion]
    exact .error

theorem readAsciiName?_append {negated : Bool} (cs : List Char) :
    readAsciiName? negated (cs ++ ')' :: v) =
      (readAsciiName? negated cs).map fun read => (read.1, read.2.1, read.2.2 ++ ')' :: v) := by
  have hcolon : ':' ∉ ')' :: v := notMem_behind hv (by decide) (by decide)
  by_cases hmem : ':' ∈ cs
  · obtain ⟨name, behind, rfl, hname⟩ := List.eq_append_cons_of_mem hmem
    rw [List.append_assoc, List.cons_append, readAsciiName?_colon hname, readAsciiName?_colon hname]
    rcases behind with _ | ⟨c, left⟩
    · rfl
    by_cases hc : c = ']'
    · subst hc
      cases CharClass.ofAsciiName? (.ofList name) <;> simp
    · simp [hc]
  · have hmem' : ':' ∉ cs ++ ')' :: v := by
      rw [List.mem_append, not_or]
      exact ⟨hmem, hcolon⟩
    rw [readAsciiName?_eq_none hmem, readAsciiName?_eq_none hmem']
    rfl

theorem readAsciiClass?_append (cs : List Char) :
    readAsciiClass? (cs ++ ')' :: v) =
      (readAsciiClass? cs).map fun read => (read.1, read.2.1, read.2.2 ++ ')' :: v) := by
  rcases cs with _ | ⟨c, rest⟩
  · rfl
  by_cases hc : c = ':'
  · subst hc
    rw [List.cons_append]
    rcases rest with _ | ⟨d, rest⟩
    · rw [readAsciiClass?_name (by simp), readAsciiClass?_name (by simp)]
      exact readAsciiName?_append hv []
    by_cases hd : d = '^'
    · subst hd
      exact readAsciiName?_append hv rest
    · have hhead : ∀ tail, (d :: tail).head? ≠ some '^' := fun tail h => hd (Option.some.inj h)
      rw [List.cons_append, readAsciiClass?_name (hhead _), readAsciiClass?_name (hhead _)]
      exact readAsciiName?_append hv (d :: rest)
  · have hnone : ∀ tail, readAsciiClass? (c :: tail) = none := by
      intro tail
      rw [readAsciiClass?.eq_def]
      simp [hc]
    rw [List.cons_append, hnone, hnone]
    rfl

/-- Dashes are read up to the parenthesis, unless a comment behind them takes it. -/
theorem leadingDashes_append {spaced : Bool} {n m : Nat} {items : List (Nested CharClass)}
    {cs : List Char} (hn : cs.length ≤ n) (hm : (cs ++ ')' :: v).length ≤ m) :
    leadingDashes spaced m items (cs ++ ')' :: v) =
        ((leadingDashes spaced n items cs).1, (leadingDashes spaced n items cs).2 ++ ')' :: v) ∨
      (leadingDashes spaced n items cs).2 = [] ∧
        leadingDashes spaced m items (cs ++ ')' :: v) = leadingDashes spaced n items cs := by
  induction n generalizing m items cs with
  | zero =>
    obtain rfl := List.eq_nil_of_length_eq_zero (Nat.le_zero.mp hn)
    left
    cases m <;> rfl
  | succ n ih =>
    rcases cs with _ | ⟨c, rest⟩
    · left
      cases m <;> rfl
    cases m with
    | zero => simp at hm
    | succ m =>
      by_cases hc : c = '-'
      · subst hc
        rw [List.cons_append, leadingDashes, leadingDashes]
        have hskip := (skipBlanks_suffix spaced rest).length_le
        have hskip' := (skipBlanks_suffix spaced (rest ++ ')' :: v)).length_le
        simp only [List.length_cons, List.cons_append] at hn hm
        rcases skipBlanks_append hv spaced rest with h | ⟨h, h'⟩
        · rw [h] at hskip' ⊢
          exact ih (by omega) (by omega)
        · rw [h, h']
          right
          cases n <;> cases m <;> exact ⟨rfl, rfl⟩
      · left
        rw [leadingDashes.eq_def, leadingDashes.eq_def]
        simp [hc]

theorem readLiteralFront_append {spaced negated : Bool} (cs : List Char) :
    readLiteralFront spaced negated (cs ++ ')' :: v) =
        ((readLiteralFront spaced negated cs).1, (readLiteralFront spaced negated cs).2.1,
          (readLiteralFront spaced negated cs).2.2 ++ ')' :: v) ∨
      (readLiteralFront spaced negated cs).2.2 = [] ∧
        (readLiteralFront spaced negated (cs ++ ')' :: v)).2.2 = [] := by
  rw [readLiteralFront, readLiteralFront]
  rcases @leadingDashes_append v hv spaced _ _ [] cs (Nat.le_refl _) (Nat.le_refl _) with
    h | ⟨h, h'⟩
  · rw [h]
    obtain ⟨items, left⟩ := leadingDashes spaced cs.length [] cs
    rcases left with _ | ⟨c, rest⟩
    · left
      cases items <;> rfl
    by_cases hbracket : items = [] ∧ c = ']'
    · obtain ⟨rfl, rfl⟩ := hbracket
      rcases skipBlanks_append hv spaced rest with h | ⟨h, h'⟩
      · exact .inl (by simp [h])
      · exact .inr (by simp [h, h'])
    · left
      rcases items with _ | ⟨item, items⟩
      · have hc : c ≠ ']' := fun hc => hbracket ⟨rfl, hc⟩
        simp [hc]
      · rfl
  · rw [h']
    generalize leadingDashes spaced cs.length [] cs = read at h ⊢
    obtain ⟨items, left⟩ := read
    obtain rfl : left = [] := h
    right
    cases items <;> exact ⟨rfl, rfl⟩

theorem readBracketFront_append {spaced : Bool} (cs : List Char) :
    readBracketFront spaced (cs ++ ')' :: v) =
        ((readBracketFront spaced cs).1, (readBracketFront spaced cs).2.1,
          (readBracketFront spaced cs).2.2 ++ ')' :: v) ∨
      (readBracketFront spaced cs).2.2 = [] ∧
        (readBracketFront spaced (cs ++ ')' :: v)).2.2 = [] := by
  have hnil : ∀ negated, (readLiteralFront spaced negated []).2.2 = [] := fun _ => rfl
  rcases skipBlanks_append hv spaced cs with h | ⟨h, h'⟩
  · by_cases hc : (skipBlanks spaced cs).head? = some '^'
    · obtain ⟨rest, hrest⟩ := List.head?_eq_some_iff.mp hc
      rw [hrest, List.cons_append] at h
      rw [readBracketFront_negated hrest, readBracketFront_negated h]
      rcases skipBlanks_append hv spaced rest with h | ⟨h, h'⟩
      · rw [h]
        exact readLiteralFront_append hv _
      · rw [h, h']
        exact .inr ⟨hnil true, hnil true⟩
    · have hc' : (skipBlanks spaced (cs ++ ')' :: v)).head? ≠ some '^' := by
        rw [h]
        rcases hskip : skipBlanks spaced cs with _ | ⟨c, rest⟩
        · exact nofun
        · rwa [hskip] at hc
      rw [readBracketFront_plain hc, readBracketFront_plain hc', h]
      exact readLiteralFront_append hv _
  · have hempty : ∀ {cs}, skipBlanks spaced cs = [] → (readBracketFront spaced cs).2.2 = [] := by
      intro cs h
      rw [readBracketFront_plain (by rw [h]; exact nofun), h]
      exact hnil false
    exact .inr ⟨hempty h, hempty h'⟩

-- Each reader has the fuel that its own text asks for: every call takes one unit of it, and of two
-- calls that follow each other at least one takes a character.
mutual

theorem alike_readItems {flags : Flags} {n m : Nat}
    {side : Option (SetOperation × Nested CharClass)} {items : List (Nested CharClass)}
    {cs : List Char} (hn : 2 * cs.length + 1 ≤ n)
    (hm : 2 * (cs.length + (v.length + 1)) + 1 ≤ m) :
    Alike v (readItems flags n side items cs) (readItems flags m side items (cs ++ ')' :: v)) := by
  cases n with
  | zero => omega
  | succ n =>
  cases m with
  | zero => omega
  | succ m =>
    have hclosed : ']' ∉ ')' :: v := notMem_behind hv (by decide) (by decide)
    have hshort := (skipBlanks_suffix flags.spaced cs).length_le
    rcases skipBlanks_append hv flags.spaced cs with h | ⟨h, h'⟩
    · rcases hskip : skipBlanks flags.spaced cs with _ | ⟨c, rest⟩
      · rw [hskip, List.nil_append] at h
        rw [readItems_eq_error (by rw [hskip]; exact List.not_mem_nil),
          readItems_eq_error (by rw [h]; exact hclosed)]
        exact .failed
      rw [hskip, List.cons_append] at h
      rw [hskip, List.length_cons] at hshort
      -- what is left after an item is no longer than what stands behind its first character
      have hnext : ∀ {side items} {left : List Char}, left.length ≤ rest.length →
          Alike v (readItems flags n side items left)
            (readItems flags m side items (left ++ ')' :: v)) :=
        fun hleft => alike_readItems (by omega) (by omega)
      by_cases hclose : c = ']'
      · subst hclose
        rw [readItems, readItems, h, hskip]
        exact .within _ rest
      by_cases hopen : c = '['
      · subst hopen
        rw [readItems, readItems, h, hskip]
        simp only
        rw [readAsciiClass?_append hv]
        cases hclass : readAsciiClass? rest with
        | some read =>
          obtain ⟨cls, negated, left⟩ := read
          simp only [Option.map_some]
          cases flags.negate negated (flags.fold cls) with
          | error e => exact .failed
          | ok cls => exact hnext (readAsciiClass?_suffix hclass).length_le
        | none =>
          refine Alike.bind (alike_readBracket (by omega) (by omega)) fun item left hread => ?_
          exact hnext (shrinks_readBracket hread).length_le
      -- a sign that comes twice is an operation, and one that comes once an item
      by_cases hsign : rest.head? = some c → SetOperation.ofSign? c = none
      · have hsign' : (rest ++ ')' :: v).head? = some c → SetOperation.ofSign? c = none := by
          rcases rest with _ | ⟨d, rest⟩
          · rintro ⟨⟩
            rfl
          · exact hsign
        rw [readItems_range hskip hclose hopen hsign, readItems_range h hclose hopen hsign']
        refine (inside_readClassRange hv (c :: rest)).alike (fun cls left hread => ?_) ?_
        · exact hnext (readClassRange_suffix hread).length_le
        · intro cls left hleft
          exact ⟨readItems_eq_error fun h => hleft ((skipBlanks_suffix _ _).subset h),
            readItems_eq_error fun h => hleft ((skipBlanks_suffix _ _).subset h)⟩
      · obtain ⟨hhead, hop⟩ := Classical.not_imp.mp hsign
        obtain ⟨op, hop⟩ := Option.ne_none_iff_exists'.mp hop
        obtain ⟨rest, rfl⟩ := List.head?_eq_some_iff.mp hhead
        rw [readItems_operation hskip hop, readItems_operation h hop]
        exact hnext (Nat.le_succ _)
    · rw [readItems, readItems, h, h']
      exact .failed

theorem alike_readBracket {flags : Flags} {n m : Nat} {cs : List Char} (hn : 2 * cs.length + 2 ≤ n)
    (hm : 2 * (cs.length + (v.length + 1)) + 2 ≤ m) :
    Alike v (readBracket flags n cs) (readBracket flags m (cs ++ ')' :: v)) := by
  cases n with
  | zero => omega
  | succ n =>
  cases m with
  | zero => omega
  | succ m =>
    rw [readBracket, readBracket]
    have hfront := (readBracketFront_suffix flags.spaced cs).length_le
    have happend := @readBracketFront_append v hv flags.spaced cs
    generalize readBracketFront flags.spaced cs = front at hfront happend ⊢
    obtain ⟨negated, items, rest⟩ := front
    simp only at hfront
    rcases happend with h | ⟨h, h'⟩
    · rw [h]
      refine Alike.bind (alike_readItems (by omega) (by omega)) fun set left _ => ?_
      simp only
      cases flags.negate negated (flags.fold set.value) with
      | error e => exact .failed
      | ok cls => exact .within _ left
    · have hnil : ∀ fuel items, readItems flags fuel none items [] = .error {} := fun _ _ =>
        readItems_eq_error fun h => List.not_mem_nil ((skipBlanks_suffix flags.spaced []).subset h)
      obtain rfl : rest = [] := h
      simp only [h', hnil]
      exact .failed

end

theorem extends_readBracket {flags : Flags} {comment : Prop} (cs : List Char) :
    Extends v comment (readBracket flags (2 * cs.length + 2) cs)
      (readBracket flags (2 * (cs ++ ')' :: v).length + 2) (cs ++ ')' :: v)) :=
  (alike_readBracket hv (Nat.le_refl _) (by simp)).extends

end Behind

end TrafficPlane.Regex
