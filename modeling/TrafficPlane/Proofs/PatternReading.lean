import TrafficPlane.Proofs.Stages
import TrafficPlane.Regex.Parse

/-!
# Readers leave a rest of what they are given

Every reader of a part of a pattern goes on in the text and never back: what it leaves is the end of
what it was given.

## Main definitions

* `Shrinks`: a reader leaves the end of what it is given

## Main results

* `shrinks_primitive`, `shrinks_readBracket`, `shrinks_readBounds`: the parts of a pattern
* `Parse.step_suffix`: a step of reading leaves the end of the rest
-/

namespace TrafficPlane.Regex

open Text

theorem skipComments_suffix (inComment : Bool) (cs : List Char) :
    skipComments inComment cs <:+ cs := by
  induction cs generalizing inComment with
  | nil => exact List.suffix_refl []
  | cons c rest ih =>
    rw [skipComments]
    split_ifs
    · exact (ih _).trans (List.suffix_cons c rest)
    · exact (ih _).trans (List.suffix_cons c rest)
    · exact (ih _).trans (List.suffix_cons c rest)
    · exact List.suffix_refl _

theorem skipBlanks_suffix (spaced : Bool) (cs : List Char) : skipBlanks spaced cs <:+ cs := by
  cases spaced with
  | false => exact List.suffix_refl cs
  | true => exact skipComments_suffix false cs

/-- What a reader leaves is a rest of what it was given. -/
def Shrinks {α : Type} (read : Reader α) : Prop :=
  ∀ {cs a left}, read cs = .ok (a, left) → left <:+ cs

theorem suffix_of_ok {α : Type} {a b : α} {cs left : List Char}
    (h : (.ok (a, cs) : Except Malformed (α × List Char)) = .ok (b, left)) : left <:+ cs := by
  obtain ⟨-, rfl⟩ := Prod.mk.inj (Except.ok.inj h)
  exact List.suffix_refl _

theorem shrinks_readDigits {spaced : Bool} {n : Nat} {digits : List Nat} :
    Shrinks (readDigits spaced n digits) := by
  intro cs a left h
  induction n generalizing cs digits with
  | zero =>
    exact suffix_of_ok h
  | succ n ih =>
    cases cs with
    | nil => cases h
    | cons c rest =>
      rw [readDigits] at h
      split at h
      · exact (ih h).trans ((skipBlanks_suffix spaced rest).trans (List.suffix_cons c rest))
      · cases h

theorem shrinks_readBraced {spaced inComment : Bool} : Shrinks (readBraced spaced inComment) := by
  intro cs a left h
  induction cs generalizing inComment a with
  | nil => cases h
  | cons c rest ih =>
    rw [readBraced] at h
    have hrest := List.suffix_cons c rest
    split_ifs at h
    · exact (ih h).trans hrest
    · exact (ih h).trans hrest
    · exact (ih h).trans hrest
    · exact (suffix_of_ok h).trans hrest
    · split at h
      · next hread =>
        obtain ⟨-, rfl⟩ := Prod.mk.inj (Except.ok.inj h)
        exact (ih hread).trans hrest
      · cases h

theorem shrinks_readCodePoint {spaced : Bool} {width : Nat} :
    Shrinks (readCodePoint spaced width) := by
  intro cs a left h
  have hskip := skipBlanks_suffix spaced cs
  rw [readCodePoint] at h
  split at h
  · cases h
  · next rest heq =>
    obtain ⟨⟨content, left'⟩, hbraced, h⟩ := bind_eq_ok_iff.mp h
    obtain ⟨digits, -, h⟩ := bind_eq_ok_iff.mp h
    obtain ⟨c, -, h⟩ := bind_eq_ok_iff.mp h
    rw [heq] at hskip
    exact (suffix_of_ok h).trans ((shrinks_readBraced hbraced).trans
      ((List.suffix_cons _ _).trans hskip))
  · next rest heq =>
    obtain ⟨⟨digits, left'⟩, hdigits, h⟩ := bind_eq_ok_iff.mp h
    obtain ⟨c, -, h⟩ := bind_eq_ok_iff.mp h
    exact (suffix_of_ok h).trans ((shrinks_readDigits hdigits).trans hskip)

theorem shrinks_readProperty {spaced negated : Bool} : Shrinks (readProperty spaced negated) := by
  intro cs a left h
  have hskip := skipBlanks_suffix spaced cs
  rw [readProperty] at h
  split at h
  · cases h
  · cases h
  · next rest heq =>
    obtain ⟨⟨content, left'⟩, hbraced, h⟩ := bind_eq_ok_iff.mp h
    rw [heq] at hskip
    exact (suffix_of_ok h).trans ((shrinks_readBraced hbraced).trans
      ((List.suffix_cons _ _).trans hskip))
  · next c rest _ _ heq =>
    rw [heq] at hskip
    exact (suffix_of_ok h).trans ((List.suffix_cons _ _).trans hskip)

theorem boundaryName_suffix (spaced inComment : Bool) (cs : List Char) :
    (boundaryName spaced inComment cs).2 <:+ cs := by
  induction cs generalizing inComment with
  | nil => exact List.suffix_refl []
  | cons c rest ih =>
    rw [boundaryName]
    have hrest := List.suffix_cons c rest
    split_ifs
    · exact (ih _).trans hrest
    · exact (ih _).trans hrest
    · exact (ih _).trans hrest
    · exact (ih _).trans hrest
    · exact List.suffix_refl _

theorem shrinks_readBoundary {spaced : Bool} : Shrinks (readBoundary spaced) := by
  intro cs a left h
  rw [readBoundary.eq_def] at h
  split at h
  · next rest =>
    have hrest := List.suffix_cons '{' rest
    have hskip := skipBlanks_suffix spaced rest
    split at h
    · cases h
    · next c inner heq =>
      split_ifs at h
      · have hname := boundaryName_suffix spaced false (c :: inner)
        split at h
        · next name left' hboundary =>
          rw [hboundary] at hname
          rw [heq] at hskip
          have hbehind := (List.suffix_cons '}' _).trans (hname.trans (hskip.trans hrest))
          split at h
          · exact (suffix_of_ok h).trans hbehind
          · exact (suffix_of_ok h).trans hbehind
          · exact (suffix_of_ok h).trans hbehind
          · exact (suffix_of_ok h).trans hbehind
          · cases h
        · cases h
      · exact suffix_of_ok h
  · exact suffix_of_ok h

theorem primitive_read_letter (spaced : Bool) {c : Char} (hc : c ∉ ['x', 'u', 'U', 'p', 'P', 'b'])
    (rest : List Char) : Primitive.read spaced (c :: rest) =
      (Primitive.read false [c]).map fun p => (p.1, rest) := by
  simp only [List.mem_cons, List.not_mem_nil, or_false, not_or] at hc
  obtain ⟨hx, hu, hU, hp, hP, hb⟩ := hc
  rw [Primitive.read.eq_def, Primitive.read.eq_def]
  simp only
  split_ifs
  · rfl
  · split <;> rfl

theorem shrinks_primitive {spaced : Bool} : Shrinks (Primitive.read spaced) := by
  intro cs a left h
  cases cs with
  | nil => cases h
  | cons c rest =>
    have hrest := List.suffix_cons c rest
    by_cases hc : c ∈ ['x', 'u', 'U', 'p', 'P', 'b']
    · simp only [List.mem_cons, List.not_mem_nil, or_false] at hc
      obtain rfl | rfl | rfl | rfl | rfl | rfl := hc
      · exact (shrinks_readCodePoint h).trans hrest
      · exact (shrinks_readCodePoint h).trans hrest
      · exact (shrinks_readCodePoint h).trans hrest
      · exact (shrinks_readProperty h).trans hrest
      · exact (shrinks_readProperty h).trans hrest
      · exact (shrinks_readBoundary h).trans hrest
    · rw [primitive_read_letter spaced hc] at h
      cases hread : Primitive.read false [c] with
      | error e => rw [hread] at h; cases h
      | ok read =>
        rw [hread] at h
        exact (suffix_of_ok h).trans hrest

theorem dropReluctance_suffix (cs : List Char) : dropReluctance cs <:+ cs := by
  rw [dropReluctance.eq_def]
  split
  · exact List.suffix_cons _ _
  · exact List.suffix_refl _

theorem shrinks_readFlags {setting : FlagSetting} : Shrinks (readFlags setting) := by
  intro cs a left h
  induction cs generalizing setting with
  | nil => cases h
  | cons c rest ih =>
    have hrest := List.suffix_cons c rest
    rw [readFlags.eq_def] at h
    split at h
    · next heq => cases heq
    · next heq =>
      obtain ⟨-, rfl⟩ := List.cons.inj heq
      split_ifs at h
      exact (suffix_of_ok h).trans hrest
    · next heq =>
      obtain ⟨-, rfl⟩ := List.cons.inj heq
      split_ifs at h
      exact (suffix_of_ok h).trans hrest
    · next heq =>
      obtain ⟨rfl, rfl⟩ := List.cons.inj heq
      split_ifs at h
      · exact (ih h).trans hrest
      · split at h
        · exact (ih h).trans hrest
        · cases h

theorem shrinks_readName {front : Bool} : Shrinks (readName front) := by
  intro cs a left h
  induction cs generalizing front a with
  | nil => cases h
  | cons c rest ih =>
    have hrest := List.suffix_cons c rest
    rw [readName.eq_def] at h
    split at h
    · next heq => cases heq
    · next heq =>
      obtain ⟨-, rfl⟩ := List.cons.inj heq
      split_ifs at h
      exact (suffix_of_ok h).trans hrest
    · next heq =>
      obtain ⟨rfl, rfl⟩ := List.cons.inj heq
      split_ifs at h
      split at h
      · next hread =>
        obtain ⟨-, rfl⟩ := Prod.mk.inj (Except.ok.inj h)
        exact (ih hread).trans hrest
      · cases h

theorem takeDigits_suffix (spaced inComment : Bool) (cs : List Char) :
    (takeDigits spaced inComment cs).2 <:+ cs := by
  induction cs generalizing inComment with
  | nil => exact List.suffix_refl []
  | cons c rest ih =>
    have hrest := List.suffix_cons c rest
    rw [takeDigits]
    split_ifs
    · exact (ih _).trans hrest
    · exact (ih _).trans hrest
    · exact (ih _).trans hrest
    · exact (ih _).trans hrest
    · exact List.suffix_refl _

theorem shrinks_readCount {spaced : Bool} : Shrinks (readCount spaced) := by
  intro cs a left h
  rw [readCount] at h
  simp only at h
  split_ifs at h
  exact (suffix_of_ok h).trans ((List.dropWhile_suffix _).trans
    ((takeDigits_suffix spaced false _).trans (List.dropWhile_suffix _)))

/-- Reads the brace behind the bounds of a repetition. -/
def closeBounds (least most : Nat) : Reader (Nat × Option Nat)
  | '}' :: rest => if least ≤ most then .ok ((least, some most), rest) else .error {}
  | _ => .error {}

/-- Reads the bounds of a repetition after the smaller one. -/
def readMost (spaced : Bool) (least : Nat) : Reader (Nat × Option Nat)
  | '}' :: rest => .ok ((least, some least), rest)
  | ',' :: rest =>
    match skipBlanks spaced rest with
    | '}' :: rest => .ok ((least, none), rest)
    | rest => readCount spaced rest >>= fun read => closeBounds least read.1 read.2
  | _ => .error {}

theorem readBounds_eq {spaced : Bool} {cs : List Char} : readBounds spaced cs =
    readCount spaced (skipBlanks spaced cs) >>= fun read => readMost spaced read.1 read.2 :=
  rfl

theorem shrinks_closeBounds {least most : Nat} : Shrinks (closeBounds least most) := by
  intro cs bounds left h
  rw [closeBounds.eq_def] at h
  split at h
  · split_ifs at h
    exact (suffix_of_ok h).trans (List.suffix_cons _ _)
  · cases h

theorem shrinks_readMost {spaced : Bool} {least : Nat} : Shrinks (readMost spaced least) := by
  intro cs bounds left h
  rw [readMost.eq_def] at h
  split at h
  · exact (suffix_of_ok h).trans (List.suffix_cons _ _)
  · next rest =>
    have hskip := (skipBlanks_suffix spaced rest).trans (List.suffix_cons ',' _)
    split at h
    · next rest' heq =>
      rw [heq] at hskip
      exact (suffix_of_ok h).trans ((List.suffix_cons _ _).trans hskip)
    · obtain ⟨⟨most, left'⟩, hmost, h⟩ := bind_eq_ok_iff.mp h
      exact (shrinks_closeBounds h).trans ((shrinks_readCount hmost).trans hskip)
  · cases h

theorem shrinks_readBounds {spaced : Bool} : Shrinks (readBounds spaced) := by
  intro cs bounds left h
  rw [readBounds_eq] at h
  obtain ⟨⟨least, left'⟩, hleast, h⟩ := bind_eq_ok_iff.mp h
  exact (shrinks_readMost h).trans ((shrinks_readCount hleast).trans (skipBlanks_suffix spaced cs))

theorem readClassPrimitive_suffix {spaced : Bool} {c : Char} {rest left : List Char}
    {item : Primitive} (h : readClassPrimitive spaced (c :: rest) = .ok (item, left)) :
    left <:+ rest := by
  rw [readClassPrimitive.eq_def] at h
  split at h
  · cases h
  · next heq =>
    obtain ⟨-, rfl⟩ := List.cons.inj heq
    exact shrinks_primitive h
  · next heq =>
    obtain ⟨-, rfl⟩ := List.cons.inj heq
    exact suffix_of_ok h

theorem shrinks_readClassPrimitive {spaced : Bool} : Shrinks (readClassPrimitive spaced) := by
  intro cs a left h
  cases cs with
  | nil => cases h
  | cons c rest => exact (readClassPrimitive_suffix h).trans (List.suffix_cons c rest)

/-- Reads what may make a range of the first character of a class range. -/
def readRangeEnd (flags : Flags) (first : Primitive) : Reader CharClass := fun cs =>
  match skipBlanks flags.spaced cs with
  | [] => .error {}
  | '-' :: rest =>
    let next := peekPastBlanks flags.spaced rest
    if next == some ']' || next == some '-' then do
      return (← flags.classItem first, '-' :: rest)
    else do
      let (last, left) ← readClassPrimitive flags.spaced (skipBlanks flags.spaced rest)
      let low ← flags.classChar first
      let high ← flags.classChar last
      if low ≤ high then return (.between low high, left) else .error {}
  | rest => do return (← flags.classItem first, rest)

theorem readClassRange_eq {flags : Flags} {cs : List Char} : readClassRange flags cs =
    readClassPrimitive flags.spaced cs >>= fun read => readRangeEnd flags read.1 read.2 :=
  rfl

theorem shrinks_readRangeEnd {flags : Flags} {first : Primitive} :
    Shrinks (readRangeEnd flags first) := by
  intro cs cls left h
  have hskip := skipBlanks_suffix flags.spaced cs
  rw [readRangeEnd] at h
  split at h
  · cases h
  · next rest heq =>
    rw [heq] at hskip
    simp only at h
    split_ifs at h
    · obtain ⟨item, -, h⟩ := bind_eq_ok_iff.mp h
      exact (suffix_of_ok h).trans hskip
    · obtain ⟨⟨last, left''⟩, hlast, h⟩ := bind_eq_ok_iff.mp h
      obtain ⟨low, -, h⟩ := bind_eq_ok_iff.mp h
      obtain ⟨high, -, h⟩ := bind_eq_ok_iff.mp h
      split_ifs at h
      exact (suffix_of_ok h).trans ((shrinks_readClassPrimitive hlast).trans
        ((skipBlanks_suffix flags.spaced rest).trans ((List.suffix_cons _ _).trans hskip)))
  · obtain ⟨item, -, h⟩ := bind_eq_ok_iff.mp h
    exact (suffix_of_ok h).trans hskip

theorem readClassRange_suffix {flags : Flags} {c : Char} {rest left : List Char} {cls : CharClass}
    (h : readClassRange flags (c :: rest) = .ok (cls, left)) : left <:+ rest := by
  rw [readClassRange_eq] at h
  obtain ⟨⟨first, left'⟩, hfirst, h⟩ := bind_eq_ok_iff.mp h
  exact (shrinks_readRangeEnd h).trans (readClassPrimitive_suffix hfirst)

theorem shrinks_readClassRange {flags : Flags} : Shrinks (readClassRange flags) := by
  intro cs a left h
  cases cs with
  | nil => cases h
  | cons c rest => exact (readClassRange_suffix h).trans (List.suffix_cons c rest)

theorem readAsciiClass?_suffix {cs left : List Char} {cls : CharClass} {negated : Bool}
    (h : readAsciiClass? cs = some (cls, negated, left)) : left <:+ cs := by
  rw [readAsciiClass?.eq_def] at h
  split at h
  · next rest =>
    split at h
    next inner hinner =>
    have hrest : inner <:+ ':' :: rest := by
      split at hinner <;> obtain ⟨-, rfl⟩ := Prod.mk.inj hinner
      · exact (List.suffix_cons _ _).trans (List.suffix_cons _ _)
      · exact List.suffix_cons _ _
    have hdrop := (List.dropWhile_suffix (l := inner) (· != ':')).trans hrest
    split at h
    · next heq =>
      obtain ⟨_, -, hleft⟩ := Option.map_eq_some_iff.mp h
      obtain ⟨-, -, rfl⟩ := hleft
      rw [heq] at hdrop
      exact (List.suffix_append [':', ']'] _).trans hdrop
    · cases h
  · cases h

theorem leadingDashes_suffix (spaced : Bool) (fuel : Nat) (items : List (Nested CharClass))
    (cs : List Char) : (leadingDashes spaced fuel items cs).2 <:+ cs := by
  induction fuel generalizing items cs with
  | zero => exact List.suffix_refl cs
  | succ fuel ih =>
    rw [leadingDashes.eq_def]
    split
    · next heq =>
      obtain rfl := Nat.succ.inj heq
      exact (ih _ _).trans ((skipBlanks_suffix spaced _).trans (List.suffix_cons _ _))
    · exact List.suffix_refl _

theorem readBracketFront_suffix (spaced : Bool) (cs : List Char) :
    (readBracketFront spaced cs).2.2 <:+ cs := by
  have hskip := skipBlanks_suffix spaced cs
  rw [readBracketFront]
  split
  next negated inner hinner =>
  have hrest : inner <:+ cs := by
    split at hinner <;> obtain ⟨-, rfl⟩ := Prod.mk.inj hinner
    · next heq =>
      rw [heq] at hskip
      exact (skipBlanks_suffix spaced _).trans ((List.suffix_cons _ _).trans hskip)
    · exact hskip
  have hdashes := (leadingDashes_suffix spaced inner.length [] inner).trans hrest
  split
  · next heq =>
    rw [heq] at hdashes
    exact (skipBlanks_suffix spaced _).trans ((List.suffix_cons _ _).trans hdashes)
  · next heq =>
    rw [heq] at hdashes
    exact hdashes

-- Items and brackets are read by turns; both inductions are on the fuel.
mutual

theorem shrinks_readItems {flags : Flags} {fuel : Nat}
    {side : Option (SetOperation × Nested CharClass)} {items : List (Nested CharClass)} :
    Shrinks (readItems flags fuel side items) := by
  intro cs a left h
  cases fuel with
  | zero => cases h
  | succ fuel =>
    rw [readItems] at h
    have hskip := skipBlanks_suffix flags.spaced cs
    simp only at h
    split at h
    · cases h
    · next heq =>
      rw [heq] at hskip
      exact (suffix_of_ok h).trans ((List.suffix_cons _ _).trans hskip)
    · next heq =>
      rw [heq] at hskip
      exact (shrinks_readItems h).trans ((List.suffix_append ['&', '&'] _).trans hskip)
    · next heq =>
      rw [heq] at hskip
      exact (shrinks_readItems h).trans ((List.suffix_append ['-', '-'] _).trans hskip)
    · next heq =>
      rw [heq] at hskip
      exact (shrinks_readItems h).trans ((List.suffix_append ['~', '~'] _).trans hskip)
    · next heq =>
      rw [heq] at hskip
      split at h
      · next hclass =>
        obtain ⟨item, -, h⟩ := bind_eq_ok_iff.mp h
        exact (shrinks_readItems h).trans ((readAsciiClass?_suffix hclass).trans
          ((List.suffix_cons _ _).trans hskip))
      · obtain ⟨⟨item, left'⟩, hbracket, h⟩ := bind_eq_ok_iff.mp h
        exact (shrinks_readItems h).trans ((shrinks_readBracket hbracket).trans
          ((List.suffix_cons _ _).trans hskip))
    · obtain ⟨⟨item, left'⟩, hrange, h⟩ := bind_eq_ok_iff.mp h
      exact (shrinks_readItems h).trans ((shrinks_readClassRange hrange).trans hskip)

theorem shrinks_readBracket {flags : Flags} {fuel : Nat} : Shrinks (readBracket flags fuel) := by
  intro cs a left h
  cases fuel with
  | zero => cases h
  | succ fuel =>
    rw [readBracket] at h
    obtain ⟨⟨set, left'⟩, hitems, h⟩ := bind_eq_ok_iff.mp h
    obtain ⟨cls, -, h⟩ := bind_eq_ok_iff.mp h
    exact (suffix_of_ok h).trans ((shrinks_readItems hitems).trans
      (readBracketFront_suffix flags.spaced cs))

end

/-! ### Steps -/

/-- What an element of a pattern does to the group that it stands in. -/
inductive Change where
  | endBranch
  | push (pattern : Pattern Atom) (depth : Nat)
  | repeatLast (least : Nat) (most : Option Nat)

/-- The changed group. A repetition needs an element that it can repeat. -/
def Change.apply (group : OpenGroup) : Change → Except Malformed OpenGroup
  | endBranch => .ok group.endBranch
  | push pattern depth => .ok (group.push { pattern, depth })
  | repeatLast least most =>
    match group.elements with
    | [] => .error {}
    | last :: before =>
      if !last.repeatable then .error {}
      else .ok { group with
        elements :=
          { pattern := .repeated last.pattern least most, depth := 1 + last.depth } :: before }

/-- Reads the element that starts with a character which is no parenthesis. -/
def readElement (flags : Flags) (c : Char) : Reader Change := fun rest =>
  match c with
  | '|' => .ok (.endBranch, rest)
  | '[' => do
    let (cls, rest) ← readBracket flags (2 * rest.length + 2) rest
    return (.push (.ofClass cls.value) cls.depth, rest)
  | '?' => .ok (.repeatLast 0 (some 1), dropReluctance rest)
  | '*' => .ok (.repeatLast 0 none, dropReluctance rest)
  | '+' => .ok (.repeatLast 1 none, dropReluctance rest)
  | '{' => do
    let (bounds, rest) ← readBounds flags.spaced rest
    return (.repeatLast bounds.1 bounds.2, dropReluctance (skipBlanks flags.spaced rest))
  | '.' => do return (.push (← flags.dot) 0, rest)
  | '^' => do return (.push (← flags.primitive (.assertion .lineStart)) 0, rest)
  | '$' => do return (.push (← flags.primitive (.assertion .lineEnd)) 0, rest)
  | '\\' => do
    let (escape, rest) ← Primitive.read flags.spaced rest
    return (.push (← flags.primitive escape) 0, rest)
  | c => do return (.push (← flags.primitive (.literal c false)) 0, rest)

/-- What an opening parenthesis does. -/
inductive Opening where
  /-- Opens a group under flags, perhaps with a name. -/
  | group (flags : Flags) (name : Option (List Char))
  /-- Sets flags for the group it stands in. -/
  | setting (flags : Flags)

/-- Goes on after the parenthesis. -/
def Opening.apply (s : Parse) (rest : List Char) : Opening → Parse
  | group flags name => { s.openGroup flags rest with names := name.toList ++ s.names }
  | setting flags =>
    { s with rest, flags, group := s.group.push { pattern := .empty, repeatable := false } }

/-- Reads the name of a group. No two groups have the same name. -/
def readNamed (flags : Flags) (names : List (List Char)) : Reader Opening := fun rest =>
  readName true rest >>= fun read =>
    if names.contains read.1 then .error {} else .ok (.group flags (some read.1), read.2)

/-- Reads flags, for a group that they open or for the one they stand in. -/
def readFlagged (flags : Flags) : Reader Opening := fun rest =>
  readFlags { flags } rest >>= fun read =>
    if !read.1.alone then .ok (.group read.1.flags none, read.2)
    else if read.1.seen.isEmpty then .error {}
    else .ok (.setting read.1.flags, read.2)

/-- Reads what follows an opening parenthesis. -/
def readOpening (flags : Flags) (names : List (List Char)) : Reader Opening := fun rest =>
  match skipBlanks flags.spaced rest with
  | '?' :: 'P' :: '<' :: rest => readNamed flags names rest
  | '?' :: '<' :: rest => readNamed flags names rest
  | '?' :: rest => readFlagged flags rest
  | rest => .ok (.group flags none, rest)

theorem shrinks_readElement {flags : Flags} {c : Char} : Shrinks (readElement flags c) := by
  intro rest change left h
  rw [readElement.eq_def] at h
  have hpure : ∀ {α : Type} {value : Except Malformed α} {f : α → Change},
      (do return (f (← value), rest)) = Except.ok (change, left) → left <:+ rest := by
    intro α value f h
    obtain ⟨_, -, h⟩ := bind_eq_ok_iff.mp h
    exact suffix_of_ok h
  have hreluctant : ∀ {repetition : Change} {cs : List Char}, cs <:+ rest →
      Except.ok (repetition, dropReluctance cs) = Except.ok (ε := Malformed) (change, left) →
        left <:+ rest := by
    intro repetition cs hcs h
    exact (suffix_of_ok h).trans ((dropReluctance_suffix _).trans hcs)
  simp only at h
  split at h
  · exact suffix_of_ok h
  · obtain ⟨⟨cls, left'⟩, hbracket, h⟩ := bind_eq_ok_iff.mp h
    exact (suffix_of_ok h).trans (shrinks_readBracket hbracket)
  · exact hreluctant (List.suffix_refl _) h
  · exact hreluctant (List.suffix_refl _) h
  · exact hreluctant (List.suffix_refl _) h
  · obtain ⟨⟨bounds, left'⟩, hbounds, h⟩ := bind_eq_ok_iff.mp h
    exact hreluctant ((skipBlanks_suffix flags.spaced left').trans (shrinks_readBounds hbounds)) h
  · exact hpure h
  · exact hpure h
  · exact hpure h
  · obtain ⟨⟨escape, left'⟩, hescape, h⟩ := bind_eq_ok_iff.mp h
    obtain ⟨_, -, h⟩ := bind_eq_ok_iff.mp h
    exact (suffix_of_ok h).trans (shrinks_primitive hescape)
  · exact hpure h

theorem shrinks_readNamed {flags : Flags} {names : List (List Char)} :
    Shrinks (readNamed flags names) := by
  intro rest opening left h
  obtain ⟨⟨name, left'⟩, hname, h⟩ := bind_eq_ok_iff.mp h
  simp only at h
  split_ifs at h
  exact (suffix_of_ok h).trans (shrinks_readName hname)

theorem shrinks_readFlagged {flags : Flags} : Shrinks (readFlagged flags) := by
  intro rest opening left h
  obtain ⟨⟨setting, left'⟩, hflags, h⟩ := bind_eq_ok_iff.mp h
  simp only at h
  split_ifs at h
  all_goals
    exact (suffix_of_ok h).trans (shrinks_readFlags hflags)

theorem shrinks_readOpening {flags : Flags} {names : List (List Char)} :
    Shrinks (readOpening flags names) := by
  intro rest opening left h
  have hskip := skipBlanks_suffix flags.spaced rest
  rw [readOpening] at h
  split at h
  · next heq =>
    rw [heq] at hskip
    exact (shrinks_readNamed h).trans ((List.suffix_append ['?', 'P', '<'] _).trans hskip)
  · next heq =>
    rw [heq] at hskip
    exact (shrinks_readNamed h).trans ((List.suffix_append ['?', '<'] _).trans hskip)
  · next heq =>
    rw [heq] at hskip
    exact (shrinks_readFlagged h).trans ((List.suffix_cons _ _).trans hskip)
  · exact (suffix_of_ok h).trans hskip

namespace Parse

variable {s s' : Parse} {c : Char} {rest : List Char}

theorem repeatLast_eq {least : Nat} {most : Option Nat} : s.repeatLast least most rest =
    (Change.repeatLast least most).apply s.group >>= fun group => .ok { s with rest, group } := by
  rw [repeatLast, Change.apply]
  cases s.group.elements with
  | nil => rfl
  | cons last before => cases hrepeatable : last.repeatable <;> simp [hrepeatable] <;> rfl

theorem openNamed_eq : (match readName true rest with
    | .ok (name, rest) =>
      if s.names.contains name then .error {}
      else .ok { s.openGroup s.flags rest with names := name :: s.names }
    | .error e => .error e) =
    readNamed s.flags s.names rest >>= fun read => .ok (read.1.apply s read.2) := by
  rw [readNamed]
  cases readName true rest with
  | error e => rfl
  | ok read =>
    simp only [bind, Except.bind]
    split_ifs <;> rfl

theorem parenthesis_eq : s.parenthesis rest =
    readOpening s.flags s.names rest >>= fun read => .ok (read.1.apply s read.2) := by
  rw [parenthesis]
  simp only
  split
  · next heq =>
    simp only [readOpening, heq]
    exact openNamed_eq
  · next heq =>
    simp only [readOpening, heq]
    exact openNamed_eq
  · next rest _ _ heq =>
    simp only [readOpening, heq, readFlagged]
    cases readFlags { flags := s.flags } rest with
    | error e => rfl
    | ok read =>
      simp only [bind, Except.bind]
      split_ifs <;> rfl
  · rw [readOpening]
    simp only
    rfl

/-- Goes on by an element, which changes the open group and nothing else. -/
def element (s : Parse) (c : Char) (rest : List Char) : Except Malformed Parse :=
  readElement s.flags c rest >>= fun read =>
    read.1.apply s.group >>= fun group => .ok { s with rest := read.2, group }

/-- A step that is not at a parenthesis reads an element. -/
theorem step_eq (hopen : c ≠ '(') (hclose : c ≠ ')') : s.step c rest = s.element c rest := by
  -- the step and the element are told apart by the same characters
  rw [element, step.eq_def, readElement.eq_def]
  split
  · exact absurd rfl hopen
  · exact absurd rfl hclose
  · rfl
  · simp only [bind_assoc]
    rfl
  · exact repeatLast_eq
  · exact repeatLast_eq
  · exact repeatLast_eq
  · simp only [repeatLast_eq, bind_assoc]
    rfl
  · simp only [bind_assoc]
    rfl
  · simp only [bind_assoc]
    rfl
  · simp only [bind_assoc]
    rfl
  · simp only [bind_assoc]
    rfl
  · simp only [bind_assoc]
    rfl

/-- What one step can do: end the open group, go on after an opening parenthesis, or read an
element. -/
theorem step_cases (h : s.step c rest = .ok s') :
    (c = ')' ∧ s.closeGroup rest = .ok s') ∨
      (c = '(' ∧ ∃ opening left, readOpening s.flags s.names rest = .ok (opening, left) ∧
        s' = opening.apply s left) ∨
      (c ≠ '(' ∧ c ≠ ')' ∧ ∃ change left group, readElement s.flags c rest = .ok (change, left) ∧
        change.apply s.group = .ok group ∧ s' = { s with rest := left, group }) := by
  by_cases hclose : c = ')'
  · subst hclose
    exact .inl ⟨rfl, h⟩
  by_cases hopen : c = '('
  · subst hopen
    have h : s.parenthesis rest = .ok s' := h
    rw [parenthesis_eq] at h
    obtain ⟨⟨opening, left⟩, hread, h⟩ := bind_eq_ok_iff.mp h
    exact .inr (.inl ⟨rfl, opening, left, hread, (Except.ok.inj h).symm⟩)
  · rw [step_eq hopen hclose, element] at h
    obtain ⟨⟨change, left⟩, hread, h⟩ := bind_eq_ok_iff.mp h
    obtain ⟨group, hgroup, h⟩ := bind_eq_ok_iff.mp h
    exact .inr (.inr ⟨hopen, hclose, change, left, group, hread, hgroup, (Except.ok.inj h).symm⟩)

/-- A step leaves the end of the rest. -/
theorem step_suffix (h : s.step c rest = .ok s') : s'.rest <:+ rest := by
  rcases step_cases h with ⟨-, h⟩ | ⟨-, opening, left, hread, rfl⟩ |
    ⟨-, -, change, left, group, hread, -, rfl⟩
  · rw [closeGroup] at h
    split at h
    · cases h
    · obtain rfl := Except.ok.inj h
      exact List.suffix_refl rest
  · cases opening <;> exact shrinks_readOpening hread
  · exact shrinks_readElement hread

/-- Only a closing parenthesis ends a group. -/
theorem step_outer (h : s.step c rest = .ok s') (hclose : c ≠ ')') : s.outer <:+ s'.outer := by
  rcases step_cases h with ⟨rfl, -⟩ | ⟨-, opening, left, -, rfl⟩ |
    ⟨-, -, change, left, group, -, -, rfl⟩
  · exact absurd rfl hclose
  · cases opening with
    | group flags name => exact List.suffix_cons _ _
    | setting flags => exact List.suffix_refl _
  · exact List.suffix_refl _

end Parse

end TrafficPlane.Regex
