import BooleanSearch.Pattern.Escaped
import Mathlib.Data.List.Basic

/-!
# Reading escaped texts

An escaped text is read as its characters one after the other, whatever stands around it, and so are
the lookarounds that are put about it.
-/

namespace BooleanSearch.Pattern

open Reader

/-! ## Items of an escaped text -/

/-- How a character of a text is written in a pattern. -/
def escapedItem (char : Char) : Item :=
  if specialChars.contains char then .escaped char else .plain char

theorem escapedItem_of_special {char : Char} (special : char ∈ specialChars) :
    escapedItem char = .escaped char :=
  if_pos (List.contains_iff_mem.mpr special)

theorem escapedItem_of_ordinary {char : Char} (ordinary : char ∉ specialChars) :
    escapedItem char = .plain char :=
  if_neg fun special => ordinary (List.contains_iff_mem.mp special)

theorem dangling_notMem_append (text : List Char) {rest : List Item} (whole : .dangling ∉ rest) :
    .dangling ∉ text.map escapedItem ++ rest := by
  rw [List.mem_append, not_or, List.mem_map]
  refine ⟨?_, whole⟩
  rintro ⟨char, -, same⟩
  unfold escapedItem at same
  split at same <;> cases same

theorem Item.ofChars_cons {char : Char} (notEscape : char ≠ '\\') (rest : List Char) :
    Item.ofChars (char :: rest) = .plain char :: Item.ofChars rest := by
  rw [Item.ofChars]
  · exact fun _ _ same => absurd same notEscape
  · exact fun same => absurd same notEscape

/-- The items of an escaped text stand before those of what follows it. -/
theorem Item.ofChars_escape (text rest : List Char) :
    Item.ofChars (text.flatMap escapeChar ++ rest) = text.map escapedItem ++ Item.ofChars rest := by
  induction text with
  | nil => rfl
  | cons char others inductionHypothesis =>
      rw [List.flatMap_cons, List.append_assoc, List.map_cons, List.cons_append,
        ← inductionHypothesis]
      unfold escapeChar escapedItem
      split
      · rfl
      · next ordinary =>
          refine Item.ofChars_cons (fun same => ordinary ?_) _
          rw [same]
          decide

/-! ## Steps of the reader -/

theorem Reader.bind_of_ok {α β : Type} {step : Reader α} {next : α → Reader β}
    {reading after : Reading} {value : α} (read : step reading = .ok (value, after)) :
    (step >>= next) reading = next value after := by
  dsimp only [bind]
  rw [read]

/-- What the reader knows of a pattern that has no groups. -/
def groupless (flags : Flags) (lookbehind : Option Nat) (rest : List Item) (offset : Nat) :
    Reading :=
  ⟨rest, offset, flags, [], #[none], lookbehind, []⟩

section

variable {flags : Flags} {lookbehind : Option Nat} {rest : List Item} {offset : Nat}

theorem peek_groupless :
    peek (groupless flags lookbehind rest offset) =
      .ok (rest.head?, groupless flags lookbehind rest offset) := rfl

theorem take_groupless {item : Item} (whole : .dangling ∉ rest) :
    take (groupless flags lookbehind (item :: rest) offset) =
      .ok (some item, groupless flags lookbehind rest (offset + item.length)) := by
  unfold take groupless
  dsimp only
  split
  · exact absurd List.mem_cons_self whole
  · rfl

theorem accept_groupless {char : Char} (whole : .dangling ∉ rest) :
    accept char (groupless flags lookbehind (.plain char :: rest) offset) =
      .ok (true, groupless flags lookbehind rest (offset + 1)) := by
  unfold accept
  rw [bind_of_ok peek_groupless, List.head?_cons, if_pos (beq_self_eq_true _),
    bind_of_ok (take_groupless whole)]
  rfl

theorem accept_groupless_of_other {char : Char} (other : rest.head? ≠ some (.plain char)) :
    accept char (groupless flags lookbehind rest offset) =
      .ok (false, groupless flags lookbehind rest offset) := by
  unfold accept
  rw [bind_of_ok peek_groupless, if_neg (by rwa [beq_iff_eq])]
  rfl

/-- The escape of a character that has a meaning is the character. -/
theorem readEscape_special {char : Char} (special : char ∈ specialChars) (reading : Reading) :
    readEscape char reading = .ok (.code char.toNat false, reading) := by
  have all : specialChars.all (fun char => decide (classEscape? char = none ∧
      anchorEscape? char = none ∧
        (controlEscape? char = some char.toNat ∨ controlEscape? char = none) ∧
        isAsciiDigit char = false ∧ Text.isAsciiLetterCode char.toNat = false ∧
          char ∉ ['0', 'x', 'u', 'U', 'N'])) = true := by
    decide
  obtain ⟨noClass, noAnchor, control, noDigit, noLetter, others⟩ :=
    of_decide_eq_true (List.all_eq_true.mp all char special)
  have differ : ∀ letter ∈ ['0', 'x', 'u', 'U', 'N'], (char == letter) = false := by
    intro letter member
    rw [beq_eq_false_iff_ne]
    rintro rfl
    exact others member
  unfold readEscape
  rw [noClass, noAnchor]
  rcases control with same | none
  · rw [same]
    rfl
  · rw [none]
    dsimp only
    unfold readCommonEscape
    simp only [differ '0' (by decide), differ 'x' (by decide), differ 'u' (by decide),
      differ 'U' (by decide), differ 'N' (by decide), noDigit, noLetter, Bool.false_eq_true,
      if_false]
    rfl

/-! ## Items -/

variable {first : Bool} {items : List Tree} {fuel : Nat}

/-- A character of an escaped text is read as itself. -/
theorem readItems_escapedItem (char : Char) (whole : .dangling ∉ rest) :
    readItems false first items (fuel + 1)
        (groupless flags lookbehind (escapedItem char :: rest) offset) =
      readItems false first (items ++ [.code char.toNat false]) fuel
        (groupless flags lookbehind rest (offset + (escapedItem char).length)) := by
  conv_lhs => unfold readItems
  rw [bind_of_ok peek_groupless, List.head?_cons]
  by_cases special : char ∈ specialChars
  · rw [escapedItem_of_special special]
    dsimp only
    rw [if_neg (by exact Bool.false_ne_true), bind_of_ok (take_groupless whole)]
    exact bind_of_ok (readEscape_special special _)
  · -- The signs that the reader looks for all have a meaning, so the character is none of them.
    rw [escapedItem_of_ordinary special]
    have differ : ∀ other ∈ specialChars, (char == other) = false := by
      intro other isSpecial
      rw [beq_eq_false_iff_ne]
      rintro rfl
      exact special isSpecial
    have goesOn : ∀ other ∈ specialChars, (Item.plain char == .plain other) = false := by
      intro other isSpecial
      rw [beq_eq_false_iff_ne]
      rintro same
      cases same
      exact special isSpecial
    dsimp only
    rw [goesOn '|' (by decide), goesOn ')' (by decide), if_neg (by decide),
      bind_of_ok (take_groupless whole)]
    simp only [differ '[' (by decide), differ '.' (by decide), differ '^' (by decide),
      differ '$' (by decide), differ '*' (by decide), differ '+' (by decide),
      differ '?' (by decide), differ (Char.ofNat 123) (by decide), differ '(' (by decide),
      Bool.false_and, Bool.or_false, Bool.false_eq_true, if_false]

/-- The trees of a text that stands for itself. -/
def codesOf (text : List Char) : List Tree :=
  text.map fun char => .code char.toNat false

theorem readItems_escapedText (text : List Char) (whole : .dangling ∉ rest) :
    ∃ stop, readItems false first items (fuel + text.length)
        (groupless flags lookbehind (text.map escapedItem ++ rest) offset) =
      readItems false first (items ++ codesOf text) fuel
        (groupless flags lookbehind rest stop) := by
  induction text generalizing items offset with
  | nil =>
      refine ⟨offset, ?_⟩
      rw [show codesOf [] = [] from rfl, List.append_nil]
      rfl
  | cons char others inductionHypothesis =>
      have wholeRest := dangling_notMem_append others whole
      obtain ⟨stop, read⟩ := @inductionHypothesis (offset + (escapedItem char).length)
        (items ++ [.code char.toNat false])
      refine ⟨stop, ?_⟩
      rw [List.map_cons, List.cons_append, List.length_cons, ← Nat.add_assoc,
        readItems_escapedItem char wholeRest, read, List.append_assoc]
      rfl

/-- The items end with the pattern or before a closing parenthesis. -/
theorem readItems_end (ends : rest.head? = none ∨ rest.head? = some (.plain ')')) :
    readItems false first items (fuel + 1) (groupless flags lookbehind rest offset) =
      .ok (Tree.unpack items, groupless flags lookbehind rest offset) := by
  unfold readItems
  rw [bind_of_ok peek_groupless]
  rcases ends with none | closes
  · rw [none]
    rfl
  · rw [closes]
    rfl

/-- A branch is its items if no bar follows. -/
theorem readBranches_of_items {outermost : Bool} {start : Reading} {found : List Tree}
    (read : readItems false outermost [] fuel start =
      .ok (found, groupless flags lookbehind rest offset))
    (noBar : rest.head? ≠ some (.plain '|')) :
    readBranches false outermost [] (fuel + 1) start =
      .ok (Tree.ofItems found, groupless flags lookbehind rest offset) := by
  unfold readBranches
  rw [List.isEmpty_nil, Bool.and_true, bind_of_ok read,
    bind_of_ok (accept_groupless_of_other noBar)]
  rfl

/-! ## Lookarounds -/

/-- A group that is a lookaround is read as one item. -/
theorem readItems_look {behind negative : Bool} {tree : Tree} {after last : Reading}
    (whole : .dangling ∉ rest)
    (opened : readOpening offset (groupless flags lookbehind rest (offset + 1)) =
      .ok (.look behind negative, after))
    (read : readGroup false offset (.look behind negative) fuel after = .ok (tree, last)) :
    readItems false first items (fuel + 1)
        (groupless flags lookbehind (.plain '(' :: rest) offset) =
      readItems false first (items ++ [tree]) fuel last := by
  conv_lhs => unfold readItems
  rw [bind_of_ok peek_groupless, List.head?_cons]
  dsimp only
  rw [if_neg (by exact Bool.false_ne_true), bind_of_ok (take_groupless whole)]
  change (Reader.get >>= _) _ = _
  refine (bind_of_ok rfl).trans ?_
  refine (bind_of_ok opened).trans ?_
  exact bind_of_ok read

theorem readOpening_ahead (start : Nat) (negative : Bool) (whole : .dangling ∉ rest) :
    readOpening start (groupless flags lookbehind
        (.plain '?' :: .plain (if negative then '!' else '=') :: rest) offset) =
      .ok (.look false negative, groupless flags lookbehind rest (offset + 2)) := by
  have wholeRest : .dangling ∉ .plain (if negative then '!' else '=') :: rest := by
    rw [List.mem_cons, not_or]
    exact ⟨nofun, whole⟩
  unfold readOpening
  rw [bind_of_ok (accept_groupless wholeRest)]
  change (take >>= _) _ = _
  rw [bind_of_ok (take_groupless whole)]
  cases negative <;> rfl

theorem readOpening_behind (start : Nat) (whole : .dangling ∉ rest) :
    readOpening start (groupless flags lookbehind
        (.plain '?' :: .plain '<' :: .plain '!' :: rest) offset) =
      .ok (.look true true, groupless flags lookbehind rest (offset + 3)) := by
  have wholeRest : .dangling ∉ .plain '!' :: rest := by
    rw [List.mem_cons, not_or]
    exact ⟨nofun, whole⟩
  have wholeSigns : .dangling ∉ .plain '<' :: .plain '!' :: rest := by
    rw [List.mem_cons, not_or]
    exact ⟨nofun, wholeRest⟩
  unfold readOpening
  rw [bind_of_ok (accept_groupless wholeSigns)]
  change (take >>= _) _ = _
  rw [bind_of_ok (take_groupless wholeRest)]
  change (take >>= _) _ = _
  rw [bind_of_ok (take_groupless whole)]
  rfl

theorem closeAt_groupless (start : Nat) (whole : .dangling ∉ rest) :
    closeAt start (groupless flags lookbehind (.plain ')' :: rest) offset) =
      .ok ((), groupless flags lookbehind rest (offset + 1)) := by
  unfold closeAt
  rw [bind_of_ok (accept_groupless whole)]
  rfl

/-- Inside a lookbehind the reader remembers that it has seen no group. -/
theorem readGroup_look {start stop : Nat} {after : List Item} {behind negative : Bool}
    {found : List Tree} (whole : .dangling ∉ after)
    (read : readItems false false [] fuel
        (groupless flags (if behind then some 1 else none) rest offset) =
      .ok (found, groupless flags (if behind then some 1 else none) (.plain ')' :: after) stop)) :
    readGroup false start (.look behind negative) (fuel + 2) (groupless flags none rest offset) =
      .ok (.look behind negative (Tree.ofItems found), groupless flags none after (stop + 1)) := by
  have body := readBranches_of_items read (by exact nofun)
  unfold readGroup
  dsimp only
  have inside : insideLookbehind behind (readBranches false false [] (fuel + 1))
      (groupless flags none rest offset) =
        .ok (Tree.ofItems found, groupless flags none (.plain ')' :: after) stop) := by
    unfold insideLookbehind
    cases behind with
    | false => exact (bind_of_ok rfl).trans (bind_of_ok body)
    | true =>
        refine (bind_of_ok rfl).trans ?_
        change (Reader.modify _ >>= _) _ = _
        exact (bind_of_ok rfl).trans ((bind_of_ok body).trans rfl)
  rw [bind_of_ok inside, bind_of_ok (closeAt_groupless start whole)]
  rfl

theorem unpack_codesOf (text : List Char) : Tree.unpack (codesOf text) = codesOf text := by
  induction text with
  | nil => rfl
  | cons char others inductionHypothesis =>
      change .code char.toNat false :: Tree.unpack (codesOf others) = _
      rw [inductionHypothesis]
      rfl

/-- A text that is looked for ahead. -/
theorem readGroup_text {start : Nat} {after : List Item} {negative : Bool} (text : List Char)
    (whole : .dangling ∉ after) :
    ∃ stop, readGroup false start (.look false negative) (fuel + 1 + text.length + 2)
        (groupless flags none (text.map escapedItem ++ .plain ')' :: after) offset) =
      .ok (.look false negative (Tree.ofItems (codesOf text)), groupless flags none after stop) := by
  have wholeRest : .dangling ∉ .plain ')' :: after := by
    rw [List.mem_cons, not_or]
    exact ⟨nofun, whole⟩
  obtain ⟨stop, read⟩ := readItems_escapedText text wholeRest
  rw [readItems_end (Or.inr rfl), List.nil_append, unpack_codesOf] at read
  exact ⟨stop + 1, readGroup_look whole read⟩

/-- The tree of the class of word characters. -/
def wordTree : Tree :=
  .set false [.class .word false]

/-- The items that rule out a word character behind. -/
def noWordBehind : List Item :=
  [.plain '(', .plain '?', .plain '<', .plain '!', .escaped 'w', .plain ')']

/-- The items that rule out a word character ahead. -/
def noWordAhead : List Item :=
  [.plain '(', .plain '?', .plain '!', .escaped 'w', .plain ')']

theorem readGroup_word {start : Nat} {after : List Item} {behind : Bool}
    (whole : .dangling ∉ after) :
    readGroup false start (.look behind true) (fuel + 4)
        (groupless flags none (.escaped 'w' :: .plain ')' :: after) offset) =
      .ok (.look behind true wordTree, groupless flags none after (offset + 3)) := by
  have wholeRest : .dangling ∉ .plain ')' :: after := by
    rw [List.mem_cons, not_or]
    exact ⟨nofun, whole⟩
  have read : ∀ lookbehind, readItems false false [] (fuel + 2)
      (groupless flags lookbehind (.escaped 'w' :: .plain ')' :: after) offset) =
        .ok ([wordTree], groupless flags lookbehind (.plain ')' :: after) (offset + 2)) := by
    intro lookbehind
    unfold readItems
    rw [bind_of_ok peek_groupless, List.head?_cons]
    dsimp only
    rw [if_neg (by exact Bool.false_ne_true), bind_of_ok (take_groupless wholeRest)]
    refine (bind_of_ok rfl).trans ?_
    exact readItems_end (Or.inr rfl)
  exact readGroup_look whole (read _)

theorem readItems_noWordBehind (whole : .dangling ∉ rest) :
    readItems false first items (fuel + 5) (groupless flags none (noWordBehind ++ rest) offset) =
      readItems false first (items ++ [.look true true wordTree]) (fuel + 4)
        (groupless flags none rest (offset + 7)) := by
  have wholeSigns : .dangling ∉ .escaped 'w' :: .plain ')' :: rest := by
    simpa using whole
  exact readItems_look (by simpa using whole) (readOpening_behind _ wholeSigns)
    (readGroup_word whole)

theorem readItems_noWordAhead (whole : .dangling ∉ rest) :
    readItems false first items (fuel + 5) (groupless flags none (noWordAhead ++ rest) offset) =
      readItems false first (items ++ [.look false true wordTree]) (fuel + 4)
        (groupless flags none rest (offset + 6)) := by
  have wholeSigns : .dangling ∉ .escaped 'w' :: .plain ')' :: rest := by
    simpa using whole
  exact readItems_look (by simpa using whole) (readOpening_ahead _ true wholeSigns)
    (readGroup_word whole)

end

end BooleanSearch.Pattern
