import BooleanSearch.Query.Token

/-!
# Written terms

What is written for a term ends where the term ends: a word before the next character that cannot
stand in it, a quoted text and a pattern at what closes them.  So a term can be read off the front
of a longer text, as long as a fuzzy text holds no colon.
-/

namespace BooleanSearch.Query

/-! ## Words, quoted texts and patterns -/

/-- A text begins with a character of a class. -/
def StartsWith (class_ : Char → Bool) (chars : List Char) : Prop :=
  ∃ first rest, chars = first :: rest ∧ class_ first = true

/-- A colon between the parts of a key, or what ends an operand inside a query. -/
def endsOperand (char : Char) : Bool :=
  char == ':' || char == ' ' || char == ')' || char == ','

theorem StartsWith.imp {class_ other : Char → Bool} {chars : List Char}
    (starts : StartsWith class_ chars) (implies : ∀ char, class_ char = true → other char = true) :
    StartsWith other chars := by
  obtain ⟨first, rest, rfl, holds⟩ := starts
  exact ⟨first, rest, rfl, implies first holds⟩

theorem of_endsOperand {property : Char → Prop} (colon : property ':') (blank : property ' ')
    (closing : property ')') (comma : property ',') :
    ∀ char, endsOperand char = true → property char := by
  intro char ends
  simp only [endsOperand, Bool.or_eq_true, beq_iff_eq] at ends
  rcases ends with ((rfl | rfl) | rfl) | rfl
  · exact colon
  · exact blank
  · exact closing
  · exact comma

theorem not_endsOperand_of_continuesWord {char : Char} (inWord : continuesWord char = true)
    (notColon : char ≠ ':') : endsOperand char = false := by
  have notBlank : char ≠ ' ' := by
    rintro rfl
    exact absurd inWord (by decide)
  unfold continuesWord at inWord
  simp only [Bool.not_eq_true', Bool.or_eq_false_iff, beq_eq_false_iff_ne] at inWord
  simp [endsOperand, notColon, notBlank, inWord]

section

variable {inside : Char → Bool} {word after : List Char}
  (all : ∀ char ∈ word, inside char = true) (ends : ∀ char ∈ after.head?, inside char = false)

include all ends

theorem takeWhile_append_of_ends : (word ++ after).takeWhile inside = word := by
  rw [List.takeWhile_append_of_pos all]
  cases after with
  | nil => exact List.append_nil word
  | cons first rest =>
      rw [List.takeWhile_cons_of_neg (by simp [ends first rfl]), List.append_nil]

theorem dropWhile_append_of_ends : (word ++ after).dropWhile inside = after := by
  rw [List.dropWhile_append_of_pos all]
  cases after with
  | nil => rfl
  | cons first rest => exact List.dropWhile_cons_of_neg (by simp [ends first rfl])

end

/-- A word is all that stands before the first character that ends it. -/
theorem takeWhile_word {inside : Char → Bool} {word after : List Char}
    (all : ∀ char ∈ word, inside char = true)
    (ended : StartsWith (fun char => !inside char) after) :
    (word ++ after).takeWhile inside = word := by
  obtain ⟨first, rest, rfl, outside⟩ := ended
  refine takeWhile_append_of_ends all fun char member => ?_
  rw [List.head?_cons, Option.mem_some_iff] at member
  rw [← member]
  simpa using outside

theorem word_inj {inside : Char → Bool} {word other after otherAfter : List Char}
    (all : ∀ char ∈ word, inside char = true) (otherAll : ∀ char ∈ other, inside char = true)
    (ended : StartsWith (fun char => !inside char) after)
    (otherEnded : StartsWith (fun char => !inside char) otherAfter)
    (same : word ++ after = other ++ otherAfter) : word = other ∧ after = otherAfter := by
  have words : word = other := by
    rw [← takeWhile_word all ended, same, takeWhile_word otherAll otherEnded]
  subst words
  exact ⟨rfl, List.append_cancel_left same⟩

/-- A quoted text is read back from what is written for it. -/
theorem readQuoted?_quote (text after : List Char) :
    readQuoted? '"' (text.flatMap Literal.quoteChar ++ '"' :: after) = some (text, after) := by
  induction text with
  | nil => simp [readQuoted?]
  | cons char rest inductionHypothesis =>
      by_cases special : (char == '\\' || char == '"') = true
      · simp [Literal.quoteChar, special, readQuoted?, inductionHypothesis]
      · have ordinary : Literal.quoteChar char = [char] := if_neg special
        simp only [Bool.or_eq_true, beq_iff_eq, not_or] at special
        rw [List.flatMap_cons, ordinary, List.singleton_append, List.cons_append, readQuoted?]
        · simp [special.2, inductionHypothesis]
        · rintro _ _ rfl
          exact absurd rfl special.1

/-- The source of a pattern is closed by the first slash after it. -/
def ClosedSource (source : List Char) : Prop :=
  ∀ after, readPatternBody? (source ++ '/' :: after) = some (source ++ ['/'], after)

/-- Where the cases of a backslash are left out, a character is none. -/
theorem ne_backslash {char : Char} {rest : List Char} (notLast : char = '\\' → rest = [] → False)
    (notEscape : ∀ escaped others, char = '\\' → rest = escaped :: others → False) :
    char ≠ '\\' := by
  intro backslash
  cases rest with
  | nil => exact notLast backslash rfl
  | cons escaped others => exact notEscape escaped others backslash rfl

/-- What is read as the body of a pattern is a closed source with its slash. -/
theorem closedSource_of_read {chars body after : List Char}
    (read : readPatternBody? chars = some (body, after)) :
    ∃ source, body = source ++ ['/'] ∧ ClosedSource source := by
  fun_induction readPatternBody? chars generalizing body after with
  | case1 => cases read
  | case2 => cases read
  | case3 escaped rest inductionHypothesis =>
      simp only [Option.map_eq_some_iff, Prod.exists, Prod.mk.injEq] at read
      obtain ⟨inner, innerAfter, found, rfl, rfl⟩ := read
      obtain ⟨source, rfl, closed⟩ := inductionHypothesis found
      refine ⟨'\\' :: escaped :: source, rfl, fun later => ?_⟩
      simp [readPatternBody?, closed later]
  | case4 char rest notLast notEscape slash =>
      cases read
      refine ⟨[], rfl, fun later => ?_⟩
      simp [readPatternBody?]
  | case5 char rest notLast notEscape ordinary inductionHypothesis =>
      simp only [Option.map_eq_some_iff, Prod.exists, Prod.mk.injEq] at read
      obtain ⟨inner, innerAfter, found, rfl, rfl⟩ := read
      obtain ⟨source, rfl, closed⟩ := inductionHypothesis found
      have notBackslash := ne_backslash notLast notEscape
      refine ⟨char :: source, rfl, fun later => ?_⟩
      rw [List.cons_append, readPatternBody?]
      · simp only [ordinary, closed later]
        rfl
      · rintro rfl
        exact fun _ => notBackslash rfl
      · rintro _ _ rfl
        exact fun _ => notBackslash rfl

/-! ## How operands begin -/

/-- What an operand begins with. -/
inductive Opening
  | group
  | negation
  | proximity
  | word
  | quoted
  | pattern
  | fuzzy
  deriving DecidableEq

/-- Whether a term may begin so. -/
def Opening.ofTerm : Opening → Bool
  | .group => false
  | .negation => false
  | .proximity => false
  | _ => true

/-- What the operand at the front of a text begins with. -/
def openingOf : List Char → Opening
  | '(' :: _ => .group
  | '"' :: _ => .quoted
  | '/' :: _ => .pattern
  | '~' :: _ => .fuzzy
  | 'N' :: 'O' :: 'T' :: ' ' :: _ => .negation
  | 'N' :: 'E' :: 'A' :: 'R' :: '(' :: _ => .proximity
  | _ => .word

namespace Literal

def opening : Literal → Opening
  | .plain text => if isBare text then .word else .quoted
  | .pattern _ _ => .pattern
  | .fuzzy _ => .fuzzy

theorem opening_ne (term : Literal) {other : Opening} (notTerm : other.ofTerm = false) :
    term.opening ≠ other := by
  have ofTerm : term.opening.ofTerm = true := by
    cases term with
    | plain text => cases shape : isBare text <;> simp [opening, shape, Opening.ofTerm]
    | pattern source letters => rfl
    | fuzzy text => rfl
  rintro rfl
  rw [ofTerm] at notTerm
  cases notTerm

theorem opening_plain_ne_pattern (text : String) : (plain text).opening ≠ .pattern := by
  cases shape : isBare text <;> simp [opening, shape]

theorem opening_plain_ne_fuzzy (text : String) : (plain text).opening ≠ .fuzzy := by
  cases shape : isBare text <;> simp [opening, shape]

/-- A term can be read off the front of a text: its pattern is closed, its fuzzy text holds nothing
that ends a word, and no colon. -/
def Legible : Literal → Prop
  | .plain _ => True
  | .pattern source letters =>
    ClosedSource source.toList ∧ ∀ letter ∈ letters.toList, Text.isLetter letter = true
  | .fuzzy text => ∀ char ∈ text.toList, continuesWord char = true ∧ char ≠ ':'

theorem isBareChar_of_isBare {text : String} (bare : isBare text = true) :
    ∀ char ∈ text.toList, isBareChar char = true := by
  simp only [isBare, Bool.and_eq_true, List.all_eq_true] at bare
  exact bare.1.2

/-- No character of a bare word ends an operand. -/
theorem startsWith_not_isBareChar {after : List Char} (ended : StartsWith endsOperand after) :
    StartsWith (fun char => !isBareChar char) after :=
  ended.imp (of_endsOperand rfl rfl rfl rfl)

theorem render_of_isBare {text : String} (bare : isBare text = true) :
    (plain text).render = text :=
  if_pos bare

theorem toList_render_of_not_isBare {text : String} (quoted : ¬ isBare text = true) :
    (plain text).render.toList = '"' :: (text.toList.flatMap quoteChar ++ ['"']) := by
  have written : (plain text).render = quote text := if_neg quoted
  rw [written]
  simp [quote]

/-- A bare word is read as a word, whatever it is: it is no keyword. -/
theorem openingOf_bare {text : String} (bare : isBare text = true) {after : List Char}
    (ended : StartsWith endsOperand after) : openingOf (text.toList ++ after) = .word := by
  have word := takeWhile_word (isBareChar_of_isBare bare) (startsWith_not_isBareChar ended)
  -- The word that stands at the front of other openings is none, or a keyword.
  have notOther : ∀ {other rest : List Char} {first : Char}, isBare (String.ofList other) = false →
      other.all isBareChar = true → isBareChar first = false →
      (other ++ first :: rest).takeWhile isBareChar ≠ text.toList := by
    intro other rest first notBare all ends same
    have ended : StartsWith (fun char => !isBareChar char) (first :: rest) :=
      ⟨first, rest, rfl, by simp [ends]⟩
    rw [takeWhile_word (List.all_eq_true.mp all) ended] at same
    rw [same, String.ofList_toList, bare] at notBare
    cases notBare
  have noWord : ∀ {rest : List Char} {first : Char}, isBareChar first = false →
      (first :: rest).takeWhile isBareChar ≠ text.toList := fun ends =>
    notOther (show isBare (String.ofList []) = false from rfl) rfl ends
  generalize text.toList ++ after = chars at word ⊢
  unfold openingOf
  split
  · exact absurd word (noWord rfl)
  · exact absurd word (noWord rfl)
  · exact absurd word (noWord rfl)
  · exact absurd word (noWord rfl)
  · exact absurd word (notOther (show isBare (String.ofList ['N', 'O', 'T']) = false from rfl) rfl rfl)
  · exact absurd word
      (notOther (show isBare (String.ofList ['N', 'E', 'A', 'R']) = false from rfl) rfl rfl)
  · rfl

theorem openingOf_render {term : Literal} {after : List Char}
    (ended : StartsWith endsOperand after) :
    openingOf (term.render.toList ++ after) = term.opening := by
  cases term with
  | pattern source letters => simp [render, opening, openingOf]
  | fuzzy text => simp [render, opening, openingOf]
  | plain text =>
      by_cases bare : isBare text = true
      · rw [render_of_isBare bare, openingOf_bare bare ended]
        exact (if_pos bare).symm
      · rw [toList_render_of_not_isBare bare]
        exact (if_neg bare).symm

theorem toList_render_pattern (source letters : String) (after : List Char) :
    (pattern source letters).render.toList ++ after =
      '/' :: (source.toList ++ '/' :: (letters.toList ++ after)) := by
  simp [render]

theorem toList_render_fuzzy (text : String) (after : List Char) :
    (fuzzy text).render.toList ++ after = '~' :: (text.toList ++ after) := by
  simp [render]

theorem startsWith_not_isLetter {after : List Char} (ended : StartsWith endsOperand after) :
    StartsWith (fun char => !Text.isLetter char) after :=
  ended.imp (of_endsOperand rfl rfl rfl rfl)

section

variable {after otherAfter : List Char} (ended : StartsWith endsOperand after)
  (otherEnded : StartsWith endsOperand otherAfter)

include ended otherEnded

theorem plain_of_render_append_eq {text other : String}
    (same : (plain text).render.toList ++ after = (plain other).render.toList ++ otherAfter) :
    text = other ∧ after = otherAfter := by
  have openings : (plain text).opening = (plain other).opening := by
    rw [← openingOf_render ended, same, openingOf_render otherEnded]
  by_cases bare : isBare text = true
  · by_cases otherBare : isBare other = true
    · rw [render_of_isBare bare, render_of_isBare otherBare] at same
      have read := word_inj (isBareChar_of_isBare bare) (isBareChar_of_isBare otherBare)
        (startsWith_not_isBareChar ended) (startsWith_not_isBareChar otherEnded) same
      exact ⟨String.toList_injective read.1, read.2⟩
    · simp [opening, bare, otherBare] at openings
  · by_cases otherBare : isBare other = true
    · simp [opening, bare, otherBare] at openings
    · rw [toList_render_of_not_isBare bare, toList_render_of_not_isBare otherBare] at same
      simp only [List.cons_append, List.append_assoc, List.cons.injEq, true_and,
        List.nil_append] at same
      have read := readQuoted?_quote text.toList after
      rw [same, readQuoted?_quote, Option.some.injEq, Prod.mk.injEq] at read
      exact ⟨String.toList_injective read.1.symm, read.2.symm⟩

theorem pattern_of_render_append_eq {source letters otherSource otherLetters : String}
    (legible : (pattern source letters).Legible)
    (otherLegible : (pattern otherSource otherLetters).Legible)
    (same : (pattern source letters).render.toList ++ after =
      (pattern otherSource otherLetters).render.toList ++ otherAfter) :
    source = otherSource ∧ letters = otherLetters ∧ after = otherAfter := by
  rw [toList_render_pattern, toList_render_pattern] at same
  have read := legible.1 (letters.toList ++ after)
  rw [List.tail_eq_of_cons_eq same, otherLegible.1, Option.some.injEq, Prod.mk.injEq] at read
  have rest := word_inj legible.2 otherLegible.2 (startsWith_not_isLetter ended)
    (startsWith_not_isLetter otherEnded) read.2.symm
  exact ⟨String.toList_injective (List.append_cancel_right read.1).symm,
    String.toList_injective rest.1, rest.2⟩

theorem fuzzy_of_render_append_eq {text other : String} (legible : (fuzzy text).Legible)
    (otherLegible : (fuzzy other).Legible)
    (same : (fuzzy text).render.toList ++ after = (fuzzy other).render.toList ++ otherAfter) :
    text = other ∧ after = otherAfter := by
  rw [toList_render_fuzzy, toList_render_fuzzy] at same
  have inside : ∀ {word : String}, (fuzzy word).Legible →
      ∀ char ∈ word.toList, (!endsOperand char) = true := by
    intro word legible char member
    rw [not_endsOperand_of_continuesWord (legible char member).1 (legible char member).2]
    rfl
  have read := word_inj (inside legible) (inside otherLegible) (by simpa using ended)
    (by simpa using otherEnded) (List.tail_eq_of_cons_eq same)
  exact ⟨String.toList_injective read.1, read.2⟩

/-- No two legible terms can be read off the front of the same text. -/
theorem eq_of_render_append_eq {first second : Literal} (legible : first.Legible)
    (otherLegible : second.Legible)
    (same : first.render.toList ++ after = second.render.toList ++ otherAfter) :
    first = second ∧ after = otherAfter := by
  have openings : first.opening = second.opening := by
    rw [← openingOf_render ended, same, openingOf_render otherEnded]
  cases first with
  | plain text =>
      cases second with
      | plain other =>
          obtain ⟨rfl, rest⟩ := plain_of_render_append_eq ended otherEnded same
          exact ⟨rfl, rest⟩
      | pattern otherSource otherLetters =>
          exact absurd openings (opening_plain_ne_pattern text)
      | fuzzy other =>
          exact absurd openings (opening_plain_ne_fuzzy text)
  | pattern source letters =>
      cases second with
      | plain other =>
          exact absurd openings.symm (opening_plain_ne_pattern other)
      | pattern otherSource otherLetters =>
          obtain ⟨rfl, rfl, rest⟩ :=
            pattern_of_render_append_eq ended otherEnded legible otherLegible same
          exact ⟨rfl, rest⟩
      | fuzzy other => cases openings
  | fuzzy text =>
      cases second with
      | plain other =>
          exact absurd openings.symm (opening_plain_ne_fuzzy other)
      | pattern otherSource otherLetters => cases openings
      | fuzzy other =>
          obtain ⟨rfl, rest⟩ := fuzzy_of_render_append_eq ended otherEnded legible otherLegible same
          exact ⟨rfl, rest⟩

end

end Literal

end BooleanSearch.Query
