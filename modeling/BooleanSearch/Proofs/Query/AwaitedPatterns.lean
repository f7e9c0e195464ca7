import BooleanSearch.Proofs.Query.Refusals

/-!
# Patterns that a reader comes to

A reader never looks past the token at hand.  So if some tokens can go on to a query with a sound
pattern, it comes to any pattern behind them, whatever stands behind that, and fails as a pattern does
that stands for nothing.
-/

namespace BooleanSearch.Query

/-- With enough fuel, the reader of a phrase comes to a term behind some tokens and fails as it
does. -/
def Phrase.FailsAt (token : Token) (failure : Failure) : Phrase → List Token → Prop
  | .disjunction, before => ∀ after fuel, 8 * before.length + 4 ≤ fuel →
      readOr fuel (before ++ token :: after) = .error failure
  | .conjunction, before => ∀ after fuel, 8 * before.length + 3 ≤ fuel →
      readAnd fuel (before ++ token :: after) = .error failure
  | .negation, before => ∀ after fuel, 8 * before.length + 2 ≤ fuel →
      readNot fuel (before ++ token :: after) = .error failure
  | .primary, before => ∀ after fuel, 8 * before.length + 1 ≤ fuel →
      readPrimary fuel (before ++ token :: after) = .error failure

/-- A token is in the first of two parts, or in the second. -/
theorem split_of_append_eq {before after first second : List Token} {token : Token}
    (whole : first ++ second = before ++ token :: after) :
    (∃ rest, first = before ++ token :: rest) ∨
      ∃ rest, before = first ++ rest ∧ second = rest ++ token :: after := by
  rcases List.append_eq_append_iff.mp whole with ⟨rest, rfl, ends⟩ | ⟨rest, rfl, begins⟩
  · exact Or.inr ⟨rest, rfl, ends⟩
  · cases rest with
    | nil => exact Or.inr ⟨[], by simp, begins.symm⟩
    | cons next rest =>
        obtain ⟨rfl, -⟩ := List.cons.inj begins
        exact Or.inl ⟨rest, rfl⟩

theorem split_of_append_cons_eq {before after first second : List Token} {token other : Token}
    (differ : other ≠ token) (whole : first ++ other :: second = before ++ token :: after) :
    (∃ rest, first = before ++ token :: rest) ∨
      ∃ rest, before = first ++ other :: rest ∧ second = rest ++ token :: after := by
  rcases split_of_append_eq whole with inFirst | ⟨rest, rfl, same⟩
  · exact Or.inl inFirst
  · cases rest with
    | nil => exact absurd (List.cons.inj same).1 differ
    | cons next rest =>
        obtain ⟨rfl, rests⟩ := List.cons.inj same
        exact Or.inr ⟨rest, rfl, rests⟩

theorem split_of_cons_eq {before after second : List Token} {token other : Token}
    (differ : other ≠ token) (whole : other :: second = before ++ token :: after) :
    ∃ rest, before = other :: rest ∧ second = rest ++ token :: after := by
  have parts : [] ++ other :: second = before ++ token :: after := whole
  rcases split_of_append_cons_eq differ parts with ⟨rest, none⟩ | inSecond
  · simp at none
  · exact inSecond

section

variable {token : Token} {failure : Failure} {before taken : List Token} {left : Expr}

theorem failsAt_conjunction (fails : Phrase.conjunction.FailsAt token failure before) :
    Phrase.disjunction.FailsAt token failure before := by
  intro after fuel enough
  obtain ⟨fuel, rfl⟩ : ∃ less, fuel = less + 1 := ⟨fuel - 1, by omega⟩
  unfold readOr
  rw [fails after fuel (by omega)]
  rfl

theorem failsAt_or {connective : Token} (takenLeft : Phrase.disjunction.TakenBy taken left)
    (isOr : connective.kind = .or) (fails : Phrase.conjunction.FailsAt token failure before) :
    Phrase.disjunction.FailsAt token failure (taken ++ connective :: before) := by
  intro after fuel enough
  rw [List.length_append, List.length_cons] at enough
  obtain ⟨more, bound, read⟩ := takenLeft (connective :: (before ++ token :: after)) fuel (by omega)
    (Or.inl isOr)
  obtain ⟨more, rfl⟩ : ∃ less, more = less + 1 := ⟨more - 1, by omega⟩
  have here : ((current (connective :: (before ++ token :: after))).kind == .or) = true :=
    beq_iff_eq.mpr isOr
  rw [List.append_assoc, List.cons_append, read]
  unfold readOrRest
  rw [if_pos here, advance_cons (by rw [isOr]; decide), fails after more (by omega)]
  rfl

theorem failsAt_negation (fails : Phrase.negation.FailsAt token failure before) :
    Phrase.conjunction.FailsAt token failure before := by
  intro after fuel enough
  obtain ⟨fuel, rfl⟩ : ∃ less, fuel = less + 1 := ⟨fuel - 1, by omega⟩
  unfold readAnd
  rw [fails after fuel (by omega)]
  rfl

theorem failsAt_and {connective : Token} (takenLeft : Phrase.conjunction.TakenBy taken left)
    (isAnd : connective.kind = .and) (fails : Phrase.negation.FailsAt token failure before) :
    Phrase.conjunction.FailsAt token failure (taken ++ connective :: before) := by
  intro after fuel enough
  rw [List.length_append, List.length_cons] at enough
  obtain ⟨more, bound, read⟩ := takenLeft (connective :: (before ++ token :: after)) fuel (by omega)
  obtain ⟨more, rfl⟩ : ∃ less, more = less + 1 := ⟨more - 1, by omega⟩
  have here : ((current (connective :: (before ++ token :: after))).kind == .and) = true :=
    beq_iff_eq.mpr isAnd
  rw [List.append_assoc, List.cons_append, read]
  unfold readAndRest
  dsimp only
  rw [here, Bool.true_or, if_pos rfl, if_pos rfl, advance_cons (by rw [isAnd]; decide),
    fails after more (by omega)]
  rfl

theorem failsAt_adjacent (takenLeft : Phrase.conjunction.TakenBy taken left)
    (begins : ∀ after, (current (before ++ token :: after)).kind.beginsOperand = true)
    (fails : Phrase.negation.FailsAt token failure before) :
    Phrase.conjunction.FailsAt token failure (taken ++ before) := by
  intro after fuel enough
  rw [List.length_append] at enough
  obtain ⟨more, bound, read⟩ := takenLeft (before ++ token :: after) fuel (by omega)
  obtain ⟨more, rfl⟩ : ∃ less, more = less + 1 := ⟨more - 1, by omega⟩
  have unconnected : ((current (before ++ token :: after)).kind == .and) = false := by
    rw [beq_eq_false_iff_ne]
    intro isAnd
    have here := begins after
    rw [isAnd] at here
    cases here
  rw [List.append_assoc, read]
  unfold readAndRest
  dsimp only
  rw [begins after, unconnected, Bool.or_true, if_pos rfl, if_neg Bool.false_ne_true,
    fails after more (by omega)]
  rfl

theorem failsAt_not {connective : Token} (isNot : connective.kind = .not)
    (fails : Phrase.negation.FailsAt token failure before) :
    Phrase.negation.FailsAt token failure (connective :: before) := by
  intro after fuel enough
  rw [List.length_cons] at enough
  obtain ⟨fuel, rfl⟩ : ∃ less, fuel = less + 1 := ⟨fuel - 1, by omega⟩
  have here : ((current (connective :: (before ++ token :: after))).kind == .not) = true :=
    beq_iff_eq.mpr isNot
  rw [List.cons_append]
  unfold readNot
  rw [if_pos here, advance_cons (by rw [isNot]; decide), fails after fuel (by omega)]
  rfl

theorem failsAt_primary
    (positive : ∀ after, (current (before ++ token :: after)).kind ≠ .not)
    (fails : Phrase.primary.FailsAt token failure before) :
    Phrase.negation.FailsAt token failure before := by
  intro after fuel enough
  obtain ⟨fuel, rfl⟩ : ∃ less, fuel = less + 1 := ⟨fuel - 1, by omega⟩
  have here : ¬ ((current (before ++ token :: after)).kind == .not) = true := by
    rw [beq_iff_eq]
    exact positive after
  unfold readNot
  rw [if_neg here, fails after fuel (by omega)]

theorem failsAt_group {opening : Token} (isOpening : opening.kind = .leftParen)
    (fails : Phrase.disjunction.FailsAt token failure before) :
    Phrase.primary.FailsAt token failure (opening :: before) := by
  intro after fuel enough
  rw [List.length_cons] at enough
  obtain ⟨fuel, rfl⟩ : ∃ less, fuel = less + 1 := ⟨fuel - 1, by omega⟩
  have here : (current (opening :: (before ++ token :: after))).kind = .leftParen := isOpening
  rw [List.cons_append]
  unfold readPrimary
  dsimp only
  rw [here]
  dsimp only
  rw [advance_cons (by rw [isOpening]; decide), fails after fuel (by omega)]
  rfl

section

variable {name opening : Token} (isNear : name.kind = .near) (isOpening : opening.kind = .leftParen)

include isNear isOpening

theorem failsAt_first (fails : Phrase.disjunction.FailsAt token failure before) :
    Phrase.primary.FailsAt token failure (name :: opening :: before) := by
  intro after fuel enough
  simp only [List.length_cons] at enough
  obtain ⟨fuel, rfl⟩ : ∃ less, fuel = less + 1 := ⟨fuel - 1, by omega⟩
  have here : (current (name :: opening :: (before ++ token :: after))).kind = .near := isNear
  rw [List.cons_append, List.cons_append]
  unfold readPrimary
  dsimp only
  rw [here]
  dsimp only
  rw [advance_cons (by rw [isNear]; decide), expect_cons isOpening (by decide)]
  change (readOr fuel _ >>= _) = _
  rw [fails after fuel (by omega)]
  rfl

theorem failsAt_second {comma : Token} (takenLeft : Phrase.disjunction.TakenBy taken left)
    (isComma : comma.kind = .comma) (fails : Phrase.disjunction.FailsAt token failure before) :
    Phrase.primary.FailsAt token failure (name :: opening :: (taken ++ comma :: before)) := by
  intro after fuel enough
  simp only [List.length_cons, List.length_append] at enough
  obtain ⟨fuel, rfl⟩ : ∃ less, fuel = less + 1 := ⟨fuel - 1, by omega⟩
  have here : (current (name :: opening :: (taken ++ comma :: (before ++ token :: after)))).kind =
      .near := isNear
  have closes : (current (comma :: (before ++ token :: after))).kind.closes = true := by
    rw [show (current (comma :: (before ++ token :: after))).kind = .comma from isComma]
    rfl
  have readLeft : readOr fuel (taken ++ comma :: (before ++ token :: after)) =
      .ok (left, comma :: (before ++ token :: after)) :=
    readOr_of_taken takenLeft (by omega) closes
  simp only [List.cons_append, List.append_assoc]
  unfold readPrimary
  dsimp only
  rw [here]
  dsimp only
  rw [advance_cons (by rw [isNear]; decide), expect_cons isOpening (by decide)]
  change (readOr fuel _ >>= _) = _
  rw [readLeft]
  change (expect .comma _ >>= _) = _
  rw [expect_cons isComma (by decide)]
  change (readOr fuel _ >>= _) = _
  rw [fails after fuel (by omega)]
  rfl

end

section

variable (isPattern : token.kind = .pattern)

include isPattern

theorem failsAt_term (refused : Literal.ofText token.text = .error failure) :
    Phrase.primary.FailsAt token failure [] := by
  intro after fuel enough
  obtain ⟨fuel, rfl⟩ : ∃ less, fuel = less + 1 := ⟨fuel - 1, by omega⟩
  have here : (current (token :: after)).kind = .pattern := isPattern
  have text : (current (token :: after)).text = token.text := rfl
  rw [List.nil_append]
  unfold readPrimary
  dsimp only
  rw [here]
  dsimp only
  rw [text, refused]
  rfl

/-- A pattern in place of the one that is awaited begins as a phrase does. -/
theorem begins_of_awaited {phrase : Phrase} {after : List Token} {tree : Expr}
    (derivation : Derives phrase (before ++ placeholder :: after) tree) (rest : List Token) :
    (current (before ++ token :: rest)).kind.beginsOperand = true ∧
      (phrase = .primary → (current (before ++ token :: rest)).kind ≠ .not) := by
  cases before with
  | nil =>
      have here : (current (token :: rest)).kind = .pattern := isPattern
      rw [List.nil_append, here]
      exact ⟨rfl, fun _ => nofun⟩
  | cons next others =>
      obtain ⟨first, _, same, begins⟩ := begins_of_derives derivation
      rw [← (List.cons.inj same).1] at begins
      exact begins

/-- If some tokens can go on to a phrase with a sound pattern, then its reader comes to any pattern
there, whatever stands behind it. -/
theorem failsAt_of_derives (refused : Literal.ofText token.text = .error failure)
    {phrase : Phrase} {after : List Token} {tree : Expr}
    (derivation : Derives phrase (before ++ placeholder :: after) tree) :
    phrase.FailsAt token failure before := by
  have differ : ∀ {other : Token} {kind : TokenKind}, other.kind = kind → kind ≠ .pattern →
      other ≠ placeholder := by
    rintro other kind isKind notPattern rfl
    exact notPattern isKind.symm
  generalize whole : before ++ placeholder :: after = used at derivation
  induction derivation generalizing before after with
  | conjunction _ inductionHypothesis => exact failsAt_conjunction (inductionHypothesis whole)
  | negation _ inductionHypothesis => exact failsAt_negation (inductionHypothesis whole)
  | primary derivation inductionHypothesis =>
      rw [← whole] at derivation
      exact failsAt_primary (fun rest => (begins_of_awaited isPattern derivation rest).2 rfl)
        (inductionHypothesis whole)
  | or left isOr _ leftHypothesis rightHypothesis =>
      rcases split_of_append_cons_eq (differ isOr nofun) whole.symm with
        ⟨rest, rfl⟩ | ⟨rest, rfl, rfl⟩
      · exact leftHypothesis rfl
      · exact failsAt_or (taken_of_derives left) isOr (rightHypothesis rfl)
  | and left isAnd _ leftHypothesis rightHypothesis =>
      rcases split_of_append_cons_eq (differ isAnd nofun) whole.symm with
        ⟨rest, rfl⟩ | ⟨rest, rfl, rfl⟩
      · exact leftHypothesis rfl
      · exact failsAt_and (taken_of_derives left) isAnd (rightHypothesis rfl)
  | adjacent left right leftHypothesis rightHypothesis =>
      rcases split_of_append_eq whole.symm with ⟨rest, rfl⟩ | ⟨rest, rfl, rfl⟩
      · exact leftHypothesis rfl
      · exact failsAt_adjacent (taken_of_derives left)
          (fun rest => (begins_of_awaited isPattern right rest).1) (rightHypothesis rfl)
  | not isNot _ inductionHypothesis =>
      obtain ⟨rest, rfl, rfl⟩ := split_of_cons_eq (differ isNot nofun) whole.symm
      exact failsAt_not isNot (inductionHypothesis rfl)
  | group isOpening _ isClosing inductionHypothesis =>
      obtain ⟨rest, rfl, same⟩ := split_of_cons_eq (differ isOpening nofun) whole.symm
      rcases split_of_append_cons_eq (differ isClosing nofun) same with
        ⟨more, rfl⟩ | ⟨more, rfl, none⟩
      · exact failsAt_group isOpening (inductionHypothesis rfl)
      · simp at none
  | near isNear isOpening left isComma _ isOtherComma isDistance isClosing leftHypothesis
      rightHypothesis =>
      obtain ⟨_, rfl, opened⟩ := split_of_cons_eq (differ isNear nofun) whole.symm
      obtain ⟨_, rfl, operands⟩ := split_of_cons_eq (differ isOpening nofun) opened
      rcases split_of_append_cons_eq (differ isComma nofun) operands with
        ⟨_, rfl⟩ | ⟨_, rfl, second⟩
      · exact failsAt_first isNear isOpening (leftHypothesis rfl)
      rcases split_of_append_cons_eq (differ isOtherComma nofun) second with
        ⟨_, rfl⟩ | ⟨_, rfl, measured⟩
      · exact failsAt_second isNear isOpening (taken_of_derives left) isComma (rightHypothesis rfl)
      -- A distance is no pattern, so no pattern is awaited behind the second operand.
      have noPattern : ∀ {other : Token}, other.kind.givesDistance → other ≠ placeholder := by
        rintro other (word | quoted)
        · exact differ word nofun
        · exact differ quoted nofun
      obtain ⟨_, rfl, closed⟩ := split_of_cons_eq (noPattern isDistance) measured
      obtain ⟨_, rfl, none⟩ := split_of_cons_eq (differ isClosing nofun) closed
      simp at none
  | quoted isQuoted _ =>
      obtain ⟨rest, rfl, none⟩ := split_of_cons_eq (differ isQuoted nofun) whole.symm
      simp at none
  | term _ _ =>
      have first : before = [] := by
        have sizes := congrArg List.length whole
        rw [List.length_append, List.length_cons, List.length_singleton] at sizes
        exact List.eq_nil_of_length_eq_zero (by omega)
      rw [first]
      exact failsAt_term isPattern refused

end

end

/-- Where a pattern is awaited that stands for nothing, the query fails as the pattern does. -/
theorem readTokens_of_awaits {before after : List Token} {token : Token} {failure : Failure}
    (isPattern : token.kind = .pattern) (refused : Literal.ofText token.text = .error failure)
    (awaits : Phrase.disjunction.Awaits before) :
    readTokens (before ++ token :: after) = .error failure := by
  obtain ⟨rest, tree, derivation⟩ := awaits
  have fails := failsAt_of_derives isPattern refused derivation
  have goesOn : ¬ ((current (before ++ token :: after)).kind == .endOfQuery) = true := by
    rw [beq_iff_eq]
    intro isEnd
    have begins := (begins_of_awaited isPattern derivation after).1
    rw [isEnd] at begins
    cases begins
  unfold readTokens
  rw [if_neg goesOn, fails after _ (by rw [List.length_append]; omega)]
  rfl

end BooleanSearch.Query
