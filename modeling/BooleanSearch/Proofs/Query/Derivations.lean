import BooleanSearch.Proofs.Query.Scanning
import BooleanSearch.Query.Grammar

/-!
# Derivations of queries

The grammar of queries as a relation between tokens and expressions, beside the readers.  A reader
takes tokens that derive what it returns, and with enough fuel it takes every phrase that stands
before a token that cannot go on with it.  So a query is read exactly if it has a derivation.
-/

namespace BooleanSearch.Query

/-- The phrases of a query, from the loosest to the tightest. -/
inductive Phrase
  | disjunction
  | conjunction
  | negation
  | primary

/-- Whether tokens of a kind may give the distance of a proximity. -/
def TokenKind.givesDistance (kind : TokenKind) : Prop :=
  kind = .word ∨ kind = .quoted

/-- The tokens of a phrase, without the end of the query, and the expression they stand for.

* a disjunction is a conjunction, or a disjunction, a connective and a conjunction;
* a conjunction is a negation, or a conjunction and a negation with or without a connective
  between them;
* a negation is a negated negation or a primary phrase;
* a primary phrase is a disjunction in parentheses, a proximity, a quoted text that is not empty, a
  word or a pattern.

Chains of connectives group to the left: their last operand is added to all that stands before. -/
inductive Derives : Phrase → List Token → Expr → Prop
  | conjunction {used : List Token} {tree : Expr} :
      Derives .conjunction used tree → Derives .disjunction used tree
  | or {before after : List Token} {left right : Expr} {connective : Token} :
      Derives .disjunction before left → connective.kind = .or →
      Derives .conjunction after right →
      Derives .disjunction (before ++ connective :: after) (.or left right)
  | negation {used : List Token} {tree : Expr} :
      Derives .negation used tree → Derives .conjunction used tree
  | and {before after : List Token} {left right : Expr} {connective : Token} :
      Derives .conjunction before left → connective.kind = .and →
      Derives .negation after right →
      Derives .conjunction (before ++ connective :: after) (.and left right)
  | adjacent {before after : List Token} {left right : Expr} :
      Derives .conjunction before left → Derives .negation after right →
      Derives .conjunction (before ++ after) (.and left right)
  | not {used : List Token} {child : Expr} {connective : Token} :
      connective.kind = .not → Derives .negation used child →
      Derives .negation (connective :: used) (.not child)
  | primary {used : List Token} {tree : Expr} :
      Derives .primary used tree → Derives .negation used tree
  | group {used : List Token} {tree : Expr} {opening closing : Token} :
      opening.kind = .leftParen → Derives .disjunction used tree → closing.kind = .rightParen →
      Derives .primary (opening :: (used ++ [closing])) tree
  | near {first second : List Token} {left right : Expr}
      {name opening comma otherComma distance closing : Token} :
      name.kind = .near → opening.kind = .leftParen → Derives .disjunction first left →
      comma.kind = .comma → Derives .disjunction second right → otherComma.kind = .comma →
      distance.kind.givesDistance → closing.kind = .rightParen →
      Derives .primary
        (name :: opening :: (first ++ comma :: (second ++ otherComma :: [distance, closing])))
        (.near left right (distanceOf distance.text))
  | quoted {token : Token} :
      token.kind = .quoted → token.text.isEmpty = false →
      Derives .primary [token] (.literal (.plain token.text))
  | term {token : Token} {term : Literal} :
      token.kind = .word ∨ token.kind = .pattern → Literal.ofText token.text = .ok term →
      Derives .primary [token] (.literal term)

/-! ## What readers do -/

/-- A failure of the query itself, or of a term among some tokens. -/
def FailsWith (tokens : List Token) (failure : Failure) : Prop :=
  (∃ fault : QueryFault, failure = fault.failure) ∨
    ∃ token ∈ tokens, (token.kind = .word ∨ token.kind = .pattern) ∧
      Literal.ofText token.text = .error failure

theorem FailsWith.mono {tokens others : List Token} {failure : Failure}
    (fails : FailsWith tokens failure) (subset : tokens ⊆ others) : FailsWith others failure :=
  fails.imp_right fun ⟨token, member, named, refused⟩ => ⟨token, subset member, named, refused⟩

/-- A reader uses tokens at the front for a value that they have a property with, or it fails. -/
def Reads {α : Type} (tokens : List Token) (property : List Token → α → Prop) :
    Except Failure (α × List Token) → Prop
  | .ok (value, rest) => ∃ used, tokens = used ++ rest ∧ property used value
  | .error failure => FailsWith tokens failure

/-- A token that is not the end of the query is taken off the front. -/
theorem eq_cons_of_current {tokens : List Token} {kind : TokenKind}
    (now : (current tokens).kind = kind) (goesOn : kind ≠ .endOfQuery) :
    tokens = current tokens :: advance tokens := by
  cases tokens with
  | nil => exact absurd now.symm goesOn
  | cons token rest =>
      have notEnd : (token.kind == .endOfQuery) = false := by
        rw [beq_eq_false_iff_ne]
        rintro same
        exact goesOn (now.symm.trans same)
      simp [current, advance, notEnd]

namespace Reads

variable {α β : Type} {tokens : List Token} {property : List Token → α → Prop}

theorem giveUp (fault : QueryFault) : Reads tokens property (Query.giveUp fault) :=
  Or.inl ⟨fault, rfl⟩

theorem ok {value : α} (holds : property [] value) : Reads tokens property (.ok (value, tokens)) :=
  ⟨[], rfl, holds⟩

/-- A reader that is given what follows the first token. -/
theorem take {kind : TokenKind} (now : (current tokens).kind = kind) (goesOn : kind ≠ .endOfQuery)
    {step : Except Failure (α × List Token)}
    (reads : Reads (advance tokens) (fun used => property (current tokens :: used)) step) :
    Reads tokens property step := by
  have whole := eq_cons_of_current now goesOn
  cases step with
  | error failure =>
      refine FailsWith.mono reads fun token member => ?_
      rw [whole]
      exact List.mem_cons_of_mem _ member
  | ok result =>
      obtain ⟨value, rest⟩ := result
      obtain ⟨used, same, holds⟩ := reads
      refine ⟨current tokens :: used, ?_, holds⟩
      rw [List.cons_append, ← same]
      exact whole

theorem bind {between : List Token → β → Prop} {step : Except Failure (β × List Token)}
    {next : β × List Token → Except Failure (α × List Token)} (first : Reads tokens between step)
    (second : ∀ value used rest, between used value →
      Reads rest (fun more => property (used ++ more)) (next (value, rest))) :
    Reads tokens property (step >>= next) := by
  cases step with
  | error failure => exact first
  | ok result =>
      obtain ⟨value, rest⟩ := result
      obtain ⟨used, rfl, holds⟩ := first
      have reads := second value used rest holds
      change Reads (used ++ rest) property (next (value, rest))
      cases outcome : next (value, rest) with
      | error failure =>
          rw [outcome] at reads
          exact FailsWith.mono reads (List.subset_append_right used rest)
      | ok found =>
          obtain ⟨other, left⟩ := found
          rw [outcome] at reads
          obtain ⟨more, rfl, found⟩ := reads
          exact ⟨used ++ more, (List.append_assoc used more left).symm, found⟩

theorem imp {other : List Token → α → Prop} {step : Except Failure (α × List Token)}
    (reads : Reads tokens property step) (implies : ∀ used value, property used value →
      other used value) : Reads tokens other step := by
  cases step with
  | error failure => exact reads
  | ok result =>
      obtain ⟨used, same, holds⟩ := reads
      exact ⟨used, same, implies used _ holds⟩

end Reads

section

variable {tokens : List Token}

theorem reads_expect {kind : TokenKind} (goesOn : kind ≠ .endOfQuery) :
    Reads tokens (fun used (_ : Unit) => ∃ token, used = [token] ∧ token.kind = kind)
      (expect kind tokens) := by
  unfold expect
  dsimp only
  split
  · next here =>
      have now := beq_iff_eq.mp here
      exact .take now goesOn (.ok ⟨_, rfl, now⟩)
  · exact .giveUp _

theorem reads_readDistance :
    Reads tokens (fun used distance => ∃ token, used = [token] ∧ token.kind.givesDistance ∧
      distance = distanceOf token.text) (readDistance tokens) := by
  unfold readDistance
  dsimp only
  split
  · next here =>
      rw [Bool.or_eq_true, beq_iff_eq, beq_iff_eq] at here
      rcases here with word | quoted
      · exact .take word nofun (.ok ⟨_, rfl, Or.inl word, rfl⟩)
      · exact .take quoted nofun (.ok ⟨_, rfl, Or.inr quoted, rfl⟩)
  · exact .giveUp _

/-- A word or a pattern at the front is read as a term, if it is one. -/
theorem reads_term (named : (current tokens).kind = .word ∨ (current tokens).kind = .pattern) :
    Reads tokens (Derives .primary)
      (do
        let term ← Literal.ofText (current tokens).text
        pure (Expr.literal term, advance tokens)) := by
  have taken : ∀ {step}, Reads (advance tokens)
      (fun used => Derives .primary (current tokens :: used)) step →
      Reads tokens (Derives .primary) step := by
    intro step reads
    rcases named with word | pattern
    · exact .take word nofun reads
    · exact .take pattern nofun reads
  cases read : Literal.ofText (current tokens).text with
  | error failure =>
      refine Or.inr ⟨current tokens, ?_, named, read⟩
      cases tokens with
      | nil => rcases named with word | pattern <;> contradiction
      | cons token rest => exact List.mem_cons_self
  | ok term => exact taken (.ok (Derives.term named read))

end

/-- What the readers of phrases do with some fuel. -/
structure ReadersDerive (fuel : Nat) : Prop where
  readOr : ∀ tokens, Reads tokens (Derives .disjunction) (readOr fuel tokens)
  readOrRest : ∀ left tokens, Reads tokens
    (fun used tree => ∀ before, Derives .disjunction before left →
      Derives .disjunction (before ++ used) tree) (readOrRest fuel left tokens)
  readAnd : ∀ tokens, Reads tokens (Derives .conjunction) (readAnd fuel tokens)
  readAndRest : ∀ left tokens, Reads tokens
    (fun used tree => ∀ before, Derives .conjunction before left →
      Derives .conjunction (before ++ used) tree) (readAndRest fuel left tokens)
  readNot : ∀ tokens, Reads tokens (Derives .negation) (readNot fuel tokens)
  readPrimary : ∀ tokens, Reads tokens (Derives .primary) (readPrimary fuel tokens)

section

variable {fuel : Nat} (readers : ReadersDerive fuel) (tokens : List Token)

include readers

theorem reads_readOr : Reads tokens (Derives .disjunction) (readOr (fuel + 1) tokens) := by
  refine .bind (readers.readAnd tokens) fun left used rest derivation => ?_
  exact (readers.readOrRest left rest).imp fun more tree extends_ =>
    extends_ used (.conjunction derivation)

theorem reads_readOrRest (left : Expr) : Reads tokens
    (fun used tree => ∀ before, Derives .disjunction before left →
      Derives .disjunction (before ++ used) tree) (readOrRest (fuel + 1) left tokens) := by
  unfold readOrRest
  split
  · next here =>
      have now := beq_iff_eq.mp here
      refine .take now nofun (.bind (readers.readAnd _) fun right used rest derivation => ?_)
      refine (readers.readOrRest (.or left right) rest).imp ?_
      intro more tree extends_ before leftDerivation
      have longer := extends_ _ (.or leftDerivation now derivation)
      simpa using longer
  · exact .ok fun before derivation => by simpa using derivation

theorem reads_readAnd : Reads tokens (Derives .conjunction) (readAnd (fuel + 1) tokens) := by
  refine .bind (readers.readNot tokens) fun left used rest derivation => ?_
  exact (readers.readAndRest left rest).imp fun more tree extends_ =>
    extends_ used (.negation derivation)

theorem reads_readAndRest (left : Expr) : Reads tokens
    (fun used tree => ∀ before, Derives .conjunction before left →
      Derives .conjunction (before ++ used) tree) (readAndRest (fuel + 1) left tokens) := by
  unfold readAndRest
  dsimp only
  by_cases written : (current tokens).kind = .and
  · simp only [written, beq_self_eq_true, Bool.true_or, if_true]
    refine .take written nofun (.bind (readers.readNot _) fun right used rest derivation => ?_)
    refine (readers.readAndRest (.and left right) rest).imp ?_
    intro more tree extends_ before leftDerivation
    have longer := extends_ _ (.and leftDerivation written derivation)
    simpa using longer
  · have unwritten : ((current tokens).kind == .and) = false := beq_eq_false_iff_ne.mpr written
    simp only [unwritten, Bool.false_or, Bool.false_eq_true, if_false]
    split
    · refine .bind (readers.readNot tokens) fun right used rest derivation => ?_
      refine (readers.readAndRest (.and left right) rest).imp ?_
      intro more tree extends_ before leftDerivation
      have longer := extends_ _ (.adjacent leftDerivation derivation)
      simpa using longer
    · exact .ok fun before derivation => by simpa using derivation

theorem reads_readNot : Reads tokens (Derives .negation) (readNot (fuel + 1) tokens) := by
  unfold readNot
  split
  · next here =>
      have now := beq_iff_eq.mp here
      refine .take now nofun (.bind (readers.readNot _) fun child used rest derivation => .ok ?_)
      rw [List.append_nil]
      exact .not now derivation
  · exact (readers.readPrimary tokens).imp fun used tree derivation => .primary derivation

theorem reads_readPrimary : Reads tokens (Derives .primary) (readPrimary (fuel + 1) tokens) := by
  unfold readPrimary
  dsimp only
  split
  · next isGroup =>
      refine .take isGroup nofun (.bind (readers.readOr _) fun inner used rest derivation => ?_)
      refine .bind (reads_expect nofun) fun _ _ _ closed => .ok ?_
      obtain ⟨closing, rfl, isClosing⟩ := closed
      rw [List.append_nil]
      exact .group isGroup derivation isClosing
  · next isNear =>
      refine .take isNear nofun (.bind (reads_expect nofun) fun _ _ _ opened => ?_)
      refine .bind (readers.readOr _) fun left _ _ leftDerivation => ?_
      refine .bind (reads_expect nofun) fun _ _ _ parted => ?_
      refine .bind (readers.readOr _) fun right _ _ rightDerivation => ?_
      refine .bind (reads_expect nofun) fun _ _ _ partedAgain => ?_
      refine .bind reads_readDistance fun _ _ _ measured => ?_
      refine .bind (reads_expect nofun) fun _ _ _ closed => .ok ?_
      obtain ⟨opening, rfl, isOpening⟩ := opened
      obtain ⟨comma, rfl, isComma⟩ := parted
      obtain ⟨otherComma, rfl, isOtherComma⟩ := partedAgain
      obtain ⟨distance, rfl, isDistance, rfl⟩ := measured
      obtain ⟨closing, rfl, isClosing⟩ := closed
      have derivation := Derives.near isNear isOpening leftDerivation isComma rightDerivation
        isOtherComma isDistance isClosing
      simpa using derivation
  · next isQuoted =>
      split
      · exact .giveUp _
      · next present =>
          exact .take isQuoted nofun (.ok (Derives.quoted isQuoted (Bool.eq_false_iff.mpr present)))
  · next isWord => exact reads_term (Or.inl isWord)
  · next isPattern => exact reads_term (Or.inr isPattern)
  · exact .giveUp _
  · exact .giveUp _

end

theorem readersDerive (fuel : Nat) : ReadersDerive fuel := by
  induction fuel with
  | zero =>
      exact ⟨fun _ => .giveUp _, fun _ _ => .giveUp _, fun _ => .giveUp _, fun _ _ => .giveUp _,
        fun _ => .giveUp _, fun _ => .giveUp _⟩
  | succ fuel readers =>
      exact ⟨reads_readOr readers, fun left tokens => reads_readOrRest readers tokens left,
        reads_readAnd readers, fun left tokens => reads_readAndRest readers tokens left,
        reads_readNot readers, reads_readPrimary readers⟩

/-! ## What readers take -/

/-- A phrase begins with a token that begins an operand, a primary phrase with no negation. -/
theorem begins_of_derives {phrase : Phrase} {used : List Token} {tree : Expr}
    (derivation : Derives phrase used tree) :
    ∃ first others, used = first :: others ∧ first.kind.beginsOperand = true ∧
      (phrase = .primary → first.kind ≠ .not) := by
  induction derivation with
  | conjunction _ inductionHypothesis | negation _ inductionHypothesis =>
      obtain ⟨first, others, same, begins, -⟩ := inductionHypothesis
      exact ⟨first, others, same, begins, nofun⟩
  | or _ _ _ leftHypothesis _ | and _ _ _ leftHypothesis _ | adjacent _ _ leftHypothesis _ =>
      obtain ⟨first, others, rfl, begins, -⟩ := leftHypothesis
      exact ⟨first, _, rfl, begins, nofun⟩
  | not isNot _ _ => exact ⟨_, _, rfl, by rw [isNot]; rfl, nofun⟩
  | primary _ inductionHypothesis =>
      obtain ⟨first, others, same, begins, -⟩ := inductionHypothesis
      exact ⟨first, others, same, begins, nofun⟩
  | group isOpening _ _ _ =>
      exact ⟨_, _, rfl, by rw [isOpening]; rfl, fun _ => by rw [isOpening]; exact nofun⟩
  | near isNear _ _ _ _ _ _ _ _ _ =>
      exact ⟨_, _, rfl, by rw [isNear]; rfl, fun _ => by rw [isNear]; exact nofun⟩
  | quoted isQuoted _ =>
      exact ⟨_, _, rfl, by rw [isQuoted]; rfl, fun _ => by rw [isQuoted]; exact nofun⟩
  | term named _ =>
      rcases named with word | pattern
      · exact ⟨_, _, rfl, by rw [word]; rfl, fun _ => by rw [word]; exact nofun⟩
      · exact ⟨_, _, rfl, by rw [pattern]; rfl, fun _ => by rw [pattern]; exact nofun⟩

theorem length_pos_of_derives {phrase : Phrase} {used : List Token} {tree : Expr}
    (derivation : Derives phrase used tree) : 0 < used.length := by
  obtain ⟨first, others, rfl, -, -⟩ := begins_of_derives derivation
  exact Nat.succ_pos _

/-- Whether a disjunction cannot go on with a token of a kind. -/
def TokenKind.closes : TokenKind → Bool
  | .rightParen => true
  | .comma => true
  | .endOfQuery => true
  | _ => false

theorem readOrRest_of_closes {fuel : Nat} {tree : Expr} {rest : List Token}
    (closes : (current rest).kind.closes = true) :
    readOrRest (fuel + 1) tree rest = .ok (tree, rest) := by
  unfold readOrRest
  rw [if_neg]
  intro goesOn
  rw [beq_iff_eq.mp goesOn] at closes
  cases closes

/-- Whether a conjunction cannot go on with a token of a kind. -/
def TokenKind.endsConjunction (kind : TokenKind) : Prop :=
  kind = .or ∨ kind.closes = true

theorem readAndRest_of_ends {fuel : Nat} {tree : Expr} {rest : List Token}
    (ends : (current rest).kind.endsConjunction) :
    readAndRest (fuel + 1) tree rest = .ok (tree, rest) := by
  have neither : ((current rest).kind == .and || (current rest).kind.beginsOperand) = false := by
    unfold TokenKind.endsConjunction at ends
    cases shape : (current rest).kind <;> rw [shape] at ends <;> simp_all [TokenKind.closes,
      TokenKind.beginsOperand]
  unfold readAndRest
  dsimp only
  rw [neither, if_neg Bool.false_ne_true]

theorem advance_cons {token : Token} {rest : List Token} (goesOn : token.kind ≠ .endOfQuery) :
    advance (token :: rest) = rest := by
  have notEnd : (token.kind == .endOfQuery) = false := beq_eq_false_iff_ne.mpr goesOn
  simp [advance, current, notEnd]

theorem expect_cons {token : Token} {rest : List Token} {kind : TokenKind}
    (here : token.kind = kind) (goesOn : kind ≠ .endOfQuery) :
    expect kind (token :: rest) = .ok ((), rest) := by
  unfold expect
  have now : ((current (token :: rest)).kind == kind) = true := beq_iff_eq.mpr here
  rw [if_pos now, advance_cons (here ▸ goesOn)]

/-- With enough fuel, the reader of a phrase takes the phrase off the front of a longer list.  A
chain of operands is left to the reader of what follows them, with the fuel that remains: it loses
no more than one for each token. -/
def Phrase.TakenBy : Phrase → List Token → Expr → Prop
  | .disjunction, used, tree => ∀ rest fuel, 8 * used.length + 3 ≤ fuel →
      (current rest).kind.endsConjunction →
      ∃ left, fuel ≤ left + used.length ∧ readOr fuel (used ++ rest) = readOrRest left tree rest
  | .conjunction, used, tree => ∀ rest fuel, 8 * used.length + 2 ≤ fuel →
      ∃ left, fuel ≤ left + used.length ∧ readAnd fuel (used ++ rest) = readAndRest left tree rest
  | .negation, used, tree => ∀ rest fuel, 8 * used.length + 1 ≤ fuel →
      readNot fuel (used ++ rest) = .ok (tree, rest)
  | .primary, used, tree => ∀ rest fuel, 8 * used.length ≤ fuel →
      readPrimary fuel (used ++ rest) = .ok (tree, rest)

section

variable {used before after rest : List Token} {tree left right : Expr} {fuel : Nat}

/-- A whole disjunction is taken before a token that closes it. -/
theorem readOr_of_taken (taken : Phrase.disjunction.TakenBy used tree)
    (enough : 8 * used.length + 3 ≤ fuel) (closes : (current rest).kind.closes = true) :
    readOr fuel (used ++ rest) = .ok (tree, rest) := by
  obtain ⟨left, bound, read⟩ := taken rest fuel enough (Or.inr closes)
  obtain ⟨left, rfl⟩ : ∃ less, left = less + 1 := ⟨left - 1, by omega⟩
  rw [read, readOrRest_of_closes closes]

/-- A whole conjunction is taken before a token that ends it. -/
theorem readAnd_of_taken (taken : Phrase.conjunction.TakenBy used tree)
    (enough : 8 * used.length + 2 ≤ fuel) (ends : (current rest).kind.endsConjunction) :
    readAnd fuel (used ++ rest) = .ok (tree, rest) := by
  obtain ⟨left, bound, read⟩ := taken rest fuel enough
  obtain ⟨left, rfl⟩ : ∃ less, left = less + 1 := ⟨left - 1, by omega⟩
  rw [read, readAndRest_of_ends ends]

theorem taken_conjunction (taken : Phrase.conjunction.TakenBy used tree)
    (some_ : 0 < used.length) : Phrase.disjunction.TakenBy used tree := by
  intro rest fuel enough ends
  obtain ⟨fuel, rfl⟩ : ∃ less, fuel = less + 1 := ⟨fuel - 1, by omega⟩
  refine ⟨fuel, by omega, ?_⟩
  unfold readOr
  rw [readAnd_of_taken taken (by omega) ends]
  rfl

theorem taken_or {connective : Token} (takenLeft : Phrase.disjunction.TakenBy before left)
    (isOr : connective.kind = .or) (takenRight : Phrase.conjunction.TakenBy after right) :
    Phrase.disjunction.TakenBy (before ++ connective :: after) (.or left right) := by
  intro rest fuel enough ends
  rw [List.length_append, List.length_cons] at enough
  -- The operands before the connective leave fuel for one more step and for the last operand.
  obtain ⟨more, bound, read⟩ := takenLeft (connective :: (after ++ rest)) fuel (by omega)
    (Or.inl isOr)
  obtain ⟨more, rfl⟩ : ∃ less, more = less + 1 := ⟨more - 1, by omega⟩
  refine ⟨more, by rw [List.length_append, List.length_cons]; omega, ?_⟩
  have here : ((current (connective :: (after ++ rest))).kind == .or) = true := beq_iff_eq.mpr isOr
  rw [List.append_assoc, List.cons_append, read]
  conv_lhs => unfold readOrRest
  rw [if_pos here, advance_cons (by rw [isOr]; exact nofun),
    readAnd_of_taken takenRight (by omega) ends]
  rfl

theorem taken_negation (taken : Phrase.negation.TakenBy used tree) (some_ : 0 < used.length) :
    Phrase.conjunction.TakenBy used tree := by
  intro rest fuel enough
  obtain ⟨fuel, rfl⟩ : ∃ less, fuel = less + 1 := ⟨fuel - 1, by omega⟩
  refine ⟨fuel, by omega, ?_⟩
  unfold readAnd
  rw [taken rest fuel (by omega)]
  rfl

theorem taken_and {connective : Token} (takenLeft : Phrase.conjunction.TakenBy before left)
    (isAnd : connective.kind = .and) (takenRight : Phrase.negation.TakenBy after right) :
    Phrase.conjunction.TakenBy (before ++ connective :: after) (.and left right) := by
  intro rest fuel enough
  rw [List.length_append, List.length_cons] at enough
  obtain ⟨more, bound, read⟩ := takenLeft (connective :: (after ++ rest)) fuel (by omega)
  obtain ⟨more, rfl⟩ : ∃ less, more = less + 1 := ⟨more - 1, by omega⟩
  refine ⟨more, by rw [List.length_append, List.length_cons]; omega, ?_⟩
  have here : ((current (connective :: (after ++ rest))).kind == .and) = true :=
    beq_iff_eq.mpr isAnd
  rw [List.append_assoc, List.cons_append, read]
  conv_lhs => unfold readAndRest
  dsimp only
  rw [here, Bool.true_or, if_pos rfl, if_pos rfl, advance_cons (by rw [isAnd]; exact nofun),
    takenRight rest more (by omega)]
  rfl

/-- An operand may follow without a connective, for it does not begin with one. -/
theorem taken_adjacent (takenLeft : Phrase.conjunction.TakenBy before left)
    (leftDerivation : Derives .conjunction before left)
    (takenRight : Phrase.negation.TakenBy after right)
    (rightDerivation : Derives .negation after right) :
    Phrase.conjunction.TakenBy (before ++ after) (.and left right) := by
  intro rest fuel enough
  have leftLength := length_pos_of_derives leftDerivation
  have rightLength := length_pos_of_derives rightDerivation
  rw [List.length_append] at enough
  obtain ⟨more, bound, read⟩ := takenLeft (after ++ rest) fuel (by omega)
  obtain ⟨more, rfl⟩ : ∃ less, more = less + 1 := ⟨more - 1, by omega⟩
  refine ⟨more, by rw [List.length_append]; omega, ?_⟩
  have taken := takenRight rest more (by omega)
  obtain ⟨first, others, rfl, begins, -⟩ := begins_of_derives rightDerivation
  have here : (current (first :: others ++ rest)).kind = first.kind := rfl
  -- What begins an operand is no connective, so the reader does not skip it.
  have unconnected : (first.kind == .and) = false := by
    rw [beq_eq_false_iff_ne]
    intro isAnd
    rw [isAnd] at begins
    cases begins
  rw [List.append_assoc, read]
  conv_lhs => unfold readAndRest
  dsimp only
  rw [here, begins, unconnected, Bool.or_true, if_pos rfl, if_neg Bool.false_ne_true, taken]
  rfl

theorem taken_not {connective : Token} (isNot : connective.kind = .not)
    (taken : Phrase.negation.TakenBy used tree) :
    Phrase.negation.TakenBy (connective :: used) (.not tree) := by
  intro rest fuel enough
  rw [List.length_cons] at enough
  obtain ⟨fuel, rfl⟩ : ∃ less, fuel = less + 1 := ⟨fuel - 1, by omega⟩
  have here : ((current (connective :: (used ++ rest))).kind == .not) = true :=
    beq_iff_eq.mpr isNot
  rw [List.cons_append]
  unfold readNot
  rw [if_pos here, advance_cons (by rw [isNot]; exact nofun), taken rest fuel (by omega)]
  rfl

theorem taken_primary (taken : Phrase.primary.TakenBy used tree)
    (derivation : Derives .primary used tree) : Phrase.negation.TakenBy used tree := by
  intro rest fuel enough
  obtain ⟨fuel, rfl⟩ : ∃ less, fuel = less + 1 := ⟨fuel - 1, by omega⟩
  have read := taken rest fuel (by omega)
  obtain ⟨first, others, rfl, -, positive⟩ := begins_of_derives derivation
  have here : ¬ ((current (first :: others ++ rest)).kind == .not) = true := by
    rw [beq_iff_eq]
    exact positive rfl
  unfold readNot
  rw [if_neg here, read]

theorem taken_group {opening closing : Token} (isOpening : opening.kind = .leftParen)
    (taken : Phrase.disjunction.TakenBy used tree) (isClosing : closing.kind = .rightParen) :
    Phrase.primary.TakenBy (opening :: (used ++ [closing])) tree := by
  intro rest fuel enough
  rw [List.length_cons, List.length_append, List.length_singleton] at enough
  obtain ⟨fuel, rfl⟩ : ∃ less, fuel = less + 1 := ⟨fuel - 1, by omega⟩
  have here : (current (opening :: (used ++ closing :: rest))).kind = .leftParen := isOpening
  have closes : (current (closing :: rest)).kind.closes = true := by
    rw [show (current (closing :: rest)).kind = .rightParen from isClosing]
    rfl
  have inner : readOr fuel (used ++ closing :: rest) = .ok (tree, closing :: rest) :=
    readOr_of_taken taken (by omega) closes
  rw [List.cons_append, List.append_assoc, List.singleton_append]
  unfold readPrimary
  dsimp only
  rw [here]
  dsimp only
  rw [advance_cons (by rw [isOpening]; exact nofun), inner]
  change (expect .rightParen (closing :: rest) >>= fun x => pure (tree, x.2)) = _
  rw [expect_cons isClosing nofun]
  rfl

theorem taken_near {first second : List Token}
    {name opening comma otherComma distance closing : Token} (isNear : name.kind = .near)
    (isOpening : opening.kind = .leftParen) (takenLeft : Phrase.disjunction.TakenBy first left)
    (isComma : comma.kind = .comma) (takenRight : Phrase.disjunction.TakenBy second right)
    (isOtherComma : otherComma.kind = .comma) (isDistance : distance.kind.givesDistance)
    (isClosing : closing.kind = .rightParen) :
    Phrase.primary.TakenBy
      (name :: opening :: (first ++ comma :: (second ++ otherComma :: [distance, closing])))
      (.near left right (distanceOf distance.text)) := by
  intro rest fuel enough
  simp only [List.length_cons, List.length_append, List.length_nil] at enough
  obtain ⟨fuel, rfl⟩ : ∃ less, fuel = less + 1 := ⟨fuel - 1, by omega⟩
  have here : (current (name :: opening :: (first ++ comma :: (second ++ otherComma ::
      distance :: closing :: rest)))).kind = .near := isNear
  have closes : ∀ {token : Token} {others : List Token}, token.kind = .comma →
      (current (token :: others)).kind.closes = true := by
    intro token others isComma
    rw [show (current (token :: others)).kind = .comma from isComma]
    rfl
  have readLeft : readOr fuel (first ++ comma :: (second ++ otherComma :: distance :: closing ::
      rest)) = .ok (left, comma :: (second ++ otherComma :: distance :: closing :: rest)) :=
    readOr_of_taken takenLeft (by omega) (closes isComma)
  have readRight : readOr fuel (second ++ otherComma :: distance :: closing :: rest) =
      .ok (right, otherComma :: distance :: closing :: rest) :=
    readOr_of_taken takenRight (by omega) (closes isOtherComma)
  have measured : readDistance (distance :: closing :: rest) =
      .ok (distanceOf distance.text, closing :: rest) := by
    have given : ((current (distance :: closing :: rest)).kind == .word ||
        (current (distance :: closing :: rest)).kind == .quoted) = true := by
      rw [Bool.or_eq_true, beq_iff_eq, beq_iff_eq]
      exact isDistance
    have goesOn : distance.kind ≠ .endOfQuery := by
      rcases isDistance with word | quoted
      · rw [word]
        exact nofun
      · rw [quoted]
        exact nofun
    unfold readDistance
    dsimp only
    rw [if_pos given, advance_cons goesOn]
    rfl
  simp only [List.cons_append, List.append_assoc, List.nil_append]
  unfold readPrimary
  dsimp only
  rw [here]
  dsimp only
  rw [advance_cons (by rw [isNear]; exact nofun), expect_cons isOpening nofun]
  change (readOr fuel _ >>= _) = _
  rw [readLeft]
  change (expect .comma _ >>= _) = _
  rw [expect_cons isComma nofun]
  change (readOr fuel _ >>= _) = _
  rw [readRight]
  change (expect .comma _ >>= _) = _
  rw [expect_cons isOtherComma nofun]
  change (readDistance _ >>= _) = _
  rw [measured]
  change (expect .rightParen _ >>= _) = _
  rw [expect_cons isClosing nofun]
  rfl

theorem taken_quoted {token : Token} (isQuoted : token.kind = .quoted)
    (some_ : token.text.isEmpty = false) :
    Phrase.primary.TakenBy [token] (.literal (.plain token.text)) := by
  intro rest fuel enough
  rw [List.length_singleton] at enough
  obtain ⟨fuel, rfl⟩ : ∃ less, fuel = less + 1 := ⟨fuel - 1, by omega⟩
  have here : (current (token :: rest)).kind = .quoted := isQuoted
  have text : (current (token :: rest)).text = token.text := rfl
  rw [List.singleton_append]
  unfold readPrimary
  dsimp only
  rw [here]
  dsimp only
  rw [text, some_, if_neg Bool.false_ne_true, advance_cons (by rw [isQuoted]; exact nofun)]

theorem taken_term {token : Token} {term : Literal}
    (named : token.kind = .word ∨ token.kind = .pattern)
    (read : Literal.ofText token.text = .ok term) :
    Phrase.primary.TakenBy [token] (.literal term) := by
  intro rest fuel enough
  rw [List.length_singleton] at enough
  obtain ⟨fuel, rfl⟩ : ∃ less, fuel = less + 1 := ⟨fuel - 1, by omega⟩
  have text : (current (token :: rest)).text = token.text := rfl
  rw [List.singleton_append]
  unfold readPrimary
  dsimp only
  rcases named with word | pattern
  · have here : (current (token :: rest)).kind = .word := word
    rw [here]
    dsimp only
    rw [text, read, advance_cons (by rw [word]; exact nofun)]
    rfl
  · have here : (current (token :: rest)).kind = .pattern := pattern
    rw [here]
    dsimp only
    rw [text, read, advance_cons (by rw [pattern]; exact nofun)]
    rfl

end

/-- Whatever has a derivation is taken by the reader of its phrase. -/
theorem taken_of_derives {phrase : Phrase} {used : List Token} {tree : Expr}
    (derivation : Derives phrase used tree) : phrase.TakenBy used tree := by
  induction derivation with
  | conjunction derivation taken => exact taken_conjunction taken (length_pos_of_derives derivation)
  | or _ isOr _ takenLeft takenRight => exact taken_or takenLeft isOr takenRight
  | negation derivation taken => exact taken_negation taken (length_pos_of_derives derivation)
  | and _ isAnd _ takenLeft takenRight => exact taken_and takenLeft isAnd takenRight
  | adjacent left right takenLeft takenRight =>
      exact taken_adjacent takenLeft left takenRight right
  | not isNot _ taken => exact taken_not isNot taken
  | primary derivation taken => exact taken_primary taken derivation
  | group isOpening _ isClosing taken => exact taken_group isOpening taken isClosing
  | near isNear isOpening _ isComma _ isOtherComma isDistance isClosing takenLeft takenRight =>
      exact taken_near isNear isOpening takenLeft isComma takenRight isOtherComma isDistance
        isClosing
  | quoted isQuoted some_ => exact taken_quoted isQuoted some_
  | term named read => exact taken_term named read

/-! ## Whole queries -/

theorem goesOn_of_derives {phrase : Phrase} {used : List Token} {tree : Expr}
    (derivation : Derives phrase used tree) : ∀ token ∈ used, token.kind ≠ .endOfQuery := by
  have of_kind : ∀ {token : Token} {kind : TokenKind}, token.kind = kind → kind ≠ .endOfQuery →
      token.kind ≠ .endOfQuery := fun same goesOn => same ▸ goesOn
  induction derivation with
  | conjunction _ goesOn | negation _ goesOn | primary _ goesOn => exact goesOn
  | or _ isOr _ left right =>
      rw [List.forall_mem_append, List.forall_mem_cons]
      exact ⟨left, of_kind isOr nofun, right⟩
  | and _ isAnd _ left right =>
      rw [List.forall_mem_append, List.forall_mem_cons]
      exact ⟨left, of_kind isAnd nofun, right⟩
  | adjacent _ _ left right =>
      rw [List.forall_mem_append]
      exact ⟨left, right⟩
  | not isNot _ child =>
      rw [List.forall_mem_cons]
      exact ⟨of_kind isNot nofun, child⟩
  | group isOpening _ isClosing inner =>
      rw [List.forall_mem_cons, List.forall_mem_append, List.forall_mem_singleton]
      exact ⟨of_kind isOpening nofun, inner, of_kind isClosing nofun⟩
  | near isNear isOpening _ isComma _ isOtherComma isDistance isClosing left right =>
      simp only [List.forall_mem_cons, List.forall_mem_append, List.not_mem_nil, false_implies,
        implies_true, and_true]
      refine ⟨of_kind isNear nofun, of_kind isOpening nofun, left, of_kind isComma nofun, right,
        of_kind isOtherComma nofun, ?_, of_kind isClosing nofun⟩
      rcases isDistance with word | quoted
      · exact of_kind word nofun
      · exact of_kind quoted nofun
  | quoted isQuoted _ =>
      rw [List.forall_mem_singleton]
      exact of_kind isQuoted nofun
  | term named _ =>
      rw [List.forall_mem_singleton]
      rcases named with word | pattern
      · exact of_kind word nofun
      · exact of_kind pattern nofun

section

variable {tokens used : List Token} {last : Token} {tree : Expr}

/-- If a reader has stopped at the end of the query, it has used all tokens before that. -/
theorem Ended.eq_of_append (ended : Ended tokens used last) {taken rest : List Token}
    (goesOn : ∀ token ∈ taken, token.kind ≠ .endOfQuery) (same : tokens = taken ++ rest)
    (stopped : (current rest).kind = .endOfQuery) : taken = used := by
  rw [ended.whole] at same
  rcases List.append_eq_append_iff.mp same with ⟨more, rfl, ends⟩ | ⟨more, rfl, begins⟩
  · cases more with
    | nil => exact List.append_nil used
    | cons token others =>
        have isLast : last = token := (List.cons.inj ends).1
        exact absurd (isLast ▸ ended.last) (goesOn token (by simp))
  · cases more with
    | nil => exact (List.append_nil taken).symm
    | cons token others =>
        rw [begins] at stopped
        exact absurd stopped (ended.others token (by simp))

theorem readOr_of_derives (ended : Ended tokens used last)
    (derivation : Derives .disjunction used tree) :
    readOr (8 * tokens.length + 8) tokens = .ok (tree, [last]) := by
  have closes : (current [last]).kind.closes = true := by
    rw [show (current [last]).kind = .endOfQuery from ended.last]
    rfl
  rw [ended.whole]
  refine readOr_of_taken (taken_of_derives derivation) ?_ closes
  rw [List.length_append]
  omega

theorem parse_of_tokenize {query : String} (scanned : tokenize query = .ok tokens) :
    parse query = readTokens tokens := by
  unfold parse
  rw [scanned]

/-- Tokens are read as a query exactly if they derive it. -/
theorem readTokens_eq_ok_iff (ended : Ended tokens used last) :
    readTokens tokens = .ok tree ↔ Derives .disjunction used tree := by
  constructor
  · intro read
    unfold readTokens at read
    split at read
    · cases read
    · have reads := (readersDerive (8 * tokens.length + 8)).readOr tokens
      cases outcome : readOr (8 * tokens.length + 8) tokens with
      | error failure =>
          rw [outcome] at read
          cases read
      | ok result =>
          obtain ⟨found, rest⟩ := result
          rw [outcome] at read reads
          obtain ⟨taken, same, derivation⟩ := reads
          change (if (current rest).kind == .endOfQuery then Except.ok found else _) =
            Except.ok tree at read
          split at read
          · next stopped =>
              cases read
              rw [← ended.eq_of_append (goesOn_of_derives derivation) same (beq_iff_eq.mp stopped)]
              exact derivation
          · cases read
  · intro derivation
    obtain ⟨first, others, begins, -, -⟩ := begins_of_derives derivation
    have first_ : ¬ ((current tokens).kind == .endOfQuery) = true := by
      rw [beq_iff_eq, ended.whole, begins]
      exact ended.others first (begins ▸ List.mem_cons_self)
    have stopped : ((current [last]).kind == .endOfQuery) = true := beq_iff_eq.mpr ended.last
    unfold readTokens
    rw [if_neg first_, readOr_of_derives ended derivation]
    change (if (current [last]).kind == .endOfQuery then Except.ok tree else _) = Except.ok tree
    rw [if_pos stopped]

/-- What is not read as a query fails by its own fault, or by that of a term. -/
theorem failsWith_of_readTokens {failure : Failure} (read : readTokens tokens = .error failure) :
    FailsWith tokens failure := by
  unfold readTokens at read
  split at read
  · cases read
    exact Or.inl ⟨_, rfl⟩
  · have reads := (readersDerive (8 * tokens.length + 8)).readOr tokens
    cases outcome : readOr (8 * tokens.length + 8) tokens with
    | error other =>
        rw [outcome] at read reads
        cases read
        exact reads
    | ok result =>
        obtain ⟨found, rest⟩ := result
        rw [outcome] at read
        change (if (current rest).kind == .endOfQuery then Except.ok found else _) =
          Except.error failure at read
        split at read
        · cases read
        · cases read
          exact Or.inl ⟨_, rfl⟩

end

end BooleanSearch.Query
