import BooleanSearch.Proofs.Query.ParsedTerms
import BooleanSearch.Proofs.Query.Spelling

/-!
# Reading written queries

A query of writable terms and readable distances is read back from what is written for it.  What the
parser returns is such a query, unless a distance in it is no whole number, so writing and reading it
again changes nothing.
-/

namespace BooleanSearch.Query

namespace Expr

/-- The terms of a query can be written, and its distances are whole numbers that are short enough
to be read. -/
def Writable : Expr → Prop
  | .literal term => term.Writable
  | .not child => child.Writable
  | .and left right => left.Writable ∧ right.Writable
  | .or left right => left.Writable ∧ right.Writable
  | .near left right distance =>
    left.Writable ∧ right.Writable ∧
      ∃ number : Int, distance = .int number ∧ number.natAbs < 10 ^ Text.digitLimit

/-- The distances of a query are whole numbers. -/
def WholeDistances : Expr → Prop
  | .literal _ => True
  | .not child => child.WholeDistances
  | .and left right => left.WholeDistances ∧ right.WholeDistances
  | .or left right => left.WholeDistances ∧ right.WholeDistances
  | .near left right distance =>
    left.WholeDistances ∧ right.WholeDistances ∧ ∃ number : Int, distance = .int number

end Expr

/-! ## Cutting compound queries -/

section

variable {chars first second after : List Char} {tree left right : Expr}

theorem cutsInto_group (cuts : ∀ rest, CutsInto chars (')' :: rest) fun tokens =>
    Derives .disjunction tokens tree) :
    CutsInto (['('] ++ (chars ++ [')'])) after fun tokens => Derives .negation tokens tree := by
  refine ((cutsInto_opening _).append ((cuts after).append (cutsInto_closing after))).imp ?_
  rintro _ ⟨_, _, rfl, ⟨opening, rfl, isOpening⟩, _, _, rfl, derivation, closing, rfl, isClosing⟩
  exact .primary (.group isOpening derivation isClosing)

theorem cutsInto_not (cuts : CutsInto chars after fun tokens => Derives .negation tokens tree) :
    CutsInto (['N', 'O', 'T'] ++ (' ' :: chars)) after fun tokens =>
      Derives .negation tokens (.not tree) := by
  have word := cutsInto_connective (by decide) (by decide) (chars ++ after)
    (show wordKind (String.ofList ['N', 'O', 'T']) _ = .not from rfl)
  refine (word.append cuts.blank).imp ?_
  rintro _ ⟨_, _, rfl, ⟨connective, rfl, isNot⟩, derivation⟩
  exact .not isNot derivation

section

variable (cutsFirst : ∀ rest, CutsInto first (' ' :: rest) fun tokens =>
    Derives .negation tokens left)
  (cutsSecond : CutsInto second after fun tokens => Derives .negation tokens right)

include cutsFirst cutsSecond

theorem cutsInto_and :
    CutsInto (first ++ (' ' :: (['A', 'N', 'D'] ++ (' ' :: second)))) after fun tokens =>
      Derives .disjunction tokens (.and left right) := by
  have word := cutsInto_connective (by decide) (by decide) (second ++ after)
    (show wordKind (String.ofList ['A', 'N', 'D']) _ = .and from rfl)
  refine ((cutsFirst _).append (word.append cutsSecond.blank).blank).imp ?_
  rintro _ ⟨_, _, rfl, derivationLeft, _, _, rfl, ⟨connective, rfl, isAnd⟩, derivationRight⟩
  exact .conjunction (.and (.negation derivationLeft) isAnd derivationRight)

theorem cutsInto_adjacent :
    CutsInto (first ++ (' ' :: second)) after fun tokens =>
      Derives .disjunction tokens (.and left right) := by
  refine ((cutsFirst _).append cutsSecond.blank).imp ?_
  rintro _ ⟨_, _, rfl, derivationLeft, derivationRight⟩
  exact .conjunction (.adjacent (.negation derivationLeft) derivationRight)

theorem cutsInto_or :
    CutsInto (first ++ (' ' :: (['O', 'R'] ++ (' ' :: second)))) after fun tokens =>
      Derives .disjunction tokens (.or left right) := by
  have word := cutsInto_connective (by decide) (by decide) (second ++ after)
    (show wordKind (String.ofList ['O', 'R']) _ = .or from rfl)
  refine ((cutsFirst _).append (word.append cutsSecond.blank).blank).imp ?_
  rintro _ ⟨_, _, rfl, derivationLeft, _, _, rfl, ⟨connective, rfl, isOr⟩, derivationRight⟩
  exact .or (.conjunction (.negation derivationLeft)) isOr (.negation derivationRight)

end

/-- The characters of a proximity around those of its operands. -/
def nearChars (first second : List Char) (number : Int) : List Char :=
  ['N', 'E', 'A', 'R'] ++ (['('] ++ (first ++ ([','] ++ (' ' :: (second ++
    ([','] ++ (' ' :: ((toString number).toList ++ [')']))))))))

theorem cutsInto_near
    (cutsFirst : ∀ rest, CutsInto first (',' :: rest) fun tokens => Derives .disjunction tokens left)
    (cutsSecond : ∀ rest, CutsInto second (',' :: rest) fun tokens =>
      Derives .disjunction tokens right)
    {number : Int} (short : number.natAbs < 10 ^ Text.digitLimit) :
    CutsInto (nearChars first second number) after fun tokens =>
      Derives .negation tokens (.near left right (.int number)) := by
  -- The parts are cut off from the last one on, each before all that follows it.
  have distance := ((cutsInto_number number (parted_cons (Or.inr (Or.inl rfl)))).append
    (cutsInto_closing after)).blank
  have rest := ((cutsSecond _).append ((cutsInto_comma _).append distance)).blank
  have operands := (cutsFirst _).append ((cutsInto_comma _).append rest)
  refine ((cutsInto_nearWord _).append ((cutsInto_opening _).append operands)).imp ?_
  rintro _ ⟨_, _, rfl, ⟨name, rfl, isNear⟩, _, _, rfl, ⟨opening, rfl, isOpening⟩,
    _, _, rfl, derivationLeft, _, _, rfl, ⟨comma, rfl, isComma⟩,
    _, _, rfl, derivationRight, _, _, rfl, ⟨otherComma, rfl, isOtherComma⟩,
    _, _, rfl, ⟨distance, rfl, isWord, text⟩, closing, rfl, isClosing⟩
  have means : distanceOf distance.text = .int number := by
    unfold distanceOf
    rw [text, Int.toString_eq_repr, Text.readInt_repr short]
  rw [← means]
  exact .primary (.near isNear isOpening derivationLeft isComma derivationRight isOtherComma
    (Or.inl isWord) isClosing)

end

/-! ## Spelling queries -/

section

variable {left right child query : Expr}

theorem spells_group (grouped : query.isGrouped = true)
    (spells : Spells .disjunction query query.written) :
    Spells .negation query query.operand := by
  intro after _
  have written : query.operand = ['('] ++ (query.written ++ [')']) := by
    simpa using Expr.operand_of_grouped grouped []
  rw [written]
  exact cutsInto_group fun rest => spells _ (parted_cons (Or.inr (Or.inl rfl)))

theorem spells_not (spells : Spells .negation child child.operand) :
    Spells .negation (.not child) (Expr.not child).written := by
  intro after parted
  rw [Expr.written_not]
  exact cutsInto_not (spells after parted)

section

variable (spellsLeft : Spells .negation left left.operand)
  (spellsRight : Spells .negation right right.operand)

include spellsLeft spellsRight

theorem spells_and : Spells .disjunction (.and left right) (Expr.and left right).written := by
  intro after parted
  rw [Expr.written_and]
  exact cutsInto_and (fun _ => spellsLeft _ (parted_cons (Or.inl rfl))) (spellsRight after parted)

theorem spells_or : Spells .disjunction (.or left right) (Expr.or left right).written := by
  intro after parted
  rw [Expr.written_or]
  exact cutsInto_or (fun _ => spellsLeft _ (parted_cons (Or.inl rfl))) (spellsRight after parted)

end

theorem spells_near (spellsLeft : Spells .disjunction left left.written)
    (spellsRight : Spells .disjunction right right.written) {number : Int}
    (short : number.natAbs < 10 ^ Text.digitLimit) :
    Spells .negation (.near left right (.int number))
      (Expr.near left right (.int number)).written := by
  intro after _
  have written : (Expr.near left right (.int number)).written =
      nearChars left.written right.written number := by
    simpa [nearChars] using Expr.written_near left right number []
  have comma : ∀ rest, Parted (',' :: rest) := fun _ => parted_cons (Or.inr (Or.inr rfl))
  rw [written]
  exact cutsInto_near (fun _ => spellsLeft _ (comma _)) (fun _ => spellsRight _ (comma _)) short

end

/-- A writable query is spelled by what is written for it, as a whole and as an operand. -/
theorem spells_of_writable {query : Expr} (writable : query.Writable) :
    Spells .disjunction query query.written ∧ Spells .negation query query.operand := by
  have whole : ∀ {query : Expr}, query.isGrouped = false →
      Spells .negation query query.written →
      Spells .disjunction query query.written ∧ Spells .negation query query.operand := by
    intro query single spells
    refine ⟨fun after parted => (spells after parted).imp fun tokens derivation => ?_, ?_⟩
    · exact .conjunction (.negation derivation)
    · rwa [Expr.operand_of_not_grouped single]
  induction query with
  | literal term =>
      have spells := Literal.spells_of_writable writable
      exact whole rfl fun after parted => (spells after parted).imp fun _ => .primary
  | not child inductionHypothesis =>
      exact whole rfl (spells_not (inductionHypothesis writable).2)
  | and left right leftHypothesis rightHypothesis =>
      have spells := spells_and (leftHypothesis writable.1).2 (rightHypothesis writable.2).2
      exact ⟨spells, spells_group rfl spells⟩
  | or left right leftHypothesis rightHypothesis =>
      have spells := spells_or (leftHypothesis writable.1).2 (rightHypothesis writable.2).2
      exact ⟨spells, spells_group rfl spells⟩
  | near left right distance leftHypothesis rightHypothesis =>
      obtain ⟨leftWritable, rightWritable, number, rfl, short⟩ := writable
      exact whole rfl (spells_near (leftHypothesis leftWritable).1
        (rightHypothesis rightWritable).1 short)

theorem parse_of_cutsInto {text : String} {tree : Expr}
    (cuts : CutsInto text.toList [] fun tokens => Derives .disjunction tokens tree) :
    parse text = .ok tree := by
  obtain ⟨used, stop, scanned, derivation⟩ := cuts 0
  rw [List.append_nil, scan_nil, ← tokenize_eq_scan] at scanned
  have tokens : tokenize text = .ok (used ++ [⟨.endOfQuery, "", stop⟩]) := scanned
  obtain ⟨others, last, ended, -⟩ := ended_of_scanFrom tokens
  have same : used = others := (List.append_inj' ended.whole rfl).1
  subst same
  rw [parse_of_tokenize tokens]
  exact (readTokens_eq_ok_iff ended).mpr derivation

/-! ## Parsed queries -/

theorem mem_patternLetters {letter : Char}
    (named : (Pattern.Flags.ofLiteralLetter? letter).isSome = true) :
    letter ∈ Literal.patternLetters := by
  unfold Pattern.Flags.ofLiteralLetter? at named
  split at named
  · decide
  · decide
  · decide
  · decide
  · decide
  · decide
  · decide
  · cases named

/-- What is known of a token that was cut off a text. -/
structure Token.Known (token : Token) : Prop where
  scanned : token.Scanned
  gives : token.Gives Literal.Read

theorem Token.Known.writable {token : Token} (known : token.Known)
    (named : token.kind = .word ∨ token.kind = .pattern) {term : Literal}
    (given : Literal.ofText token.text = .ok term) : term.Writable := by
  have read := known.gives.text named term given
  rcases Literal.cases_of_ofText given with
    rfl | ⟨text, some_, rfl⟩ | ⟨source, letters, rfl, parts, compiled, compiles⟩
  · have begins : ∃ first others, token.text.toList = first :: others := by
      rcases named with word | pattern
      · obtain ⟨first, others, begins, -⟩ := known.scanned.word word
        exact ⟨first, others, begins⟩
      · exact ⟨'/', known.scanned.pattern pattern⟩
    obtain ⟨first, others, begins⟩ := begins
    intro none
    rw [none] at begins
    cases begins
  · refine ⟨some_, fun char member => ?_⟩
    have inside := read char member
    simp only [continuesWord, Bool.not_eq_true', Bool.or_eq_false_iff, beq_eq_false_iff_ne] at inside
    simpa [and_assoc] using inside
  · obtain ⟨some_, letterNames⟩ := Literal.patternParts?_parts parts
    exact ⟨some_, Literal.isEscaped_of_closedSource read.1,
      fun letter member => mem_patternLetters (letterNames letter member), compiled, compiles⟩

/-- Tokens that were cut off a text derive only writable queries, if all distances are numbers. -/
theorem writable_of_derives {phrase : Phrase} {used : List Token} {tree : Expr}
    (derivation : Derives phrase used tree) (known : ∀ token ∈ used, token.Known)
    (whole : tree.WholeDistances) : tree.Writable := by
  induction derivation with
  | conjunction _ inductionHypothesis => exact inductionHypothesis known whole
  | negation _ inductionHypothesis => exact inductionHypothesis known whole
  | primary _ inductionHypothesis => exact inductionHypothesis known whole
  | or _ _ _ leftHypothesis rightHypothesis =>
      simp only [List.forall_mem_append, List.forall_mem_cons] at known
      exact ⟨leftHypothesis known.1 whole.1, rightHypothesis known.2.2 whole.2⟩
  | and _ _ _ leftHypothesis rightHypothesis =>
      simp only [List.forall_mem_append, List.forall_mem_cons] at known
      exact ⟨leftHypothesis known.1 whole.1, rightHypothesis known.2.2 whole.2⟩
  | adjacent _ _ leftHypothesis rightHypothesis =>
      rw [List.forall_mem_append] at known
      exact ⟨leftHypothesis known.1 whole.1, rightHypothesis known.2 whole.2⟩
  | not _ _ inductionHypothesis =>
      rw [List.forall_mem_cons] at known
      exact inductionHypothesis known.2 whole
  | group _ _ _ inductionHypothesis =>
      simp only [List.forall_mem_append, List.forall_mem_cons] at known
      exact inductionHypothesis known.2.1 whole
  | @near _ _ _ _ _ _ _ _ distance _ _ _ _ _ _ _ _ _ leftHypothesis rightHypothesis =>
      simp only [List.forall_mem_append, List.forall_mem_cons] at known
      obtain ⟨wholeLeft, wholeRight, number, isNumber⟩ := whole
      refine ⟨leftHypothesis known.2.2.1 wholeLeft, rightHypothesis known.2.2.2.2.1 wholeRight,
        number, isNumber, ?_⟩
      unfold distanceOf at isNumber
      split at isNumber
      · next read =>
          cases isNumber
          exact Text.natAbs_lt_of_readInt read
      · cases isNumber
  | quoted _ some_ => exact fun none => by simp [none] at some_
  | term named given => exact (known _ List.mem_cons_self).writable named given

theorem writable_of_parse {text : String} {tree : Expr} (parsed : parse text = .ok tree)
    (whole : tree.WholeDistances) : tree.Writable := by
  unfold parse at parsed
  split at parsed
  · cases parsed
  · next tokens scanned =>
      obtain ⟨used, last, ended, cutOff⟩ := ended_of_scanFrom scanned
      have gives : ∀ token ∈ tokens, token.Gives Literal.Read :=
        kind_of_scanFrom (fun _ => gives_of_kind rfl)
          (fun _ _ _ _ read => gives_firstToken read) scanned
      refine writable_of_derives ((readTokens_eq_ok_iff ended).mp parsed) ?_ whole
      intro token member
      refine ⟨cutOff token member, gives token ?_⟩
      rw [ended.whole]
      exact List.mem_append_left _ member

/-- A writable query is read back from what is written for it; so what the parser returns is, if the
distances in it are whole numbers. -/
theorem parse_render :
    (∀ tree : Expr, tree.Writable → parse tree.render = .ok tree) ∧
      ∀ (text : String) (tree : Expr), parse text = .ok tree → tree.WholeDistances →
        parse tree.render = .ok tree := by
  have reread : ∀ tree : Expr, tree.Writable → parse tree.render = .ok tree :=
    fun tree writable => parse_of_cutsInto ((spells_of_writable writable).1 [] nofun)
  exact ⟨reread, fun text tree parsed whole => reread tree (writable_of_parse parsed whole)⟩

def mixedExpr : Expr :=
  .and (.not (.or (.literal (.plain "near")) (.literal (.pattern "a\\/b" "i"))))
    (.near (.literal (.fuzzy "c")) (.literal (.plain "d \"e")) (.int (-2)))

theorem parse_render_mixedExpr :
    mixedExpr.Writable ∧ parse mixedExpr.render = .ok mixedExpr ∧
      parse "!a b" = .ok (.and (.not (.literal (.plain "a"))) (.literal (.plain "b"))) ∧
      parse (Expr.and (.not (.literal (.plain "a"))) (.literal (.plain "b"))).render =
        .ok (.and (.not (.literal (.plain "a"))) (.literal (.plain "b"))) := by
  have compiles : ∃ compiled, Pattern.compile "a\\/b" "i" = .ok compiled :=
    Literal.exists_compiled (by decide +kernel)
  have pattern : (Literal.pattern "a\\/b" "i").Writable :=
    ⟨by decide, by decide, by simp [Literal.patternLetters], compiles⟩
  have fuzzy : (Literal.fuzzy "c").Writable := by
    refine ⟨by decide, ?_⟩
    have onlyOne : ∀ char ∈ "c".toList, char = 'c' := by simp
    intro char member
    rw [onlyOne char member]
    decide
  have short : (-2 : Int).natAbs < 10 ^ Text.digitLimit :=
    Nat.lt_of_lt_of_le (show 2 < 10 ^ 1 by decide) (Nat.pow_le_pow_right (by decide) (by decide))
  have writable : mixedExpr.Writable :=
    ⟨⟨show "near" ≠ "" by decide, pattern⟩, fuzzy, show "d \"e" ≠ "" by decide, -2, rfl, short⟩
  have tokens : tokenize "!a b" = .ok
      [⟨.not, "!", 0⟩, ⟨.word, "a", 1⟩, ⟨.word, "b", 3⟩, ⟨.endOfQuery, "", 4⟩] := by
    decide +kernel
  have parsed : parse "!a b" = .ok (.and (.not (.literal (.plain "a"))) (.literal (.plain "b"))) := by
    unfold parse
    rw [tokens]
    rfl
  exact ⟨writable, parse_render.1 mixedExpr writable, parsed,
    parse_render.2 _ _ parsed ⟨trivial, trivial⟩⟩

end BooleanSearch.Query
