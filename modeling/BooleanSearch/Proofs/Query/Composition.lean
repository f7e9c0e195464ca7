import BooleanSearch.Proofs.Query.Rereading

/-!
# Queries as parts of larger ones

A query may be put between parentheses, or between the commas of a proximity, as it is written: what
closes it there goes on with none of its tokens, so it is cut into the same tokens at other offsets.
Tokens derive the same expression wherever they stand, and so the larger query is read as the
expression that its form says of those of its parts.
-/

namespace BooleanSearch.Query

/-- A closing parenthesis or a comma, as it stands after a query inside a larger one. -/
def Closed (after : List Char) : Prop :=
  ∃ char rest, after = char :: rest ∧ (char = ')' ∨ char = ',')

theorem Closed.parted {after : List Char} (closed : Closed after) : Parted after := by
  obtain ⟨char, rest, rfl, closes⟩ := closed
  exact parted_cons (Or.inr closes)

/-! ## Tokens before what closes a query -/

theorem readQuoted?_append {quote : Char} (noEscape : quote ≠ '\\') {chars content after : List Char}
    (read : readQuoted? quote chars = some (content, after)) (more : List Char) :
    readQuoted? quote (chars ++ more) = some (content, after ++ more) := by
  fun_induction readQuoted? quote chars generalizing content after with
  | case1 => cases read
  | case2 escaped rest inductionHypothesis =>
      simp only [Option.map_eq_some_iff, Prod.exists, Prod.mk.injEq] at read
      obtain ⟨inner, innerAfter, found, rfl, rfl⟩ := read
      simp [readQuoted?, inductionHypothesis found]
  | case3 char rest notEscape closes =>
      cases read
      rw [List.cons_append, readQuoted?, if_pos closes]
      rintro _ _ rfl
      exact fun _ => noEscape (beq_iff_eq.mp closes).symm
  | case4 char rest notEscape ordinary inductionHypothesis =>
      simp only [Option.map_eq_some_iff, Prod.exists, Prod.mk.injEq] at read
      obtain ⟨inner, innerAfter, found, rfl, rfl⟩ := read
      cases rest with
      | nil => cases found
      | cons next others =>
          rw [List.cons_append, readQuoted?, if_neg ordinary, inductionHypothesis found]
          · rfl
          · rintro _ _ rfl
            exact fun _ => notEscape _ _ rfl rfl

theorem readPatternBody?_append {chars body after : List Char}
    (read : readPatternBody? chars = some (body, after)) (more : List Char) :
    readPatternBody? (chars ++ more) = some (body, after ++ more) := by
  obtain ⟨source, rfl, closed⟩ := closedSource_of_read read
  rw [eq_append_of_readPatternBody? read, List.append_assoc, List.append_assoc,
    List.singleton_append, closed]

section

variable {after : List Char} (closed : Closed after)

include closed

theorem takeWhile_append_of_closed (inside : Char → Bool) (ends : inside ')' = false)
    (comma : inside ',' = false) (chars : List Char) :
    (chars ++ after).takeWhile inside = chars.takeWhile inside ∧
      (chars ++ after).dropWhile inside = chars.dropWhile inside ++ after := by
  have all : ∀ char ∈ chars.takeWhile inside, inside char = true := fun _ => List.mem_takeWhile_imp
  have outside : ∀ char ∈ (chars.dropWhile inside ++ after).head?, inside char = false := by
    intro char member
    cases rest : chars.dropWhile inside with
    | nil =>
        obtain ⟨first, others, rfl, closes⟩ := closed
        rw [rest, List.nil_append, List.head?_cons, Option.mem_some_iff] at member
        rcases closes with rfl | rfl
        · exact member ▸ ends
        · exact member ▸ comma
    | cons first others =>
        rw [rest, List.cons_append, List.head?_cons, Option.mem_some_iff] at member
        have stopped := List.head?_dropWhile_not inside chars
        rw [rest] at stopped
        exact member ▸ by simpa using stopped
  have whole : chars ++ after = chars.takeWhile inside ++ (chars.dropWhile inside ++ after) := by
    rw [← List.append_assoc, List.takeWhile_append_dropWhile]
  rw [whole]
  exact ⟨takeWhile_append_of_ends all outside, dropWhile_append_of_ends all outside⟩

theorem opensNext_append (chars : List Char) : opensNext (chars ++ after) = opensNext chars := by
  induction chars with
  | nil =>
      obtain ⟨char, rest, rfl, rfl | rfl⟩ := closed
      · rfl
      · rfl
  | cons char rest inductionHypothesis =>
      rw [List.cons_append, opensNext, opensNext, inductionHypothesis]

theorem wordKind_append (word : String) (chars : List Char) :
    wordKind word (chars ++ after) = wordKind word chars := by
  unfold wordKind
  rw [opensNext_append closed]

/-- Where a sign is written twice, what closes a query is no second one. -/
theorem ne_cons_of_closed {sign : Char} (noEnd : sign ≠ ')') (noComma : sign ≠ ',')
    {chars : List Char} (single : ∀ others, chars ≠ sign :: others) (others : List Char) :
    chars ++ after ≠ sign :: others := by
  cases chars with
  | nil =>
      obtain ⟨char, rest, rfl, rfl | rfl⟩ := closed
      · exact fun same => noEnd (List.cons.inj same).1.symm
      · exact fun same => noComma (List.cons.inj same).1.symm
  | cons next rest =>
      intro same
      exact single rest (congrArg (· :: rest) (List.cons.inj same).1)

/-- The first token of a text is the same before what closes a query, and at another offset. -/
theorem firstToken_append {position : Nat} {char : Char} {rest left : List Char} {token : Token}
    (read : firstToken position (char :: rest) = .ok (token, left)) (other : Nat) :
    firstToken other (char :: (rest ++ after)) =
      .ok ({ token with position := other }, left ++ after) := by
  unfold firstToken at read
  dsimp only at read
  split at read
  · next same =>
      cases same
      cases read
      rfl
  · next same =>
      cases same
      cases read
      rfl
  · next same =>
      cases same
      cases read
      rfl
  · next same =>
      cases same
      cases read
      rfl
  · next same =>
      cases same
      cases read
      rfl
  · next same =>
      cases same
      cases read
      rfl
  · next same =>
      cases same
      split at read
      · cases read
      · next body afterBody bodyRead =>
          cases read
          have letters := takeWhile_append_of_closed closed Text.isLetter
            rfl rfl afterBody
          rw [firstToken_pattern (readPatternBody?_append bodyRead after), letters.1, letters.2]
  · next first others notOpening notClosing notComma notAnd notOr notNot notPattern same =>
      obtain ⟨rfl, rfl⟩ := List.cons.inj same
      unfold firstToken
      dsimp only
      split
      · next begins => exact absurd (List.cons.inj begins).1 notOpening
      · next begins => exact absurd (List.cons.inj begins).1 notClosing
      · next begins => exact absurd (List.cons.inj begins).1 notComma
      · next begins =>
          obtain ⟨sign, others⟩ := List.cons.inj begins
          exact absurd others (ne_cons_of_closed closed (by decide) (by decide)
            (fun _ => notAnd _ sign) _)
      · next begins =>
          obtain ⟨sign, others⟩ := List.cons.inj begins
          exact absurd others (ne_cons_of_closed closed (by decide) (by decide)
            (fun _ => notOr _ sign) _)
      · next begins => exact absurd (List.cons.inj begins).1 notNot
      · next begins => exact absurd (List.cons.inj begins).1 notPattern
      · next begins =>
          obtain ⟨rfl, rfl⟩ := List.cons.inj begins
          split at read
          · next quote =>
              rw [if_pos quote]
              split at read
              · cases read
              · next content afterText textRead =>
                  cases read
                  have noEscape : char ≠ '\\' := by
                    rintro rfl
                    exact absurd quote (by decide)
                  rw [readQuoted?_append noEscape textRead]
          · next word =>
              cases read
              have whole := takeWhile_append_of_closed closed continuesWord
                (by decide) (by decide) (char :: rest)
              rw [List.cons_append] at whole
              rw [if_neg word, whole.1, whole.2, wordKind_append closed]
      · next begins => cases begins
  · next same => cases same

end

/-! ## A query before what closes it -/

/-- What a token says, wherever it stands. -/
def Token.meaning (token : Token) : TokenKind × String :=
  (token.kind, token.text)

/-- A text is cut into the same tokens before what closes a query. -/
theorem cutsInto_of_scan {position : Nat} {chars after : List Char} {used : List Token}
    {last : Token} (scanned : scan position chars = .ok (used ++ [last])) (closed : Closed after) :
    CutsInto chars after fun tokens => tokens.map Token.meaning = used.map Token.meaning := by
  induction position, chars using scan_induction generalizing used with
  | nil position =>
      have none : used = [] := by
        have sizes := congrArg List.length (Except.ok.inj scanned)
        rw [List.length_append, List.length_singleton, List.length_singleton] at sizes
        exact List.eq_nil_of_length_eq_zero (by omega)
      intro offset
      refine ⟨[], offset, ?_, by rw [none]⟩
      rw [List.nil_append]
      cases scan offset after <;> rfl
  | blank position char rest blank inductionHypothesis =>
      rw [scan_cons_of_blank blank] at scanned
      intro offset
      obtain ⟨tokens, stop, cut, same⟩ := inductionHypothesis scanned (offset + 1)
      exact ⟨tokens, stop, by rw [List.cons_append, scan_cons_of_blank blank, cut], same⟩
  | fault position char rest fault present refused =>
      rw [scan_cons_of_fault present refused] at scanned
      cases scanned
  | token position char rest token left present read ending inductionHypothesis =>
      obtain ⟨others, whole, scannedRest⟩ := exists_of_scan_cons present read scanned
      obtain ⟨usedRest, lastRest, ended, -⟩ := ended_of_scanFrom scannedRest
      have parts : used ++ [last] = token :: usedRest ++ [lastRest] := by
        rw [whole, ended.whole, List.cons_append]
      obtain ⟨rfl, sameLast⟩ := List.append_inj' parts rfl
      rw [ended.whole, ← sameLast] at scannedRest
      intro offset
      have taken := firstToken_append closed read offset
      obtain ⟨tokens, stop, cut, same⟩ := inductionHypothesis scannedRest _
      refine ⟨{ token with position := offset } :: tokens, stop, ?_, ?_⟩
      · rw [List.cons_append, scan_cons_of_firstToken present taken, cut]
        cases scan stop after <;> rfl
      · exact congrArg (token.meaning :: ·) same

/-- Tokens that say the same derive the same. -/
theorem Derives.of_meaning {phrase : Phrase} {used others : List Token} {tree : Expr}
    (derivation : Derives phrase used tree)
    (same : others.map Token.meaning = used.map Token.meaning) : Derives phrase others tree := by
  have kind : ∀ {token other : Token} {kind : TokenKind}, token.meaning = other.meaning →
      other.kind = kind → token.kind = kind := fun same isKind =>
    (Prod.mk.inj same).1.trans isKind
  induction derivation generalizing others with
  | conjunction _ inductionHypothesis => exact .conjunction (inductionHypothesis same)
  | negation _ inductionHypothesis => exact .negation (inductionHypothesis same)
  | primary _ inductionHypothesis => exact .primary (inductionHypothesis same)
  | or _ isOr _ leftHypothesis rightHypothesis =>
      simp only [List.map_append, List.map_cons, List.map_eq_append_iff, List.map_eq_cons_iff] at same
      obtain ⟨before, _, rfl, sameLeft, connective, after, rfl, means, sameRight⟩ := same
      exact .or (leftHypothesis sameLeft) (kind means isOr) (rightHypothesis sameRight)
  | and _ isAnd _ leftHypothesis rightHypothesis =>
      simp only [List.map_append, List.map_cons, List.map_eq_append_iff, List.map_eq_cons_iff] at same
      obtain ⟨before, _, rfl, sameLeft, connective, after, rfl, means, sameRight⟩ := same
      exact .and (leftHypothesis sameLeft) (kind means isAnd) (rightHypothesis sameRight)
  | adjacent _ _ leftHypothesis rightHypothesis =>
      simp only [List.map_append, List.map_eq_append_iff] at same
      obtain ⟨before, after, rfl, sameLeft, sameRight⟩ := same
      exact .adjacent (leftHypothesis sameLeft) (rightHypothesis sameRight)
  | not isNot _ inductionHypothesis =>
      simp only [List.map_cons, List.map_eq_cons_iff] at same
      obtain ⟨connective, child, rfl, means, sameChild⟩ := same
      exact .not (kind means isNot) (inductionHypothesis sameChild)
  | group isOpening _ isClosing inductionHypothesis =>
      simp only [List.map_append, List.map_cons, List.map_nil, List.map_eq_append_iff,
        List.map_eq_cons_iff, List.map_eq_nil_iff] at same
      obtain ⟨opening, _, rfl, opens, inner, _, rfl, sameInner, closing, _, rfl, closes, rfl⟩ := same
      exact .group (kind opens isOpening) (inductionHypothesis sameInner) (kind closes isClosing)
  | near isNear isOpening _ isComma _ isOtherComma isDistance isClosing leftHypothesis
      rightHypothesis =>
      simp only [List.map_append, List.map_cons, List.map_nil, List.map_eq_append_iff,
        List.map_eq_cons_iff, List.map_eq_nil_iff] at same
      obtain ⟨name, _, rfl, named, opening, _, rfl, opens, first, _, rfl, sameFirst, comma, _, rfl,
        parts, second, _, rfl, sameSecond, otherComma, _, rfl, partsAgain, distance, _, rfl, measures,
        closing, _, rfl, closes, rfl⟩ := same
      obtain ⟨distanceKind, distanceText⟩ := Prod.mk.inj measures
      rw [← distanceText]
      exact .near (kind named isNear) (kind opens isOpening) (leftHypothesis sameFirst)
        (kind parts isComma) (rightHypothesis sameSecond) (kind partsAgain isOtherComma)
        (distanceKind ▸ isDistance) (kind closes isClosing)
  | quoted isQuoted some_ =>
      simp only [List.map_cons, List.map_nil, List.map_eq_cons_iff, List.map_eq_nil_iff] at same
      obtain ⟨token, _, rfl, means, rfl⟩ := same
      obtain ⟨sameKind, sameText⟩ := Prod.mk.inj means
      rw [← sameText] at some_ ⊢
      exact .quoted (sameKind.trans isQuoted) some_
  | term named read =>
      simp only [List.map_cons, List.map_nil, List.map_eq_cons_iff, List.map_eq_nil_iff] at same
      obtain ⟨token, _, rfl, means, rfl⟩ := same
      obtain ⟨sameKind, sameText⟩ := Prod.mk.inj means
      exact .term (sameKind ▸ named) (sameText ▸ read)

/-- A query is cut into tokens that derive what it is read as, before what closes it. -/
theorem cutsInto_of_parse {text : String} {tree : Expr} (parsed : parse text = .ok tree)
    {after : List Char} (closed : Closed after) :
    CutsInto text.toList after fun tokens => Derives .disjunction tokens tree := by
  unfold parse at parsed
  split at parsed
  · cases parsed
  · next tokens scanned =>
      obtain ⟨used, last, ended, -⟩ := ended_of_scanFrom scanned
      have derivation := (readTokens_eq_ok_iff ended).mp parsed
      rw [tokenize_eq_scan, ended.whole] at scanned
      exact (cutsInto_of_scan scanned closed).imp fun _ same => derivation.of_meaning same

/-! ## Larger queries -/

/-- Queries in parentheses, and as the operands of a proximity, are read as parts of the larger
query. -/
theorem parse_composed {first second : String} {left right : Expr}
    (parsedFirst : parse first = .ok left) (parsedSecond : parse second = .ok right)
    {distance : Int} (short : distance.natAbs < 10 ^ Text.digitLimit) :
    parse ("(" ++ first ++ ")") = .ok left ∧
      parse ("NOT (" ++ first ++ ")") = .ok (.not left) ∧
      parse ("(" ++ first ++ ") AND (" ++ second ++ ")") = .ok (.and left right) ∧
      parse ("(" ++ first ++ ") (" ++ second ++ ")") = .ok (.and left right) ∧
      parse ("(" ++ first ++ ") OR (" ++ second ++ ")") = .ok (.or left right) ∧
      parse ("NEAR(" ++ first ++ ", " ++ second ++ ", " ++ toString distance ++ ")") =
        .ok (.near left right (.int distance)) := by
  have closing : ∀ rest, Closed (')' :: rest) := fun rest => ⟨')', rest, rfl, Or.inl rfl⟩
  have comma : ∀ rest, Closed (',' :: rest) := fun rest => ⟨',', rest, rfl, Or.inr rfl⟩
  have firstGroup : ∀ after, CutsInto (['('] ++ (first.toList ++ [')'])) after fun tokens =>
      Derives .negation tokens left := fun _ =>
    cutsInto_group fun rest => cutsInto_of_parse parsedFirst (closing rest)
  have secondGroup : ∀ after, CutsInto (['('] ++ (second.toList ++ [')'])) after fun tokens =>
      Derives .negation tokens right := fun _ =>
    cutsInto_group fun rest => cutsInto_of_parse parsedSecond (closing rest)
  have loosened : ∀ {tree : Expr} (tokens : List Token), Derives .negation tokens tree →
      Derives .disjunction tokens tree := fun _ derivation => .conjunction (.negation derivation)
  refine ⟨?group, ?negated, ?conjunction, ?adjacent, ?disjunction, ?proximity⟩
  case group =>
    have cut := (firstGroup []).imp loosened
    exact parse_of_cutsInto (by simpa using cut)
  case negated =>
    have cut := (cutsInto_not (firstGroup [])).imp loosened
    exact parse_of_cutsInto (by simpa using cut)
  case conjunction =>
    have cut := cutsInto_and (fun _ => firstGroup _) (secondGroup [])
    exact parse_of_cutsInto (by simpa using cut)
  case adjacent =>
    have cut := cutsInto_adjacent (fun _ => firstGroup _) (secondGroup [])
    exact parse_of_cutsInto (by simpa using cut)
  case disjunction =>
    have cut := cutsInto_or (fun _ => firstGroup _) (secondGroup [])
    exact parse_of_cutsInto (by simpa using cut)
  case proximity =>
    have near : CutsInto (nearChars _ _ _) [] _ :=
      cutsInto_near (fun rest => cutsInto_of_parse parsedFirst (comma rest))
        (fun rest => cutsInto_of_parse parsedSecond (comma rest)) short
    have cut := near.imp loosened
    exact parse_of_cutsInto (by simpa [nearChars] using cut)

/-- A query whose last word would begin a proximity before an opening parenthesis. -/
def trailingName : String := "a near "

/-- A query with signs of the grammar inside a pattern and inside quotes. -/
def hiddenSigns : String := "!/b\\)/i || ',(' "

/-- The tokens of the hidden signs before the end. -/
def hiddenTokens : List Token :=
  [⟨.not, "!", 0⟩, ⟨.pattern, "/b\\)/i", 1⟩, ⟨.or, "||", 8⟩, ⟨.quoted, ",(", 11⟩]

def hiddenExpr : Expr :=
  .or (.not (.literal (.pattern "b\\)" "i"))) (.literal (.plain ",("))

theorem derives_hiddenTokens : Derives .disjunction hiddenTokens hiddenExpr := by
  obtain ⟨compiled, compiles⟩ : ∃ compiled, Pattern.compile "b\\)" "i" = .ok compiled :=
    Literal.exists_compiled rfl
  have text : "/b\\)/i" = "/" ++ "b\\)" ++ "/" ++ "i" := by decide
  have given : Literal.ofText "/b\\)/i" = .ok (.pattern "b\\)" "i") := by
    rw [text]
    exact Literal.ofText_eq_pattern (by decide) (by simp [Pattern.Flags.ofLiteralLetter?])
      (by simp) compiles
  have left : Derives .disjunction [⟨.not, "!", 0⟩, ⟨.pattern, "/b\\)/i", 1⟩]
      (.not (.literal (.pattern "b\\)" "i"))) :=
    .conjunction (.negation (.not rfl (.primary (.term (Or.inr rfl) given))))
  have right : Derives .conjunction [⟨.quoted, ",(", 11⟩] (.literal (.plain ",(")) :=
    .negation (.primary (.quoted rfl (by decide)))
  exact .or left rfl right

theorem parse_hiddenSigns : parse hiddenSigns = .ok hiddenExpr := by
  have scanned : tokenize hiddenSigns = .ok (hiddenTokens ++ [⟨.endOfQuery, "", 16⟩]) := rfl
  have ended : Ended (hiddenTokens ++ [⟨.endOfQuery, "", 16⟩]) hiddenTokens ⟨.endOfQuery, "", 16⟩ :=
    ⟨rfl, rfl, by decide⟩
  rw [parse_of_tokenize scanned]
  exact (readTokens_eq_ok_iff ended).mpr derives_hiddenTokens

theorem parse_composed_hiddenSigns :
    parse trailingName = .ok (.and (.literal (.plain "a")) (.literal (.plain "near"))) ∧
      parse hiddenSigns = .ok hiddenExpr ∧ (-3 : Int).natAbs < 10 ^ Text.digitLimit ∧
      parse ("NEAR(" ++ trailingName ++ ", " ++ hiddenSigns ++ ", " ++ toString (-3 : Int) ++ ")") =
        .ok (.near (.and (.literal (.plain "a")) (.literal (.plain "near"))) hiddenExpr
          (.int (-3))) := by
  have scanned : tokenize trailingName =
      .ok [⟨.word, "a", 0⟩, ⟨.word, "near", 2⟩, ⟨.endOfQuery, "", 7⟩] := rfl
  have parsed : parse trailingName =
      .ok (.and (.literal (.plain "a")) (.literal (.plain "near"))) := by
    rw [parse_of_tokenize scanned]
    rfl
  have short : (-3 : Int).natAbs < 10 ^ Text.digitLimit :=
    Nat.lt_of_lt_of_le (show 3 < 10 ^ 1 by decide) (Nat.pow_le_pow_right (by decide) (by decide))
  obtain ⟨-, -, -, -, -, near⟩ := parse_composed parsed parse_hiddenSigns short
  exact ⟨parsed, parse_hiddenSigns, short, near⟩

end BooleanSearch.Query
