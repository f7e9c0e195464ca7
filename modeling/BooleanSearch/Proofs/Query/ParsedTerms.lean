import BooleanSearch.Proofs.Query.Rendering
import BooleanSearch.Proofs.Query.Scanning
import BooleanSearch.Proofs.Query.TermTexts
import BooleanSearch.Query.Grammar

/-!
# Terms of parsed queries

The terms of a parsed query are given by its tokens, whatever their order.  A word has no character
that ends one, and a pattern is closed where its token ends, so the terms can be read off a written
query again, if no fuzzy text holds a colon.
-/

namespace BooleanSearch.Query

/-! ## Readers of tokens -/

/-- If a step of a reader succeeds, what it read has a property, and only tokens of a kind are
left. -/
def Yields {α : Type} (kind : Token → Prop) (property : α → Prop)
    (step : Except Failure (α × List Token)) : Prop :=
  ∀ value rest, step = .ok (value, rest) → property value ∧ ∀ token ∈ rest, kind token

namespace Yields

variable {α β : Type} {kind : Token → Prop} {property : α → Prop}

theorem giveUp (fault : QueryFault) : Yields kind property (Query.giveUp fault) :=
  nofun

theorem ok {value : α} {rest : List Token} (holds : property value)
    (tokens : ∀ token ∈ rest, kind token) : Yields kind property (.ok (value, rest)) := by
  intro other otherRest same
  cases same
  exact ⟨holds, tokens⟩

theorem bind {between : β → Prop} {step : Except Failure (β × List Token)}
    {next : β × List Token → Except Failure (α × List Token)} (first : Yields kind between step)
    (second : ∀ value rest, between value → (∀ token ∈ rest, kind token) →
      Yields kind property (next (value, rest))) : Yields kind property (step >>= next) := by
  cases step with
  | error failure => exact nofun
  | ok result =>
      obtain ⟨value, rest⟩ := result
      obtain ⟨holds, tokens⟩ := first value rest rfl
      exact second value rest holds tokens

theorem ite {condition : Prop} [Decidable condition]
    {step other : Except Failure (α × List Token)}
    (yes : condition → Yields kind property step) (no : ¬ condition → Yields kind property other) :
    Yields kind property (if condition then step else other) := by
  by_cases holds : condition
  · rw [if_pos holds]
    exact yes holds
  · rw [if_neg holds]
    exact no holds

end Yields

def Expr.TermsHave (property : Literal → Prop) (query : Expr) : Prop :=
  ∀ term ∈ query.literals, property term

theorem Expr.termsHave_pair {property : Literal → Prop} {left right : Expr}
    (leftHave : left.TermsHave property) (rightHave : right.TermsHave property) :
    ∀ term ∈ left.literals ++ right.literals, property term := by
  intro term member
  rcases List.mem_append.mp member with inLeft | inRight
  · exact leftHave term inLeft
  · exact rightHave term inRight

/-- A token gives only terms with a property. -/
structure Token.Gives (property : Literal → Prop) (token : Token) : Prop where
  text : token.kind = .word ∨ token.kind = .pattern → ∀ term, Literal.ofText token.text = .ok term →
    property term
  quoted : token.kind = .quoted → property (.plain token.text)

/-- Whether tokens of a kind may stand for terms. -/
def TokenKind.standsForTerm : TokenKind → Bool
  | .word => true
  | .pattern => true
  | .quoted => true
  | _ => false

theorem gives_of_kind {property : Literal → Prop} {token : Token}
    (noTerm : token.kind.standsForTerm = false) : token.Gives property := by
  refine ⟨fun named => ?_, fun quoted => ?_⟩
  · rcases named with word | pattern
    · rw [word] at noTerm
      cases noTerm
    · rw [pattern] at noTerm
      cases noTerm
  · rw [quoted] at noTerm
    cases noTerm

section

variable {property : Literal → Prop} {tokens : List Token}
  (given : ∀ token ∈ tokens, token.Gives property)

include given

theorem gives_advance : ∀ token ∈ advance tokens, token.Gives property := by
  intro token member
  unfold advance at member
  split at member
  · exact given token member
  · exact given token (List.mem_of_mem_tail member)

theorem gives_current : (current tokens).Gives property := by
  cases tokens with
  | nil => exact gives_of_kind rfl
  | cons first rest => exact given first List.mem_cons_self

theorem yields_expect (kind : TokenKind) :
    Yields (Token.Gives property) (fun _ => True) (expect kind tokens) := by
  unfold expect
  exact .ite (fun _ => .ok trivial (gives_advance given)) fun _ => .giveUp _

theorem yields_readDistance :
    Yields (Token.Gives property) (fun _ => True) (readDistance tokens) := by
  unfold readDistance
  exact .ite (fun _ => .ok trivial (gives_advance given)) fun _ => .giveUp _

theorem yields_term (named : (current tokens).kind = .word ∨ (current tokens).kind = .pattern) :
    Yields (Token.Gives property) (Expr.TermsHave property)
      (do
        let term ← Literal.ofText (current tokens).text
        pure (Expr.literal term, advance tokens)) := by
  cases read : Literal.ofText (current tokens).text with
  | error failure => exact nofun
  | ok term =>
      refine .ok ?_ (gives_advance given)
      intro other member
      rw [List.mem_singleton.mp member]
      exact (gives_current given).text named term read

end

/-- What the readers of queries yield with some fuel. -/
structure ReadersYield (property : Literal → Prop) (fuel : Nat) : Prop where
  readOr : ∀ tokens, (∀ token ∈ tokens, token.Gives property) →
    Yields (Token.Gives property) (Expr.TermsHave property) (readOr fuel tokens)
  readOrRest : ∀ left tokens, left.TermsHave property →
    (∀ token ∈ tokens, token.Gives property) →
    Yields (Token.Gives property) (Expr.TermsHave property) (readOrRest fuel left tokens)
  readAnd : ∀ tokens, (∀ token ∈ tokens, token.Gives property) →
    Yields (Token.Gives property) (Expr.TermsHave property) (readAnd fuel tokens)
  readAndRest : ∀ left tokens, left.TermsHave property →
    (∀ token ∈ tokens, token.Gives property) →
    Yields (Token.Gives property) (Expr.TermsHave property) (readAndRest fuel left tokens)
  readNot : ∀ tokens, (∀ token ∈ tokens, token.Gives property) →
    Yields (Token.Gives property) (Expr.TermsHave property) (readNot fuel tokens)
  readPrimary : ∀ tokens, (∀ token ∈ tokens, token.Gives property) →
    Yields (Token.Gives property) (Expr.TermsHave property) (readPrimary fuel tokens)

theorem yields_readPrimary {property : Literal → Prop} {fuel : Nat}
    (readers : ReadersYield property fuel) {tokens : List Token}
    (given : ∀ token ∈ tokens, token.Gives property) :
    Yields (Token.Gives property) (Expr.TermsHave property) (readPrimary (fuel + 1) tokens) := by
  unfold Query.readPrimary
  dsimp only
  split
  · refine .bind (readers.readOr _ (gives_advance given)) fun inner rest innerHave given => ?_
    exact .bind (yields_expect given _) fun _ _ _ given => .ok innerHave given
  · refine .bind (yields_expect (gives_advance given) _) fun _ _ _ given => ?_
    refine .bind (readers.readOr _ given) fun left _ leftHave given => ?_
    refine .bind (yields_expect given _) fun _ _ _ given => ?_
    refine .bind (readers.readOr _ given) fun right _ rightHave given => ?_
    refine .bind (yields_expect given _) fun _ _ _ given => ?_
    refine .bind (yields_readDistance given) fun distance _ _ given => ?_
    refine .bind (yields_expect given _) fun _ _ _ given => ?_
    exact .ok (Expr.termsHave_pair leftHave rightHave) given
  · next quoted =>
      refine .ite (fun _ => .giveUp _) fun _ => .ok ?_ (gives_advance given)
      intro term member
      rw [List.mem_singleton.mp member]
      exact (gives_current given).quoted quoted
  · next word => exact yields_term given (Or.inl word)
  · next pattern => exact yields_term given (Or.inr pattern)
  · exact .giveUp _
  · exact .giveUp _

theorem readersYield (property : Literal → Prop) (fuel : Nat) : ReadersYield property fuel := by
  induction fuel with
  | zero =>
      exact ⟨fun _ _ => .giveUp _, fun _ _ _ _ => .giveUp _, fun _ _ => .giveUp _,
        fun _ _ _ _ => .giveUp _, fun _ _ => .giveUp _, fun _ _ => .giveUp _⟩
  | succ fuel readers =>
      refine ⟨?_, ?_, ?_, ?_, ?_, fun tokens given => yields_readPrimary readers given⟩
      · intro tokens given
        exact .bind (readers.readAnd tokens given) fun left rest leftHave given =>
          readers.readOrRest left rest leftHave given
      · intro left tokens leftHave given
        refine .ite (fun _ => ?_) fun _ => .ok leftHave given
        exact .bind (readers.readAnd _ (gives_advance given)) fun right rest rightHave given =>
          readers.readOrRest _ rest (Expr.termsHave_pair leftHave rightHave) given
      · intro tokens given
        exact .bind (readers.readNot tokens given) fun left rest leftHave given =>
          readers.readAndRest left rest leftHave given
      · intro left tokens leftHave given
        refine .ite (fun _ => ?_) fun _ => .ok leftHave given
        refine .bind (readers.readNot _ ?_) fun right rest rightHave given =>
          readers.readAndRest _ rest (Expr.termsHave_pair leftHave rightHave) given
        split
        · exact gives_advance given
        · exact given
      · intro tokens given
        refine .ite (fun _ => ?_) fun _ => readers.readPrimary tokens given
        exact .bind (readers.readNot _ (gives_advance given)) fun child rest childHave given =>
          .ok childHave given

/-- The terms of a query are given by its tokens. -/
theorem termsHave_of_readTokens {property : Literal → Prop} {tokens : List Token}
    (given : ∀ token ∈ tokens, token.Gives property) {query : Expr}
    (read : readTokens tokens = .ok query) : query.TermsHave property := by
  unfold readTokens at read
  split at read
  · cases read
  · have yields := (readersYield property (8 * tokens.length + 8)).readOr tokens given
    cases outcome : readOr (8 * tokens.length + 8) tokens with
    | error failure =>
        rw [outcome] at read
        cases read
    | ok result =>
        obtain ⟨found, rest⟩ := result
        rw [outcome] at read
        change (if (current rest).kind == .endOfQuery then Except.ok found else _) =
          Except.ok query at read
        split at read
        · cases read
          exact (yields _ rest outcome).1
        · cases read

/-! ## Tokens -/

theorem kind_of_scanFrom {kind : Token → Prop}
    (last : ∀ position, kind ⟨.endOfQuery, "", position⟩)
    (first : ∀ position chars token after, firstToken position chars = .ok (token, after) →
      kind token) {fuel position : Nat} {chars : List Char} {tokens : List Token}
    (scanned : scanFrom fuel position chars = .ok tokens) : ∀ token ∈ tokens, kind token := by
  have ended : ∀ {position token}, token ∈ [(⟨.endOfQuery, "", position⟩ : Token)] →
      kind token := by
    intro position token member
    rw [List.mem_singleton.mp member]
    exact last position
  induction fuel generalizing position chars tokens with
  | zero =>
      cases scanned
      exact fun _ => ended
  | succ fuel inductionHypothesis =>
      cases chars with
      | nil =>
          cases scanned
          exact fun _ => ended
      | cons char rest =>
          unfold scanFrom at scanned
          split at scanned
          · exact inductionHypothesis scanned
          · split at scanned
            · cases scanned
            · next token after read =>
                split at scanned
                · cases scanned
                · next others scannedRest =>
                    cases scanned
                    intro token member
                    rcases List.mem_cons.mp member with rfl | later
                    · exact first _ _ _ _ read
                    · exact inductionHypothesis scannedRest token later

namespace Literal

/-- What is known of a term that was read: its pattern is closed, its fuzzy text holds nothing that
ends a word. -/
def Read : Literal → Prop
  | .plain _ => True
  | .pattern source letters =>
    ClosedSource source.toList ∧ ∀ letter ∈ letters.toList, Text.isLetter letter = true
  | .fuzzy text => ∀ char ∈ text.toList, continuesWord char = true

/-- A text that does not begin with a slash stands for no pattern. -/
theorem read_of_word {text : String} (noPattern : ∀ rest, text.toList ≠ '/' :: rest)
    (word : ∀ char ∈ text.toList, continuesWord char = true) {term : Literal}
    (given : ofText text = .ok term) : term.Read := by
  have notPattern := patternParts?_of_no_slash noPattern
  unfold ofText at given
  rw [notPattern] at given
  dsimp only at given
  split at given
  · next first rest fuzzy =>
      cases given
      intro char member
      rw [String.toList_ofList] at member
      exact word char (fuzzy ▸ List.mem_cons_of_mem _ member)
  · cases given
    trivial

/-- The text of a pattern is split where its letters begin. -/
theorem splitPattern?_of_letters {source letters : List Char}
    (named : ∀ letter ∈ letters, Text.isLetter letter = true) {parts : List Char × List Char}
    (split : splitPattern? ('/' :: (source ++ '/' :: letters)) = some parts) :
    parts = (source, letters) := by
  have noSlash : ∀ letter ∈ letters, letter ≠ '/' := by
    rintro letter member rfl
    exact absurd (named '/' member) (by decide +kernel)
  rw [splitPattern?_eq noSlash] at split
  split at split
  · cases split
  · split at split
    · cases split
      rfl
    · cases split

theorem read_of_pattern {text : String} {source letters : List Char}
    (written : text.toList = '/' :: (source ++ '/' :: letters)) (closed : ClosedSource source)
    (named : ∀ letter ∈ letters, Text.isLetter letter = true) {term : Literal}
    (given : ofText text = .ok term) : term.Read := by
  unfold ofText at given
  cases parts : patternParts? text with
  | none =>
      rw [parts] at given
      dsimp only at given
      split at given
      · next begins =>
          rw [written] at begins
          cases begins
      · cases given
        trivial
  | some found =>
      obtain ⟨foundSource, foundLetters⟩ := found
      rw [parts] at given
      unfold patternParts? at parts
      rw [written, Option.map_eq_some_iff] at parts
      obtain ⟨split, splits, same⟩ := parts
      rw [splitPattern?_of_letters named splits] at same
      cases same
      dsimp only [ofPattern] at given
      split at given
      · cases given
        dsimp only [Read]
        rw [String.toList_ofList, String.toList_ofList]
        exact ⟨closed, named⟩
      · cases given

end Literal

/-- What begins with no slash gives the term of a word. -/
theorem gives_of_word {position : Nat} {chars after : List Char}
    (noPattern : ∀ rest, chars ≠ '/' :: rest) :
    Token.Gives Literal.Read ⟨wordKind (String.ofList (chars.takeWhile continuesWord)) after,
      String.ofList (chars.takeWhile continuesWord), position⟩ := by
  refine ⟨fun _ term read => ?_, fun quoted => absurd quoted (wordKind_ne_quoted _ _)⟩
  refine Literal.read_of_word ?_ ?_ read
  · intro rest begins
    rw [String.toList_ofList] at begins
    cases chars with
    | nil => cases begins
    | cons first others =>
        rw [List.takeWhile_cons] at begins
        split at begins
        · cases begins
          exact noPattern others rfl
        · cases begins
  · intro char member
    rw [String.toList_ofList] at member
    exact List.mem_takeWhile_imp member

theorem gives_firstToken {position : Nat} {chars : List Char} {token : Token}
    {after : List Char} (read : firstToken position chars = .ok (token, after)) :
    token.Gives Literal.Read := by
  unfold firstToken at read
  dsimp only at read
  split at read
  · cases read
    exact gives_of_kind rfl
  · cases read
    exact gives_of_kind rfl
  · cases read
    exact gives_of_kind rfl
  · cases read
    exact gives_of_kind rfl
  · cases read
    exact gives_of_kind rfl
  · cases read
    exact gives_of_kind rfl
  · next rest =>
      split at read
      · cases read
      · next body afterBody bodyRead =>
          cases read
          obtain ⟨source, rfl, closed⟩ := closedSource_of_read bodyRead
          have written : (String.ofList
              ('/' :: ((source ++ ['/']) ++ afterBody.takeWhile Text.isLetter))).toList =
                '/' :: (source ++ '/' :: afterBody.takeWhile Text.isLetter) := by
            simp
          exact ⟨fun _ term given => Literal.read_of_pattern written closed
            (fun letter member => List.mem_takeWhile_imp member) given, nofun⟩
  · next char rest _ _ _ _ _ _ noPattern =>
      split at read
      · split at read
        · cases read
        · cases read
          refine ⟨?_, fun _ => trivial⟩
          rintro (word | pattern)
          · cases word
          · cases pattern
      · cases read
        exact gives_of_word fun others same => noPattern (List.cons.inj same).1
  · cases read
    exact gives_of_word nofun

/-! ## Parsed queries -/

/-- No fuzzy text of a query holds a colon, and the distances in it are whole numbers. -/
def Expr.Plain : Expr → Prop
  | .literal (.fuzzy text) => ':' ∉ text.toList
  | .literal _ => True
  | .not child => child.Plain
  | .and left right => left.Plain ∧ right.Plain
  | .or left right => left.Plain ∧ right.Plain
  | .near left right distance => left.Plain ∧ right.Plain ∧ ∃ number, distance = .int number

theorem Expr.legible_of_plain {query : Expr} (plain : query.Plain)
    (read : query.TermsHave Literal.Read) : query.Legible := by
  induction query with
  | literal term =>
      have known := read term (List.mem_singleton.mpr rfl)
      cases term with
      | plain text => trivial
      | pattern source letters => exact known
      | fuzzy text =>
          intro char member
          refine ⟨known char member, ?_⟩
          rintro rfl
          exact plain member
  | not child inductionHypothesis => exact inductionHypothesis plain read
  | and left right leftHypothesis rightHypothesis =>
      exact ⟨leftHypothesis plain.1 fun term member => read term (List.mem_append_left _ member),
        rightHypothesis plain.2 fun term member => read term (List.mem_append_right _ member)⟩
  | or left right leftHypothesis rightHypothesis =>
      exact ⟨leftHypothesis plain.1 fun term member => read term (List.mem_append_left _ member),
        rightHypothesis plain.2 fun term member => read term (List.mem_append_right _ member)⟩
  | near left right distance leftHypothesis rightHypothesis =>
      exact ⟨leftHypothesis plain.1 fun term member => read term (List.mem_append_left _ member),
        rightHypothesis plain.2.1 fun term member => read term (List.mem_append_right _ member),
        plain.2.2⟩

theorem termsHave_of_parse {text : String} {query : Expr} (parsed : parse text = .ok query) :
    query.TermsHave Literal.Read := by
  unfold parse at parsed
  split at parsed
  · cases parsed
  · next tokens scanned =>
      refine termsHave_of_readTokens ?_ parsed
      exact kind_of_scanFrom (fun _ => gives_of_kind rfl)
        (fun _ _ _ _ read => gives_firstToken read) scanned

end BooleanSearch.Query
