import BooleanSearch.Proofs.Query.Derivations

/-!
# What refuses a query

A reader gives up in one of two ways.  Either it finds a token that it cannot use, and tells its
offset, or it comes to a term that stands for nothing, and fails as the term does.  It comes to such a
term only behind tokens that can go on to a query with a sound pattern in its place.
-/

namespace BooleanSearch.Query

/-- A pattern that compiles, as it may stand in place of another token. -/
def placeholder : Token :=
  ⟨.pattern, "/a/", 0⟩

theorem derives_placeholder : Derives .primary [placeholder] (.literal (.pattern "a" "")) :=
  .term (Or.inr rfl) (by rfl)

/-- Some tokens can go on to a phrase with a sound pattern right behind them. -/
def Phrase.Awaits (phrase : Phrase) (before : List Token) : Prop :=
  ∃ after tree, Derives phrase (before ++ placeholder :: after) tree

/-- A list of tokens in which the query ends. -/
def Ends (tokens : List Token) : Prop :=
  ∃ token ∈ tokens, token.kind = .endOfQuery

theorem Ends.current_mem {tokens : List Token} (ends : Ends tokens) : current tokens ∈ tokens := by
  cases tokens with
  | nil =>
      obtain ⟨_, member, -⟩ := ends
      cases member
  | cons token rest => exact List.mem_cons_self

theorem Ends.of_append {used rest : List Token} (ends : Ends (used ++ rest))
    (goesOn : ∀ token ∈ used, token.kind ≠ .endOfQuery) : Ends rest := by
  obtain ⟨token, member, isEnd⟩ := ends
  rcases List.mem_append.mp member with inUsed | inRest
  · exact absurd isEnd (goesOn token inUsed)
  · exact ⟨token, inRest, isEnd⟩

theorem Ends.advance {tokens : List Token} {kind : TokenKind} (ends : Ends tokens)
    (now : (current tokens).kind = kind) (goesOn : kind ≠ .endOfQuery) :
    Ends (Query.advance tokens) := by
  have whole : tokens = [current tokens] ++ Query.advance tokens := eq_cons_of_current now goesOn
  rw [whole] at ends
  refine ends.of_append ?_
  rw [List.forall_mem_singleton, now]
  exact goesOn

/-! ## How readers give up -/

/-- A failure at a token that cannot be used, or at a term that stands for nothing where one is
awaited. -/
inductive Refused (awaits : List Token → Prop) (tokens : List Token) (failure : Failure) : Prop
  | atToken {fault : QueryFault} {token : Token} :
      failure = fault.failure → token ∈ tokens → fault.position = token.position →
      Refused awaits tokens failure
  | atTerm {before after : List Token} {token : Token} :
      tokens = before ++ token :: after → token.kind = .word ∨ token.kind = .pattern →
      Literal.ofText token.text = .error failure → awaits before → Refused awaits tokens failure

/-- A step of a reader gives up only so. -/
def Refuses {α : Type} (awaits : List Token → Prop) (tokens : List Token)
    (step : Except Failure (α × List Token)) : Prop :=
  ∀ failure, step = .error failure → Refused awaits tokens failure

theorem Refused.prepend {awaits : List Token → Prop} {used tokens : List Token} {failure : Failure}
    (refused : Refused (fun before => awaits (used ++ before)) tokens failure) :
    Refused awaits (used ++ tokens) failure := by
  cases refused with
  | atToken same member position =>
      exact .atToken same (List.mem_append_right used member) position
  | @atTerm before after token whole named given awaited =>
      exact .atTerm (by rw [whole, List.append_assoc]) named given awaited

namespace Refuses

variable {α β : Type} {awaits other : List Token → Prop} {tokens : List Token}

theorem ok (value : α) (rest : List Token) : Refuses awaits tokens (.ok (value, rest)) :=
  nofun

theorem giveUp {fault : QueryFault} (ends : Ends tokens)
    (position : fault.position = (current tokens).position) :
    Refuses (α := α) awaits tokens (Query.giveUp fault) := by
  intro failure same
  cases same
  exact .atToken rfl ends.current_mem position

theorem imp {step : Except Failure (α × List Token)} (refuses : Refuses awaits tokens step)
    (implies : ∀ before, awaits before → other before) : Refuses other tokens step := by
  intro failure same
  cases refuses failure same with
  | atToken same member position => exact .atToken same member position
  | atTerm whole named given awaited => exact .atTerm whole named given (implies _ awaited)

/-- A reader that is given what follows the first token. -/
theorem take {kind : TokenKind} (now : (current tokens).kind = kind) (goesOn : kind ≠ .endOfQuery)
    {step : Except Failure (α × List Token)}
    (refuses : Refuses (fun before => awaits (current tokens :: before)) (advance tokens) step) :
    Refuses awaits tokens step := by
  intro failure same
  have whole : tokens = [current tokens] ++ advance tokens := eq_cons_of_current now goesOn
  rw [whole]
  exact (refuses failure same).prepend

theorem bind {between : List Token → β → Prop} {step : Except Failure (β × List Token)}
    {next : β × List Token → Except Failure (α × List Token)} (ends : Ends tokens)
    (first : Refuses awaits tokens step) (reads : Reads tokens between step)
    (goesOn : ∀ used value, between used value → ∀ token ∈ used, token.kind ≠ .endOfQuery)
    (second : ∀ value used rest, between used value → Ends rest →
      Refuses (fun before => awaits (used ++ before)) rest (next (value, rest))) :
    Refuses awaits tokens (step >>= next) := by
  intro failure same
  cases outcome : step with
  | error other =>
      rw [outcome] at same
      cases same
      exact first _ outcome
  | ok result =>
      obtain ⟨value, rest⟩ := result
      rw [outcome] at reads same
      obtain ⟨used, rfl, holds⟩ := reads
      have endsRest := ends.of_append (goesOn used value holds)
      exact (second value used rest holds endsRest failure same).prepend

end Refuses

section

variable {awaits : List Token → Prop} {tokens : List Token} (ends : Ends tokens)

include ends

theorem refuses_expect (kind : TokenKind) : Refuses awaits tokens (expect kind tokens) := by
  unfold expect
  dsimp only
  split
  · exact .ok _ _
  · exact .giveUp ends rfl

theorem refuses_readDistance : Refuses awaits tokens (readDistance tokens) := by
  unfold readDistance
  dsimp only
  split
  · exact .ok _ _
  · exact .giveUp ends rfl

/-- A token of a kind before the rest of a phrase. -/
theorem Refuses.expect {α : Type} (kind : TokenKind) (goesOn : kind ≠ .endOfQuery)
    {next : Unit × List Token → Except Failure (α × List Token)}
    (second : ∀ token rest, token.kind = kind → Ends rest →
      Refuses (fun before => awaits (token :: before)) rest (next ((), rest))) :
    Refuses awaits tokens (Query.expect kind tokens >>= next) := by
  refine .bind ends (refuses_expect ends kind) (reads_expect goesOn) ?_ ?_
  · rintro _ _ ⟨token, rfl, rfl⟩
    rwa [List.forall_mem_singleton]
  · rintro _ _ rest ⟨token, rfl, isKind⟩ endsRest
    exact second token rest isKind endsRest

theorem Refuses.distance {α : Type} {next : Value × List Token → Except Failure (α × List Token)}
    (second : ∀ token rest, Ends rest → Refuses (fun before => awaits (token :: before)) rest
      (next (distanceOf token.text, rest))) :
    Refuses awaits tokens (readDistance tokens >>= next) := by
  refine .bind ends (refuses_readDistance ends) reads_readDistance ?_ ?_
  · rintro _ _ ⟨token, rfl, word | quoted, rfl⟩
    · rw [List.forall_mem_singleton, word]
      exact nofun
    · rw [List.forall_mem_singleton, quoted]
      exact nofun
  · rintro _ _ rest ⟨token, rfl, -, rfl⟩ endsRest
    exact second token rest endsRest

end

/-- A term that stands for nothing is where it is awaited. -/
theorem refuses_term {awaits : List Token → Prop} {tokens : List Token}
    (named : (current tokens).kind = .word ∨ (current tokens).kind = .pattern)
    (awaited : awaits []) :
    Refuses awaits tokens
      (do
        let term ← Literal.ofText (current tokens).text
        pure (Expr.literal term, advance tokens)) := by
  intro failure same
  cases read : Literal.ofText (current tokens).text with
  | ok term =>
      rw [read] at same
      cases same
  | error other =>
      rw [read] at same
      cases same
      have whole : tokens = [] ++ current tokens :: advance tokens := by
        rcases named with word | pattern
        · exact eq_cons_of_current word nofun
        · exact eq_cons_of_current pattern nofun
      exact .atTerm whole named read awaited

/-! ## What is awaited -/

namespace Phrase.Awaits

variable {before used : List Token} {left : Expr}

theorem conjunction (awaits : Phrase.conjunction.Awaits before) :
    Phrase.disjunction.Awaits before := by
  obtain ⟨after, tree, derivation⟩ := awaits
  exact ⟨after, tree, .conjunction derivation⟩

theorem negation (awaits : Phrase.negation.Awaits before) : Phrase.conjunction.Awaits before := by
  obtain ⟨after, tree, derivation⟩ := awaits
  exact ⟨after, tree, .negation derivation⟩

theorem primary (awaits : Phrase.primary.Awaits before) : Phrase.negation.Awaits before := by
  obtain ⟨after, tree, derivation⟩ := awaits
  exact ⟨after, tree, .primary derivation⟩

theorem nil : Phrase.primary.Awaits [] :=
  ⟨[], _, derives_placeholder⟩

theorem or {connective : Token} (derivation : Derives .disjunction used left)
    (isOr : connective.kind = .or) (awaits : Phrase.conjunction.Awaits before) :
    Phrase.disjunction.Awaits (used ++ connective :: before) := by
  obtain ⟨after, tree, right⟩ := awaits
  exact ⟨after, _, by simpa using Derives.or derivation isOr right⟩

theorem and {connective : Token} (derivation : Derives .conjunction used left)
    (isAnd : connective.kind = .and) (awaits : Phrase.negation.Awaits before) :
    Phrase.conjunction.Awaits (used ++ connective :: before) := by
  obtain ⟨after, tree, right⟩ := awaits
  exact ⟨after, _, by simpa using Derives.and derivation isAnd right⟩

theorem adjacent (derivation : Derives .conjunction used left)
    (awaits : Phrase.negation.Awaits before) : Phrase.conjunction.Awaits (used ++ before) := by
  obtain ⟨after, tree, right⟩ := awaits
  exact ⟨after, _, by simpa using Derives.adjacent derivation right⟩

theorem not {connective : Token} (isNot : connective.kind = .not)
    (awaits : Phrase.negation.Awaits before) : Phrase.negation.Awaits (connective :: before) := by
  obtain ⟨after, tree, child⟩ := awaits
  exact ⟨after, _, .not isNot child⟩

theorem group {opening : Token} (isOpening : opening.kind = .leftParen)
    (awaits : Phrase.disjunction.Awaits before) : Phrase.primary.Awaits (opening :: before) := by
  obtain ⟨after, tree, inner⟩ := awaits
  have closed : Derives .primary
      (opening :: (before ++ placeholder :: after ++ [⟨.rightParen, ")", 0⟩])) tree :=
    .group isOpening inner rfl
  exact ⟨after ++ [⟨.rightParen, ")", 0⟩], tree, by simpa using closed⟩

section

variable {name opening : Token} (isNear : name.kind = .near) (isOpening : opening.kind = .leftParen)

include isNear isOpening

/-- A proximity whose second operand is begun goes on to a comma, a distance and its end. -/
theorem second {comma : Token} (derivation : Derives .disjunction used left)
    (isComma : comma.kind = .comma) (awaits : Phrase.disjunction.Awaits before) :
    Phrase.primary.Awaits (name :: opening :: (used ++ comma :: before)) := by
  obtain ⟨after, tree, right⟩ := awaits
  have whole : Derives .primary
      (name :: opening :: (used ++ comma :: (before ++ placeholder :: after ++
        ⟨.comma, ",", 0⟩ :: [⟨.word, "1", 0⟩, ⟨.rightParen, ")", 0⟩])))
      (.near left tree (distanceOf "1")) :=
    .near isNear isOpening derivation isComma right rfl (Or.inl rfl) rfl
  exact ⟨after ++ [⟨.comma, ",", 0⟩, ⟨.word, "1", 0⟩, ⟨.rightParen, ")", 0⟩], _,
    by simpa using whole⟩

theorem first (awaits : Phrase.disjunction.Awaits before) :
    Phrase.primary.Awaits (name :: opening :: before) := by
  obtain ⟨after, tree, derivation⟩ := awaits
  have operand : Phrase.disjunction.Awaits [] := nil.primary.negation.conjunction
  have both : Phrase.primary.Awaits
      (name :: opening :: (before ++ placeholder :: after ++ ⟨.comma, ",", 0⟩ :: [])) :=
    second isNear isOpening derivation rfl operand
  obtain ⟨rest, other, whole⟩ := both
  exact ⟨after ++ ⟨.comma, ",", 0⟩ :: placeholder :: rest, other, by simpa using whole⟩

end

end Phrase.Awaits

/-! ## Readers -/

/-- How the readers of phrases give up with some fuel. -/
structure ReadersRefuse (fuel : Nat) : Prop where
  readOr : ∀ tokens, Ends tokens →
    Refuses Phrase.disjunction.Awaits tokens (readOr fuel tokens)
  readOrRest : ∀ left used tokens, Ends tokens → Derives .disjunction used left →
    Refuses (fun before => Phrase.disjunction.Awaits (used ++ before)) tokens
      (readOrRest fuel left tokens)
  readAnd : ∀ tokens, Ends tokens →
    Refuses Phrase.conjunction.Awaits tokens (readAnd fuel tokens)
  readAndRest : ∀ left used tokens, Ends tokens → Derives .conjunction used left →
    Refuses (fun before => Phrase.conjunction.Awaits (used ++ before)) tokens
      (readAndRest fuel left tokens)
  readNot : ∀ tokens, Ends tokens → Refuses Phrase.negation.Awaits tokens (readNot fuel tokens)
  readPrimary : ∀ tokens, Ends tokens →
    Refuses Phrase.primary.Awaits tokens (readPrimary fuel tokens)

section

variable {fuel : Nat} (readers : ReadersRefuse fuel) {tokens : List Token} (ends : Ends tokens)

include readers ends

theorem refuses_readOr : Refuses Phrase.disjunction.Awaits tokens (readOr (fuel + 1) tokens) := by
  refine .bind ends ((readers.readAnd tokens ends).imp fun _ => .conjunction)
    ((readersDerive fuel).readAnd tokens) (fun _ _ => goesOn_of_derives) ?_
  intro left used rest derivation endsRest
  exact readers.readOrRest left used rest endsRest (.conjunction derivation)

theorem refuses_readOrRest {left : Expr} {used : List Token}
    (derivation : Derives .disjunction used left) :
    Refuses (fun before => Phrase.disjunction.Awaits (used ++ before)) tokens
      (readOrRest (fuel + 1) left tokens) := by
  unfold readOrRest
  split
  · next here =>
      have now := beq_iff_eq.mp here
      have endsNext := ends.advance now (by decide)
      refine .take now (by decide) (.bind endsNext ?_ ((readersDerive fuel).readAnd _)
        (fun _ _ => goesOn_of_derives) ?_)
      · exact (readers.readAnd _ endsNext).imp fun _ => .or derivation now
      · intro right more rest rightDerivation endsRest
        have longer := readers.readOrRest _ _ rest endsRest (.or derivation now rightDerivation)
        exact longer.imp fun before awaits => by simpa using awaits
  · exact .ok _ _

theorem refuses_readAnd : Refuses Phrase.conjunction.Awaits tokens (readAnd (fuel + 1) tokens) := by
  refine .bind ends ((readers.readNot tokens ends).imp fun _ => .negation)
    ((readersDerive fuel).readNot tokens) (fun _ _ => goesOn_of_derives) ?_
  intro left used rest derivation endsRest
  exact readers.readAndRest left used rest endsRest (.negation derivation)

theorem refuses_readAndRest {left : Expr} {used : List Token}
    (derivation : Derives .conjunction used left) :
    Refuses (fun before => Phrase.conjunction.Awaits (used ++ before)) tokens
      (readAndRest (fuel + 1) left tokens) := by
  unfold readAndRest
  dsimp only
  by_cases written : (current tokens).kind = .and
  · simp only [written, beq_self_eq_true, Bool.true_or, if_true]
    have endsNext := ends.advance written (by decide)
    refine .take written (by decide) (.bind endsNext ?_ ((readersDerive fuel).readNot _)
      (fun _ _ => goesOn_of_derives) ?_)
    · exact (readers.readNot _ endsNext).imp fun _ => .and derivation written
    · intro right more rest rightDerivation endsRest
      have longer := readers.readAndRest _ _ rest endsRest (.and derivation written rightDerivation)
      exact longer.imp fun before awaits => by simpa using awaits
  · have unwritten : ((current tokens).kind == .and) = false := beq_eq_false_iff_ne.mpr written
    simp only [unwritten, Bool.false_or, Bool.false_eq_true, if_false]
    split
    · refine .bind ends ?_ ((readersDerive fuel).readNot _) (fun _ _ => goesOn_of_derives) ?_
      · exact (readers.readNot _ ends).imp fun _ => .adjacent derivation
      · intro right more rest rightDerivation endsRest
        have longer := readers.readAndRest _ _ rest endsRest (.adjacent derivation rightDerivation)
        exact longer.imp fun before awaits => by simpa using awaits
    · exact .ok _ _

theorem refuses_readNot : Refuses Phrase.negation.Awaits tokens (readNot (fuel + 1) tokens) := by
  unfold readNot
  split
  · next here =>
      have now := beq_iff_eq.mp here
      have endsNext := ends.advance now (by decide)
      refine .take now (by decide) (.bind endsNext ?_ ((readersDerive fuel).readNot _)
        (fun _ _ => goesOn_of_derives) fun _ _ _ _ _ => .ok _ _)
      exact (readers.readNot _ endsNext).imp fun _ => .not now
  · exact (readers.readPrimary tokens ends).imp fun _ => .primary

theorem refuses_readPrimary :
    Refuses Phrase.primary.Awaits tokens (readPrimary (fuel + 1) tokens) := by
  unfold readPrimary
  dsimp only
  split
  · next isGroup =>
      have endsNext := ends.advance isGroup (by decide)
      refine .take isGroup (by decide) (.bind endsNext ?_ ((readersDerive fuel).readOr _)
        (fun _ _ => goesOn_of_derives) ?_)
      · exact (readers.readOr _ endsNext).imp fun _ => .group isGroup
      · intro inner used rest derivation endsRest
        exact .expect endsRest .rightParen (by decide) fun _ _ _ _ => .ok _ _
  · next isNear =>
      have endsNext := ends.advance isNear (by decide)
      refine .take isNear (by decide)
        (.expect endsNext .leftParen (by decide) fun opening rest isOpening ends => ?_)
      refine .bind ends ?_ ((readersDerive fuel).readOr _) (fun _ _ => goesOn_of_derives) ?_
      · exact (readers.readOr _ ends).imp fun _ => .first isNear isOpening
      intro left used rest derivation ends
      refine .expect ends .comma (by decide) fun comma rest isComma ends => ?_
      refine .bind ends ?_ ((readersDerive fuel).readOr _) (fun _ _ => goesOn_of_derives) ?_
      · exact (readers.readOr _ ends).imp fun _ => .second isNear isOpening derivation isComma
      -- Behind the second operand no term is awaited any more.
      intro right more rest _ ends
      refine .expect ends .comma (by decide) fun _ rest _ ends => ?_
      refine .distance ends fun _ rest ends => ?_
      exact .expect ends .rightParen (by decide) fun _ _ _ _ => .ok _ _
  · next isQuoted =>
      split
      · exact .giveUp ends rfl
      · exact .ok _ _
  · next isWord => exact refuses_term (Or.inl isWord) .nil
  · next isPattern => exact refuses_term (Or.inr isPattern) .nil
  · exact .giveUp ends rfl
  · exact .giveUp ends rfl

end

theorem readersRefuse (fuel : Nat) : ReadersRefuse fuel := by
  induction fuel with
  | zero =>
      exact ⟨fun _ ends => .giveUp ends rfl, fun _ _ _ ends _ => .giveUp ends rfl,
        fun _ ends => .giveUp ends rfl, fun _ _ _ ends _ => .giveUp ends rfl,
        fun _ ends => .giveUp ends rfl, fun _ ends => .giveUp ends rfl⟩
  | succ fuel readers =>
      exact ⟨fun _ => refuses_readOr readers,
        fun _ _ _ ends derivation => refuses_readOrRest readers ends derivation,
        fun _ => refuses_readAnd readers,
        fun _ _ _ ends derivation => refuses_readAndRest readers ends derivation,
        fun _ => refuses_readNot readers, fun _ => refuses_readPrimary readers⟩

/-- A query that is not read is empty, or is refused at one of its tokens, or at a term that stands
for nothing where one is awaited. -/
theorem refused_of_readTokens {tokens : List Token} (ends : Ends tokens) {failure : Failure}
    (read : readTokens tokens = .error failure) :
    ((current tokens).kind = .endOfQuery ∧ failure = QueryFault.emptyQuery.failure) ∨
      Refused Phrase.disjunction.Awaits tokens failure := by
  unfold readTokens at read
  split at read
  · next empty =>
      cases read
      exact Or.inl ⟨beq_iff_eq.mp empty, rfl⟩
  · refine Or.inr ?_
    cases outcome : readOr (8 * tokens.length + 8) tokens with
    | error other =>
        rw [outcome] at read
        cases read
        exact (readersRefuse _).readOr tokens ends _ outcome
    | ok result =>
        obtain ⟨found, rest⟩ := result
        have reads := (readersDerive (8 * tokens.length + 8)).readOr tokens
        rw [outcome] at read reads
        obtain ⟨used, rfl, derivation⟩ := reads
        have endsRest := ends.of_append (goesOn_of_derives derivation)
        change (if (current rest).kind == .endOfQuery then Except.ok found else _) =
          Except.error failure at read
        split at read
        · cases read
        · cases read
          exact .atToken rfl (List.mem_append_right used endsRest.current_mem) rfl

end BooleanSearch.Query
