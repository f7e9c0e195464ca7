import BooleanSearch.Proofs.Query.Derivations
import BooleanSearch.Proofs.Query.TermTexts

/-!
# Accepted queries

If the patterns of a query compile, every failure of reading it is a fault of the query.  So a query
is read as an expression exactly if its tokens derive it, and refused with such a fault if they
derive none.
-/

namespace BooleanSearch.Query

/-- The pattern that a token writes, if it writes one, compiles. -/
def Token.Compiles (token : Token) : Prop :=
  ∀ source letters, Literal.patternParts? token.text = some (source, letters) →
    ∃ compiled, Pattern.compile source letters = .ok compiled

/-- A word never writes a pattern, so it stands for a term whatever it is. -/
theorem Token.Scanned.exists_term {token : Token} (scanned : token.Scanned)
    (compiles : token.kind = .pattern → token.Compiles)
    (named : token.kind = .word ∨ token.kind = .pattern) :
    ∃ term, Literal.ofText token.text = .ok term := by
  rcases named with word | pattern
  · obtain ⟨first, others, begins, noSlash⟩ := scanned.word word
    have noParts : Literal.patternParts? token.text = none := by
      refine Literal.patternParts?_of_no_slash fun rest same => noSlash ?_
      rw [begins] at same
      exact (List.cons.inj same).1
    refine Literal.exists_ofText fun source letters parts => ?_
    rw [noParts] at parts
    cases parts
  · exact Literal.exists_ofText (compiles pattern)

/-- A query whose patterns compile is read as an expression exactly if its tokens, without the one
that marks the end, derive the expression; if they derive none, it is refused as malformed. -/
theorem parse_eq_ok_iff_derives {query : String} {tokens : List Token}
    (scanned : tokenize query = .ok tokens)
    (compile : ∀ token ∈ tokens, token.kind = .pattern → token.Compiles) :
    (∀ tree, parse query = .ok tree ↔ Derives .disjunction tokens.dropLast tree) ∧
      ((¬ ∃ tree, Derives .disjunction tokens.dropLast tree) →
        ∃ fault : QueryFault, parse query = .error fault.failure) := by
  obtain ⟨used, last, ended, known⟩ := ended_of_scanFrom scanned
  have parsed : parse query = readTokens tokens := by
    unfold parse
    rw [scanned]
  have without : tokens.dropLast = used := by
    rw [ended.whole, List.dropLast_concat]
  have accepted : ∀ tree, parse query = .ok tree ↔ Derives .disjunction tokens.dropLast tree := by
    intro tree
    rw [parsed, without]
    exact readTokens_eq_ok_iff ended
  refine ⟨accepted, fun underivable => ?_⟩
  cases outcome : parse query with
  | ok tree => exact absurd ⟨tree, (accepted tree).mp outcome⟩ underivable
  | error failure =>
      rw [parsed] at outcome
      rcases failsWith_of_readTokens outcome with ⟨fault, rfl⟩ | ⟨token, member, named, refused⟩
      · exact ⟨fault, rfl⟩
      · -- No term is refused: the token is one before the end, for it stands for a term.
        have isUsed : token ∈ used := by
          rw [ended.whole] at member
          rcases List.mem_append.mp member with inUsed | atEnd
          · exact inUsed
          · rw [List.mem_singleton.mp atEnd, ended.last] at named
            rcases named with word | pattern <;> contradiction
        obtain ⟨term, read⟩ := (known token isUsed).exists_term (compile token member) named
        rw [read] at refused
        cases refused

/-- Two neighbours, or a proximity that does not hold. -/
def sampleQuery : String := "a /b/i OR !NEAR(\"c d\", e, 2)"

def sampleTokens : List Token :=
  [⟨.word, "a", 0⟩, ⟨.pattern, "/b/i", 2⟩, ⟨.or, "OR", 7⟩, ⟨.not, "!", 10⟩, ⟨.near, "NEAR", 11⟩,
    ⟨.leftParen, "(", 15⟩, ⟨.quoted, "c d", 16⟩, ⟨.comma, ",", 21⟩, ⟨.word, "e", 23⟩,
    ⟨.comma, ",", 24⟩, ⟨.word, "2", 26⟩, ⟨.rightParen, ")", 27⟩, ⟨.endOfQuery, "", 28⟩]

def sampleExpr : Expr :=
  .or (.and (.literal (.plain "a")) (.literal (.pattern "b" "i")))
    (.not (.near (.literal (.plain "c d")) (.literal (.plain "e")) (.int 2)))

/-- The tokens of the sample derive its expression, so it is read as that. -/
theorem parse_sampleQuery :
    tokenize sampleQuery = .ok sampleTokens ∧
      (∀ token ∈ sampleTokens, token.kind = .pattern → token.Compiles) ∧
      parse sampleQuery = .ok sampleExpr := by
  have scanned : tokenize sampleQuery = .ok sampleTokens := by decide +kernel
  have compile : ∀ token ∈ sampleTokens, token.kind = .pattern → token.Compiles := by
    have onlyOne : ∀ token ∈ sampleTokens, token.kind = .pattern → token.text = "/b/i" := by
      decide +kernel
    intro token member pattern source letters parts
    rw [onlyOne token member pattern] at parts
    have known : Literal.patternParts? "/b/i" = some ("b", "i") := by decide +kernel
    rw [known] at parts
    cases parts
    exact Literal.exists_compiled (by decide +kernel)
  have word : ∀ {text : String} {position : Nat}, Literal.ofText text = .ok (.plain text) →
      Derives .negation [⟨.word, text, position⟩] (.literal (.plain text)) :=
    fun read => .primary (.term (Or.inl rfl) read)
  have neighbours : Derives .conjunction ([⟨.word, "a", 0⟩] ++ [⟨.pattern, "/b/i", 2⟩])
      (.and (.literal (.plain "a")) (.literal (.pattern "b" "i"))) :=
    .adjacent (.negation (word rfl)) (.primary (.term (Or.inr rfl) (by rfl)))
  have proximity : Derives .primary
      (⟨.near, "NEAR", 11⟩ :: ⟨.leftParen, "(", 15⟩ :: ([⟨.quoted, "c d", 16⟩] ++
        ⟨.comma, ",", 21⟩ :: ([⟨.word, "e", 23⟩] ++
          ⟨.comma, ",", 24⟩ :: [⟨.word, "2", 26⟩, ⟨.rightParen, ")", 27⟩])))
      (.near (.literal (.plain "c d")) (.literal (.plain "e")) (distanceOf "2")) :=
    .near rfl rfl (.conjunction (.negation (.primary (.quoted rfl rfl)))) rfl
      (.conjunction (.negation (word rfl))) rfl (Or.inl rfl) rfl
  have derivation : Derives .disjunction sampleTokens.dropLast sampleExpr :=
    .or (.conjunction neighbours) rfl (.negation (.not rfl (.primary proximity)))
  exact ⟨scanned, compile, ((parse_eq_ok_iff_derives scanned compile).1 _).mpr derivation⟩

end BooleanSearch.Query
