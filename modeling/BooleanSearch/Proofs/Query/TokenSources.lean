import BooleanSearch.Proofs.Query.TokenPlaces

/-!
# What tokens are read from

A token is read from the characters between its offset and the offset at which the scanner goes on.
These characters are the text of the token, but for a quoted text, which stands between its quotes and
is written with backslashes.  Between two tokens, before the first and behind the last there are only
blanks, so nothing else of a query is lost.
-/

namespace BooleanSearch.Query

/-- What is meant by the characters between quotes: of a backslash and the character after it, that
character. -/
def unescaped : List Char → List Char
  | [] => []
  | '\\' :: escaped :: rest => escaped :: unescaped rest
  | char :: rest => char :: unescaped rest

theorem unescaped_cons_of_ne {char : Char} (ordinary : char ≠ '\\') (rest : List Char) :
    unescaped (char :: rest) = char :: unescaped rest :=
  unescaped.eq_3 char rest fun _ _ backslash => absurd backslash ordinary

/-- A token is read from its own text, or from what is meant to be its text between two equal
quotes. -/
inductive ReadFrom (token : Token) : List Char → Prop
  | written : token.kind ≠ .quoted → ReadFrom token token.text.toList
  | quoted {quote : Char} {inside : List Char} : token.kind = .quoted →
      quote = '"' ∨ quote = '\'' → token.text.toList = unescaped inside →
      ReadFrom token (quote :: (inside ++ [quote]))

/-! ## What the first token is read from -/

theorem exists_inside_of_readQuoted? {quote : Char} {chars content after : List Char}
    (read : readQuoted? quote chars = some (content, after)) :
    ∃ inside, chars = inside ++ quote :: after ∧ content = unescaped inside := by
  fun_induction readQuoted? quote chars generalizing content after with
  | case1 => cases read
  | case2 escaped rest inductionHypothesis =>
      simp only [Option.map_eq_some_iff, Prod.exists, Prod.mk.injEq] at read
      obtain ⟨inner, innerAfter, found, rfl, rfl⟩ := read
      obtain ⟨inside, rfl, rfl⟩ := inductionHypothesis found
      exact ⟨'\\' :: escaped :: inside, rfl, rfl⟩
  | case3 char rest _ closes =>
      cases read
      exact ⟨[], by rw [beq_iff_eq.mp closes]; rfl, rfl⟩
  | case4 char rest noPair _ inductionHypothesis =>
      simp only [Option.map_eq_some_iff, Prod.exists, Prod.mk.injEq] at read
      obtain ⟨inner, innerAfter, found, rfl, rfl⟩ := read
      obtain ⟨inside, rfl, rfl⟩ := inductionHypothesis found
      -- A backslash here would make a pair with the character after it.
      have ordinary : char ≠ '\\' := by
        rintro rfl
        cases inside with
        | nil => exact noPair _ _ rfl rfl
        | cons first others => exact noPair _ _ rfl rfl
      exact ⟨char :: inside, rfl, (unescaped_cons_of_ne ordinary inside).symm⟩

theorem exists_source_of_written {token : Token} {chars source after : List Char}
    (unquoted : token.kind ≠ .quoted) (text : token.text.toList = source)
    (whole : chars = source ++ after) :
    ∃ source, chars = source ++ after ∧ ReadFrom token source := by
  subst text
  exact ⟨_, whole, .written unquoted⟩

theorem exists_source_of_word (position : Nat) (chars : List Char) :
    ∃ source, chars = source ++ chars.dropWhile continuesWord ∧
      ReadFrom ⟨wordKind (String.ofList (chars.takeWhile continuesWord))
          (chars.dropWhile continuesWord),
        String.ofList (chars.takeWhile continuesWord), position⟩ source :=
  exists_source_of_written (wordKind_ne_quoted _ _) String.toList_ofList
    List.takeWhile_append_dropWhile.symm

/-- The first token of some characters is read from those before the rest. -/
theorem exists_source_of_firstToken {position : Nat} {chars after : List Char} {token : Token}
    (read : firstToken position chars = .ok (token, after)) :
    ∃ source, chars = source ++ after ∧ ReadFrom token source := by
  unfold firstToken at read
  dsimp only at read
  split at read
  · cases read
    exact exists_source_of_written nofun (show "(".toList = ['('] from rfl) rfl
  · cases read
    exact exists_source_of_written nofun (show ")".toList = [')'] from rfl) rfl
  · cases read
    exact exists_source_of_written nofun (show ",".toList = [','] from rfl) rfl
  · cases read
    exact exists_source_of_written nofun (show "&&".toList = ['&', '&'] from rfl) rfl
  · cases read
    exact exists_source_of_written nofun (show "||".toList = ['|', '|'] from rfl) rfl
  · cases read
    exact exists_source_of_written nofun (show "!".toList = ['!'] from rfl) rfl
  · split at read
    · cases read
    · next body afterBody bodyRead =>
        cases read
        refine exists_source_of_written nofun String.toList_ofList ?_
        rw [eq_append_of_readPatternBody? bodyRead, List.cons_append, List.append_assoc,
          List.takeWhile_append_dropWhile]
  · split at read
    · next quote =>
        rw [Bool.or_eq_true, beq_iff_eq, beq_iff_eq] at quote
        split at read
        · cases read
        · next content afterText textRead =>
            cases read
            obtain ⟨inside, rfl, rfl⟩ := exists_inside_of_readQuoted? textRead
            refine ⟨_, ?_, .quoted rfl quote String.toList_ofList⟩
            rw [List.cons_append, List.append_assoc, List.singleton_append]
    · cases read
      exact exists_source_of_word position _
  · cases read
    exact exists_source_of_word position _

/-! ## The sources of all tokens -/

/-- The offset at which the scanner of a query goes on behind a token. -/
def Token.stop (token : Token) (query : String) : Nat :=
  match firstToken token.position (query.toList.drop token.position) with
  | .ok (_, after) => query.length - after.length
  | .error _ => query.length

/-- The characters of a query from the offset of a token to where the scanner goes on. -/
def Token.source (token : Token) (query : String) : List Char :=
  (query.toList.drop token.position).take (token.stop query - token.position)

/-- The tokens of a query from an offset on account for all that stands there.  They stand in order and
apart from each other, cover every character that is not a blank, and each is read from its own
characters.  Behind a token the scanner goes on with the tokens after it, and the last token, and no
other, is the end of the query. -/
structure AccountsFor (query : String) (start : Nat) (tokens : List Token) : Prop where
  within : ∀ token ∈ tokens, start ≤ token.position ∧ token.position ≤ token.stop query ∧
    token.stop query ≤ query.length
  ascending : tokens.Pairwise fun first second => first.position < second.position
  apart : tokens.Pairwise fun first second => first.stop query ≤ second.position
  covers : ∀ offset char, start ≤ offset → query.toList[offset]? = some char →
    Text.isBlank char = false →
    ∃ token ∈ tokens, token.position ≤ offset ∧ offset < token.stop query
  read : ∀ token ∈ tokens, ReadFrom token (token.source query)
  goesOn : ∀ token later, token :: later <:+ tokens → later ≠ [] →
    scan (token.stop query) (query.toList.drop (token.stop query)) = .ok later
  ends : ∃ others, tokens = others ++ [⟨.endOfQuery, "", query.length⟩] ∧
    ∀ token ∈ others, token.kind ≠ .endOfQuery

section

variable {query : String} {before chars rest after : List Char} {token : Token}

/-- What the first token of the characters behind an offset is read from, and where the scanner goes
on. -/
theorem stop_of_firstToken (whole : query.toList = before ++ chars)
    (read : firstToken before.length chars = .ok (token, after)) :
    ∃ source, chars = source ++ after ∧ ReadFrom token source ∧
      token.position = before.length ∧ token.stop query = before.length + source.length ∧
      token.source query = source := by
  have here := position_of_firstToken read
  have dropped : query.toList.drop token.position = chars := by
    rw [here, whole, List.drop_left]
  obtain ⟨source, parts, readFrom⟩ := exists_source_of_firstToken read
  have length : query.length = before.length + (source.length + after.length) := by
    rw [← String.length_toList, whole, parts, List.length_append, List.length_append]
  have stop : token.stop query = before.length + source.length := by
    unfold Token.stop
    rw [dropped, here, read]
    dsimp only
    omega
  refine ⟨source, parts, readFrom, here, stop, ?_⟩
  unfold Token.source
  rw [dropped, stop, here, Nat.add_sub_cancel_left, parts, List.take_left]

/-- At the end of a query there is nothing but its end to account for. -/
theorem accountsFor_end (query : String) :
    AccountsFor query query.length [⟨.endOfQuery, "", query.length⟩] := by
  have nothing : query.toList.drop query.length = [] := by
    rw [← String.length_toList, List.drop_length]
  have stop : Token.stop ⟨.endOfQuery, "", query.length⟩ query = query.length := by
    unfold Token.stop
    rw [nothing]
    rfl
  have source : Token.source ⟨.endOfQuery, "", query.length⟩ query = [] := by
    unfold Token.source
    rw [nothing, List.take_nil]
  refine ⟨?_, List.pairwise_singleton _ _, List.pairwise_singleton _ _, ?_, ?_, ?_,
    [], rfl, nofun⟩
  · rw [List.forall_mem_singleton, stop]
    exact ⟨Nat.le_refl _, Nat.le_refl _, Nat.le_refl _⟩
  · intro offset char behind found
    have inside := (List.getElem?_eq_some_iff.mp found).1
    rw [String.length_toList] at inside
    omega
  · rw [List.forall_mem_singleton, source]
    exact .written nofun
  · intro token later ending some_
    rcases List.suffix_cons_iff.mp ending with same | shorter
    · exact absurd (List.cons.inj same).2 some_
    · exact absurd (List.suffix_nil.mp shorter) (List.cons_ne_nil _ _)

/-- A blank in front need not be accounted for. -/
theorem AccountsFor.blank {tokens : List Token} {char : Char} (blank : Text.isBlank char = true)
    (whole : query.toList = before ++ char :: rest)
    (accounts : AccountsFor query (before.length + 1) tokens) :
    AccountsFor query before.length tokens := by
  refine { accounts with
    within := fun token member => ?_
    covers := fun offset found behind here present => ?_ }
  · obtain ⟨start, ending⟩ := accounts.within token member
    exact ⟨Nat.le_of_succ_le start, ending⟩
  · rcases Nat.eq_or_lt_of_le behind with same | later
    · rw [whole, ← same, List.getElem?_append_right (Nat.le_refl _), Nat.sub_self] at here
      cases here
      rw [blank] at present
      cases present
    · exact accounts.covers offset found later here present

/-- A token in front accounts for the characters that it is read from. -/
theorem AccountsFor.cons {others : List Token} (whole : query.toList = before ++ chars)
    (some_ : after.length < chars.length) (goesOn : token.kind ≠ .endOfQuery)
    (read : firstToken before.length chars = .ok (token, after))
    (scanned : scan (before.length + (chars.length - after.length)) after = .ok others)
    (accounts : AccountsFor query (before.length + (chars.length - after.length)) others) :
    AccountsFor query before.length (token :: others) := by
  obtain ⟨source, rfl, readFrom, here, stop, same⟩ := stop_of_firstToken whole read
  rw [List.length_append, Nat.add_sub_cancel_right, ← stop] at scanned accounts
  rw [List.length_append] at some_
  have length : query.length = token.stop query + after.length := by
    rw [stop, ← String.length_toList, whole, List.length_append, List.length_append]
    omega
  refine ⟨?_, ?_, ?_, ?_, ?_, ?_, ?_⟩
  · rw [List.forall_mem_cons]
    refine ⟨⟨by omega, by omega, by omega⟩, fun other member => ?_⟩
    obtain ⟨start, ending⟩ := accounts.within other member
    exact ⟨by omega, ending⟩
  · refine List.pairwise_cons.mpr ⟨fun other member => ?_, accounts.ascending⟩
    have start := (accounts.within other member).1
    omega
  · exact List.pairwise_cons.mpr
      ⟨fun other member => (accounts.within other member).1, accounts.apart⟩
  · intro offset char behind found present
    by_cases inSource : offset < token.stop query
    · exact ⟨token, List.mem_cons_self, by omega, inSource⟩
    · obtain ⟨other, member, place⟩ := accounts.covers offset char (by omega) found present
      exact ⟨other, List.mem_cons_of_mem _ member, place⟩
  · rw [List.forall_mem_cons, same]
    exact ⟨readFrom, accounts.read⟩
  · intro other later ending some_
    rcases List.suffix_cons_iff.mp ending with first | further
    · obtain ⟨rfl, rfl⟩ := List.cons.inj first
      rw [stop, whole, ← List.length_append, ← List.append_assoc, List.drop_left,
        List.length_append, ← stop]
      exact scanned
    · exact accounts.goesOn other later further some_
  · obtain ⟨inner, rfl, goOn⟩ := accounts.ends
    exact ⟨token :: inner, rfl, List.forall_mem_cons.mpr ⟨goesOn, goOn⟩⟩

/-- What the scanner finds from an offset on accounts for the characters there. -/
theorem accountsFor_of_scan {tokens : List Token} {position : Nat}
    (whole : query.toList = before ++ chars) (here : position = before.length)
    (scanned : scan position chars = .ok tokens) : AccountsFor query position tokens := by
  induction position, chars using scan_induction generalizing before tokens with
  | nil position =>
      have atEnd : position = query.length := by
        rw [here, ← String.length_toList, whole, List.append_nil]
      subst atEnd
      cases scanned
      exact accountsFor_end query
  | blank position char rest blank inductionHypothesis =>
      subst here
      rw [scan_cons_of_blank blank] at scanned
      have next : query.toList = (before ++ [char]) ++ rest := by
        rw [whole, List.append_assoc, List.singleton_append]
      have further : before.length + 1 = (before ++ [char]).length := by
        rw [List.length_append, List.length_singleton]
      exact .blank blank whole (inductionHypothesis next further scanned)
  | fault position char rest fault present refused =>
      rw [scan_cons_of_fault present refused] at scanned
      cases scanned
  | token position char rest first after present read ending inductionHypothesis =>
      subst here
      obtain ⟨others, rfl, later⟩ := exists_of_scan_cons present read scanned
      have taken := tokenTaken_of_firstToken present read
      obtain ⟨source, parts, -⟩ := exists_source_of_firstToken read
      have next : query.toList = (before ++ source) ++ after := by
        rw [whole, parts, List.append_assoc]
      have further : before.length + ((char :: rest).length - after.length) =
          (before ++ source).length := by
        rw [parts, List.length_append, List.length_append, Nat.add_sub_cancel_right]
      exact .cons whole (Nat.lt_succ_of_le taken.shorter) taken.scanned.goesOn read later
        (inductionHypothesis next further later)

end

/-- The tokens of a query account for all of it. -/
theorem tokenize_accountsFor {query : String} {tokens : List Token}
    (tokenized : tokenize query = .ok tokens) : AccountsFor query 0 tokens := by
  rw [tokenize_eq_scan] at tokenized
  exact accountsFor_of_scan (List.nil_append _).symm rfl tokenized

/-- A query with an escaped quote, an escaped slash, and an ampersand that stands alone. -/
def escapedSigns : String := "near(\"a\\\" b\", /c\\/d/i, 3) || x&y "

def escapedTokens : List Token :=
  [⟨.near, "near", 0⟩, ⟨.leftParen, "(", 4⟩, ⟨.quoted, "a\" b", 5⟩, ⟨.comma, ",", 12⟩,
    ⟨.pattern, "/c\\/d/i", 14⟩, ⟨.comma, ",", 21⟩, ⟨.word, "3", 23⟩, ⟨.rightParen, ")", 24⟩,
    ⟨.or, "||", 26⟩, ⟨.word, "x&y", 29⟩, ⟨.endOfQuery, "", 33⟩]

/-- The tokens account for all of the query, and the quoted one for more than its text. -/
theorem tokenize_accountsFor_escapedSigns :
    tokenize escapedSigns = .ok escapedTokens ∧ AccountsFor escapedSigns 0 escapedTokens ∧
      Token.source ⟨.quoted, "a\" b", 5⟩ escapedSigns = "\"a\\\" b\"".toList := by
  have tokenized : tokenize escapedSigns = .ok escapedTokens := by decide +kernel
  exact ⟨tokenized, tokenize_accountsFor tokenized, by decide +kernel⟩

end BooleanSearch.Query
