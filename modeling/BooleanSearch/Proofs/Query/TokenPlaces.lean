import BooleanSearch.Proofs.Query.Scanning

/-!
# Where tokens stand

The scanner takes a query from the left, so every token has the offset of the character that it begins
with, the last one that of the end, and a query that cannot be cut into tokens is refused at the first
character of a literal that is not closed.
-/

namespace BooleanSearch.Query

/-- A quoted text or a pattern that nothing closes. -/
inductive Unclosed : List Char → Prop
  | text {quote : Char} {rest : List Char} :
      quote = '"' ∨ quote = '\'' → readQuoted? quote rest = none → Unclosed (quote :: rest)
  | pattern {rest : List Char} : readPatternBody? rest = none → Unclosed ('/' :: rest)

/-- The scanner of a query comes to some characters: those before them are cut into tokens on their
own. -/
structure ScansTo (query : String) (before after : List Char) : Prop where
  whole : query.toList = before ++ after
  cut : ∃ tokens, tokenize query = (scan before.length after).map (tokens ++ ·)

/-- Offsets of a query at which a token or a literal that is not closed begins, or the query ends. -/
inductive Marks (query : String) : Nat → Prop
  | token {before rest after : List Char} {char : Char} {token : Token} :
      ScansTo query before (char :: rest) → Text.isBlank char = false →
      firstToken before.length (char :: rest) = .ok (token, after) → Marks query before.length
  | literal {before after : List Char} :
      ScansTo query before after → Unclosed after → Marks query before.length
  | ending : Marks query query.length

theorem Marks.le_length {query : String} {offset : Nat} (marks : Marks query offset) :
    offset ≤ query.length := by
  cases marks with
  | token scansTo _ _ =>
      rw [← String.length_toList, scansTo.whole, List.length_append]
      exact Nat.le_add_right _ _
  | literal scansTo _ =>
      rw [← String.length_toList, scansTo.whole, List.length_append]
      exact Nat.le_add_right _ _
  | ending => exact Nat.le_refl _

/-! ## Offsets of first tokens -/

theorem position_of_firstToken {position : Nat} {chars after : List Char} {token : Token}
    (read : firstToken position chars = .ok (token, after)) : token.position = position := by
  unfold firstToken at read
  dsimp only at read
  repeat' split at read
  all_goals cases read
  all_goals rfl

/-- Only a literal that is not closed is refused, where it begins. -/
theorem unclosed_of_firstToken {position : Nat} {chars : List Char} {fault : QueryFault}
    (refused : firstToken position chars = .error fault) :
    Unclosed chars ∧ fault.position = position := by
  unfold firstToken at refused
  dsimp only at refused
  split at refused
  · cases refused
  · cases refused
  · cases refused
  · cases refused
  · cases refused
  · cases refused
  · split at refused
    · next unclosed =>
        cases refused
        exact ⟨.pattern unclosed, rfl⟩
    · cases refused
  · split at refused
    · next quote =>
        rw [Bool.or_eq_true, beq_iff_eq, beq_iff_eq] at quote
        split at refused
        · next unclosed =>
            cases refused
            exact ⟨.text quote unclosed, rfl⟩
        · cases refused
    · cases refused
  · cases refused

/-! ## Offsets of all tokens -/

section

variable {query : String} {before after rest : List Char}

theorem ScansTo.skip {char : Char} (scansTo : ScansTo query before (char :: rest))
    (blank : Text.isBlank char = true) : ScansTo query (before ++ [char]) rest := by
  obtain ⟨tokens, cut⟩ := scansTo.cut
  refine ⟨by rw [scansTo.whole, List.append_assoc]; rfl, tokens, ?_⟩
  rw [cut, scan_cons_of_blank blank, List.length_append, List.length_singleton]

/-- Behind a token, the scanner comes to the characters after it. -/
theorem ScansTo.behind {char : Char} {token : Token} (scansTo : ScansTo query before (char :: rest))
    (present : Text.isBlank char = false)
    (read : firstToken before.length (char :: rest) = .ok (token, after)) :
    ∃ taken, ScansTo query (before ++ taken) after ∧
      (before ++ taken).length = before.length + ((char :: rest).length - after.length) := by
  obtain ⟨tokens, cut⟩ := scansTo.cut
  obtain ⟨taken, whole⟩ := (tokenTaken_of_firstToken present read).ending
  have length : (before ++ char :: taken).length =
      before.length + ((char :: rest).length - after.length) := by
    rw [← whole, List.length_append, List.length_cons, List.length_cons, List.length_append]
    omega
  refine ⟨char :: taken, ⟨?_, tokens ++ [token], ?_⟩, length⟩
  · rw [scansTo.whole, ← whole, List.append_assoc]
    rfl
  · rw [cut, scan_cons_of_firstToken present read, length]
    cases scan (before.length + ((char :: rest).length - after.length)) after with
    | error fault => rfl
    | ok others =>
        change Except.ok (tokens ++ token :: others) = Except.ok (tokens ++ [token] ++ others)
        rw [List.append_assoc, List.singleton_append]

/-- What the scanner finds from an offset on begins at a mark of the query. -/
theorem marks_of_scansTo {position : Nat} (scansTo : ScansTo query before after)
    (here : position = before.length) :
    (∀ tokens, scan position after = .ok tokens → ∀ token ∈ tokens, Marks query token.position) ∧
      ∀ fault, scan position after = .error fault → Marks query fault.position := by
  induction position, after using scan_induction generalizing before with
  | nil position =>
      refine ⟨fun tokens scanned token member => ?_, nofun⟩
      cases scanned
      have atEnd : position = query.length := by
        rw [here, ← String.length_toList, scansTo.whole, List.append_nil]
      rw [List.mem_singleton.mp member]
      change Marks query position
      exact atEnd ▸ .ending
  | blank position char rest blank inductionHypothesis =>
      rw [scan_cons_of_blank blank]
      refine inductionHypothesis (scansTo.skip blank) ?_
      rw [here, List.length_append, List.length_singleton]
  | fault position char rest fault present refused =>
      rw [scan_cons_of_fault present refused]
      refine ⟨nofun, fun other same => ?_⟩
      cases same
      obtain ⟨unclosed, same⟩ := unclosed_of_firstToken refused
      rw [same, here]
      exact .literal scansTo unclosed
  | token position char rest first after present read ending inductionHypothesis =>
      subst here
      obtain ⟨taken, later, length⟩ := scansTo.behind present read
      obtain ⟨marked, faulty⟩ := inductionHypothesis later length.symm
      constructor
      · intro tokens scanned
        obtain ⟨others, rfl, scannedRest⟩ := exists_of_scan_cons present read scanned
        rw [List.forall_mem_cons, position_of_firstToken read]
        exact ⟨.token scansTo present read, marked others scannedRest⟩
      · intro fault refused
        rw [scan_cons_of_firstToken present read] at refused
        cases later : scan (before.length + ((char :: rest).length - after.length)) after with
        | ok others =>
            rw [later] at refused
            cases refused
        | error other =>
            rw [later] at refused
            cases refused
            exact faulty _ later

end

/-- The tokens of a query stand at its marks, and so does the fault of one that has none. -/
theorem marks_of_tokenize (query : String) :
    (∀ tokens, tokenize query = .ok tokens → ∀ token ∈ tokens, Marks query token.position) ∧
      ∀ fault, tokenize query = .error fault → Marks query fault.position := by
  have scansTo : ScansTo query [] query.toList := by
    refine ⟨rfl, [], ?_⟩
    rw [tokenize_eq_scan]
    cases scan 0 query.toList <;> rfl
  exact marks_of_scansTo scansTo rfl

end BooleanSearch.Query
