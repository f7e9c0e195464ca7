import BooleanSearch.Query.Token
import Mathlib.Data.List.Basic

/-!
# Scanning queries

Every token takes at least one character, so the fuel of the scanner is never used up, and the
tokens of a text are its first token followed by those of the rest.  The last token, and no other,
marks the end of the query.
-/

namespace BooleanSearch.Query

/-! ## What one token takes -/

theorem suffix_of_readQuoted? {quote : Char} {chars content after : List Char}
    (read : readQuoted? quote chars = some (content, after)) : after <:+ chars := by
  fun_induction readQuoted? quote chars generalizing content after with
  | case1 => cases read
  | case2 escaped rest inductionHypothesis =>
      simp only [Option.map_eq_some_iff, Prod.exists, Prod.mk.injEq] at read
      obtain ⟨inner, innerAfter, found, -, rfl⟩ := read
      exact (inductionHypothesis found).trans (List.suffix_append ['\\', escaped] rest)
  | case3 char rest _ closes =>
      cases read
      exact List.suffix_cons char _
  | case4 char rest _ ordinary inductionHypothesis =>
      simp only [Option.map_eq_some_iff, Prod.exists, Prod.mk.injEq] at read
      obtain ⟨inner, innerAfter, found, -, rfl⟩ := read
      exact (inductionHypothesis found).trans (List.suffix_cons char rest)

theorem eq_append_of_readPatternBody? {chars body after : List Char}
    (read : readPatternBody? chars = some (body, after)) : chars = body ++ after := by
  fun_induction readPatternBody? chars generalizing body after with
  | case1 => cases read
  | case2 => cases read
  | case3 escaped rest inductionHypothesis =>
      simp only [Option.map_eq_some_iff, Prod.exists, Prod.mk.injEq] at read
      obtain ⟨inner, innerAfter, found, rfl, rfl⟩ := read
      rw [inductionHypothesis found]
      rfl
  | case4 char rest _ _ slash =>
      cases read
      rw [beq_iff_eq.mp slash]
      rfl
  | case5 char rest _ _ ordinary inductionHypothesis =>
      simp only [Option.map_eq_some_iff, Prod.exists, Prod.mk.injEq] at read
      obtain ⟨inner, innerAfter, found, rfl, rfl⟩ := read
      rw [inductionHypothesis found]
      rfl

theorem wordKind_ne_endOfQuery (word : String) (after : List Char) :
    wordKind word after ≠ .endOfQuery := by
  unfold wordKind
  repeat' split
  all_goals decide

theorem wordKind_ne_pattern (word : String) (after : List Char) :
    wordKind word after ≠ .pattern := by
  unfold wordKind
  repeat' split
  all_goals decide

theorem wordKind_ne_quoted (word : String) (after : List Char) : wordKind word after ≠ .quoted := by
  unfold wordKind
  repeat' split
  all_goals decide

/-- What is known of a token that goes before the end of a query. -/
structure Token.Scanned (token : Token) : Prop where
  goesOn : token.kind ≠ .endOfQuery
  word : token.kind = .word → ∃ first others, token.text.toList = first :: others ∧ first ≠ '/'
  pattern : token.kind = .pattern → ∃ others, token.text.toList = '/' :: others

/-- The first token of a character and those after it takes at least that character, and leaves the
end of the others. -/
structure TokenTaken (rest : List Char) (token : Token) (after : List Char) : Prop where
  scanned : token.Scanned
  ending : after <:+ rest

theorem TokenTaken.shorter {rest after : List Char} {token : Token}
    (taken : TokenTaken rest token after) : after.length ≤ rest.length :=
  taken.ending.length_le

theorem tokenTaken_of_sign {rest after : List Char} {token : Token}
    (goesOn : token.kind ≠ .endOfQuery) (noWord : token.kind ≠ .word)
    (noPattern : token.kind ≠ .pattern) (ending : after <:+ rest) : TokenTaken rest token after :=
  ⟨⟨goesOn, fun word => absurd word noWord, fun pattern => absurd pattern noPattern⟩, ending⟩

theorem tokenTaken_of_word {position : Nat} {char : Char} {rest after : List Char}
    (goesOn : continuesWord char = true) (noPattern : char ≠ '/') :
    TokenTaken rest
      ⟨wordKind (String.ofList ((char :: rest).takeWhile continuesWord)) after,
        String.ofList ((char :: rest).takeWhile continuesWord), position⟩
      ((char :: rest).dropWhile continuesWord) := by
  refine ⟨⟨wordKind_ne_endOfQuery _ _, fun _ => ⟨char, rest.takeWhile continuesWord, ?_,
    noPattern⟩, fun pattern => absurd pattern (wordKind_ne_pattern _ _)⟩, ?_⟩
  · rw [String.toList_ofList, List.takeWhile_cons_of_pos goesOn]
  · rw [List.dropWhile_cons_of_pos goesOn]
    exact List.dropWhile_suffix continuesWord

theorem tokenTaken_of_firstToken {position : Nat} {char : Char} {rest after : List Char}
    {token : Token} (present : Text.isBlank char = false)
    (read : firstToken position (char :: rest) = .ok (token, after)) :
    TokenTaken rest token after := by
  unfold firstToken at read
  dsimp only at read
  split at read
  · next same =>
      cases same
      cases read
      exact tokenTaken_of_sign nofun nofun nofun (List.suffix_refl _)
  · next same =>
      cases same
      cases read
      exact tokenTaken_of_sign nofun nofun nofun (List.suffix_refl _)
  · next same =>
      cases same
      cases read
      exact tokenTaken_of_sign nofun nofun nofun (List.suffix_refl _)
  · next same =>
      cases same
      cases read
      exact tokenTaken_of_sign nofun nofun nofun (List.suffix_cons _ _)
  · next same =>
      cases same
      cases read
      exact tokenTaken_of_sign nofun nofun nofun (List.suffix_cons _ _)
  · next same =>
      cases same
      cases read
      exact tokenTaken_of_sign nofun nofun nofun (List.suffix_refl _)
  · next same =>
      cases same
      split at read
      · cases read
      · next body afterBody bodyRead =>
          cases read
          refine ⟨⟨nofun, nofun, fun _ => ⟨_, by rw [String.toList_ofList]⟩⟩, ?_⟩
          rw [eq_append_of_readPatternBody? bodyRead]
          exact (List.dropWhile_suffix Text.isLetter).trans (List.suffix_append body afterBody)
  · next first others notOpening notClosing notComma _ _ _ noPattern same =>
      obtain ⟨rfl, rfl⟩ := List.cons.inj same
      split at read
      · split at read
        · cases read
        · next content afterText textRead =>
            cases read
            exact tokenTaken_of_sign nofun nofun nofun (suffix_of_readQuoted? textRead)
      · cases read
        have goesOn : continuesWord char = true := by
          simp only [continuesWord, present, Bool.false_or, Bool.not_eq_true',
            Bool.or_eq_false_iff, beq_eq_false_iff_ne]
          exact ⟨⟨notOpening, notClosing⟩, notComma⟩
        exact tokenTaken_of_word goesOn noPattern
  · next same => cases same

/-! ## The tokens of a text -/

/-- The tokens from an offset on, with as much fuel as is needed. -/
def scan (position : Nat) (chars : List Char) : Except QueryFault (List Token) :=
  scanFrom (chars.length + 1) position chars

theorem scanFrom_eq_scan {fuel : Nat} {chars : List Char} (enough : chars.length < fuel)
    (position : Nat) : scanFrom fuel position chars = scan position chars := by
  -- By induction on a bound for the characters, since a token may take any number of them.
  have agree : ∀ (bound : Nat) (chars : List Char), chars.length < bound →
      ∀ (fuel other position : Nat), chars.length < fuel → chars.length < other →
        scanFrom fuel position chars = scanFrom other position chars := by
    intro bound
    induction bound with
    | zero => intro chars below; omega
    | succ bound inductionHypothesis =>
        intro chars below fuel other position enough otherEnough
        obtain ⟨fuel, rfl⟩ : ∃ less, fuel = less + 1 := ⟨fuel - 1, by omega⟩
        obtain ⟨other, rfl⟩ : ∃ less, other = less + 1 := ⟨other - 1, by omega⟩
        cases chars with
        | nil => rfl
        | cons char rest =>
            simp only [List.length_cons] at below enough otherEnough
            unfold scanFrom
            by_cases blank : Text.isBlank char = true
            · rw [if_pos blank, if_pos blank]
              exact inductionHypothesis rest (by omega) _ _ _ (by omega) (by omega)
            · rw [if_neg blank, if_neg blank]
              cases read : firstToken position (char :: rest) with
              | error fault => rfl
              | ok result =>
                  obtain ⟨token, after⟩ := result
                  have shorter := (tokenTaken_of_firstToken (Bool.eq_false_iff.mpr blank) read).shorter
                  dsimp only
                  rw [inductionHypothesis after (by omega) fuel other _ (by omega) (by omega)]
  exact agree (chars.length + 1) chars (Nat.lt_succ_self _) _ _ _ enough (Nat.lt_succ_self _)

theorem tokenize_eq_scan (query : String) : tokenize query = scan 0 query.toList := rfl

@[simp]
theorem scan_nil (position : Nat) : scan position [] = .ok [⟨.endOfQuery, "", position⟩] := rfl

theorem scan_cons_of_blank {char : Char} (blank : Text.isBlank char = true) (position : Nat)
    (rest : List Char) : scan position (char :: rest) = scan (position + 1) rest := by
  conv_lhs => unfold scan scanFrom
  rw [if_pos blank]
  rfl

/-- The first token is followed by the tokens of the rest. -/
theorem scan_cons_of_firstToken {position : Nat} {char : Char} {rest after : List Char}
    {token : Token} (present : Text.isBlank char = false)
    (read : firstToken position (char :: rest) = .ok (token, after)) :
    scan position (char :: rest) =
      (scan (position + ((char :: rest).length - after.length)) after).map (token :: ·) := by
  have shorter := (tokenTaken_of_firstToken present read).shorter
  conv_lhs => unfold scan scanFrom
  rw [if_neg (by rw [present]; exact Bool.false_ne_true), read]
  dsimp only
  rw [scanFrom_eq_scan (by rw [List.length_cons]; omega), List.length_cons]
  cases scan (position + (rest.length + 1 - after.length)) after <;> rfl

theorem exists_of_scan_cons {position : Nat} {char : Char} {rest after : List Char} {token : Token}
    {tokens : List Token} (present : Text.isBlank char = false)
    (read : firstToken position (char :: rest) = .ok (token, after))
    (scanned : scan position (char :: rest) = .ok tokens) :
    ∃ others, tokens = token :: others ∧
      scan (position + ((char :: rest).length - after.length)) after = .ok others := by
  rw [scan_cons_of_firstToken present read] at scanned
  cases later : scan (position + ((char :: rest).length - after.length)) after with
  | error fault =>
      rw [later] at scanned
      cases scanned
  | ok others =>
      rw [later] at scanned
      cases scanned
      exact ⟨others, rfl, rfl⟩

/-- Where no token can be taken, there are no tokens. -/
theorem scan_cons_of_fault {position : Nat} {char : Char} {rest : List Char} {fault : QueryFault}
    (present : Text.isBlank char = false)
    (refused : firstToken position (char :: rest) = .error fault) :
    scan position (char :: rest) = .error fault := by
  unfold scan scanFrom
  rw [if_neg (by rw [present]; exact Bool.false_ne_true), refused]

/-- Induction along the tokens of a text: a text is empty, begins with a blank, begins with what is
no token, or begins with a token before a shorter text. -/
@[elab_as_elim]
theorem scan_induction {motive : Nat → List Char → Prop} (nil : ∀ position, motive position [])
    (blank : ∀ position char rest, Text.isBlank char = true → motive (position + 1) rest →
      motive position (char :: rest))
    (fault : ∀ position char rest fault, Text.isBlank char = false →
      firstToken position (char :: rest) = .error fault → motive position (char :: rest))
    (token : ∀ position char rest token after, Text.isBlank char = false →
      firstToken position (char :: rest) = .ok (token, after) → after <:+ rest →
      motive (position + ((char :: rest).length - after.length)) after →
      motive position (char :: rest))
    (position : Nat) (chars : List Char) : motive position chars := by
  induction size : chars.length using Nat.strongRecOn generalizing position chars with
  | ind size inductionHypothesis =>
      cases chars with
      | nil => exact nil position
      | cons char rest =>
          rw [List.length_cons] at size
          cases present : Text.isBlank char with
          | true =>
              exact blank position char rest present
                (inductionHypothesis rest.length (by omega) _ _ rfl)
          | false =>
              cases read : firstToken position (char :: rest) with
              | error refused => exact fault position char rest refused present read
              | ok result =>
                  obtain ⟨first, after⟩ := result
                  have ending := (tokenTaken_of_firstToken present read).ending
                  have shorter := ending.length_le
                  exact token position char rest first after present read ending
                    (inductionHypothesis after.length (by omega) _ _ rfl)

/-- The tokens of a query: some that go on, and one that marks its end. -/
structure Ended (tokens used : List Token) (last : Token) : Prop where
  whole : tokens = used ++ [last]
  last : last.kind = .endOfQuery
  others : ∀ token ∈ used, token.kind ≠ .endOfQuery

theorem Ended.mem_used {tokens used : List Token} {last token : Token}
    (ended : Ended tokens used last) (member : token ∈ tokens) (goesOn : token.kind ≠ .endOfQuery) :
    token ∈ used := by
  rw [ended.whole] at member
  rcases List.mem_append.mp member with inUsed | atEnd
  · exact inUsed
  · rw [List.mem_singleton.mp atEnd] at goesOn
    exact absurd ended.last goesOn

/-- A scanned query ends with its only token that marks the end. -/
theorem ended_of_scanFrom {fuel position : Nat} {chars : List Char} {tokens : List Token}
    (scanned : scanFrom fuel position chars = .ok tokens) :
    ∃ used last, Ended tokens used last ∧ ∀ token ∈ used, token.Scanned := by
  induction fuel generalizing position chars tokens with
  | zero =>
      cases scanned
      exact ⟨[], _, ⟨rfl, rfl, nofun⟩, nofun⟩
  | succ fuel inductionHypothesis =>
      cases chars with
      | nil =>
          cases scanned
          exact ⟨[], _, ⟨rfl, rfl, nofun⟩, nofun⟩
      | cons char rest =>
          unfold scanFrom at scanned
          split at scanned
          · exact inductionHypothesis scanned
          · next present =>
              split at scanned
              · cases scanned
              · next token after read =>
                  split at scanned
                  · cases scanned
                  · next others scannedRest =>
                      cases scanned
                      obtain ⟨used, last, ended, known⟩ := inductionHypothesis scannedRest
                      have taken := tokenTaken_of_firstToken (Bool.eq_false_iff.mpr present) read
                      refine ⟨token :: used, last, ⟨congrArg _ ended.whole, ended.last, ?_⟩, ?_⟩
                      · rw [List.forall_mem_cons]
                        exact ⟨taken.scanned.goesOn, ended.others⟩
                      · rw [List.forall_mem_cons]
                        exact ⟨taken.scanned, known⟩

end BooleanSearch.Query
