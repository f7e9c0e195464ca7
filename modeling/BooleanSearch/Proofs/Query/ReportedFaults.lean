import BooleanSearch.Proofs.Query.Acceptance
import BooleanSearch.Proofs.Query.AwaitedPatterns
import BooleanSearch.Proofs.Query.TokenPlaces

/-!
# How reading a query can fail

A query is read, or it is refused at an offset where one of its tokens begins, or a pattern in it is
refused for its text.  It fails in another way exactly if the reader comes to a pattern with a count or
a number beyond every limit, or with contradictory switches.
-/

namespace BooleanSearch.Query

/-! ## Faults of patterns -/

/-- A fault that is not put down to the text of a pattern. -/
inductive Unreported : Pattern.Fault → Prop
  | repetitionTooLarge : Unreported .repetitionTooLarge
  | numberTooLong (digits : Nat) : Unreported (.numberTooLong digits)
  | conflictingFlags : Unreported .conflictingFlags

/-- A pattern of a query with a fault that is not put down to its text. -/
def Token.Strays (token : Token) : Prop :=
  token.kind = .pattern ∧ ∃ source letters flags fault,
    Literal.patternParts? token.text = some (source, letters) ∧
      Pattern.flagsOfLetters letters = .ok flags ∧ Pattern.compileWith source flags = .error fault ∧
      Unreported fault

theorem exists_flagsOfLetters {letters : String}
    (named : ∀ letter ∈ letters.toList, (Pattern.Flags.ofLiteralLetter? letter).isSome = true) :
    ∃ flags, Pattern.flagsOfLetters letters = .ok flags := by
  unfold Pattern.flagsOfLetters
  generalize Pattern.Flags.none = flags
  generalize letters.toList = chars at named
  induction chars generalizing flags with
  | nil => exact ⟨flags, rfl⟩
  | cons letter rest inductionHypothesis =>
      rw [List.forall_mem_cons] at named
      obtain ⟨flag, isFlag⟩ := Option.isSome_iff_exists.mp named.1
      rw [List.foldlM_cons, isFlag]
      exact inductionHypothesis (flags.union flag) named.2

/-- A source under sound switches is refused by its fault alone. -/
theorem compile_of_flags {source letters : String} {flags : Pattern.Flags}
    (switches : Pattern.flagsOfLetters letters = .ok flags) :
    Pattern.compile source letters =
      (Pattern.compileWith source flags).mapError fun fault => fault.failure source := by
  unfold Pattern.compile
  rw [switches]
  dsimp only [bind, Except.bind]
  cases Pattern.compileWith source flags <;> rfl

/-- A text stands for no term only by the fault of its pattern. -/
theorem exists_fault_of_ofText {text : String} {failure : Failure}
    (refused : Literal.ofText text = .error failure) :
    ∃ source letters flags fault, Literal.patternParts? text = some (source, letters) ∧
      Pattern.flagsOfLetters letters = .ok flags ∧ Pattern.compileWith source flags = .error fault ∧
      failure = fault.failure source := by
  unfold Literal.ofText at refused
  cases parts : Literal.patternParts? text with
  | none =>
      rw [parts] at refused
      dsimp only at refused
      split at refused <;> cases refused
  | some found =>
      obtain ⟨source, letters⟩ := found
      obtain ⟨flags, switches⟩ := exists_flagsOfLetters (Literal.patternParts?_parts parts).2
      rw [parts] at refused
      dsimp only [Literal.ofPattern] at refused
      rw [compile_of_flags switches] at refused
      cases compiled : Pattern.compileWith source flags with
      | ok pattern =>
          rw [compiled] at refused
          cases refused
      | error fault =>
          rw [compiled] at refused
          cases refused
          exact ⟨source, letters, flags, fault, rfl, switches, compiled, rfl⟩

theorem ofText_of_fault {text source letters : String} {flags : Pattern.Flags}
    {fault : Pattern.Fault} (parts : Literal.patternParts? text = some (source, letters))
    (switches : Pattern.flagsOfLetters letters = .ok flags)
    (given : Pattern.compileWith source flags = .error fault) :
    Literal.ofText text = .error (fault.failure source) := by
  unfold Literal.ofText
  rw [parts]
  dsimp only [Literal.ofPattern]
  rw [compile_of_flags switches, given]
  rfl

/-- A stray pattern fails with an overflow or a bad value, never with an error of the query. -/
theorem Token.Strays.exists_failure {token : Token} (strays : token.Strays) :
    ∃ failure, Literal.ofText token.text = .error failure ∧ ∀ error, failure ≠ .error error := by
  obtain ⟨-, source, letters, flags, fault, parts, switches, given, unreported⟩ := strays
  refine ⟨fault.failure source, ofText_of_fault parts switches given, fun error => ?_⟩
  cases unreported with
  | repetitionTooLarge => exact nofun
  | numberTooLong digits => exact nofun
  | conflictingFlags => exact nofun

/-! ## Empty queries -/

/-- Only blanks are left where the first token is the end of the query. -/
theorem blank_of_scan {position : Nat} {chars : List Char} {tokens : List Token}
    (scanned : scan position chars = .ok tokens) (atEnd : (current tokens).kind = .endOfQuery) :
    ∀ char ∈ chars, Text.isBlank char = true := by
  induction position, chars using scan_induction with
  | nil position => exact nofun
  | blank position char rest blank inductionHypothesis =>
      rw [scan_cons_of_blank blank] at scanned
      rw [List.forall_mem_cons]
      exact ⟨blank, inductionHypothesis scanned⟩
  | fault position char rest fault present refused =>
      rw [scan_cons_of_fault present refused] at scanned
      cases scanned
  | token position char rest first after present read _ _ =>
      obtain ⟨others, rfl, -⟩ := exists_of_scan_cons present read scanned
      exact absurd atEnd (tokenTaken_of_firstToken present read).scanned.goesOn

/-! ## All failures -/

/-- A query is read, is refused at one of its marks or as empty, or has a pattern that is refused for
its text. -/
def ReportsFaults (query : String) : Prop :=
  (∃ tree, parse query = .ok tree) ∨
    (∃ fault : QueryFault, parse query = .error fault.failure ∧ fault.position ≤ query.length ∧
      (Marks query fault.position ∨
        fault.position = 0 ∧ ∀ char ∈ query.toList, Text.isBlank char = true)) ∨
    ∃ source reason, parse query = .error (.error ⟨.pattern source (some reason), none⟩)

theorem ReportsFaults.exists_error {query : String} (reports : ReportsFaults query)
    {failure : Failure} (refused : parse query = .error failure) :
    ∃ error, failure = .error error := by
  rcases reports with ⟨tree, read⟩ | ⟨fault, same, -⟩ | ⟨source, reason, same⟩
  · rw [read] at refused
    cases refused
  · rw [same] at refused
    cases refused
    exact ⟨_, rfl⟩
  · rw [same] at refused
    cases refused
    exact ⟨_, rfl⟩

/-- A term stands for nothing because its pattern is at fault in its text, or is a stray one. -/
theorem Token.Scanned.strays_or_invalid {token : Token} (scanned : token.Scanned)
    (named : token.kind = .word ∨ token.kind = .pattern) {failure : Failure}
    (refused : Literal.ofText token.text = .error failure) :
    token.Strays ∨ ∃ source reason, failure = .error ⟨.pattern source (some reason), none⟩ := by
  have isPattern : token.kind = .pattern := by
    rcases named with word | pattern
    · obtain ⟨term, read⟩ := scanned.exists_term
        (fun isPattern => absurd (word.symm.trans isPattern) nofun) (Or.inl word)
      rw [read] at refused
      cases refused
    · exact pattern
  obtain ⟨source, letters, flags, fault, parts, switches, given, rfl⟩ :=
    exists_fault_of_ofText refused
  have strays : Unreported fault → token.Strays := fun unreported =>
    ⟨isPattern, source, letters, flags, fault, parts, switches, given, unreported⟩
  cases fault with
  | invalid cause position => exact Or.inr ⟨source, _, rfl⟩
  | repetitionTooLarge => exact Or.inl (strays .repetitionTooLarge)
  | numberTooLong digits => exact Or.inl (strays (.numberTooLong digits))
  | conflictingFlags => exact Or.inl (strays .conflictingFlags)

/-- If no stray pattern is awaited among its tokens, a query that they do not form reports why. -/
theorem reportsFaults_of_tokens {query : String} {tokens : List Token}
    (scanned : tokenize query = .ok tokens)
    (sound : ∀ before token after, tokens = before ++ token :: after →
      Phrase.disjunction.Awaits before → ¬ token.Strays) : ReportsFaults query := by
  have parsed := parse_of_tokenize scanned
  obtain ⟨used, last, ended, known⟩ := ended_of_scanFrom scanned
  have ends : Ends tokens := by
    refine ⟨last, ?_, ended.last⟩
    rw [ended.whole]
    exact List.mem_append_right used (List.mem_singleton.mpr rfl)
  cases outcome : readTokens tokens with
  | ok tree => exact Or.inl ⟨tree, parsed.trans outcome⟩
  | error failure =>
      rw [outcome] at parsed
      refine Or.inr ?_
      rcases refused_of_readTokens ends outcome with ⟨atEnd, rfl⟩ | refused
      · rw [tokenize_eq_scan] at scanned
        exact Or.inl ⟨.emptyQuery, parsed, Nat.zero_le _, Or.inr ⟨rfl, blank_of_scan scanned atEnd⟩⟩
      cases refused with
      | atToken same member position =>
          subst same
          have marks := (marks_of_tokenize query).1 tokens scanned _ member
          rw [← position] at marks
          exact Or.inl ⟨_, parsed, marks.le_length, Or.inl marks⟩
      | @atTerm before after token whole named given awaits =>
          have member : token ∈ tokens := by
            rw [whole]
            exact List.mem_append_right before List.mem_cons_self
          have goesOn : token.kind ≠ .endOfQuery := by
            rcases named with word | pattern
            · rw [word]
              exact nofun
            · rw [pattern]
              exact nofun
          have scanned := known token (ended.mem_used member goesOn)
          rcases scanned.strays_or_invalid named given with strays | invalid
          · exact absurd strays (sound before token after whole awaits)
          · obtain ⟨source, reason, rfl⟩ := invalid
            exact Or.inr ⟨source, reason, parsed⟩

/-- A query whose only pattern repeats more often than can be counted. -/
def hugeCount : String := "/a\x7b4294967295\x7d/"

end BooleanSearch.Query
