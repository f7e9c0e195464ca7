import BooleanSearch.Proofs.Match.Nearness
import BooleanSearch.Proofs.Stream.ChunkScan
import BooleanSearch.Proofs.Stream.Offers
import BooleanSearch.Searcher.Run

/-!
# Scanning a file and reading it whole

A file that is read by chunks matches if the whole text does, but also if a decoded chunk does by
itself.  A query may hold of a part of a text without holding of the whole, so a scan agrees with an
evaluation of the whole text exactly if that holds, or the file is smaller than a chunk, or no chunk
satisfies the query by itself.
-/

namespace BooleanSearch.Stream

open Files Query

namespace Scanner

variable {scanner : Scanner} {files : Tree} {path : String} {limit : Option Int} {bytes : Bytes}
  {modified : Float}

/-! ## Scanning with a matcher that judges -/

/-- The decoded chunks of a file, and what the end of the file adds. -/
def pieces (size : Int) (bytes : Bytes) : List Text :=
  Utf8.Decoder.boundary.texts (chunksOf size.toNat bytes)

variable {σ : Type} {admits : σ → Prop} {accepts : Matcher (StateM σ)} {judge : Text → Bool}

/-- A scan of a file gives an outcome without an error, and it matches if the whole text is
accepted, or the file is not smaller than a chunk and a decoded chunk is accepted. -/
theorem ensures_process (request : Request)
    (offers : scanner.Offers files path request bytes modified)
    (present : bytes.size ≠ 0) (positive : 1 ≤ scanner.chunkSize request)
    (room : ((Utf8.decode bytes).size : Int) ≤ scanner.settings.bufferLimit)
    (judges : ∀ text ∈ Utf8.decode bytes :: pieces (scanner.chunkSize request) bytes,
      Judges admits accepts judge text)
    (firstOnly : Bool) :
    Ensures admits (scanner.process files path accepts request firstOnly) fun result =>
      ∃ outcome, result.1 = .ok outcome ∧ outcome.error = none ∧
        (outcome.matched = true ↔ judge (Utf8.decode bytes) = true ∨
          (scanner.chunkSize request ≤ bytes.size ∧
            SomeAccepted judge (pieces (scanner.chunkSize request) bytes))) := by
  obtain ⟨last, scans⟩ := process_of_offers accepts offers positive firstOnly
  have some_ := Utf8.isEmpty_decode present
  rw [scans]
  by_cases small : (bytes.size : Int) < scanner.chunkSize request
  · rw [if_pos small]
    unfold scanText
    rw [some_]
    refine Ensures.bind (ensures_offer rfl (judges _ List.mem_cons_self)) ?_
    · rintro scan ⟨sound, matched⟩
      rw [conclude_of_sound sound]
      refine Ensures.pure ⟨_, rfl, rfl, matched.trans ?_⟩
      simp [small]
  · rw [if_neg small]
    have whole := joined_texts_chunksOf (scanner.chunkSize request).toNat (by omega) bytes
    have judgesPieces : ∀ text ∈ joined (Utf8.Decoder.boundary.texts
        (chunksOf (scanner.chunkSize request).toNat bytes)) ::
          Utf8.Decoder.boundary.texts (chunksOf (scanner.chunkSize request).toNat bytes),
        Judges admits accepts judge text := by
      rw [whole]
      exact judges
    refine Ensures.bind (ensures_scanChunks rfl rfl judgesPieces (whole ▸ room)) ?_
    · intro scan finished
      rw [conclude_of_sound finished.sound]
      refine Ensures.pure ⟨_, rfl, rfl, finished.matched.trans ?_⟩
      rw [whole, someAccepted_singleton, or_comm]
      simp [some_, Int.not_lt.mp small, pieces]

end Scanner

/-! ## Scanning for a query -/

/-- A scope has room for an evaluation of a query: for the content, the threshold and the
proximities. -/
structure Asks (scope : Scope) (query : Expr) (options : MatchOptions) (content : Text) : Prop where
  admitted : scope.Admits content options
  problems : ∀ problem ∈ nearProblems content options query, problem ∈ scope.problems

section

variable {scope : Scope} {session : Session} {query : Expr} {options : MatchOptions}

theorem answer_evaluate_of_fits (sound : session.Sound scope) {content : Text}
    (asks : Asks scope query options content) (fits : Fits content options) :
    (evaluate query content options).answer session =
      .ok (judgement scope.fuzzily query options content) :=
  ((gives_evaluate asks.admitted query asks.problems) session sound).1.trans
    (queryVerdict_eq_judgement query fits)

theorem judges_queryMatcher {content : Text} (asks : Asks scope query options content)
    (fits : Fits content options) :
    Judges (Session.Sound scope) (Searcher.queryMatcher query options)
      (judgement scope.fuzzily query options) content := by
  intro session sound
  obtain ⟨answered, kept⟩ := (gives_evaluate asks.admitted query asks.problems) session sound
  exact ⟨answered.trans (queryVerdict_eq_judgement query fits), kept⟩

/-- Without size limits and without overflows of the buffer, a scan of a file for a query tells the
same as an evaluation of the whole text exactly if that holds, or the file is smaller than a
chunk, or no decoded chunk satisfies the query by itself. -/
theorem process_eq_evaluate_iff (query : Expr) (options : MatchOptions)
    (request : Scanner.Request) {scanner : Scanner} {files : Tree} {path : String} {bytes : Bytes}
    {modified : Float} (sound : session.Sound scope)
    (offers : scanner.Offers files path request bytes modified)
    (present : bytes.size ≠ 0) (positive : 1 ≤ scanner.chunkSize request)
    (room : ((Utf8.decode bytes).size : Int) ≤ scanner.settings.bufferLimit)
    (fits : Fits (Utf8.decode bytes) options)
    (asks : ∀ text ∈ Utf8.decode bytes :: Scanner.pieces (scanner.chunkSize request) bytes,
      Asks scope query options text)
    (firstOnly : Bool) :
    ∃ outcome, ((scanner.process files path (Searcher.queryMatcher query options) request
          firstOnly).run session).1.1 = .ok outcome ∧
      outcome.error = none ∧
      ((evaluate query (Utf8.decode bytes) options).answer session = .ok outcome.matched ↔
        (evaluate query (Utf8.decode bytes) options).answer session = .ok true ∨
          (bytes.size : Int) < scanner.chunkSize request ∨
          ∀ piece ∈ Scanner.pieces (scanner.chunkSize request) bytes, piece.isEmpty = false →
            (evaluate query piece options).answer session = .ok false) := by
  have whole := joined_texts_chunksOf (scanner.chunkSize request).toNat (by omega) bytes
  have fitting : ∀ text ∈ Utf8.decode bytes :: Scanner.pieces (scanner.chunkSize request) bytes,
      Fits text options := by
    intro text member
    rcases List.mem_cons.mp member with rfl | piece
    · exact fits
    · exact fits.of_size_le (whole ▸ size_le_joined piece)
  have answers := fun text member => answer_evaluate_of_fits sound (asks text member)
    (fitting text member)
  obtain ⟨outcome, given, noError, matched⟩ :=
    (Scanner.ensures_process request offers present positive room
      (fun text member => judges_queryMatcher (asks text member) (fitting text member)) firstOnly
      session sound).1
  refine ⟨outcome, given, noError, ?_⟩
  have noPiece : (∀ piece ∈ Scanner.pieces (scanner.chunkSize request) bytes,
      piece.isEmpty = false → (evaluate query piece options).answer session = .ok false) ↔
        ¬ SomeAccepted (judgement scope.fuzzily query options)
          (Scanner.pieces (scanner.chunkSize request) bytes) := by
    unfold SomeAccepted
    push Not
    refine forall₂_congr fun piece member => ?_
    rw [answers piece (List.mem_cons_of_mem _ member)]
    simp
  rw [noPiece, answers _ List.mem_cons_self, ← Int.not_le]
  simp only [Except.ok.injEq]
  cases judged : judgement scope.fuzzily query options (Utf8.decode bytes) with
  | true => simp [matched, judged]
  | false =>
      rw [judged] at matched
      simp only [Bool.false_eq_true, false_or] at matched ⊢
      rw [eq_comm, ← Bool.not_eq_true, matched]
      exact Classical.not_and_iff_not_or_not

end

/-- Eight bytes of text, and a tree that holds them in a file. -/
def sampleBytes : Bytes := Utf8.encodeString "aaaa foo"

def sampleTree : Tree := .folder [("a.txt", .file sampleBytes 0.0)]

/-- A scanner that reads four bytes at a time. -/
def sampleScanner : Scanner := { settings := { chunkSize := 4 } }

theorem offers_sampleScanner :
    sampleScanner.Offers sampleTree "a.txt" {} sampleBytes 0.0 :=
  ⟨rfl, fun _ => rfl, Scanner.current_of_no_caches rfl rfl, nofun⟩

theorem asks_everything (query : Expr) (options : MatchOptions) (content : Text) :
    Asks Scope.everything query options content :=
  ⟨Scope.admits_everything content options, fun _ _ => Set.mem_univ _⟩

/-- For a term that stands in the second chunk, the scan tells the same as the whole text. -/
theorem process_eq_evaluate_of_term :
    ∃ outcome, ((sampleScanner.process sampleTree "a.txt"
          (Searcher.queryMatcher (.literal (.plain "foo")) {}) {} true).run bareSession).1.1 =
        .ok outcome ∧
      (evaluate (.literal (.plain "foo")) (Utf8.decode sampleBytes) {}).answer bareSession =
        .ok outcome.matched := by
  obtain ⟨outcome, given, -, agrees⟩ := process_eq_evaluate_iff
    (.literal (.plain "foo")) {} {} forgetful_bareSession.sound offers_sampleScanner
    (by decide +kernel) (by decide +kernel) (by decide +kernel) (fits_of_no_limit rfl)
    (fun text _ => asks_everything _ _ text) true
  refine ⟨outcome, given, agrees.mpr (Or.inl ?_)⟩
  rw [answer_evaluate_of_fits forgetful_bareSession.sound (asks_everything _ _ _)
      (fits_of_no_limit rfl)]
  decide +kernel

/-- A negation holds of the first chunk but not of the whole text, and the scan matches. -/
theorem process_ne_evaluate_of_negation :
    ∃ outcome, ((sampleScanner.process sampleTree "a.txt"
          (Searcher.queryMatcher (.not (.literal (.plain "foo"))) {}) {} true).run
            bareSession).1.1 = .ok outcome ∧
      outcome.matched = true ∧
      (evaluate (.not (.literal (.plain "foo"))) (Utf8.decode sampleBytes) {}).answer bareSession =
        .ok false := by
  obtain ⟨outcome, given, -, matched⟩ := (Scanner.ensures_process {} offers_sampleScanner
    (by decide +kernel) (by decide +kernel) (by decide +kernel)
    (fun text _ => judges_queryMatcher
      (asks_everything (.not (.literal (.plain "foo"))) {} text) (fits_of_no_limit rfl)) true
    bareSession forgetful_bareSession.sound).1
  refine ⟨outcome, given, matched.mpr (Or.inr ⟨by decide +kernel, ?_⟩), ?_⟩
  · exact ⟨Text.ofString "aaaa", by decide +kernel, rfl, by decide +kernel⟩
  · rw [answer_evaluate_of_fits forgetful_bareSession.sound (asks_everything _ _ _)
      (fits_of_no_limit rfl)]
    decide +kernel

end BooleanSearch.Stream
