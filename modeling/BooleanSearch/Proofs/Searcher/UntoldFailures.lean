import BooleanSearch.Proofs.Searcher.CompleteReports
import BooleanSearch.Proofs.Stream.FirstMatch

/-!
# Failures that a search does not tell

The search of a file may read it twice.  The first scan takes what the caches know, so it may match in a
file that has changed or is gone, and the scan of the lines, which always reads the file, then fails.  The
finding tells only of the first scan.  So a search of a file tells every failure of its reads exactly if the
file is still there, and may be read, whenever its lines are to be gathered.
-/

namespace BooleanSearch

open BooleanSearch.Stream Files Query

namespace Stream.Scanner

variable {σ : Type} {admits : σ → Prop} {accepts : Matcher (StateM σ)} {scanner : Scanner}
  {files : Tree} {path : String} {request : Request}

/-- The bytes of a file with some facts, or why they cannot be read.  A file smaller than a chunk is opened
by its path, and any other by the spelling of the path. -/
def openedBytes (scanner : Scanner) (files : Tree) (path : String) (request : Request)
    (facts : FileFacts) : Except Failure Bytes :=
  if (facts.size : Int) < scanner.chunkSize request then bytesAt files path
  else spelledBytesAt files path

/-- The look-up of a file lets it be read, and there are bytes to read. -/
def CanRead (scanner : Scanner) (files : Tree) (path : String) (request : Request) : Prop :=
  ∃ facts, (scanner.checkedStats files path request.sizeLimit).1 = .ok facts ∧
    ∃ bytes, scanner.openedBytes files path request facts = .ok bytes

theorem canRead_iff {facts : FileFacts} {after : Scanner}
    (looked : scanner.checkedStats files path request.sizeLimit = (.ok facts, after)) :
    scanner.CanRead files path request ↔
      ∃ bytes, scanner.openedBytes files path request facts = .ok bytes := by
  unfold CanRead
  rw [looked]
  simp

theorem not_canRead_of_unopened {facts : FileFacts} {after : Scanner} {failure : Failure}
    (looked : scanner.checkedStats files path request.sizeLimit = (.ok facts, after))
    (unopened : scanner.openedBytes files path request facts = .error failure) :
    ¬scanner.CanRead files path request := by
  rw [canRead_iff looked, unopened]
  rintro ⟨bytes, opened⟩
  cases opened

theorem exists_error_concludeLines {failure : Failure} (answered : (answered? failure).isSome) :
    ∃ outcome, concludeLines { failure := some failure } = .ok outcome ∧ outcome.error ≠ none := by
  obtain ⟨error, told⟩ := Option.isSome_iff_exists.mp answered
  unfold concludeLines
  dsimp only
  rw [told]
  exact ⟨_, rfl, nofun⟩

theorem concludeLines_of_failsOnly {scan : LineScan} (sound : scan.FailsOnly fun _ => False) :
    concludeLines scan = .ok ⟨scan.lines, scan.offsets, scan.truncated, none⟩ := by
  unfold concludeLines
  cases failed : scan.failure with
  | none => rfl
  | some failure => exact (sound failure failed).elim

/-- With a matcher that never fails, a scan of lines ends without an error exactly if the file can be
read. -/
theorem ensures_lines_error_iff (request : Request) (limit : Int)
    (admissible : Tree.admissible (Path.ofString path) = true)
    (positive : 1 ≤ scanner.chunkSize request)
    (never : ∀ text, Ensures admits (accepts text) fun outcome =>
      ∀ failure, outcome = .error failure → False) :
    Ensures admits (scanner.lines files path accepts request limit) fun result =>
      ∃ outcome, result.1 = .ok outcome ∧
        (outcome.error = none ↔ scanner.CanRead files path request) := by
  unfold lines
  dsimp only
  cases looked : scanner.checkedStats files path request.sizeLimit with
  | mk outcome after =>
  cases outcome with
  | error failure =>
      obtain ⟨outcome, given, failed⟩ := exists_error_concludeLines
        (answered_of_checkedStats admissible (congrArg Prod.fst looked))
      refine Ensures.pure ⟨outcome, given, iff_of_false failed ?_⟩
      rintro ⟨facts, found, -⟩
      rw [looked] at found
      cases found
  | ok facts =>
      dsimp only
      rw [reading_of_positive positive]
      have refused : ∀ failure, scanner.openedBytes files path request facts = .error failure →
          (answered? failure).isSome →
          Ensures admits (pure (concludeLines { failure := some failure }, after) : StateM σ _)
            fun result => ∃ outcome, result.1 = .ok outcome ∧
              (outcome.error = none ↔ scanner.CanRead files path request) := by
        intro failure unopened answered
        obtain ⟨outcome, given, failed⟩ := exists_error_concludeLines answered
        exact Ensures.pure
          ⟨outcome, given, iff_of_false failed (not_canRead_of_unopened looked unopened)⟩
      have concluded : ∀ bytes, scanner.openedBytes files path request facts = .ok bytes →
          ∀ scan : LineScan, scan.FailsOnly (fun _ => False) →
            Ensures admits (pure (concludeLines scan, after) : StateM σ _) fun result =>
              ∃ outcome, result.1 = .ok outcome ∧
                (outcome.error = none ↔ scanner.CanRead files path request) :=
        fun bytes opened scan sound => Ensures.pure ⟨_, concludeLines_of_failsOnly sound,
          iff_of_true rfl ((canRead_iff looked).mpr ⟨bytes, opened⟩)⟩
      unfold openedBytes at refused concluded
      split_ifs at refused concluded ⊢ with small
      · cases read : bytesAt files path with
        | error failure => exact refused failure read (answered_of_bytesAt admissible read)
        | ok bytes =>
            exact Ensures.bind (ensures_scanWhole_failsOnly never limit bytes) (concluded bytes read)
      · unfold chunks
        dsimp only
        cases read : spelledBytesAt files path with
        | error failure =>
            exact refused failure read (answered_of_spelledBytesAt admissible read)
        | ok bytes =>
            exact Ensures.bind (ensures_scanLines_failsOnly never limit _ _) (concluded bytes read)

/-- A scan by chunks that ends without an error has seen a text of the file. -/
theorem sight_of_sound (positive : 1 ≤ scanner.chunkSize request) {firstOnly : Bool} {state : σ}
    {outcome : ChunkOutcome}
    (given : ((scanner.process files path accepts request firstOnly).run state).1.1 = .ok outcome)
    (sound : outcome.error = none) (failure : Failure) :
    (scanner.sight files path request).1 ≠ .refused failure := by
  intro refused
  rw [process_eq_scanSight accepts positive, refused] at given
  change (conclude path _ _).1 = _ at given
  unfold conclude at given
  dsimp only at given
  cases told : answered? failure with
  | none =>
      rw [told] at given
      cases given
  | some error =>
      rw [told] at given
      cases given
      cases sound

/-- Without caches, a text that was seen was read. -/
theorem Cacheless.canRead (cacheless : scanner.Cacheless)
    (seen : ∀ failure, (scanner.sight files path request).1 ≠ .refused failure) :
    scanner.CanRead files path request := by
  unfold sight at seen
  have texts := texts_checkedStats scanner files path request.sizeLimit
  cases looked : scanner.checkedStats files path request.sizeLimit with
  | mk outcome after =>
  rw [looked] at seen texts
  cases outcome with
  | error failure => exact absurd rfl (seen failure)
  | ok facts =>
      rw [canRead_iff looked]
      unfold openedBytes
      dsimp only at seen texts
      split_ifs at seen ⊢ with small
      · cases read : bytesAt files path with
        | ok bytes => exact ⟨bytes, rfl⟩
        | error failure =>
            have unread : after.readText files path facts = (.error failure, after) := by
              unfold readText
              rw [texts, cacheless.texts, ite_self, read]
              rfl
            rw [unread] at seen
            exact absurd rfl (seen failure)
      · cases read : spelledBytesAt files path with
        | ok bytes => exact ⟨bytes, rfl⟩
        | error failure =>
            rw [read] at seen
            exact absurd rfl (seen failure)

/-- Without caches, a look-up does not depend on the reports. -/
theorem Cacheless.checkedStats_withRecords (cacheless : scanner.Cacheless) (files : Tree)
    (path : String) (limit : Option Int) (records : Array Log.Record) :
    (checkedStats { scanner with records := records } files path limit).1 =
      (scanner.checkedStats files path limit).1 := by
  unfold checkedStats stats
  rw [cacheless.facts]
  cases files.require (Path.ofString path) with
  | error failure => rfl
  | ok standing =>
      dsimp only
      split
      · rfl
      · cases limit <|> scanner.settings.sizeLimit with
        | none => rfl
        | some most =>
            dsimp only
            split <;> rfl

end Stream.Scanner

namespace Searcher

/-! ## The reads of a search -/

/-- The scan that tells whether a file matches. -/
def chunkScan (files : Tree) (path : String) (query : Expr) (options : MatchOptions)
    (firstOnly : Bool) : Searching Scanner.ChunkOutcome :=
  scanning fun scanner => scanner.process files path (queryMatcher query options) {} firstOnly

/-- The scan that gathers the lines of a file that has matched. -/
def lineScan (files : Tree) (path : String) (query : Expr) (options : MatchOptions) (limit : Int) :
    Searching Scanner.LineOutcome :=
  scanning fun scanner => scanner.lines files path (lineMatcher query options) {} limit

/-- A read in the search of a file has ended with an error: the first scan, or that of the lines, if it
came to that. -/
def ReadFailed (files : Tree) (path : String) (query : Expr) (options : MatchOptions) (lines : Bool)
    (state : Searcher × Array Log.Record) : Prop :=
  ∃ scan middle,
    (chunkScan files path query options state.1.settings.streaming.firstOnly).run.run state =
      (.ok scan, middle) ∧
    (scan.error ≠ none ∨
      lines = true ∧ scan.matched = true ∧ scan.error = none ∧
        ∃ found after,
          (lineScan files path query options state.1.settings.streaming.lineLimit).run.run middle =
            (.ok found, after) ∧ found.error ≠ none)

variable {query : Expr} {options : MatchOptions} {searcher : Searcher} {files : Tree} {path : String}

/-- A step comes to one value and one state. -/
theorem eq_of_run {α : Type} {step : Searching α} {value other : α}
    {state after last : Searcher × Array Log.Record}
    (ran : step.run.run state = (.ok value, after)) (again : step.run.run state = (.ok other, last)) :
    value = other ∧ after = last := by
  rw [ran] at again
  exact ⟨Except.ok.inj (congrArg Prod.fst again), congrArg Prod.snd again⟩

theorem never_lineMatcher (text : Text) :
    Ensures (fun _ => True) (lineMatcher query options text) fun outcome =>
      ∀ failure, outcome = .error failure → False := by
  have fails : FailsOnly (fun _ => False) (holdsSome text options query.positiveLiterals) :=
    failsOnly_holdsSome text query.positiveLiterals
  exact fun session _ => ⟨fails session, trivial⟩

/-- The first scan comes to an outcome and leaves a fitted searcher.  Without caches, it ends without an
error only if the file can then be read again. -/
theorem Fitted.exists_run_chunkScan (fitted : searcher.Fitted)
    (admissible : Tree.admissible (Path.ofString path) = true) (files : Tree) (query : Expr)
    (options : MatchOptions) (firstOnly : Bool) (records : Array Log.Record) :
    ∃ scan middle, (chunkScan files path query options firstOnly).run.run (searcher, records) =
        (.ok scan, middle) ∧
      middle.1.Fitted ∧
      (searcher.scanner.Cacheless → scan.error = none →
        middle.1.scanner.CanRead files path {}) := by
  have comes : Ensures (fun _ => True)
      (searcher.scanner.process files path (queryMatcher query options) {} firstOnly) _ :=
    Scanner.ensures_process_outcome {} firstOnly admissible fitted.positive answers_queryMatcher
  obtain ⟨scan, given, -⟩ := (comes searcher.session trivial).1
  obtain ⟨added, ran⟩ := run_scanning
    (fun scanner => scanner.process files path (queryMatcher query options) {} firstOnly)
    searcher records
  rw [given] at ran
  refine ⟨scan, _, ran, ⟨fitted.valid, ?_⟩, fun cacheless sound => ?_⟩
  · exact (Scanner.settings_process {} firstOnly searcher.session).trans fitted.reading
  · have readable : searcher.scanner.CanRead files path {} :=
      cacheless.canRead (Scanner.sight_of_sound fitted.positive given sound)
    obtain ⟨reports, left⟩ := cacheless.exists_records_process files path
      (queryMatcher query options) {} firstOnly searcher.session
    dsimp only [afterScan]
    rw [left]
    unfold Scanner.CanRead
    rw [cacheless.checkedStats_withRecords]
    exact readable

/-- The scan of the lines comes to an outcome, without an error exactly if the file can be read. -/
theorem Fitted.exists_run_lineScan (fitted : searcher.Fitted)
    (admissible : Tree.admissible (Path.ofString path) = true) (files : Tree) (query : Expr)
    (options : MatchOptions) (limit : Int) (records : Array Log.Record) :
    ∃ found after, (lineScan files path query options limit).run.run (searcher, records) =
        (.ok found, after) ∧
      (found.error = none ↔ searcher.scanner.CanRead files path {}) := by
  obtain ⟨found, given, readable⟩ := (Scanner.ensures_lines_error_iff {} limit admissible
    fitted.positive never_lineMatcher searcher.session trivial).1
  obtain ⟨after, ran, -⟩ := fitted.exists_run_scanning
    (fun scanner => scanner.lines files path (lineMatcher query options) {} limit) given
    (Scanner.settings_lines {} limit searcher.session) records
  exact ⟨found, after, ran, readable⟩

/-! ## What a finding tells -/

theorem isSome_error?_iff {finding : Finding} {error : Option SearchError}
    (same : finding.error = error.map SearchError.message) :
    finding.error?.isSome = true ↔ error ≠ none := by
  unfold Finding.error?
  rw [same]
  cases error with
  | none => simp
  | some told => simp [Option.filter_some, told.message_ne_empty]

section

variable {lines : Bool} {records : Array Log.Record} {left last : Searcher × Array Log.Record}
  {scan : Scanner.ChunkOutcome} {found : Scanner.LineOutcome}

/-- A read has failed if the first scan has, or if the second one would and it comes to that. -/
theorem readFailed_iff
    (ran : (chunkScan files path query options
      searcher.settings.streaming.firstOnly).run.run (searcher, records) = (.ok scan, left))
    (ranLines : (lineScan files path query options
      searcher.settings.streaming.lineLimit).run.run left = (.ok found, last)) :
    ReadFailed files path query options lines (searcher, records) ↔
      scan.error ≠ none ∨
        lines = true ∧ scan.matched = true ∧ scan.error = none ∧ found.error ≠ none := by
  constructor
  · rintro ⟨other, middle, ranToo, failed⟩
    obtain ⟨rfl, rfl⟩ := eq_of_run ran ranToo
    refine failed.imp_right ?_
    rintro ⟨wanted, matched, sound, again, after, ranAgain, error⟩
    obtain ⟨rfl, rfl⟩ := eq_of_run ranLines ranAgain
    exact ⟨wanted, matched, sound, error⟩
  · refine fun failed => ⟨scan, left, ran, failed.imp_right ?_⟩
    rintro ⟨wanted, matched, sound, error⟩
    exact ⟨wanted, matched, sound, found, last, ranLines, error⟩

/-- The search of a file comes to a finding with the error of the first scan. -/
theorem exists_run_searchFile_of_scans
    (ran : (chunkScan files path query options
      searcher.settings.streaming.firstOnly).run.run (searcher, records) = (.ok scan, left))
    (ranLines : (lineScan files path query options
      searcher.settings.streaming.lineLimit).run.run left = (.ok found, last)) (lines : Bool) :
    ∃ finding after,
      (searchFile files path query options lines).run.run (searcher, records) =
        (.ok finding, after) ∧
      finding.error = scan.error.map SearchError.message := by
  unfold chunkScan at ran
  unfold lineScan at ranLines
  unfold searchFile
  rw [run_bind_of_ok (run_get _)]
  dsimp only
  rw [run_bind_of_ok ran]
  split
  · rw [run_bind_of_ok ranLines]
    exact ⟨_, _, rfl, rfl⟩
  · exact ⟨_, _, rfl, rfl⟩

end

/-- The search of a file, whatever the caches hold and whatever stands at its path, comes to a finding.
If one of its reads failed, the finding has an error, if and only if, whenever the first scan matched
without an error and lines are wanted, the file can then be read. -/
theorem Fitted.searchFile_tells_iff (fitted : searcher.Fitted)
    (admissible : Tree.admissible (Path.ofString path) = true) (files : Tree) (query : Expr)
    (options : MatchOptions) (lines : Bool) (records : Array Log.Record) :
    ∃ scan middle finding after,
      (chunkScan files path query options searcher.settings.streaming.firstOnly).run.run
          (searcher, records) = (.ok scan, middle) ∧
      (searchFile files path query options lines).run.run (searcher, records) =
        (.ok finding, after) ∧
      ((ReadFailed files path query options lines (searcher, records) →
          finding.error?.isSome = true) ↔
        (lines = true → scan.matched = true → scan.error = none →
          middle.1.scanner.CanRead files path {})) := by
  obtain ⟨scan, ⟨left, added⟩, ran, leftFitted, -⟩ := fitted.exists_run_chunkScan admissible files
    query options searcher.settings.streaming.firstOnly records
  obtain ⟨found, last, ranLines, readable⟩ := leftFitted.exists_run_lineScan admissible files query
    options searcher.settings.streaming.lineLimit added
  obtain ⟨finding, after, ranSearch, error⟩ := exists_run_searchFile_of_scans ran ranLines lines
  refine ⟨scan, _, finding, after, ran, ranSearch, ?_⟩
  -- The finding tells of the first scan, so it is the failures of the second one that are at stake.
  rw [readFailed_iff ran ranLines, isSome_error?_iff error, ← readable]
  constructor
  · intro tells wanted matched sound
    by_contra failed
    exact tells (Or.inr ⟨wanted, matched, sound, failed⟩) sound
  · rintro readAgain (failed | ⟨wanted, matched, sound, failed⟩)
    · exact failed
    · exact absurd (readAgain wanted matched sound) failed

/-- A searcher that keeps nothing of the files tells every failed read, since what matched was read just
before. -/
theorem Fitted.tells_of_cacheless (fitted : searcher.Fitted)
    (cacheless : searcher.scanner.Cacheless)
    (admissible : Tree.admissible (Path.ofString path) = true) (files : Tree) (query : Expr)
    (options : MatchOptions) (lines : Bool) (records : Array Log.Record) :
    ∃ finding after,
      (searchFile files path query options lines).run.run (searcher, records) =
        (.ok finding, after) ∧
      (ReadFailed files path query options lines (searcher, records) →
        finding.error?.isSome = true) := by
  obtain ⟨scan, ⟨left, added⟩, ran, leftFitted, readAgain⟩ := fitted.exists_run_chunkScan admissible
    files query options searcher.settings.streaming.firstOnly records
  obtain ⟨found, last, ranLines, readable⟩ := leftFitted.exists_run_lineScan admissible files query
    options searcher.settings.streaming.lineLimit added
  obtain ⟨finding, after, ranSearch, error⟩ := exists_run_searchFile_of_scans ran ranLines lines
  refine ⟨finding, after, ranSearch, ?_⟩
  rw [readFailed_iff ran ranLines, isSome_error?_iff error]
  rintro (failed | ⟨-, -, sound, failed⟩)
  · exact failed
  · exact absurd (readable.mpr (readAgain cacheless sound)) failed

/-! ## A file that is gone -/

/-- A step comes to a value if something is seen of it. -/
theorem exists_run_of_map {α β : Type} {step : Searching α}
    {state : Searcher × Array Log.Record} {view : α → β} {seen : β}
    (given : (step.run.run state).1.map view = .ok seen) :
    ∃ value after, step.run.run state = (.ok value, after) ∧ view value = seen := by
  generalize step.run.run state = ran at given ⊢
  obtain ⟨outcome, after⟩ := ran
  cases outcome with
  | error failure => cases given
  | ok value => exact ⟨value, after, rfl, Except.ok.inj given⟩

def catQuery : Expr := .literal (.plain "cat")

def loneCat : Tree := .folder [("a.txt", .file (Utf8.encodeString "cat") 0.0)]

/-- Where nothing was kept, a file that is gone is told of. -/
theorem searchFile_tells_of_missing :
    ∃ searcher, create {} = .ok searcher ∧
      ReadFailed (.folder []) "a.txt" catQuery {} true (searcher, #[]) ∧
      ∃ finding after,
        (searchFile (.folder []) "a.txt" catQuery {} true).run.run (searcher, #[]) =
          (.ok finding, after) ∧
        finding.error?.isSome = true := by
  obtain ⟨searcher, created⟩ : ∃ searcher, create {} = .ok searcher := ⟨_, rfl⟩
  have fitted := fitted_of_create Config.Settings.valid_default created
  have admissible : Tree.admissible (Path.ofString "a.txt") = true := by decide
  obtain ⟨scan, middle, finding, after, scanned, ran, tells⟩ :=
    fitted.searchFile_tells_iff admissible (.folder []) catQuery {} true #[]
  have seen : ((chunkScan (.folder []) "a.txt" catQuery {}
      searcher.settings.streaming.firstOnly).run.run (searcher, #[])).1.map
        (fun scan => scan.error.isSome) = .ok true := by
    cases created
    decide +kernel
  have failed : scan.error ≠ none := by
    rw [scanned] at seen
    exact Option.isSome_iff_ne_none.mp (Except.ok.inj seen)
  have readFailed : ReadFailed (.folder []) "a.txt" catQuery {} true (searcher, #[]) :=
    ⟨scan, middle, scanned, Or.inl failed⟩
  exact ⟨searcher, created, readFailed, finding, after, ran,
    tells.mpr (fun _ _ sound => absurd sound failed) readFailed⟩

/-- What a search for the cat leaves of a searcher that has no reports yet. -/
def afterCat (searcher : Searcher) : Searcher × Array Log.Record :=
  ((searchFile loneCat "a.txt" catQuery {} false).run.run (searcher, #[])).2

/-- After a search has found a file, its removal leaves a search for it with a match and no error, although
its lines could not be read. -/
theorem searchFile_untold_of_removed :
    ∃ searcher, create {} = .ok searcher ∧ parse "cat" = .ok catQuery ∧
      (searchFile loneCat "a.txt" catQuery {} false).run.run (searcher, #[]) =
        (.ok ⟨"a.txt", true, [], [], false, none⟩, afterCat searcher) ∧
      ReadFailed (.folder []) "a.txt" catQuery {} true (afterCat searcher) ∧
      ((searchFile (.folder []) "a.txt" catQuery {} true).run.run (afterCat searcher)).1 =
        .ok ⟨"a.txt", true, [], [], false, none⟩ := by
  obtain ⟨searcher, created⟩ : ∃ searcher, create {} = .ok searcher := ⟨_, rfl⟩
  have found : ((searchFile loneCat "a.txt" catQuery {} false).run.run (searcher, #[])).1 =
      .ok ⟨"a.txt", true, [], [], false, none⟩ := by
    cases created
    decide +kernel
  have again : ((searchFile (.folder []) "a.txt" catQuery {} true).run.run (afterCat searcher)).1 =
      .ok ⟨"a.txt", true, [], [], false, none⟩ := by
    cases created
    decide +kernel
  have seen : ((chunkScan (.folder []) "a.txt" catQuery {}
      (afterCat searcher).1.settings.streaming.firstOnly).run.run (afterCat searcher)).1.map
        (fun scan => (scan.matched, scan.error.isSome)) = .ok (true, false) := by
    cases created
    decide +kernel
  have listed : ((lineScan (.folder []) "a.txt" catQuery {}
      (afterCat searcher).1.settings.streaming.lineLimit).run.run
        ((chunkScan (.folder []) "a.txt" catQuery {}
          (afterCat searcher).1.settings.streaming.firstOnly).run.run (afterCat searcher)).2).1.map
        (fun lines => lines.error.isSome) = .ok true := by
    cases created
    decide +kernel
  obtain ⟨scan, middle, ran, same⟩ := exists_run_of_map seen
  rw [ran] at listed
  obtain ⟨lines, after, ranLines, failed⟩ := exists_run_of_map listed
  obtain ⟨matched, sound⟩ := Prod.mk.inj same
  exact ⟨searcher, created, rfl, Prod.ext found rfl,
    ⟨scan, middle, ran, Or.inr ⟨rfl, matched, by simpa using sound, lines, after, ranLines,
      Option.isSome_iff_ne_none.mp failed⟩⟩, again⟩

end Searcher

end BooleanSearch
