import BooleanSearch.Proofs.Files.ListedFiles
import BooleanSearch.Proofs.Match.Failures
import BooleanSearch.Proofs.Searcher.ShownMatches
import BooleanSearch.Proofs.Stream.Outcomes

/-!
# Complete reports

A searcher with accepted settings searches all files that are listed, whatever its caches hold and
whatever becomes of single files.  The scan of every file comes to an outcome; those with an error make up
one part of the report, the other matches make up the other part, both in the order of the walk.  Only the
listing itself can end a search, where the system does not answer what the walk asks.
-/

namespace BooleanSearch

open BooleanSearch.Stream Files Query

/-! ## Wordings of errors -/

theorem getD_filled?_ne_empty (text : Option String) {other : String} (some_ : other ≠ "") :
    (filled? text).getD other ≠ "" := by
  cases given : filled? text with
  | none => exact some_
  | some found =>
      have filled := (Option.filter_eq_some_iff.mp given).2
      simpa using filled

theorem ErrorCategory.description_ne_empty (category : ErrorCategory) :
    category.description ≠ "" := by
  cases category <;> decide

theorem withReason_ne_empty {text : String} (some_ : text ≠ "") (reason : Option String) :
    SearchError.withReason text reason ≠ "" := by
  unfold SearchError.withReason
  split
  · exact some_
  · simp [some_]

/-- Every error has a wording, so that a finding with an error is one of the failed ones. -/
theorem SearchError.message_ne_empty (error : SearchError) : error.message ≠ "" := by
  unfold message
  split
  · exact getD_filled?_ne_empty _ (ErrorCategory.description_ne_empty _)
  · exact getD_filled?_ne_empty _ (ErrorCategory.description_ne_empty _)
  · exact withReason_ne_empty (by simp) _
  · simp
  · exact withReason_ne_empty (by simp) _

namespace Searcher

variable {query : Expr} {options : MatchOptions}

/-! ## The matchers of a search fail as part of answers -/

theorem failsOnly_holdsSome {allowed : Failure → Prop} (line : Text)
    (terms : List Query.Literal) : FailsOnly allowed (holdsSome line options terms) := by
  induction terms with
  | nil => exact .pure _
  | cons term rest inductionHypothesis =>
      exact .bind (failsOnly_termMatches term .leaf) fun _ => .ite (.pure _) inductionHypothesis

theorem answers_asMatcher {step : Text → Search Bool}
    (fails : ∀ text, FailsOnly (fun failure => (answered? failure).isSome) (step text)) :
    Stream.Answers (fun _ => True) (asMatcher step) :=
  fun text session _ => ⟨⟨fun _ => trivial, fun failure failed => fails text session failure failed⟩,
    trivial⟩

theorem answers_queryMatcher : Stream.Answers (fun _ => True) (queryMatcher query options) := by
  refine answers_asMatcher fun text => (failsOnly_evaluate query).mono ?_
  rintro failure ⟨size, limit, rfl⟩
  rfl

theorem answers_lineMatcher : Stream.Answers (fun _ => True) (lineMatcher query options) :=
  answers_asMatcher fun line => failsOnly_holdsSome line query.positiveLiterals

/-! ## Searchers in use -/

/-- A searcher has accepted settings, and its scanner works by them. -/
structure Fitted (searcher : Searcher) : Prop where
  valid : searcher.settings.Valid
  reading : searcher.scanner.settings = scannerSettings searcher.settings

theorem fitted_of_create {settings : Config.Settings} {searcher : Searcher}
    (valid : settings.Valid) (created : create settings = .ok searcher) : searcher.Fitted := by
  unfold create at created
  obtain ⟨words, -, created⟩ := exists_of_bind_eq_ok created
  obtain ⟨fuzzy, -, created⟩ := exists_of_bind_eq_ok created
  obtain ⟨near, -, created⟩ := exists_of_bind_eq_ok created
  obtain ⟨facts, -, created⟩ := exists_of_bind_eq_ok created
  obtain ⟨texts, -, created⟩ := exists_of_bind_eq_ok created
  obtain ⟨monitor, -, created⟩ := exists_of_bind_eq_ok created
  cases created
  exact ⟨valid, rfl⟩

variable {searcher : Searcher} {files : Tree} {path : Path}

theorem Fitted.positive (fitted : searcher.Fitted) : 1 ≤ searcher.scanner.chunkSize {} := by
  unfold Scanner.chunkSize
  rw [fitted.reading]
  exact fitted.valid.inBounds.chunkSize

/-- A step of the scanner that comes to a value leaves a fitted searcher, if it keeps the settings of
the scanner. -/
theorem Fitted.exists_run_scanning (fitted : searcher.Fitted) {α : Type}
    (step : Scanner → StateM Session (Except Failure α × Scanner)) {value : α}
    (given : ((step searcher.scanner).run searcher.session).1.1 = .ok value)
    (kept : ((step searcher.scanner).run searcher.session).1.2.settings =
      searcher.scanner.settings)
    (records : Array Log.Record) :
    ∃ after, (scanning step).run.run (searcher, records) = (.ok value, after) ∧
      after.1.Fitted := by
  obtain ⟨added, ran⟩ := run_scanning step searcher records
  rw [given] at ran
  exact ⟨_, ran, fitted.valid, kept.trans fitted.reading⟩

/-! ## Files in turn -/

/-- What the scan of a file comes to. -/
def scanOf (files : Tree) (query : Expr) (options : MatchOptions) (path : Path)
    (searcher : Searcher) : Except Failure Scanner.ChunkOutcome :=
  ((searcher.scanner.process files path.text (queryMatcher query options) {}
    searcher.settings.streaming.firstOnly).run searcher.session).1.1

/-- The scans of several files, each by the searcher that the search of the file before it leaves. -/
def scans (files : Tree) (query : Expr) (options : MatchOptions) (lines : Bool) :
    List Path → Searcher × Array Log.Record → List (Path × Except Failure Scanner.ChunkOutcome)
  | [], _ => []
  | path :: rest, state =>
    (path, scanOf files query options path state.1)
      :: scans files query options lines rest
        ((searchFile files path.text query options lines).run.run state).2

/-- A finding tells of the scan of a file. -/
structure Tells (scan : Path × Scanner.ChunkOutcome) (finding : Finding) : Prop where
  path : finding.path = scan.1.text
  matched : finding.matched = scan.2.matched
  error : finding.error = scan.2.error.map SearchError.message

/-- The search of a file comes to a finding that tells of its scan. -/
theorem Fitted.exists_run_searchFile (fitted : searcher.Fitted)
    (admissible : Tree.admissible (Path.ofString path.text) = true) (query : Expr)
    (options : MatchOptions) (lines : Bool) (records : Array Log.Record) :
    ∃ outcome finding after, scanOf files query options path searcher = .ok outcome ∧
      (∀ error ∈ outcome.error, error.OfFile) ∧
      (searchFile files path.text query options lines).run.run (searcher, records) =
        (.ok finding, after) ∧
      after.1.Fitted ∧ Tells (path, outcome) finding := by
  obtain ⟨outcome, scanned, ofFile⟩ :=
    (Scanner.ensures_process_outcome {} searcher.settings.streaming.firstOnly admissible
      fitted.positive answers_queryMatcher searcher.session trivial).1
  obtain ⟨⟨middle, added⟩, ran, left⟩ := fitted.exists_run_scanning
    (fun scanner => scanner.process files path.text (queryMatcher query options) {}
      searcher.settings.streaming.firstOnly)
    scanned (Scanner.settings_process {} _ searcher.session) records
  unfold searchFile
  rw [run_bind_of_ok (run_get _)]
  dsimp only
  rw [run_bind_of_ok ran]
  -- A second scan adds lines to the finding and leaves its verdict as it is.
  split
  · obtain ⟨found, listed⟩ :=
      (Scanner.ensures_lines_outcome {} searcher.settings.streaming.lineLimit admissible
        left.positive answers_lineMatcher middle.session trivial).1
    obtain ⟨after, ranLines, last⟩ := left.exists_run_scanning
      (fun scanner => scanner.lines files path.text (lineMatcher query options) {}
        searcher.settings.streaming.lineLimit)
      listed (Scanner.settings_lines {} _ middle.session) added
    rw [run_bind_of_ok ranLines]
    exact ⟨outcome, _, _, scanned, ofFile, rfl, last, rfl, rfl, rfl⟩
  · exact ⟨outcome, _, _, scanned, ofFile, rfl, left, rfl, rfl, rfl⟩

/-- The search of several files comes to findings that tell of their scans, in the order of the files. -/
theorem Fitted.exists_run_searchFiles (query : Expr) (options : MatchOptions) (lines : Bool)
    {paths : List Path}
    (admissible : ∀ path ∈ paths, Tree.admissible (Path.ofString path.text) = true)
    (fitted : searcher.Fitted) (records : Array Log.Record) :
    ∃ course findings after,
      scans files query options lines paths (searcher, records) =
        course.map (fun scan => (scan.1, .ok scan.2)) ∧
      (∀ scan ∈ course, ∀ error ∈ scan.2.error, error.OfFile) ∧
      (searchFiles files query options lines paths).run.run (searcher, records) =
        (.ok findings, after) ∧
      List.Forall₂ Tells course findings := by
  -- Every file is searched by the searcher that the file before it leaves.
  induction paths generalizing searcher records with
  | nil => exact ⟨[], [], _, rfl, List.forall_mem_nil _, rfl, .nil⟩
  | cons path rest inductionHypothesis =>
      obtain ⟨outcome, finding, ⟨next, added⟩, scanned, ofFile, ran, left, tells⟩ :=
        fitted.exists_run_searchFile (admissible path List.mem_cons_self) query options lines records
      obtain ⟨course, findings, after, scansRest, ofFiles, ranRest, tellsRest⟩ :=
        inductionHypothesis (fun other member => admissible other (List.mem_cons_of_mem _ member))
          left added
      refine ⟨(path, outcome) :: course, finding :: findings, after, ?_, ?_, ?_, .cons tells tellsRest⟩
      · rw [scans, scanned, ran, scansRest, List.map_cons]
      · exact List.forall_mem_cons.mpr ⟨ofFile, ofFiles⟩
      · rw [searchFiles, run_bind_of_ok ran, run_bind_of_ok ranRest]
        rfl

theorem map_fst_scans (lines : Bool) (paths : List Path) (state : Searcher × Array Log.Record) :
    (scans files query options lines paths state).map Prod.fst = paths := by
  induction paths generalizing state with
  | nil => rfl
  | cons path rest inductionHypothesis => rw [scans, List.map_cons, inductionHypothesis]

/-! ## Reports of scans -/

/-- A report accounts for the scans of some files: it counts them all, tells those that came to an error from
those that matched, and keeps their order. -/
structure Accounts (course : List (Path × Scanner.ChunkOutcome)) (report : Report) : Prop where
  searched : report.searched = course.length
  failed : List.Sublist (report.failed.map Finding.path) (course.map (·.1.text))
  matched : List.Sublist (report.matched.map Finding.path) (course.map (·.1.text))
  apart : List.Disjoint (report.failed.map Finding.path) (report.matched.map Finding.path)
  failed_iff : ∀ scan ∈ course,
    scan.1.text ∈ report.failed.map Finding.path ↔ ∃ error, scan.2.error = some error
  matched_iff : ∀ scan ∈ course, scan.2.error = none →
    (scan.1.text ∈ report.matched.map Finding.path ↔ scan.2.matched = true)
  ofFile : ∀ scan ∈ course, ∀ error ∈ scan.2.error, error.OfFile

section

variable {course : List (Path × Scanner.ChunkOutcome)} {findings : List Finding}

theorem Tells.error? {scan : Path × Scanner.ChunkOutcome} {finding : Finding}
    (tells : Tells scan finding) : finding.error?.isSome = scan.2.error.isSome := by
  unfold Finding.error?
  rw [tells.error]
  cases scan.2.error with
  | none => rfl
  | some error => simp [Option.filter_some, error.message_ne_empty]

/-- Findings that are kept for what their scans came to have the paths of these scans. -/
theorem map_path_filter (tells : List.Forall₂ Tells course findings) {keep : Finding → Bool}
    {keepScan : Path × Scanner.ChunkOutcome → Bool}
    (same : ∀ scan finding, Tells scan finding → keep finding = keepScan scan) :
    (findings.filter keep).map Finding.path = (course.filter keepScan).map (·.1.text) := by
  induction tells with
  | nil => rfl
  | cons first _ inductionHypothesis =>
      rw [List.filter_cons, List.filter_cons, same _ _ first]
      split
      · rw [List.map_cons, List.map_cons, first.path, inductionHypothesis]
      · exact inductionHypothesis

/-- Among scans of different files, the path of a scan is among those of the kept scans if the scan is
kept. -/
theorem mem_map_filter_iff (distinct : (course.map (·.1.text)).Nodup)
    {keepScan : Path × Scanner.ChunkOutcome → Bool} {scan : Path × Scanner.ChunkOutcome}
    (member : scan ∈ course) :
    scan.1.text ∈ (course.filter keepScan).map (·.1.text) ↔ keepScan scan = true := by
  constructor
  · intro listed
    obtain ⟨other, kept, same⟩ := List.mem_map.mp listed
    obtain ⟨otherMember, holds⟩ := List.mem_filter.mp kept
    exact List.inj_on_of_nodup_map distinct otherMember member same ▸ holds
  · exact fun holds => List.mem_map_of_mem (List.mem_filter.mpr ⟨member, holds⟩)

/-- Findings that tell of scans of different files make up a report that accounts for them. -/
theorem accounts_reportOf (tells : List.Forall₂ Tells course findings)
    (distinct : (course.map (·.1.text)).Nodup)
    (ofFile : ∀ scan ∈ course, ∀ error ∈ scan.2.error, error.OfFile) (query : String) (root : Path) :
    Accounts course (reportOf query root findings) := by
  have failed : (reportOf query root findings).failed.map Finding.path =
      (course.filter fun scan => scan.2.error.isSome).map (·.1.text) :=
    map_path_filter tells fun scan finding told => told.error?
  have matched : (reportOf query root findings).matched.map Finding.path =
      (course.filter fun scan => scan.2.error.isNone && scan.2.matched).map (·.1.text) := by
    refine map_path_filter tells fun scan finding told => ?_
    rw [← Option.not_isSome, ← Option.not_isSome, told.error?, told.matched]
  have failed_iff : ∀ scan ∈ course, scan.1.text ∈ (reportOf query root findings).failed.map
      Finding.path ↔ scan.2.error.isSome = true :=
    fun scan member => failed ▸ mem_map_filter_iff distinct member
  have matched_iff : ∀ scan ∈ course, scan.1.text ∈ (reportOf query root findings).matched.map
      Finding.path ↔ (scan.2.error.isNone && scan.2.matched) = true :=
    fun scan member => matched ▸ mem_map_filter_iff distinct member
  refine ⟨?_, ?_, ?_, ?_, ?_, ?_, ofFile⟩
  · exact congrArg Int.ofNat tells.length_eq.symm
  · exact failed ▸ List.filter_sublist.map _
  · exact matched ▸ List.filter_sublist.map _
  · intro text inFailed inMatched
    rw [failed] at inFailed
    obtain ⟨scan, kept, rfl⟩ := List.mem_map.mp inFailed
    obtain ⟨member, hasError⟩ := List.mem_filter.mp kept
    have noError := (Bool.and_eq_true_iff.mp ((matched_iff scan member).mp inMatched)).1
    rw [← Option.not_isSome, hasError] at noError
    cases noError
  · exact fun scan member => (failed_iff scan member).trans Option.isSome_iff_exists
  · intro scan member noError
    rw [matched_iff scan member, noError]
    exact Iff.rfl

end

/-! ## Searches below a path -/

section

variable {root : Path} {question : Question} {options : Option MatchOptions} {wanted : Wanted}
  {lines : Bool} {records : Array Log.Record}

/-- A search ends with the failure of its listing. -/
theorem run_searchTree_of_refused {used : Number} {failure : Failure}
    (refused : listing files root wanted = .error failure) :
    (searchTree files root question options wanted lines used).run.run (searcher, records) =
      (.error failure, (searcher, records)) := by
  unfold searchTree
  rw [run_bind_of_ok (run_get _), refused]
  rfl

/-- A search reports what it finds in the files that are listed. -/
theorem exists_run_searchTree {paths : List Path} {findings : List Finding}
    {after : Searcher × Array Log.Record} (listed : listing files root wanted = .ok paths)
    (ran : (searchFiles files question.query (options.getD searcher.defaultOptions) lines
      paths).run.run (searcher, records) = (.ok findings, after)) (used : Number) :
    ∃ last, (searchTree files root question options wanted lines used).run.run
      (searcher, records) = (.ok (reportOf question.text root findings), last) := by
  have given : (pure paths : Searching (List Path)).run.run (searcher, records) =
      (.ok paths, (searcher, records)) := rfl
  unfold searchTree
  rw [run_bind_of_ok (run_get _), listed]
  dsimp only
  rw [run_bind_of_ok given, run_bind_of_ok ran]
  exact ⟨_, rfl⟩

end

/-- A search below a path where something stands ends with a report that accounts for the scans of all
files that are listed, whatever the query, the options and the caches, and whatever becomes of single files,
if and only if the system answers whatever the walk asks: it tells what every visible entry of a listed folder
is, and no folder fails to be listed for another reason than a missing permission. -/
theorem searchTree_accounts_iff {searcher : Searcher} {files standing : Tree} {root : Path}
    (fitted : searcher.Fitted) (found : files.require root = .ok standing)
    (apart : standing.NamesApart) (plain : standing.NamesPlain) (question : Question)
    (options : Option MatchOptions) (wanted : Wanted) (lines : Bool) (used : Number)
    (records : Array Log.Record) :
    (∃ report after paths course,
      (searchTree files root question options wanted lines used).run.run (searcher, records) =
        (.ok report, after) ∧
      listing files root wanted = .ok paths ∧
      course.map Prod.fst = paths ∧
      scans files question.query (options.getD searcher.defaultOptions) lines paths
          (searcher, records) = course.map (fun scan => (scan.1, .ok scan.2)) ∧
      Accounts course report) ↔ Answered wanted root 0 standing := by
  rw [← exists_listing_iff found apart]
  constructor
  · rintro ⟨-, -, paths, -, -, listed, -⟩
    exact ⟨paths, listed⟩
  · rintro ⟨paths, listed⟩
    obtain ⟨distinct, admissible⟩ := distinct_of_listing found apart plain listed
    obtain ⟨course, findings, after, scanned, ofFile, ran, tells⟩ :=
      fitted.exists_run_searchFiles question.query (options.getD searcher.defaultOptions) lines
        admissible records
    obtain ⟨last, reported⟩ := exists_run_searchTree listed ran used
    have yielded : course.map Prod.fst = paths := by
      rw [← map_fst_scans lines paths (searcher, records), scanned, List.map_map]
      rfl
    have texts : course.map (·.1.text) = paths.map Path.text := by
      rw [← yielded, List.map_map]
      rfl
    exact ⟨_, last, paths, course, reported, listed, yielded, scanned,
      accounts_reportOf tells (texts ▸ distinct) ofFile question.text root⟩

/-- Two short files, of which the second tells of cats, a longer one, and one that may not be read. -/
def petTree : Tree :=
  .folder [("a.txt", .file (Utf8.encodeString "dog") 0.0),
    ("b.txt", .file (Utf8.encodeString "cats") 0.0),
    ("c.txt", .file (Utf8.encodeString "dogs and cats") 0.0),
    ("d.txt", .file (Utf8.encodeString "cats") 0.0 (some .denied))]

theorem namesApart_petTree : petTree.NamesApart := by
  refine .folder (by decide) fun entry member => ?_
  simp only [List.mem_cons, List.not_mem_nil, or_false] at member
  rcases member with rfl | rfl | rfl | rfl <;> exact .file _ _ _

theorem namesPlain_petTree : petTree.NamesPlain := by
  intro names shown
  obtain ⟨-, entry, member, rest, rfl, ends⟩ := Tree.shows_folder_iff.mp shown
  simp only [List.mem_cons, List.not_mem_nil, or_false] at member
  rcases member with rfl | rfl | rfl | rfl <;>
    rw [Tree.shows_file_iff.mp ends] <;> decide

def catsQuestion : Question :=
  ⟨"cats", .literal (.plain "cats")⟩

/-- Options for contents of at most four characters. -/
def shortOptions : MatchOptions :=
  { writtenOptions with sizeLimit := some 4 }

def petPaths : List Path :=
  ["a.txt", "b.txt", "c.txt", "d.txt"].map fun name => ⟨"", [name]⟩

theorem listing_petTree : listing petTree ⟨"", []⟩ {} = .ok petPaths := by
  rw [petTree, listing_of_folder rfl, walkTree,
    if_pos (show Wanted.admitsDepth {} 0 = true from rfl)]
  dsimp only
  rw [inNameOrder_of_pairwise (by decide +kernel)]
  decide +kernel

/-- The file whose content is too large and the one that may not be read are told apart from the one that
matches, and do not keep the search from any. -/
theorem searchTree_accounts_for_pets :
    create smallChunks = .ok smallSearcher ∧
      ∃ report after course,
        (searchTree petTree ⟨"", []⟩ catsQuestion (some shortOptions) {} false
            (.whole 0)).run.run (smallSearcher, #[]) = (.ok report, after) ∧
          listing petTree ⟨"", []⟩ {} = .ok petPaths ∧ course.map Prod.fst = petPaths ∧
          Accounts course report ∧ report.searched = 4 ∧
          report.matched.map Finding.path = ["b.txt"] ∧
          report.failed.map Finding.path = ["c.txt", "d.txt"] := by
  have created : create smallChunks = .ok smallSearcher := rfl
  have found : petTree.require ⟨"", []⟩ = .ok petTree := rfl
  obtain ⟨report, after, paths, course, ran, listed, yielded, -, accounts⟩ :=
    (searchTree_accounts_iff (fitted_of_create valid_smallChunks created) found namesApart_petTree
      namesPlain_petTree catsQuestion (some shortOptions) {} false (.whole 0) #[]).mpr
      ((exists_listing_iff found namesApart_petTree).mp ⟨_, listing_petTree⟩)
  have told : ((searchTree petTree ⟨"", []⟩ catsQuestion (some shortOptions) {} false
      (.whole 0)).run.run (smallSearcher, #[])).1.map (fun report => (report.searched,
        report.matched.map Finding.path, report.failed.map Finding.path)) =
      .ok (4, ["b.txt"], ["c.txt", "d.txt"]) := by
    unfold searchTree
    rw [listing_petTree]
    decide +kernel
  rw [ran] at told
  cases listing_petTree.symm.trans listed
  injection told with told
  simp only [Prod.mk.injEq] at told
  exact ⟨created, report, after, course, ran, listing_petTree, yielded, accounts, told⟩

/-- A folder stands at a path of 4091 bytes, and a search for an accepted query with the default settings
comes to no report, since the path of its file has two bytes more than the system takes. -/
theorem searchTree_refused_of_detours :
    Config.Settings.Valid {} ∧ parse "cat" = .ok (.literal (.plain "cat")) ∧
      outerFolder.require (detour 818 ["d"]) = .ok (.folder innerFolder) ∧
      ∃ searcher, create {} = .ok searcher ∧
        ((searchTree outerFolder (detour 818 ["d"]) ⟨"cat", .literal (.plain "cat")⟩ none {} false
            (.whole 0)).run.run (searcher, #[])).1 =
          .error (.file .nameTooLong (detour 818 ["d", "a.txt"]).text) :=
  ⟨Config.Settings.valid_default, rfl, require_detour le_rfl, _, rfl,
    congrArg Prod.fst (run_searchTree_of_refused listing_detour)⟩

end Searcher

end BooleanSearch
