import BooleanSearch.Proofs.Config.ValidSettings
import BooleanSearch.Proofs.Match.PlainTerms
import BooleanSearch.Proofs.Stream.DecodedLines
import BooleanSearch.Proofs.Stream.GrowingScan
import BooleanSearch.Proofs.Stream.WholeFile
import BooleanSearch.Searcher.Run

/-!
# Matches that can be shown

A search for plain terms reads a file twice: once by chunks, to tell whether it matches, and once by
lines, to tell where.  If the first reading matches, the text of the file contains a term, and since a
term has no line end, a line contains it.  So there are lines to show, and each of them contains a term
and stands at its offset.
-/

namespace BooleanSearch

open BooleanSearch.Stream Files Query

/-! ## The matchers of a search -/

namespace Searcher

variable {scope : Scope} {query : Expr} {options : MatchOptions} {line : Text}

/-- A refusal for the size of a content is part of an answer. -/
theorem isSome_answered_of_queryVerdict {content : Text} {failure : Failure}
    (given : queryVerdict scope.fuzzily query content options = .error failure) :
    (answered? failure).isSome := by
  have large : ¬ Fits content options := fun fits =>
    nomatch (queryVerdict_eq_judgement query fits).symm.trans given
  obtain ⟨limit, refused⟩ := sizeVerdict_of_not_fits large
  unfold queryVerdict at given
  rw [refused] at given
  cases given
  rfl

theorem grows_hasTerm (query : Expr) : Grows (HasTerm query) := by
  rintro before text after ⟨word, member, within⟩
  refine ⟨word, member, within.trans ?_⟩
  rw [Array.toList_append, Array.toList_append]
  exact List.infix_append _ _ _

/-- The matcher of texts accepts only those that contain a term. -/
theorem vouches_queryMatcher (asWritten : options.AsWritten) (plain : PlainQuery query)
    (asks : ∀ text, Asks scope query options text) :
    Vouches (Session.Sound scope) (queryMatcher query options) (HasTerm query) := by
  intro text session sound
  obtain ⟨answered, kept⟩ :=
    (gives_evaluate (asks text).admitted query (asks text).problems) session sound
  refine ⟨⟨fun holds => ?_, fun failure failed => ?_⟩, kept⟩
  · exact plain.hasTerm_of_queryVerdict asWritten (answered.symm.trans holds)
  · exact isSome_answered_of_queryVerdict (answered.symm.trans failed)

/-- Whether some of several terms stands in a line. -/
def someStands (fuzzily : Bool) (options : MatchOptions) (terms : List Query.Literal) (line : Text) :
    Bool :=
  terms.any fun term => !(termSpots fuzzily line term options .leaf).isEmpty

theorem gives_holdsSome (admitted : scope.Admits line options) (terms : List Query.Literal) :
    Gives scope (holdsSome line options terms)
      (.ok (someStands scope.fuzzily options terms line)) := by
  induction terms with
  | nil => exact Search.Answers.pure _
  | cons term rest inductionHypothesis =>
      unfold holdsSome someStands
      rw [List.any_cons]
      have found : Gives scope (termMatches line term options .leaf)
          (.ok (!(termSpots scope.fuzzily line term options .leaf).isEmpty)) :=
        Search.Answers.bind_ok (gives_termPositions admitted term .leaf) (Search.Answers.pure _)
      refine Search.Answers.bind_ok found ?_
      cases !(termSpots scope.fuzzily line term options .leaf).isEmpty with
      | true => exact Search.Answers.pure true
      | false => exact inductionHypothesis

theorem judges_lineMatcher (admitted : scope.Admits line options) :
    Judges (Session.Sound scope) (lineMatcher query options)
      (someStands scope.fuzzily options query.positiveLiterals) line :=
  gives_holdsSome admitted query.positiveLiterals

/-- The matcher of lines accepts exactly those that contain a term. -/
theorem someStands_iff (asWritten : options.AsWritten) (plain : PlainQuery query) (fuzzily : Bool) :
    someStands fuzzily options query.positiveLiterals line = true ↔ HasTerm query line := by
  unfold someStands
  rw [plain.positiveLiterals_eq, List.any_eq_true]
  simp only [Bool.not_eq_true', List.isEmpty_eq_false_iff]
  constructor
  · rintro ⟨term, member, found⟩
    obtain ⟨text, rfl, inLine⟩ := plain.exists_of_mem_literals member
    exact ⟨text, member, (termSpots_ne_nil_iff asWritten inLine.some_ .leaf).mp found⟩
  · rintro ⟨text, member, within⟩
    have inLine := plain.inLine_of_mem member
    exact ⟨_, member, (termSpots_ne_nil_iff asWritten inLine.some_ .leaf).mpr within⟩

/-! ## Lines to show -/

/-- A shown line contains a term of the query, and it is a line of the file as it is read, which starts at
the offset that is told. -/
structure Shown (query : Expr) (bytes : List UInt8) (shown : String) (offset : Int) : Prop where
  term : ∃ text, .plain text ∈ query.literals ∧ text.toList <:+: shown.toList
  place : ∃ start : Nat, ∃ line, offset = start ∧ LineAt bytes start line ∧
    shown = (readLine line).toString

/-- The accepted lines of a file. -/
def acceptedLines (fuzzily : Bool) (query : Expr) (options : MatchOptions) (bytes : List UInt8) :
    List (Nat × Text) :=
  accepted (someStands fuzzily options query.positiveLiterals) (located 0 (linesOf bytes))

variable {fuzzily : Bool} {bytes : List UInt8}

theorem shown_of_mem_acceptedLines (asWritten : options.AsWritten) (plain : PlainQuery query)
    {found : Nat × Text} (member : found ∈ acceptedLines fuzzily query options bytes) :
    Shown query bytes found.2.toString found.1 := by
  obtain ⟨here, holds⟩ := List.mem_filter.mp member
  obtain ⟨text, termMember, within⟩ := (someStands_iff asWritten plain fuzzily).mp holds
  obtain ⟨line, stands, read⟩ := lineAt_of_mem_located here
  refine ⟨⟨text, termMember, ?_⟩, found.1, line, rfl, stands, congrArg Text.toString read⟩
  unfold Text.toString
  rwa [String.toList_ofList]

/-- If the text of a file contains a term, one of its lines is accepted. -/
theorem acceptedLines_ne_nil (asWritten : options.AsWritten) (plain : PlainQuery query)
    (has : HasTerm query (Utf8.decode bytes.toArray)) :
    acceptedLines fuzzily query options bytes ≠ [] := by
  obtain ⟨text, member, within⟩ := has
  have inLine := plain.inLine_of_mem member
  have filled : text.toList ≠ [] := by simpa using inLine.some_
  obtain ⟨line, lineMember, inside⟩ :=
    exists_line_of_infix filled inLine.noBreak inLine.noReturn within
  obtain ⟨offset, found⟩ := exists_mem_located lineMember 0
  have holds := (someStands_iff asWritten plain fuzzily).mpr ⟨text, member, inside⟩
  exact List.ne_nil_of_mem (List.mem_filter.mpr ⟨found, holds⟩)

/-- The first accepted lines are shown, with the offsets of their first bytes. -/
theorem forall₂_shown (asWritten : options.AsWritten) (plain : PlainQuery query) (most : Nat) :
    List.Forall₂ (Shown query bytes)
      ((((acceptedLines fuzzily query options bytes).take most).map (·.2)).map Text.toString)
      ((((acceptedLines fuzzily query options bytes).take most).map (·.1)).map Int.ofNat) := by
  rw [List.map_map, List.map_map, List.forall₂_map_left_iff, List.forall₂_map_right_iff,
    List.forall₂_same]
  intro found member
  exact shown_of_mem_acceptedLines asWritten plain (List.mem_of_mem_take member)

/-- A scan of the lines of a file lists the accepted ones. -/
theorem ensures_lines_acceptedLines (query : Expr) (request : Scanner.Request) {scanner : Scanner}
    {files : Tree} {path : String} {content : Bytes} {modified : Float}
    (admitted : ∀ text, scope.Admits text options)
    (reads : scanner.Reads files path request content modified)
    (positive : 1 ≤ scanner.chunkSize request)
    (short : ∀ line ∈ linesOf content.toList,
      (line.length : Int) ≤ scanner.settings.bufferLimit)
    (most : Nat) :
    Ensures (Session.Sound scope)
      (scanner.lines files path (lineMatcher query options) request most) fun result =>
        result.1 = Scanner.concludeLines
          (firstOf most (acceptedLines scope.fuzzily query options content.toList)) := by
  have judges : ∀ text, Judges (Session.Sound scope) (lineMatcher query options)
      (someStands scope.fuzzily options query.positiveLiterals) text :=
    fun text => judges_lineMatcher (admitted text)
  obtain ⟨after, whole | inChunks⟩ :=
    Scanner.lines_of_reads (lineMatcher query options) reads positive most
  · rw [whole]
    exact Ensures.bind (ensures_scanWhole judges content) fun scan found =>
      Ensures.pure (congrArg Scanner.concludeLines found)
  · rw [inChunks]
    exact Ensures.bind (ensures_scanLines_chunksOf judges (by omega) content short)
      fun scan found => Ensures.pure (congrArg Scanner.concludeLines found)

/-! ## Searchers without caches -/

/-- The scope of everything, with fuzzy searches. -/
def wholeScope : Scope :=
  ⟨true, Set.univ, Set.univ, Set.univ⟩

theorem asks_wholeScope (query : Expr) (options : MatchOptions) (content : Text) :
    Asks wholeScope query options content :=
  ⟨⟨Set.mem_univ _, Set.mem_univ _⟩, fun _ _ => Set.mem_univ _⟩

/-- A searcher with some settings that keeps nothing from one scan to the next. -/
structure Uncached (config : Config.Settings) (searcher : Searcher) : Prop where
  settings : searcher.settings = config
  sound : searcher.session.Sound wholeScope
  cacheless : searcher.scanner.Cacheless
  reading : searcher.scanner.settings = scannerSettings config

theorem makeCache_of_disabled {ν : Type} {settings : Config.Settings}
    (disabled : settings.cache.enabled = false) (name : String) (size : Int)
    (lifetime : Option Float) (ceiling : Option Int) (weigh : String → ν → Nat) :
    makeCache settings name size lifetime ceiling weigh = .ok none := by
  unfold makeCache
  rw [disabled]
  rfl

/-- A new searcher keeps nothing if its caches are disabled. -/
theorem uncached_of_create {settings : Config.Settings} {searcher : Searcher}
    (disabled : settings.cache.enabled = false) (created : create settings = .ok searcher) :
    Uncached settings searcher := by
  have taken : ∀ {α β : Type} (value : α) (rest : α → Except Failure β),
      (Except.ok value >>= rest) = rest value := fun _ _ => rfl
  unfold create at created
  simp only [makeCache_of_disabled disabled, taken] at created
  obtain ⟨monitor, -, built⟩ := exists_of_bind_eq_ok created
  cases built
  exact ⟨rfl, ⟨rfl, Truthful.none, Truthful.none, Truthful.none⟩, ⟨rfl, rfl⟩, rfl⟩

/-! ## The course of a search -/

theorem run_bind_of_ok {α β : Type} {step : Searching α} {rest : α → Searching β} {value : α}
    {state after : Searcher × Array Log.Record}
    (given : step.run.run state = (.ok value, after)) :
    (step >>= rest).run.run state = (rest value).run.run after := by
  simp only [ExceptT.run_bind, StateT.run_bind, given]
  rfl

theorem run_get (state : Searcher × Array Log.Record) :
    (get : Searching (Searcher × Array Log.Record)).run.run state = (.ok state, state) :=
  rfl

/-- A searcher after a scan, whose reports are gathered elsewhere. -/
def afterScan (searcher : Searcher) (scanner : Scanner) (session : Session) : Searcher :=
  { searcher with
    scanner := { scanner with records := #[] }
    session := { session with records := #[] } }

theorem run_scanning {α : Type}
    (step : Scanner → StateM Session (Except Failure α × Scanner)) (searcher : Searcher)
    (records : Array Log.Record) :
    ∃ added, (scanning step).run.run (searcher, records) =
      (((step searcher.scanner).run searcher.session).1.1,
        (searcher.afterScan ((step searcher.scanner).run searcher.session).1.2
          ((step searcher.scanner).run searcher.session).2, added)) := by
  unfold scanning
  rw [run_bind_of_ok (run_get _)]
  dsimp only
  generalize (step searcher.scanner).run searcher.session = ran
  obtain ⟨⟨outcome, scanner⟩, session⟩ := ran
  refine ⟨records ++ session.records ++ scanner.records, ?_⟩
  cases outcome with
  | ok value => rfl
  | error failure => rfl

section

variable {config : Config.Settings} {searcher : Searcher} {files : Tree} {path : String}
  {content : Bytes} {modified : Float}

theorem Uncached.positive (uncached : Uncached config searcher)
    (inBounds : config.streaming.InBounds) : 1 ≤ searcher.scanner.chunkSize {} := by
  unfold Scanner.chunkSize
  rw [uncached.reading]
  exact inBounds.chunkSize

/-- A searcher without caches reads a file by chunks: it comes to an outcome and keeps nothing, and if the
file matches, it may be read again and contains a term. -/
theorem exists_run_process (uncached : Uncached config searcher)
    (inBounds : config.streaming.InBounds)
    (found : files.require (Path.ofString path) = .ok (.file content modified))
    (asWritten : options.AsWritten) (plain : PlainQuery query) (firstOnly : Bool)
    (records : Array Log.Record) :
    ∃ outcome after added,
      (scanning fun scanner =>
          scanner.process files path (queryMatcher query options) {} firstOnly).run.run
        (searcher, records) = (.ok outcome, (after, added)) ∧
      Uncached config after ∧
      (outcome.matched = true → after.scanner.Reads files path {} content modified ∧
        HasTerm query (Utf8.decode content)) := by
  obtain ⟨⟨outcome, given, matched⟩, kept⟩ := Scanner.ensures_process_of_vouches {}
    uncached.cacheless found (uncached.positive inBounds) (grows_hasTerm query)
    (vouches_queryMatcher asWritten plain (asks_wholeScope query options)) firstOnly
    searcher.session uncached.sound
  obtain ⟨reports, left⟩ := uncached.cacheless.exists_records_process files path
    (queryMatcher query options) {} firstOnly searcher.session
  obtain ⟨added, ran⟩ := run_scanning (fun scanner =>
    scanner.process files path (queryMatcher query options) {} firstOnly) searcher records
  rw [given, left] at ran
  refine ⟨outcome, _, added, ran, ⟨uncached.settings, kept.withRecords #[],
    ⟨uncached.cacheless.facts, uncached.cacheless.texts⟩, uncached.reading⟩, fun holds => ?_⟩
  exact ⟨((matched holds).1.withRecords #[]).reads, (matched holds).2⟩

/-- A searcher without caches reads the lines of a file: it comes to the accepted ones. -/
theorem run_lines (uncached : Uncached config searcher) (inBounds : config.streaming.InBounds)
    (reads : searcher.scanner.Reads files path {} content modified)
    (short : ∀ line ∈ linesOf content.toList,
      (line.length : Int) ≤ config.streaming.bufferLimit)
    (query : Expr) (options : MatchOptions) (most : Nat) (records : Array Log.Record) :
    ∃ truncated after,
      (scanning fun scanner =>
          scanner.lines files path (lineMatcher query options) {} most).run.run
        (searcher, records) =
        (.ok ⟨((acceptedLines true query options content.toList).take most).map (·.2),
          ((acceptedLines true query options content.toList).take most).map (·.1), truncated, none⟩,
          after) := by
  rw [show config.streaming.bufferLimit = searcher.scanner.settings.bufferLimit by
    rw [uncached.reading]; rfl] at short
  have listed := (ensures_lines_acceptedLines query {}
    (fun text => (asks_wholeScope query options text).admitted) reads (uncached.positive inBounds)
    short most searcher.session uncached.sound).1
  obtain ⟨added, ran⟩ := run_scanning (fun scanner =>
    scanner.lines files path (lineMatcher query options) {} most) searcher records
  rw [listed] at ran
  exact ⟨_, _, ran⟩

end

/-- Without caches, and with a buffer that has room for every line, a search for plain terms as they are
written comes to a finding.  If it tells of a match and of no error, there are lines to show, and each of
them contains a term and starts at the offset that is told. -/
theorem searchFile_shows {settings : Config.Settings} {searcher : Searcher} {files : Tree}
    {path : String} {content : Bytes} {modified : Float} {query : Expr} {options : MatchOptions}
    (valid : settings.Valid) (disabled : settings.cache.enabled = false)
    (created : create settings = .ok searcher)
    (found : files.require (Path.ofString path) = .ok (.file content modified))
    (short : ∀ line ∈ linesOf content.toList,
      (line.length : Int) ≤ settings.streaming.bufferLimit)
    (plain : PlainQuery query) (asWritten : options.AsWritten) (records : Array Log.Record) :
    ∃ finding, ((searchFile files path query options true).run.run (searcher, records)).1 =
        .ok finding ∧
      (finding.matched = true → finding.error = none →
        finding.lines ≠ [] ∧
          List.Forall₂ (Shown query content.toList) finding.lines finding.offsets) := by
  have uncached := uncached_of_create disabled created
  have inBounds := valid.inBounds
  obtain ⟨most, limit⟩ := Int.eq_ofNat_of_zero_le inBounds.lineLimit.le
  have room : 0 < most := by
    have positive := inBounds.lineLimit
    omega
  obtain ⟨outcome, after, added, scanned, left, matched⟩ := exists_run_process uncached inBounds
    found asWritten plain settings.streaming.firstOnly records
  have start : (get : Searching (Searcher × Array Log.Record)).run.run (searcher, records) =
      (.ok (searcher, records), (searcher, records)) := rfl
  unfold searchFile
  rw [run_bind_of_ok start]
  dsimp only
  rw [uncached.settings, run_bind_of_ok scanned, limit]
  -- The lines are read only if the first reading matched without an error.
  by_cases shows : (outcome.matched && outcome.error.isNone) = true
  · obtain ⟨reads, has⟩ := matched (Bool.and_eq_true_iff.mp shows).1
    obtain ⟨truncated, last, listed⟩ := run_lines left inBounds reads short query options most added
    rw [Bool.true_and, if_pos shows, run_bind_of_ok listed]
    refine ⟨_, rfl, fun _ _ => ⟨?_, ?_⟩⟩
    · have some_ : acceptedLines true query options content.toList ≠ [] :=
        acceptedLines_ne_nil asWritten plain has
      simp only [ne_eq, List.map_eq_nil_iff, List.take_eq_nil_iff, some_, room.ne', or_self,
        not_false_eq_true]
    · exact forall₂_shown asWritten plain most
  · rw [Bool.true_and, if_neg shows]
    refine ⟨_, rfl, fun holds noError => absurd ?_ shows⟩
    dsimp only at holds
    rw [Option.map_eq_none_iff] at noError
    rw [holds, noError]
    rfl

/-- Settings with small chunks and without caches. -/
def smallChunks : Config.Settings where
  streaming := { chunkSize := 4, bufferLimit := 9 }
  cache := { enabled := false }

theorem valid_smallChunks : smallChunks.Valid := by
  have read : Config.validate (.dict
      [(.text "streaming", .dict [(.text "chunk_size", .int 4), (.text "max_buffer_size", .int 9)]),
        (.text "cache", .dict [(.text "enabled", .bool false)])]) = .ok smallChunks := by
    simp only [Config.validate, Config.readSections, Config.readSection, Config.readStreaming,
      Config.readCache, Config.Section.setting, Value.lookup?, Value.same, String.reduceBEq,
      reduceCtorEq, imp_self, implies_true, Bool.false_eq_true, not_false_eq_true, BEq.rfl,
      List.find?_cons_of_neg, List.find?_cons_of_pos, List.find?_nil, Option.map_none,
      Option.map_some, pure_bind]
    rfl
  exact .read read

/-- Three lines, of which the second holds both words. -/
def catLines : Bytes := Utf8.encodeString "one\ntwo cats\r\nend"

def catTree : Tree := .folder [("a.txt", .file catLines 0.0)]

def nearCats : Expr := .near (.literal (.plain "two")) (.literal (.plain "cats")) (.int 1)

def writtenOptions : MatchOptions :=
  { caseSensitive := true, fuzzy := false, fuzzyNear := false }

/-- A new searcher for these settings. -/
def smallSearcher : Searcher where
  settings := smallChunks
  session := { matcher := some (.real 70.0) }
  scanner := { settings := scannerSettings smallChunks }
  monitor := ⟨.real 0.70, .real 0.85, some 20, [], .low⟩

/-- No chunk of four bytes holds both words, and yet the search matches and shows their line, without its
carriage return. -/
theorem searchFile_shows_cats :
    create smallChunks = .ok smallSearcher ∧
      ∃ finding, ((searchFile catTree "a.txt" nearCats writtenOptions true).run.run
          (smallSearcher, #[])).1 = .ok finding ∧
        finding.matched = true ∧ finding.error = none ∧ finding.lines ≠ [] ∧
        List.Forall₂ (Shown nearCats catLines.toList) finding.lines finding.offsets := by
  have created : create smallChunks = .ok smallSearcher := rfl
  have two : InLine "two" := ⟨by decide, by decide, by decide⟩
  have cats : InLine "cats" := ⟨by decide, by decide, by decide⟩
  obtain ⟨finding, given, shows⟩ := searchFile_shows valid_smallChunks rfl created
    (show catTree.require (Path.ofString "a.txt") = .ok (.file catLines 0.0) from rfl)
    (by decide +kernel) (.near (.int 1) (.literal two) (.literal cats))
    (show writtenOptions.AsWritten from ⟨rfl, rfl, rfl, rfl⟩) #[]
  have found : ((searchFile catTree "a.txt" nearCats writtenOptions true).run.run
      (smallSearcher, #[])).1 = .ok ⟨"a.txt", true, ["two cats"], [4], false, none⟩ := by
    decide +kernel
  cases found.symm.trans given
  exact ⟨created, _, given, rfl, rfl, shows rfl rfl⟩

end Searcher

end BooleanSearch
