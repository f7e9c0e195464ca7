import BooleanSearch.Proofs.Stream.GrowingScan

/-!
# Scans come to outcomes

What the system refuses at a path, and files and contents that are too large, are errors that a scan
tells as part of its outcome.  With a chunk size of at least one byte nothing else can go wrong, as long as
the matcher fails in no other way: whatever the caches of the scanner hold, every scan of a path that can
be given to the system comes to an outcome.
-/

namespace BooleanSearch

/-- A file cannot be read, or a file or content is too large. -/
def SearchError.OfFile (error : SearchError) : Prop :=
  error.category = .fileRead ∨ error.category = .contentTooLarge

namespace Stream

open Files

theorem ofFile_of_answered {failure : Failure} {error : SearchError}
    (answered : answered? failure = some error) : error.OfFile := by
  unfold answered? at answered
  split at answered
  · next told =>
      split at answered
      · next category =>
          cases answered
          exact Or.inl category
      · next category =>
          cases answered
          exact Or.inr category
      · cases answered
  · cases answered

/-- A scan that ends with a failure is told of if the failure is part of an answer. -/
theorem answered_of_some {failure : Failure} (answered : (answered? failure).isSome) :
    ∀ other, some failure = some other → (answered? other).isSome := by
  rintro other ⟨⟩
  exact answered

/-! ## What looking up refuses -/

namespace Scanner

variable {files : Tree} {path : String} {failure : Failure}

theorem answered_of_stats (admissible : Tree.admissible (Path.ofString path) = true)
    {scanner : Scanner} (refused : (scanner.stats files path).1 = .error failure) :
    (answered? failure).isSome := by
  unfold stats at refused
  cases found : files.require (Path.ofString path) with
  | ok standing =>
      rw [found] at refused
      dsimp only at refused
      split at refused
      · cases refused
      · split at refused <;> cases refused
  | error reason =>
      rw [found] at refused
      have answered := answered_of_require admissible found
      dsimp only at refused
      split at refused
      · cases refused
        exact answered
      · split at refused
        · cases refused
        · cases refused
          exact answered

theorem answered_of_checkedStats (admissible : Tree.admissible (Path.ofString path) = true)
    {scanner : Scanner} {limit : Option Int}
    (refused : (scanner.checkedStats files path limit).1 = .error failure) :
    (answered? failure).isSome := by
  unfold checkedStats at refused
  split at refused
  · next reason after looked =>
      cases refused
      exact answered_of_stats admissible (congrArg Prod.fst looked)
  · split at refused
    · cases refused
      rfl
    · split at refused
      · cases refused
      · split at refused
        · cases refused
          rfl
        · cases refused

theorem answered_of_readText (admissible : Tree.admissible (Path.ofString path) = true)
    {scanner : Scanner} {facts : FileFacts}
    (refused : (scanner.readText files path facts).1 = .error failure) :
    (answered? failure).isSome := by
  have fresh : ∀ reason, (bytesAt files path).map Utf8.decode = .error reason →
      (answered? reason).isSome := by
    intro reason failed
    cases read : bytesAt files path with
    | ok bytes =>
        rw [read] at failed
        cases failed
    | error other =>
        rw [read] at failed
        cases failed
        exact answered_of_bytesAt admissible read
  unfold readText at refused
  dsimp only at refused
  split at refused
  · dsimp only at refused
    exact fresh failure refused
  · split at refused
    · cases refused
    · split at refused
      · cases refused
      · next reason failed =>
          cases refused
          exact fresh failure failed

end Scanner

/-! ## Scans by chunks -/

variable {σ : Type} {admits : σ → Prop} {accepts : Matcher (StateM σ)}

/-- A matcher fails only in ways that are part of answers. -/
abbrev Answers (admits : σ → Prop) (accepts : Matcher (StateM σ)) : Prop :=
  Vouches admits accepts fun _ => True

namespace Scanner

variable {scanner : Scanner} {files : Tree} {path : String}

theorem exists_outcome_of_answered {scan : ChunkScan}
    (answered : ∀ failure, scan.failure = some failure → (answered? failure).isSome)
    (path : String) (scanner : Scanner) :
    ∃ outcome, (conclude path scan scanner).1 = .ok outcome ∧
      ∀ error ∈ outcome.error, error.OfFile := by
  unfold conclude
  cases failed : scan.failure with
  | none => exact ⟨_, rfl, nofun⟩
  | some failure =>
      obtain ⟨error, told⟩ := Option.isSome_iff_exists.mp (answered failure failed)
      dsimp only
      rw [told]
      refine ⟨_, rfl, fun other same => ?_⟩
      cases same
      exact ofFile_of_answered told

/-- A scan by chunks comes to an outcome. -/
theorem ensures_process_outcome (request : Request) (firstOnly : Bool)
    (admissible : Tree.admissible (Path.ofString path) = true)
    (positive : 1 ≤ scanner.chunkSize request) (answers : Answers admits accepts) :
    Ensures admits (scanner.process files path accepts request firstOnly) fun result =>
      ∃ outcome, result.1 = .ok outcome ∧ ∀ error ∈ outcome.error, error.OfFile := by
  have grows : Grows fun _ => True := fun _ _ _ => id
  unfold process
  dsimp only
  split
  · next failure after looked =>
      have answered := answered_of_checkedStats admissible (congrArg Prod.fst looked)
      exact Ensures.pure (exists_outcome_of_answered (answered_of_some answered) path after)
  · next facts after looked =>
      rw [reading_of_positive positive]
      by_cases small : (facts.size : Int) < scanner.chunkSize request
      · rw [if_pos small]
        dsimp only
        split
        · next failure last read =>
            have answered := answered_of_readText admissible (congrArg Prod.fst read)
            exact Ensures.pure (exists_outcome_of_answered (answered_of_some answered) path last)
        · next text last read =>
            exact Ensures.bind (ensures_scanText_of_vouches answers (vouched_start _) _)
              fun scan vouched => Ensures.pure (exists_outcome_of_answered vouched.answered path last)
      · rw [if_neg small]
        dsimp only
        split
        · next failure refused =>
            have answered := answered_of_chunks admissible refused
            exact Ensures.pure (exists_outcome_of_answered (answered_of_some answered) path after)
        · next pieces given =>
            exact Ensures.bind (ensures_scanChunks_of_vouches grows answers rfl rfl rfl)
              fun scan vouched =>
                Ensures.pure (exists_outcome_of_answered vouched.answered path after)

end Scanner

/-! ## Scans line by line -/

/-- A scan of lines has failed only as part of an answer. -/
def LineScan.Told (scan : LineScan) : Prop :=
  ∀ failure, scan.failure = some failure → (answered? failure).isSome

theorem told_of_answered {failure : Failure} (answered : (answered? failure).isSome) :
    LineScan.Told { failure := some failure } :=
  answered_of_some answered

/-- A scan of lines has failed only in ways that are allowed. -/
def LineScan.FailsOnly (allowed : Failure → Prop) (scan : LineScan) : Prop :=
  ∀ failure, scan.failure = some failure → allowed failure

theorem failsOnly_start {allowed : Failure → Prop} : LineScan.FailsOnly allowed {} :=
  nofun

theorem Ensures.foldlM {ι β : Type} {invariant : β → Prop} {step : β → ι → StateM σ β}
    (keeps : ∀ state item, invariant state → Ensures admits (step state item) invariant)
    (items : List ι) {start : β} (holds : invariant start) :
    Ensures admits (items.foldlM step start) invariant := by
  induction items generalizing start with
  | nil => exact Ensures.pure holds
  | cons item rest inductionHypothesis =>
      rw [List.foldlM_cons]
      exact Ensures.bind (keeps start item holds) fun _ => inductionHypothesis

section

variable {allowed : Failure → Prop}
  (fails : ∀ text, Ensures admits (accepts text) fun outcome =>
    ∀ failure, outcome = .error failure → allowed failure)
  {state : LineState}

include fails

theorem ensures_endLine_failsOnly (before : state.scan.FailsOnly allowed) (limit : Int)
    (skipped : Nat) :
    Ensures admits (state.endLine accepts limit skipped) (·.scan.FailsOnly allowed) := by
  unfold LineState.endLine
  refine Ensures.bind (fails _) fun outcome known => ?_
  cases outcome with
  | error failure =>
      refine Ensures.pure fun other same => ?_
      rw [← Option.some.inj same]
      exact known failure rfl
  | ok verdict =>
      cases verdict with
      | false => exact Ensures.pure before
      | true =>
          refine Ensures.pure ?_
          dsimp only
          unfold LineScan.add
          split <;> exact before

theorem ensures_takeByte_failsOnly (before : state.scan.FailsOnly allowed) (limit : Int)
    (byte : UInt8) :
    Ensures admits (state.takeByte accepts limit byte) (·.scan.FailsOnly allowed) := by
  unfold LineState.takeByte
  split
  · exact Ensures.pure before
  · split
    · exact ensures_endLine_failsOnly fails before limit 1
    · exact Ensures.pure before

theorem ensures_foldlM_failsOnly (before : state.scan.FailsOnly allowed) (limit : Int)
    (bytes : Bytes) :
    Ensures admits (bytes.foldlM (LineState.takeByte accepts limit) state)
      (·.scan.FailsOnly allowed) := by
  rw [← Array.foldlM_toList]
  exact Ensures.foldlM (fun _ byte kept => ensures_takeByte_failsOnly fails kept limit byte) _ before

theorem ensures_finish_failsOnly (before : state.scan.FailsOnly allowed) (limit : Int) :
    Ensures admits (state.finish accepts limit) (LineScan.FailsOnly allowed) := by
  unfold LineState.finish
  split
  · exact Ensures.pure before
  · exact Ensures.bind (ensures_endLine_failsOnly fails before limit 0) fun _ after =>
      Ensures.pure after

theorem ensures_scanWhole_failsOnly (limit : Int) (bytes : Bytes) :
    Ensures admits (scanWhole accepts limit bytes) (LineScan.FailsOnly allowed) :=
  Ensures.bind (ensures_foldlM_failsOnly fails failsOnly_start limit bytes) fun _ after =>
    ensures_finish_failsOnly fails after limit

theorem ensures_scanLines_failsOnly (limit longest : Int) (chunks : List Bytes) :
    Ensures admits (scanLines accepts limit longest chunks) (LineScan.FailsOnly allowed) := by
  refine Ensures.bind (Ensures.foldlM (fun state chunk before => ?_) chunks failsOnly_start)
    fun _ after => ensures_finish_failsOnly fails after limit
  refine Ensures.bind (ensures_foldlM_failsOnly fails before limit chunk) fun next after => ?_
  split
  · exact ensures_endLine_failsOnly fails after limit 0
  · exact Ensures.pure after

end

namespace Scanner

variable {scanner : Scanner} {files : Tree} {path : String}

theorem exists_outcome_of_told {scan : LineScan} (told : scan.Told) :
    ∃ outcome, concludeLines scan = .ok outcome := by
  unfold concludeLines
  cases failed : scan.failure with
  | none => exact ⟨_, rfl⟩
  | some failure =>
      obtain ⟨error, answered⟩ := Option.isSome_iff_exists.mp (told failure failed)
      dsimp only
      rw [answered]
      exact ⟨_, rfl⟩

/-- A scan line by line comes to an outcome. -/
theorem ensures_lines_outcome (request : Request) (limit : Int)
    (admissible : Tree.admissible (Path.ofString path) = true)
    (positive : 1 ≤ scanner.chunkSize request) (answers : Answers admits accepts) :
    Ensures admits (scanner.lines files path accepts request limit) fun result =>
      ∃ outcome, result.1 = .ok outcome := by
  have fails := fun text => (answers text).imp fun _ known => known.2
  unfold lines
  dsimp only
  split
  · next failure after looked =>
      have answered := answered_of_checkedStats admissible (congrArg Prod.fst looked)
      exact Ensures.pure (exists_outcome_of_told (told_of_answered answered))
  · next facts after looked =>
      rw [reading_of_positive positive]
      by_cases small : (facts.size : Int) < scanner.chunkSize request
      · rw [if_pos small]
        dsimp only
        split
        · next failure refused =>
            have answered := answered_of_bytesAt admissible refused
            exact Ensures.pure (exists_outcome_of_told (told_of_answered answered))
        · exact Ensures.bind (ensures_scanWhole_failsOnly fails limit _) fun scan told =>
            Ensures.pure (exists_outcome_of_told told)
      · rw [if_neg small]
        dsimp only
        split
        · next failure refused =>
            have answered := answered_of_chunks admissible refused
            exact Ensures.pure (exists_outcome_of_told (told_of_answered answered))
        · exact Ensures.bind (ensures_scanLines_failsOnly fails limit _ _) fun scan told =>
            Ensures.pure (exists_outcome_of_told told)

/-! ## The settings of a scanner -/

theorem settings_stats : (scanner.stats files path).2.settings = scanner.settings := by
  unfold stats
  dsimp only
  split
  · rfl
  · split
    · rfl
    · split <;> rfl

theorem settings_checkedStats (limit : Option Int) :
    (scanner.checkedStats files path limit).2.settings = scanner.settings := by
  rw [(checkedStats_spec scanner files path limit).1]
  exact settings_stats

theorem settings_readText (facts : FileFacts) :
    (scanner.readText files path facts).2.settings = scanner.settings := by
  unfold readText
  dsimp only
  split
  · rfl
  · split
    · rfl
    · split <;> rfl

theorem settings_opened (request : Request) :
    (scanner.opened files path request).settings = scanner.settings := by
  have kept : (scanner.checkedStats files path request.sizeLimit).2.settings = scanner.settings :=
    settings_checkedStats request.sizeLimit
  unfold opened
  split
  · next looked =>
      rw [looked] at kept
      exact kept
  · next facts after looked =>
      rw [looked] at kept
      split
      · exact (settings_readText facts).trans kept
      · exact kept

/-- Scans work by the same settings ever after. -/
theorem settings_process (request : Request) (firstOnly : Bool) (state : σ) :
    ((scanner.process files path accepts request firstOnly).run state).1.2.settings =
      scanner.settings := by
  obtain ⟨scan, same⟩ := scanner.process_eq_conclude files path accepts request firstOnly
  obtain ⟨records, left⟩ := exists_records_conclude path (scan.run state).1
    (scanner.opened files path request)
  rw [same]
  exact (congrArg Scanner.settings left).trans (settings_opened request)

theorem settings_lines (request : Request) (limit : Int) (state : σ) :
    ((scanner.lines files path accepts request limit).run state).1.2.settings =
      scanner.settings := by
  obtain ⟨scan, same⟩ := scanner.lines_eq_conclude files path accepts request limit
  rw [same]
  exact settings_checkedStats request.sizeLimit

end Scanner

end Stream

end BooleanSearch
