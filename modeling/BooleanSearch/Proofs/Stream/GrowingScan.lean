import BooleanSearch.Proofs.Files.SpelledPaths
import BooleanSearch.Proofs.Stream.LineLocal
import BooleanSearch.Proofs.Stream.Versions

/-!
# Matchers for what grows

Some properties of a text stay when something is put around it, such as that a word stands in it.  If a matcher
accepts only texts with such a property, a scan by chunks that has matched tells that the whole file has it,
even if the matcher fails on some of the texts.  All that is offered is part of what has been decoded: the
buffer is its end, and is divided when it is emptied.  Without caches, a scan of a file leaves the scanner as
it was, and a match tells besides that the file was not refused.
-/

namespace BooleanSearch.Stream

open Files

/-- A property that a text keeps when something is put around it. -/
def Grows (good : Text → Prop) : Prop :=
  ∀ before text after, good text → good (before ++ text ++ after)

theorem Grows.append_left {good : Text → Prop} (grows : Grows good) {text : Text} (holds : good text)
    (after : Text) : good (text ++ after) := by
  simpa using grows #[] text after holds

theorem Grows.append_right {good : Text → Prop} (grows : Grows good) {text : Text} (holds : good text)
    (before : Text) : good (before ++ text) := by
  simpa using grows before text #[] holds

variable {σ : Type} {admits : σ → Prop} {accepts : Matcher (StateM σ)} {limits : ChunkLimits}
  {good : Text → Prop} {seen text : Text} {state : ChunkState} {decoder : Utf8.Decoder}

/-- A matcher accepts only texts with a property, and its failures are part of answers. -/
def Vouches (admits : σ → Prop) (accepts : Matcher (StateM σ)) (good : Text → Prop) : Prop :=
  ∀ text, Ensures admits (accepts text) fun outcome =>
    (outcome = .ok true → good text) ∧
      ∀ failure, outcome = .error failure → (answered? failure).isSome

/-- A scan has matched only if what was seen has a property, and has failed only as part of an answer. -/
structure Vouched (good : Text → Prop) (seen : Text) (scan : ChunkScan) : Prop where
  matched : scan.matched = true → good seen
  answered : ∀ failure, scan.failure = some failure → (answered? failure).isSome

theorem vouched_start (kept : Option (List Text)) : Vouched good seen { kept := kept } :=
  ⟨nofun, nofun⟩

theorem Vouched.append {scan : ChunkScan} (vouched : Vouched good seen scan) (grows : Grows good)
    (text : Text) : Vouched good (seen ++ text) scan :=
  ⟨fun matched => grows.append_left (vouched.matched matched) text, vouched.answered⟩

theorem Vouched.note {scan : ChunkScan} (vouched : Vouched good seen scan) (holds : good seen)
    (limit : Int) (text : Text) : Vouched good seen (scan.note limit text) :=
  ⟨fun _ => holds, vouched.answered⟩

theorem Vouched.fail {scan : ChunkScan} (vouched : Vouched good seen scan) {failure : Failure}
    (answered : (answered? failure).isSome) :
    Vouched good seen { scan with failure := some failure } := by
  refine ⟨vouched.matched, fun other same => ?_⟩
  rwa [← Option.some.inj same]

/-- Offering a part of what was seen. -/
theorem ensures_offer_of_vouches (vouches : Vouches admits accepts good) {scan : ChunkScan}
    (vouched : Vouched good seen scan) (part : good text → good seen) (limit : Int) :
    Ensures admits (scan.offer accepts limit text) (Vouched good seen) := by
  unfold ChunkScan.offer
  refine Ensures.bind (vouches text) fun outcome known => ?_
  cases outcome with
  | error failure => exact Ensures.pure (vouched.fail (known.2 failure rfl))
  | ok verdict =>
      cases verdict with
      | true => exact Ensures.pure (vouched.note (part (known.1 rfl)) limit text)
      | false => exact Ensures.pure vouched

/-! ## The invariant of a scan -/

/-- A scan after a decoded text: unless it is over, the buffer is the end of the text. -/
structure Followed (good : Text → Prop) (decoder : Utf8.Decoder) (seen : Text) (state : ChunkState) :
    Prop where
  scan : Vouched good seen state.scan
  decoder : state.ended = false → state.decoder = decoder
  buffer : state.ended = false → ∃ before, seen = before ++ state.buffer

theorem Followed.stays (followed : Followed good decoder seen state) (grows : Grows good)
    (stopped : state.ended = true) (next : Utf8.Decoder) (text : Text) :
    Followed good next (seen ++ text) state := by
  have never : ¬ state.ended = false := by simp [stopped]
  exact ⟨followed.scan.append grows text, fun going => absurd going never,
    fun going => absurd going never⟩

section

variable (grows : Grows good) (vouches : Vouches admits accepts good)

include grows vouches

theorem ensures_flush_of_vouches (followed : Followed good decoder seen state)
    (going : state.ended = false) :
    Ensures admits (state.flush accepts limits) (Followed good decoder seen) := by
  obtain ⟨before, whole⟩ := followed.buffer going
  have parts := slice_append_slice state.buffer
  unfold ChunkState.flush
  dsimp only
  generalize state.buffer.slice 0 (flushPoint state.buffer) = head at parts ⊢
  generalize state.buffer.slice (flushPoint state.buffer) state.buffer.size = rest at parts ⊢
  have inside : good head → good seen := by
    intro holds
    rw [whole, ← parts, ← Array.append_assoc]
    exact grows before head rest holds
  have emptied : ∀ scan, Vouched good seen scan →
      Followed good decoder seen
        { state with buffer := rest, scan := scan, ended := scan.failure.isSome } := by
    intro scan vouched
    refine ⟨vouched, fun _ => followed.decoder going, fun _ => ⟨before ++ head, ?_⟩⟩
    rw [whole, ← parts, Array.append_assoc]
  split
  · exact Ensures.pure (emptied state.scan followed.scan)
  · exact Ensures.bind (ensures_offer_of_vouches vouches followed.scan inside limits.kept)
      fun scan vouched => Ensures.pure (emptied scan vouched)

theorem ensures_gather_of_vouches
    (followed : Followed good decoder seen { state with buffer := state.buffer ++ text })
    (going : state.ended = false) :
    Ensures admits (state.gather accepts limits text) (Followed good decoder seen) := by
  unfold ChunkState.gather
  dsimp only
  split
  · exact ensures_flush_of_vouches grows vouches followed going
  · exact Ensures.pure followed

/-- A decoded piece keeps the invariant. -/
theorem ensures_takeText_of_vouches (next : Utf8.Decoder)
    (followed : Followed good decoder seen state) (going : state.ended = false) :
    Ensures admits (ChunkState.takeText { state with decoder := next } accepts limits text)
      (Followed good next (seen ++ text)) := by
  obtain ⟨before, whole⟩ := followed.buffer going
  have vouched := followed.scan.append grows text
  have grown : seen ++ text = before ++ (state.buffer ++ text) := by
    rw [whole, Array.append_assoc]
  unfold ChunkState.takeText
  cases empty : text.isEmpty with
  | true =>
      rw [Array.isEmpty_iff.mp empty, Array.append_empty] at *
      exact Ensures.pure ⟨followed.scan, fun _ => rfl, followed.buffer⟩
  | false =>
      refine Ensures.bind (vouches text) fun outcome known => ?_
      cases outcome with
      | error failure =>
          exact Ensures.pure ⟨vouched.fail (known.2 failure rfl), nofun, nofun⟩
      -- An accepted piece has the property, and with it everything around the piece.
      | ok verdict =>
          cases verdict with
          | false =>
              exact ensures_gather_of_vouches grows vouches
                ⟨vouched, fun _ => rfl, fun _ => ⟨before, grown⟩⟩ going
          | true =>
              have noted := vouched.note (grows.append_right (known.1 rfl) seen) limits.kept text
              dsimp only
              split
              · exact Ensures.pure ⟨noted, nofun, nofun⟩
              · exact ensures_gather_of_vouches grows vouches
                  ⟨noted, fun _ => rfl, fun _ => ⟨before, grown⟩⟩ going

/-- A scan by chunks has matched only if the whole text has the property. -/
theorem ensures_scanChunks_of_vouches {chunks : List Bytes} {start : ChunkScan} {whole : Text}
    (decoded : joined (Utf8.Decoder.boundary.texts chunks) = whole)
    (sound : start.failure = none) (unmatched : start.matched = false) :
    Ensures admits (scanChunks accepts limits start chunks) (Vouched good whole) := by
  have begun : Followed good .boundary (joined []) { scan := start } := by
    refine ⟨⟨?_, ?_⟩, fun _ => rfl, fun _ => ⟨#[], rfl⟩⟩
    · rw [unmatched]
      exact nofun
    · rw [sound]
      exact nofun
  have keeps : Keeps admits accepts limits (Utf8.Decoder.boundary.texts chunks)
      (fun decoder seen state => Followed good decoder (joined seen) state) := by
    refine ⟨fun followed => followed.decoder, fun followed stopped next text => ?_, ?_⟩
    · rw [joined_append]
      exact followed.stays grows stopped next _
    · intro decoder seen state followed going next text _
      rw [joined_append, joined_cons, joined_nil, Array.append_empty]
      exact ensures_takeText_of_vouches grows vouches next followed going
  refine ensures_takeChunks keeps (fun followed _ => ?_) (fun followed going => ?_) begun rfl
  · rw [decoded] at followed
    exact followed.scan
  · rw [decoded] at followed
    obtain ⟨before, shape⟩ := followed.buffer going
    unfold ChunkScan.offerUnmatched
    split
    · exact Ensures.pure followed.scan
    · refine ensures_offer_of_vouches vouches followed.scan (fun holds => ?_) limits.kept
      rw [shape]
      exact grows.append_right holds before

end

/-! ## Scanning a file -/

namespace Scanner

variable {scanner : Scanner} {files : Tree} {path : String} {limit : Option Int} {bytes : Bytes}
  {modified : Float}

/-- Nothing is kept from one request to the next. -/
structure Cacheless (scanner : Scanner) : Prop where
  facts : scanner.facts = none
  texts : scanner.texts = none

theorem Cacheless.opened (cacheless : scanner.Cacheless) (files : Tree) (path : String)
    (request : Request) : scanner.opened files path request = scanner := by
  have looked : (scanner.checkedStats files path request.sizeLimit).2 = scanner :=
    (scanner.checkedStats_spec files path request.sizeLimit).1.trans
      (stats_of_factless cacheless.facts files path).1
  unfold Scanner.opened
  generalize scanner.checkedStats files path request.sizeLimit = checked at looked ⊢
  obtain ⟨outcome, after⟩ := checked
  dsimp only at looked
  subst looked
  cases outcome with
  | error failure => rfl
  | ok facts =>
      dsimp only
      unfold readText
      rw [cacheless.texts, ite_self]
      exact ite_self _

theorem ensures_scanText_of_vouches (vouches : Vouches admits accepts good) {start : ChunkScan}
    (vouched : Vouched good text start) (limit : Int) :
    Ensures admits (scanText accepts limit start text) (Vouched good text) := by
  unfold scanText
  split
  · exact Ensures.pure vouched
  · exact ensures_offer_of_vouches vouches vouched id limit

/-- A scan leaves a scanner without caches as it was, but for the reports. -/
theorem Cacheless.exists_records_process (cacheless : scanner.Cacheless) (files : Tree)
    (path : String) (accepts : Matcher (StateM σ)) (request : Request) (firstOnly : Bool)
    (state : σ) :
    ∃ records, ((scanner.process files path accepts request firstOnly).run state).1.2 =
      { scanner with records := records } := by
  obtain ⟨scan, same⟩ := scanner.process_eq_conclude files path accepts request firstOnly
  rw [same, cacheless.opened]
  exact exists_records_conclude path (scan.run state).1 scanner

theorem Offers.withRecords (offers : scanner.Offers files path request bytes modified)
    (records : Array Log.Record) :
    Offers { scanner with records := records } files path request bytes modified :=
  ⟨offers.found, offers.opened, ⟨offers.current.facts, offers.current.texts⟩, offers.small⟩

/-- A file beyond the size limit is refused, and that is part of an answer. -/
theorem checkedStats_of_large (cacheless : scanner.Cacheless)
    (found : files.require (Path.ofString path) = .ok (.file bytes modified))
    (large : ¬ ∀ most ∈ (limit <|> scanner.settings.sizeLimit), (bytes.size : Int) ≤ most) :
    ∃ failure after, scanner.checkedStats files path limit = (.error failure, after) ∧
      (answered? failure).isSome := by
  obtain ⟨facts, after, looked, same, -⟩ :=
    stats_of_found (· = factsOf (.file bytes modified)) found rfl
      fun cache held => nomatch cacheless.facts.symm.trans held
  subst same
  unfold checkedStats
  rw [looked]
  dsimp only [factsOf]
  rw [if_neg Bool.false_ne_true]
  cases limited : (limit <|> scanner.settings.sizeLimit) with
  | none => exact absurd (fun most member => nomatch limited.symm.trans member) large
  | some most =>
      have beyond : most < bytes.size := by
        refine Int.not_le.mp fun within => large fun other member => ?_
        rwa [← Option.some.inj (limited.symm.trans member)]
      dsimp only
      rw [if_pos beyond]
      exact ⟨_, _, rfl, rfl⟩

theorem exists_outcome_of_vouched {scan : ChunkScan} (vouched : Vouched good seen scan)
    (path : String) (scanner : Scanner) :
    ∃ outcome, (conclude path scan scanner).1 = .ok outcome ∧
      (outcome.matched = true → good seen) := by
  unfold conclude
  cases failed : scan.failure with
  | none => exact ⟨_, rfl, vouched.matched⟩
  | some failure =>
      obtain ⟨error, answered⟩ := Option.isSome_iff_exists.mp (vouched.answered failure failed)
      dsimp only
      rw [answered]
      exact ⟨_, rfl, vouched.matched⟩

/-- A file that cannot be opened by the spelling of its path is not cut into chunks. -/
theorem exists_chunks_refused
    (found : files.require (Path.ofString path) = .ok (.file bytes modified))
    (closed : files.readSpelled path ≠ .ok bytes) (size : Nat) :
    ∃ failure, chunks files path (.inChunks size) = .error failure ∧ (answered? failure).isSome := by
  cases cut : chunks files path (.inChunks size) with
  | error failure => exact ⟨failure, rfl, answered_of_chunks (admissible_of_require found) cut⟩
  | ok pieces =>
      unfold chunks spelledBytesAt at cut
      cases opened : files.readSpelled path with
      | error failure =>
          rw [opened] at cut
          cases cut
      | ok other =>
          -- What can be opened by the spelling is the file itself.
          cases content_of_readSpelled found opened
          exact absurd opened closed

/-- A file that a scanner without caches does not offer is refused before it is scanned. -/
theorem exists_process_refused (cacheless : scanner.Cacheless)
    (found : files.require (Path.ofString path) = .ok (.file bytes modified))
    (positive : 1 ≤ scanner.chunkSize request)
    (refused : ¬ scanner.Offers files path request bytes modified)
    (accepts : Matcher (StateM σ)) (firstOnly : Bool) :
    ∃ failure after, (answered? failure).isSome ∧
      scanner.process files path accepts request firstOnly =
        pure (conclude path
          { kept := if firstOnly then none else some [], failure := some failure } after) := by
  unfold process
  by_cases small : ∀ most ∈ (request.sizeLimit <|> scanner.settings.sizeLimit),
      (bytes.size : Int) ≤ most
  · obtain ⟨large, closed⟩ : scanner.chunkSize request ≤ bytes.size ∧
        files.readSpelled path ≠ .ok bytes := by
      by_contra opened
      refine refused ⟨found, fun large => ?_,
        current_of_no_caches cacheless.facts cacheless.texts, small⟩
      by_contra closed
      exact opened ⟨large, closed⟩
    obtain ⟨facts, after, looked, rfl, -⟩ :=
      stats_of_found (· = factsOf (.file bytes modified)) found rfl
        fun cache held => nomatch cacheless.facts.symm.trans held
    obtain ⟨failure, cut, answered⟩ :=
      exists_chunks_refused found closed (scanner.chunkSize request).toNat
    have how : reading (scanner.chunkSize request) (factsOf (.file bytes modified)).size =
        .inChunks (scanner.chunkSize request).toNat :=
      (reading_of_positive positive bytes.size).trans (if_neg (Int.not_lt.mpr large))
    refine ⟨failure, after, answered, ?_⟩
    rw [checkedStats_of_within looked ⟨rfl, small⟩]
    dsimp only
    rw [how]
    dsimp only
    rw [cut]
  · obtain ⟨failure, after, looked, answered⟩ := checkedStats_of_large cacheless found small
    exact ⟨failure, after, answered, by rw [looked]⟩

/-- A scan for a property that grows gives an outcome, and if it has matched, the file was offered and
its text has the property. -/
theorem ensures_process_of_vouches (request : Request) (cacheless : scanner.Cacheless)
    (found : files.require (Path.ofString path) = .ok (.file bytes modified))
    (positive : 1 ≤ scanner.chunkSize request) (grows : Grows good)
    (vouches : Vouches admits accepts good) (firstOnly : Bool) :
    Ensures admits (scanner.process files path accepts request firstOnly) fun result =>
      ∃ outcome, result.1 = .ok outcome ∧ (outcome.matched = true →
        scanner.Offers files path request bytes modified ∧ good (Utf8.decode bytes)) := by
  by_cases offers : scanner.Offers files path request bytes modified
  · obtain ⟨last, scans⟩ := process_of_offers accepts offers positive firstOnly
    have concluded : ∀ scan : ChunkScan, Vouched good (Utf8.decode bytes) scan →
        Ensures admits (pure (conclude path scan last) : StateM σ _) fun result =>
          ∃ outcome, result.1 = .ok outcome ∧ (outcome.matched = true →
            scanner.Offers files path request bytes modified ∧ good (Utf8.decode bytes)) := by
      intro scan vouched
      obtain ⟨outcome, given, matched⟩ := exists_outcome_of_vouched vouched path last
      exact Ensures.pure ⟨outcome, given, fun holds => ⟨offers, matched holds⟩⟩
    rw [scans]
    by_cases fewer : (bytes.size : Int) < scanner.chunkSize request
    · rw [if_pos fewer]
      exact Ensures.bind (ensures_scanText_of_vouches vouches (vouched_start _) _) concluded
    · rw [if_neg fewer]
      have decoded := joined_texts_chunksOf (scanner.chunkSize request).toNat (by omega) bytes
      exact Ensures.bind (ensures_scanChunks_of_vouches grows vouches decoded rfl rfl) concluded
  -- A file that is refused is not scanned, so that nothing has matched.
  · obtain ⟨failure, after, answered, scans⟩ :=
      exists_process_refused cacheless found positive offers accepts firstOnly
    obtain ⟨error, told⟩ := Option.isSome_iff_exists.mp answered
    rw [scans]
    refine Ensures.pure ?_
    unfold conclude
    dsimp only
    rw [told]
    exact ⟨_, rfl, nofun⟩

end Scanner

end BooleanSearch.Stream
