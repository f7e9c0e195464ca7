import BooleanSearch.Proofs.Stream.OfferedTexts
import BooleanSearch.Proofs.Stream.Outcomes

/-!
# Scans hold bounded texts

Between two chunks, a scan by chunks holds at most as many characters as its buffer may have and the
latest text had.  A buffer that is longer than it may be has no line end, so that the next time it
is emptied up to a line end of the text that comes to it.  Between two chunks, a scan of lines holds
no line end, and at most the bytes of a chunk, or those a line may have.  The length of a file does
not matter to either.
-/

namespace BooleanSearch

/-! ## Sizes of decoded texts -/

namespace Utf8.Decoder

theorem size_finish_le (decoder : Decoder) : decoder.finish.size ≤ 2 := by
  cases decoder <;> simp [finish]

/-- A byte adds at most one character to those that are given or would be given at the end. -/
theorem length_lead_le (byte : Nat) : (lead byte).2.length + (lead byte).1.finish.size ≤ 1 := by
  unfold lead
  split_ifs <;> simp [finish]

theorem length_step_le (decoder : Decoder) (byte : UInt8) :
    (decoder.step byte).2.length + (decoder.step byte).1.finish.size ≤ decoder.finish.size + 1 := by
  have started := length_lead_le byte.toNat
  cases decoder with
  | boundary => exact started
  | inside missing bits low high =>
      have owed : (inside missing bits low high).finish.size = 1 := rfl
      dsimp only [step]
      split_ifs
      · simp [finish]
      · simp [finish]
      · simp [finish]
      · simp only [owed, List.length_cons]
        omega
  | surrogate =>
      have owed : surrogate.finish.size = 2 := rfl
      dsimp only [step]
      rw [owed, List.length_cons, List.length_cons]
      omega

theorem size_feed_le (decoder : Decoder) (bytes : Bytes) :
    (decoder.feed bytes).2.size + (decoder.feed bytes).1.finish.size ≤
      decoder.finish.size + bytes.size := by
  have steps : ∀ (rest : List UInt8) (state : Decoder × Text),
      (rest.foldl advance state).2.size + (rest.foldl advance state).1.finish.size ≤
        state.2.size + state.1.finish.size + rest.length := by
    intro rest
    induction rest with
    | nil => exact fun state => Nat.le_refl _
    | cons byte others inductionHypothesis =>
        intro state
        have later := inductionHypothesis (advance state byte)
        have here := length_step_le state.1 byte
        rw [List.foldl_cons, List.length_cons]
        simp only [advance, Array.size_append, List.size_toArray] at later here ⊢
        omega
  have fed := steps bytes.toList (decoder, #[])
  rw [← feed_eq_foldl, Array.length_toList] at fed
  simpa using fed

/-- A chunk is decoded to at most two more characters than it has bytes. -/
theorem size_text_le (decoder : Decoder) (bytes : Bytes) :
    (decoder.feed bytes).2.size ≤ bytes.size + 2 := by
  have fed := size_feed_le decoder bytes
  have finished := size_finish_le decoder
  omega

end Utf8.Decoder

namespace Stream

theorem size_le_of_mem_chunksOf {size : Nat} {bytes chunk : Bytes}
    (member : chunk ∈ chunksOf size bytes) : chunk.size ≤ size := by
  obtain ⟨index, -, rfl⟩ := List.mem_map.mp member
  rw [Array.size_extract, Nat.add_mul, Nat.one_mul]
  omega

/-! ## Buffers -/

/-- What becomes of a buffer when a text comes to it.  If the text is empty, the buffer stays as it
is; otherwise it is left with at most as many characters as it may have and the text has together.
If it is left with more than it may have, it has no line end. -/
structure BufferStep (limit : Int) (before text after : Text) : Prop where
  idle : text.isEmpty = true → after = before
  size : text.isEmpty = false → (after.size : Int) ≤ limit + text.size
  unbroken : limit < after.size → '\n' ∉ after.toList

/-- What a scan holds between two chunks of at most so many bytes. -/
structure Held (limit : Int) (size : Nat) (buffer : Text) : Prop where
  unbroken : limit < buffer.size → '\n' ∉ buffer.toList
  bounded : (buffer.size : Int) ≤ limit + size + 2

theorem BufferStep.held {limit : Int} {size : Nat} {before text after : Text}
    (step : BufferStep limit before text after) (held : Held limit size before)
    (short : text.size ≤ size + 2) : Held limit size after := by
  refine ⟨step.unbroken, ?_⟩
  cases present : text.isEmpty with
  | true =>
      rw [step.idle present]
      exact held.bounded
  | false =>
      have grown := step.size present
      omega

theorem flushPoint_of_unbroken {buffer : Text} (unbroken : '\n' ∉ buffer.toList) :
    flushPoint buffer = buffer.size := by
  have none : buffer.toList.reverse.findIdx? (· == '\n') = none := by
    rw [List.findIdx?_eq_none_iff]
    intro char member
    rw [beq_eq_false_iff_ne]
    rintro rfl
    exact unbroken (List.mem_reverse.mp member)
  unfold flushPoint
  rw [none]

/-- What is kept of a buffer is what stands after its last line end. -/
theorem slice_flushPoint {before after : List Char} (noBreak : '\n' ∉ after) :
    Text.slice (before ++ '\n' :: after).toArray (flushPoint (before ++ '\n' :: after).toArray)
      (before ++ '\n' :: after).toArray.size = after.toArray := by
  rw [flushPoint_eq noBreak]
  apply Array.toList_inj.mp
  unfold Text.slice
  rw [Array.toList_extract, List.extract_eq_take_drop, List.append_cons]
  have front : before.length + 1 = (before ++ ['\n']).length := by simp
  rw [front, List.drop_left]
  apply List.take_of_length_le
  simp only [List.size_toArray, List.length_append, List.length_cons, List.length_nil]
  omega

/-- A line end that comes to a buffer without one stands in the text that comes. -/
theorem length_lt_of_unbroken {buffer text before after : List Char} (unbroken : '\n' ∉ buffer)
    (whole : buffer ++ text = before ++ '\n' :: after) : after.length < text.length := by
  rcases List.append_eq_append_iff.mp whole with ⟨inner, -, rfl⟩ | ⟨inner, rfl, rest⟩
  · simp only [List.length_append, List.length_cons]
    omega
  · cases inner with
    | nil =>
        rw [List.nil_append] at rest
        simp [← rest]
    | cons first others =>
        obtain ⟨rfl, -⟩ := List.cons.inj rest
        simp at unbroken

/-- What stands behind the last line end of a buffer and a text fits, even if the buffer did not. -/
theorem size_behind_break {limit : Int} (positive : 0 ≤ limit) {buffer text : Text}
    {before after : List Char} (unbroken : limit < buffer.size → '\n' ∉ buffer.toList)
    (whole : buffer ++ text = (before ++ '\n' :: after).toArray) :
    (after.toArray.size : Int) ≤ limit + text.size := by
  by_cases room : limit < buffer.size
  · have parts : buffer.toList ++ text.toList = before ++ '\n' :: after := by
      rw [← Array.toList_append, whole]
    have shorter := length_lt_of_unbroken (unbroken room) parts
    simp only [List.size_toArray, Array.length_toList] at shorter ⊢
    omega
  · have sizes := congrArg Array.size whole
    simp only [Array.size_append, List.size_toArray, List.length_append,
      List.length_cons] at sizes ⊢
    omega

theorem bufferStep_bufferWith {limit : Int} (positive : 0 ≤ limit) {buffer : Text} (text : Text)
    (unbroken : limit < buffer.size → '\n' ∉ buffer.toList) :
    BufferStep limit buffer text (bufferWith limit buffer text) := by
  cases present : text.isEmpty with
  | true =>
      rw [(offersWith_of_empty present).2]
      exact ⟨fun _ => rfl, by simp [present], unbroken⟩
  | false =>
      by_cases long : limit < (buffer ++ text).size
      · rw [(offersWith_of_long present long).2]
        by_cases breaks : '\n' ∈ (buffer ++ text).toList
        · obtain ⟨before, after, whole, noBreak⟩ := exists_lastBreak breaks
          have fits := size_behind_break positive unbroken whole
          rw [whole, slice_flushPoint noBreak]
          exact ⟨by simp [present], fun _ => fits, fun _ => noBreak⟩
        · rw [flushPoint_of_unbroken breaks]
          have nothing : (buffer ++ text).slice (buffer ++ text).size (buffer ++ text).size = #[] :=
            by simp [Text.slice]
          rw [nothing]
          refine ⟨by simp [present], fun _ => ?_, by simp⟩
          simp only [Array.size_empty]
          omega
      · rw [(offersWith_of_short present long).2]
        refine ⟨by simp [present], fun _ => ?_, fun more => absurd more long⟩
        simp only [Array.size_append] at long ⊢
        omega

/-! ## Scans by chunks -/

variable {σ : Type} {accepts : Matcher (StateM σ)}

theorem Ensures.always {α : Type} (step : StateM σ α) :
    Ensures (fun _ => True) step fun _ => True :=
  fun _ _ => ⟨trivial, trivial⟩

section

variable {limits : ChunkLimits} {state : ChunkState}

theorem ensures_flush_buffer :
    Ensures (fun _ => True) (state.flush accepts limits) fun next =>
      next.buffer = state.buffer.slice (flushPoint state.buffer) state.buffer.size := by
  unfold ChunkState.flush
  dsimp only
  by_cases already : state.scan.matched = true
  · rw [if_pos already]
    exact Ensures.pure rfl
  · rw [if_neg already]
    exact Ensures.bind (Ensures.always _) fun _ _ => Ensures.pure rfl

theorem ensures_gather_buffer {text : Text} (present : text.isEmpty = false) :
    Ensures (fun _ => True) (state.gather accepts limits text) fun next =>
      next.buffer = bufferWith limits.buffer state.buffer text := by
  unfold ChunkState.gather
  by_cases long : limits.buffer < (state.buffer ++ text).size
  · rw [if_pos long, (offersWith_of_long present long).2]
    exact ensures_flush_buffer
  · rw [if_neg long, (offersWith_of_short present long).2]
    exact Ensures.pure rfl

/-- Whatever the matcher says, a text comes to the buffer unless it ends the scan. -/
theorem ensures_takeText_buffer (text : Text) :
    Ensures (fun _ => True) (state.takeText accepts limits text) fun next =>
      next.ended = false → next.buffer = bufferWith limits.buffer state.buffer text := by
  unfold ChunkState.takeText
  cases present : text.isEmpty with
  | true =>
      rw [(offersWith_of_empty present).2]
      exact Ensures.pure fun _ => rfl
  | false =>
      refine Ensures.bind (Ensures.always _) fun outcome _ => ?_
      cases outcome with
      | error failure => exact Ensures.pure nofun
      | ok verdict =>
          cases verdict with
          | false => exact (ensures_gather_buffer present).imp fun _ same _ => same
          | true =>
              dsimp only
              split
              · exact Ensures.pure nofun
              · exact (ensures_gather_buffer present).imp fun _ same _ => same

theorem ensures_takeText_step (positive : 0 ≤ limits.buffer) {size : Nat}
    (held : Held limits.buffer size state.buffer) (text : Text) :
    Ensures (fun _ => True) (state.takeText accepts limits text) fun next =>
      next.ended = false → BufferStep limits.buffer state.buffer text next.buffer := by
  refine (ensures_takeText_buffer text).imp fun next same going => ?_
  rw [same going]
  exact bufferStep_bufferWith positive text held.unbroken

/-- A scan before and after one more chunk. -/
def aroundChunk (accepts : Matcher (StateM σ)) (limits : ChunkLimits) (start : ChunkScan)
    (earlier : List Bytes) (chunk : Bytes) : StateM σ (ChunkState × ChunkState) := do
  let before ← earlier.foldlM (ChunkState.takeChunk accepts limits) { scan := start }
  let after ← ChunkState.takeChunk accepts limits before chunk
  pure (before, after)

/-- A scan before and after the text that the decoder gives at the end of a file. -/
def aroundEnd (accepts : Matcher (StateM σ)) (limits : ChunkLimits) (start : ChunkScan)
    (chunks : List Bytes) : StateM σ (ChunkState × ChunkState) := do
  let before ← chunks.foldlM (ChunkState.takeChunk accepts limits) { scan := start }
  let after ← { before with decoder := .boundary }.takeText accepts limits before.decoder.finish
  pure (before, after)

theorem ensures_takeChunk_step (positive : 0 ≤ limits.buffer) {size : Nat}
    (held : state.ended = false → Held limits.buffer size state.buffer) (chunk : Bytes) :
    Ensures (fun _ => True) (state.takeChunk accepts limits chunk) fun next =>
      next.ended = false → state.ended = false ∧
        BufferStep limits.buffer state.buffer (state.decoder.feed chunk).2 next.buffer := by
  unfold ChunkState.takeChunk
  by_cases stopped : state.ended = true
  · rw [if_pos stopped]
    refine Ensures.pure fun going => ?_
    rw [stopped] at going
    cases going
  · rw [if_neg stopped]
    have going : state.ended = false := Bool.eq_false_iff.mpr stopped
    have kept : Held limits.buffer size
        { state with decoder := (state.decoder.feed chunk).1 }.buffer := held going
    refine (ensures_takeText_step positive kept _).imp ?_
    exact fun next known nextGoing => ⟨going, known nextGoing⟩

/-- Between any two chunks, what is held is bounded. -/
theorem ensures_takeChunks_held (positive : 0 ≤ limits.buffer) {size : Nat} {chunks : List Bytes}
    (short : ∀ chunk ∈ chunks, chunk.size ≤ size)
    (held : state.ended = false → Held limits.buffer size state.buffer) :
    Ensures (fun _ => True) (chunks.foldlM (ChunkState.takeChunk accepts limits) state) fun next =>
      next.ended = false → Held limits.buffer size next.buffer := by
  induction chunks generalizing state with
  | nil => exact Ensures.pure held
  | cons chunk others inductionHypothesis =>
      rw [List.forall_mem_cons] at short
      rw [List.foldlM_cons]
      refine Ensures.bind (ensures_takeChunk_step positive held chunk) fun next known => ?_
      apply inductionHypothesis short.2
      intro going
      obtain ⟨before, step⟩ := known going
      have text := Utf8.Decoder.size_text_le state.decoder chunk
      exact step.held (held before) (by omega)

end

/-! ## Scans of lines -/

section

variable {limit longest : Int} {state : LineState}

theorem ensures_endLine_pending (skipped : Nat) :
    Ensures (fun _ => True) (state.endLine accepts limit skipped) fun next =>
      next.pending = #[] := by
  unfold LineState.endLine
  refine Ensures.bind (Ensures.always _) fun outcome _ => ?_
  cases outcome with
  | error failure => exact Ensures.pure rfl
  | ok verdict => cases verdict <;> exact Ensures.pure rfl

/-- The pending bytes have no line end, and if one was among the bytes read last, they are some of
these. -/
structure Pending (read : List UInt8) (state : LineState) : Prop where
  unbroken : lineFeed ∉ state.pending
  size : lineFeed ∈ read → state.pending.size ≤ read.length

theorem pending_nothing {read : List UInt8} (nothing : state.pending = #[]) :
    Pending read state := by
  constructor <;> simp [nothing]

theorem ensures_takeByte_pending {read : List UInt8}
    (known : state.scan.ended = false → Pending read state) (byte : UInt8) :
    Ensures (fun _ => True) (state.takeByte accepts limit byte) fun next =>
      next.scan.ended = false → Pending (read ++ [byte]) next := by
  unfold LineState.takeByte
  by_cases stopped : state.scan.ended = true
  · rw [if_pos stopped]
    refine Ensures.pure fun going => ?_
    rw [stopped] at going
    cases going
  · rw [if_neg stopped]
    have pending := known (Bool.eq_false_iff.mpr stopped)
    by_cases feeds : (byte == lineFeed) = true
    · rw [if_pos feeds]
      exact (ensures_endLine_pending 1).imp fun next nothing _ => pending_nothing nothing
    · rw [if_neg feeds]
      have other : lineFeed ≠ byte := fun same => feeds (beq_iff_eq.mpr same.symm)
      refine Ensures.pure fun _ => ⟨?_, ?_⟩
      · simp [other, pending.unbroken]
      · intro member
        have before : lineFeed ∈ read := by simpa [other] using member
        have size := pending.size before
        simp only [Array.size_push, List.length_append, List.length_singleton]
        omega

theorem ensures_takeEach_pending {read : List UInt8}
    (known : state.scan.ended = false → Pending read state) (bytes : List UInt8) :
    Ensures (fun _ => True) (bytes.foldlM (LineState.takeByte accepts limit) state) fun next =>
      next.scan.ended = false → Pending (read ++ bytes) next := by
  induction bytes generalizing read state with
  | nil =>
      rw [List.append_nil]
      exact Ensures.pure known
  | cons byte others inductionHypothesis =>
      rw [List.foldlM_cons, List.append_cons]
      exact Ensures.bind (ensures_takeByte_pending known byte) fun next nextKnown =>
        inductionHypothesis nextKnown

/-- What a scan of lines holds between two chunks of at most so many bytes. -/
structure HeldLine (longest : Int) (size : Nat) (state : LineState) : Prop where
  unbroken : lineFeed ∉ state.pending
  bounded : (state.pending.size : Int) ≤ max longest size

theorem ensures_takeBytes_held {size : Nat} (unbroken : state.scan.ended = false →
    lineFeed ∉ state.pending) {chunk : Bytes} (short : chunk.size ≤ size) :
    Ensures (fun _ => True) (state.takeBytes accepts limit longest chunk) fun next =>
      next.scan.ended = false → HeldLine longest size next := by
  unfold LineState.takeBytes
  rw [← Array.foldlM_toList]
  have start : state.scan.ended = false → Pending [] state :=
    fun going => ⟨unbroken going, fun member => absurd member List.not_mem_nil⟩
  refine Ensures.bind (ensures_takeEach_pending start chunk.toList) fun next known => ?_
  split
  · refine (ensures_endLine_pending 0).imp fun last nothing _ => ?_
    constructor
    · simp [nothing]
    · simp only [nothing, Array.size_empty]
      omega
  · next fits =>
      refine Ensures.pure fun going => ?_
      have pending := known going
      refine ⟨pending.unbroken, ?_⟩
      by_cases feeds : lineFeed ∈ chunk
      · have within := pending.size (by simpa using feeds)
        simp only [List.nil_append, Array.length_toList] at within
        omega
      · simp only [going, Bool.not_false, Bool.true_and, Bool.and_eq_true, Bool.not_eq_true',
          Array.contains_eq_mem, decide_eq_false_iff_not, decide_eq_true_eq, not_and] at fits
        have brief := fits feeds
        omega

theorem ensures_takeAllBytes_held {size : Nat} {chunks : List Bytes}
    (short : ∀ chunk ∈ chunks, chunk.size ≤ size)
    (held : state.scan.ended = false → HeldLine longest size state) :
    Ensures (fun _ => True) (chunks.foldlM (LineState.takeBytes accepts limit longest) state)
      fun next => next.scan.ended = false → HeldLine longest size next := by
  induction chunks generalizing state with
  | nil => exact Ensures.pure held
  | cons chunk others inductionHypothesis =>
      rw [List.forall_mem_cons] at short
      rw [List.foldlM_cons]
      refine Ensures.bind (ensures_takeBytes_held (fun going => (held going).unbroken) short.1) ?_
      exact fun next nextHeld => inductionHypothesis short.2 nextHeld

end

/-! ## Whole files -/

/-- Whatever the matcher says and however long a file is: at each chunk, and with the text that the
decoder gives at the end of the file, the buffer takes such a step, and it is held within its limit
and the size of a chunk.  So are the pending bytes of a scan of lines after each chunk. -/
theorem scans_hold_bounded_texts (accepts : Matcher (StateM σ)) {limits : ChunkLimits}
    (room : 1 ≤ limits.buffer) (start : ChunkScan) (limit : Int) (size : Nat) (bytes : Bytes) :
    (∀ earlier chunk, earlier ++ [chunk] <+: chunksOf size bytes →
      Ensures (fun _ => True) (aroundChunk accepts limits start earlier chunk) fun around =>
        around.2.ended = false →
          BufferStep limits.buffer around.1.buffer (around.1.decoder.feed chunk).2
            around.2.buffer ∧ Held limits.buffer size around.2.buffer) ∧
    (Ensures (fun _ => True) (aroundEnd accepts limits start (chunksOf size bytes)) fun around =>
      around.1.ended = false → around.2.ended = false →
        BufferStep limits.buffer around.1.buffer around.1.decoder.finish around.2.buffer ∧
          Held limits.buffer size around.2.buffer) ∧
    ∀ read, read <+: chunksOf size bytes →
      Ensures (fun _ => True) (read.foldlM (LineState.takeBytes accepts limit limits.buffer) {})
        fun state => state.scan.ended = false → HeldLine limits.buffer size state := by
  have positive : 0 ≤ limits.buffer := by omega
  have short : ∀ read, read <+: chunksOf size bytes → ∀ chunk ∈ read, chunk.size ≤ size :=
    fun read front chunk member => size_le_of_mem_chunksOf (front.subset member)
  have nothing : Held limits.buffer size #[] := by
    constructor
    · simp
    · simp only [Array.size_empty]
      omega
  have held : ∀ read, read <+: chunksOf size bytes →
      Ensures (fun _ => True)
        (read.foldlM (ChunkState.takeChunk accepts limits) { scan := start })
        fun next => next.ended = false → Held limits.buffer size next.buffer :=
    fun read front => ensures_takeChunks_held positive (short read front) fun _ => nothing
  refine ⟨?_, ?_, ?_⟩
  · intro earlier chunk front
    refine Ensures.bind (held earlier ((List.prefix_append _ _).trans front)) fun before known => ?_
    refine Ensures.bind (ensures_takeChunk_step positive known chunk) fun after step => ?_
    refine Ensures.pure fun going => ?_
    obtain ⟨beforeGoing, taken⟩ := step going
    have text := Utf8.Decoder.size_text_le before.decoder chunk
    have brief := short _ front chunk (by simp)
    exact ⟨taken, taken.held (known beforeGoing) (by omega)⟩
  · refine Ensures.bind (held _ List.prefix_rfl) fun before known => ?_
    refine Ensures.bind (ensures_takeText_buffer before.decoder.finish) fun after same => ?_
    refine Ensures.pure fun beforeGoing going => ?_
    have taken := bufferStep_bufferWith positive before.decoder.finish (known beforeGoing).unbroken
    have text := Utf8.Decoder.size_finish_le before.decoder
    rw [same going]
    exact ⟨taken, taken.held (known beforeGoing) (by omega)⟩
  · intro read front
    apply ensures_takeAllBytes_held (short read front)
    exact fun _ => ⟨by simp, by simp⟩

/-- A matcher that accepts nothing. -/
def acceptsNothing : Matcher (StateM Unit) :=
  fun _ => pure (.ok false)

/-- A buffer of one character is left with the two letters behind the line end. -/
theorem scans_hold_bounded_texts_twoLetters :
    (1 : Int) ≤ 1 ∧ ∃ around : ChunkState × ChunkState,
      (aroundChunk acceptsNothing ⟨1, 0, false⟩ {} [] #[0x0A, 0x61, 0x62]).run () = (around, ()) ∧
        BufferStep 1 #[] #['\n', 'a', 'b'] around.2.buffer ∧ Held 1 3 around.2.buffer ∧
          around.2.buffer = #['a', 'b'] := by
  have room : (1 : Int) ≤ 1 := by decide
  have front : [] ++ [#[0x0A, 0x61, 0x62]] <+: chunksOf 3 #[0x0A, 0x61, 0x62] := by decide
  have limits : (1 : Int) ≤ ChunkLimits.buffer ⟨1, 0, false⟩ := room
  obtain ⟨known, -⟩ := (scans_hold_bounded_texts acceptsNothing limits {} 0 3
    #[0x0A, 0x61, 0x62]).1 [] _ front () trivial
  obtain ⟨step, held⟩ := known rfl
  exact ⟨room, _, rfl, step, held, by decide⟩

/-- A chunk that completes no character leaves the buffer as it was, and so longer than it may be
and the text of the chunk together. -/
theorem buffer_exceeds_unfinishedCharacter :
    ∃ around : ChunkState × ChunkState,
      (aroundChunk acceptsNothing ⟨1, 0, false⟩ {} [#[0x0A, 0x61, 0x62]] #[0xF0, 0x9F, 0x98]).run () =
          (around, ()) ∧
        [#[0x0A, 0x61, 0x62], #[0xF0, 0x9F, 0x98]] =
          chunksOf 3 #[0x0A, 0x61, 0x62, 0xF0, 0x9F, 0x98] ∧
        around.2.ended = false ∧
        ¬ (around.2.buffer.size : Int) ≤
          1 + (around.1.decoder.feed #[0xF0, 0x9F, 0x98]).2.size := by
  refine ⟨_, rfl, by decide, rfl, by decide⟩

end Stream

end BooleanSearch
